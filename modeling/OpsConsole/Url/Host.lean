import OpsConsole.Text.Fields
import OpsConsole.Url.Domain
import OpsConsole.Url.Percent

/-!
# Hosts

A host is a name, or an address of 32 bits written as four decimals, or one of 128 bits written in
brackets as eight hexadecimal pieces, the longest run of zero pieces left out. A name whose last
label is a number has to be an address of 32 bits, whose parts may be decimal, octal or
hexadecimal and may be fewer than four.
-/

namespace OpsConsole

inductive UrlError
  | noScheme
  | emptyHost
  | badPort
  | badIpv4
  | badIpv6
  | badDomain
  | badCharacter
  deriving DecidableEq, Inhabited

namespace UrlError

def message : UrlError → String
  | noScheme => "relative URL without a base"
  | emptyHost => "empty host"
  | badPort => "invalid port number"
  | badIpv4 => "invalid IPv4 address"
  | badIpv6 => "invalid IPv6 address"
  | badDomain => "invalid international domain name"
  | badCharacter => "invalid domain character"

end UrlError

inductive Host
  | name (text : String)
  | ipv4 (address : Nat)
  | ipv6 (pieces : List Nat)
  deriving DecidableEq, Inhabited

namespace Host

open Text Url

/-! ## Addresses of 32 bits -/

def numeral? (base : Nat) (digits : List Char) : Option Nat :=
  digits.foldl (fun n c => do
    let n ← n
    let d ← hexValue? c
    if d < base then some (n * base + d) else none) (some 0)

/-- A part of an address: hexadecimal after `0x`, octal after another zero, else decimal. -/
def part? : List Char → Option Nat
  | [] => none
  | '0' :: 'x' :: ds | '0' :: 'X' :: ds => numeral? 16 ds
  | '0' :: d :: ds => numeral? 8 (d :: ds)
  | ds => numeral? 10 ds

def labels (cs : List Char) : List (List Char) :=
  let fs := fields (· == '.') cs
  if fs.getLast? = some [] then fs.dropLast else fs

def endsInNumber (cs : List Char) : Bool :=
  match (labels cs).getLast? with
  | none => false
  | some l => (!l.isEmpty && l.all Char.isDigit) || (part? l).isSome

/-- All parts but the last stand for one byte each, the last for all that remain. -/
def join? : List Nat → Option Nat
  | [] => none
  | ns =>
    let last := ns.getLast?.getD 0
    let bytes := ns.dropLast
    if 3 < bytes.length ∨ bytes.any (255 < ·) ∨ Nat.pow 256 (4 - bytes.length) ≤ last then none
    else some (bytes.foldl (fun n b => n * 256 + b) 0 * Nat.pow 256 (4 - bytes.length) + last)

def ipv4? (cs : List Char) : Option Nat :=
  ((labels cs).mapM part?).bind join?

def ipv4Chars (n : Nat) : List Char :=
  let byte (k : Nat) : List Char := Nat.toDigits 10 (n / Nat.pow 256 k % 256)
  byte 3 ++ '.' :: byte 2 ++ '.' :: byte 1 ++ '.' :: byte 0

/-! ## Addresses of 128 bits -/

def piece? (cs : List Char) : Option Nat :=
  if 0 < cs.length ∧ cs.length ≤ 4 then numeral? 16 cs else none

/-- A decimal byte without leading zeros. -/
def byte? (cs : List Char) : Option Nat :=
  match cs with
  | [] => none
  | '0' :: _ :: _ => none
  | cs =>
    match numeral? 10 cs with
    | some n => if n ≤ 255 then some n else none
    | none => none

/-- The last field of an address may be four decimal bytes, which make two pieces. -/
def lastPieces? (cs : List Char) : Option (List Nat) :=
  if cs.contains '.' then
    match (fields (· == '.') cs).mapM byte? with
    | some [a, b, c, d] => some [a * 256 + b, c * 256 + d]
    | _ => none
  else (piece? cs).map ([·])

def pieces? (last : Bool) : List (List Char) → Option (List Nat)
  | [] => some []
  | [f] => if last then lastPieces? f else (piece? f).map ([·])
  | f :: fs => do
    let p ← piece? f
    let ps ← pieces? last fs
    some (p :: ps)

/-- What stands before and after the first two colons in a row. -/
def cutGap : List Char → List Char × Option (List Char)
  | ':' :: ':' :: r => ([], some r)
  | c :: r =>
    let (before, after) := cutGap r
    (c :: before, after)
  | [] => ([], none)

def someFields (cs : List Char) : List (List Char) :=
  if cs.isEmpty then [] else fields (· == ':') cs

/-- Two colons in a row stand for one or more pieces that are zero. -/
def ipv6? (cs : List Char) : Option (List Nat) :=
  match cutGap cs with
  | (before, none) => do
    let ps ← pieces? true (someFields before)
    if ps.length = 8 then some ps else none
  | (before, some after) => do
    let ps ← pieces? false (someFields before)
    let qs ← pieces? true (someFields after)
    if ps.length + qs.length ≤ 7 then
      some (ps ++ List.replicate (8 - (ps.length + qs.length)) 0 ++ qs)
    else none

def zeroRuns : List Nat → List Nat
  | [] => []
  | p :: ps =>
    let runs := zeroRuns ps
    (if p = 0 then runs.headD 0 + 1 else 0) :: runs

def colonJoined (ps : List Nat) : List Char :=
  (ps.map (Nat.toDigits 16)).intersperse [':'] |>.flatten

/-- The first of the longest runs of at least two zeros is left out. -/
def ipv6Chars (ps : List Nat) : List Char :=
  let runs := zeroRuns ps
  let longest := runs.foldl max 0
  if longest < 2 then colonJoined ps
  else
    let start := runs.findIdx (· == longest)
    colonJoined (ps.take start) ++ ':' :: ':' :: colonJoined (ps.drop (start + longest))

/-! ## Any host -/

def chars : Host → List Char
  | name s => s.toList
  | ipv4 n => ipv4Chars n
  | ipv6 ps => '[' :: (ipv6Chars ps ++ [']'])

def bracketed (cs : List Char) : Except UrlError Host :=
  match cutLast? (· == ']') cs with
  | some (inside, []) =>
    match ipv6? inside with
    | some ps => .ok (ipv6 ps)
    | none => .error .badIpv6
  | _ => .error .badIpv6

def ofDomain (cs : List Char) : Except UrlError Host :=
  match cs with
  | '[' :: r => bracketed r
  | cs =>
    match domain? (percentDecode cs) with
    | none => .error .badDomain
    | some [] => .error .emptyHost
    | some d =>
      if endsInNumber d then
        match ipv4? d with
        | some n => .ok (ipv4 n)
        | none => .error .badIpv4
      else .ok (name (String.ofList d))

def isForbidden (c : Char) : Bool :=
  ['\x00', '\t', '\n', '\r', ' ', '#', '/', ':', '<', '>', '?', '@', '[', '\\', ']', '^',
    '|'].contains c

def ofOther (cs : List Char) : Except UrlError Host :=
  match cs with
  | '[' :: r => bracketed r
  | cs =>
    if cs.any isForbidden then .error .badCharacter
    else .ok (name (String.ofList (percentEncode isControl cs)))

end Host

end OpsConsole
