import OpsConsole.Number.Extended

/-!
# Growing delays

The delay before an attempt doubles from a base up to a cap, and random jitter adds up to a
fraction of it. Delays never exceed the cap and never shrink until the next reset. Durations are
whole nanoseconds; a fraction of one is computed on doubles, in seconds.
-/

namespace OpsConsole

namespace Duration

def nanosPerSecond : Nat := 1000000000

def nanosPerMilli : Nat := 1000000

/-- The seconds of a duration as a double: the rounded whole seconds plus the rounded rest. -/
def seconds? (nanos : Nat) : Option Binary64 := do
  let whole ← Binary64.ofNat (nanos / nanosPerSecond)
  let rest ← Binary64.ofRatio false ⟨nanos % nanosPerSecond, nanosPerSecond⟩
  whole.addAbs rest

def scaled? (nanos : Nat) (factor : Binary64) : Option Nat := do
  let s ← seconds? nanos
  let x ← factor.mul s
  let r := x.ratio.mul ⟨nanosPerSecond, 1⟩
  some (roundDiv r.num r.den)

end Duration

structure BackoffPolicy where
  base : Nat
  cap : Nat
  jitter : Extended
  deriving DecidableEq, Inhabited

/-- A policy in force: the cap is not below the base and the jitter is a finite fraction. -/
structure Schedule where
  base : Nat
  cap : Nat
  jitter : Binary64
  base_le_cap : base ≤ cap
  deriving DecidableEq

namespace BackoffPolicy

def standard : BackoffPolicy :=
  ⟨Duration.nanosPerSecond, 10 * Duration.nanosPerSecond,
    ((Binary64.ofDecimal false 2 (-1)).map .finite).getD .zero⟩

/-- The nearest double between zero and one. What is no finite number counts as zero. -/
def clamped : Extended → Binary64
  | .finite x =>
    if x.isZero then x
    else if x.negative then .zero false
    else if Ratio.le ⟨1, 1⟩ x.ratio then ⟨false, Nat.pow 2 52, -52⟩
    else x
  | _ => .zero false

/-- A cap below the base is raised to it. -/
def schedule (p : BackoffPolicy) : Schedule :=
  ⟨p.base, max p.cap p.base, clamped p.jitter, Nat.le_max_right _ _⟩

end BackoffPolicy

abbrev WordSource : Type := Nat → UInt64

/-- The fraction that a random word stands for: its upper 53 bits. -/
def wordFraction (w : UInt64) : Binary64 :=
  (Binary64.ofRatio false ⟨(w >>> 11).toNat, Nat.pow 2 53⟩).getD (.zero false)

structure Backoff where
  attempt : Nat
  /-- The last delay since the last reset, else zero. -/
  last : Nat
  drawn : Nat
  deriving DecidableEq, Inhabited

namespace Schedule

/-- The delay doubles at most this many times. -/
def mostDoublings : Nat := 20

def exponential (s : Schedule) (attempt : Nat) : Nat :=
  min (s.base * Nat.pow 2 (min attempt mostDoublings)) s.cap

/-- The most that jitter can add. A fraction beyond the largest double counts as the cap. -/
def span (s : Schedule) (attempt : Nat) : Nat :=
  (Duration.scaled? (s.exponential attempt) s.jitter).getD s.cap

end Schedule

namespace Backoff

def start : Backoff := ⟨0, 0, 0⟩

def mostAttempts : Nat := 0xFFFFFFFF

def jitter (s : Schedule) (words : WordSource) (b : Backoff) : Nat × Nat :=
  match s.span b.attempt with
  | 0 => (0, b.drawn)
  | span => ((Duration.scaled? span (wordFraction (words b.drawn))).getD s.cap, b.drawn + 1)

def next (s : Schedule) (words : WordSource) (b : Backoff) : Backoff :=
  let (jitter, drawn) := b.jitter s words
  let delay := max (min (s.exponential b.attempt + jitter) s.cap) b.last
  ⟨min (b.attempt + 1) mostAttempts, delay, drawn⟩

def reset (b : Backoff) : Backoff := ⟨0, 0, b.drawn⟩

end Backoff

end OpsConsole
