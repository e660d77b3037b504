import Mathlib.Data.List.Induction
import OpsConsole.Proofs.Link.Delays

/-!
# Delays under any requests

A backoff is asked for delays and for resets, in any order. The delays since the last reset are
numbered from zero, and their bounds depend on that number alone: each lies between what doubling
gives and the cap, and what doubling gives never shrinks. So once it has come to the cap every later
delay is the cap. Without jitter nothing is added, and the delays are what doubling gives.
-/

namespace OpsConsole

namespace Binary64

theorem ratio_num_of_isZero {x : Binary64} (h : x.isZero = true) : x.ratio.num = 0 := by
  have hmantissa : x.mantissa = 0 := eq_of_beq h
  rw [ratio, Ratio.ofScaled, hmantissa]
  split
  · exact Nat.zero_mul _
  · rfl

theorem isZero_of_ofRatio {negative : Bool} {a : Ratio} {x : Binary64} (ha : a.num = 0)
    (h : ofRatio negative a = some x) : x.isZero = true := by
  rw [ofRatio, if_pos ha] at h
  cases h
  rfl

end Binary64

theorem roundDiv_zero (den : Nat) : roundDiv 0 den = 0 := by
  obtain rfl | hpos := Nat.eq_zero_or_pos den
  · rfl
  · simp [roundDiv, hpos]

/-- No fraction of a duration is no time. -/
theorem Duration.scaled?_of_isZero {nanos part : Nat} {factor : Binary64}
    (h : factor.isZero = true) (hpart : scaled? nanos factor = some part) : part = 0 := by
  simp only [scaled?, Option.bind_eq_bind, Option.bind_eq_some_iff, Option.some.injEq] at hpart
  obtain ⟨s, -, x, hx, rfl⟩ := hpart
  have hproduct : (factor.ratio.mul s.ratio).num = 0 := by
    rw [Ratio.mul, Binary64.ratio_num_of_isZero h]
    exact Nat.zero_mul _
  have hnum : (x.ratio.mul ⟨nanosPerSecond, 1⟩).num = 0 := by
    rw [Ratio.mul, Binary64.ratio_num_of_isZero (Binary64.isZero_of_ofRatio hproduct hx)]
    exact Nat.zero_mul _
  rw [hnum, roundDiv_zero]

namespace Schedule

variable {s : Schedule}

theorem exponential_mono {j k : Nat} (h : j ≤ k) : s.exponential j ≤ s.exponential k := by
  have hcount : min j mostDoublings ≤ min k mostDoublings :=
    Nat.le_min.2 ⟨Nat.le_trans (Nat.min_le_left _ _) h, Nat.min_le_right _ _⟩
  have hpower : Nat.pow 2 (min j mostDoublings) ≤ Nat.pow 2 (min k mostDoublings) :=
    Nat.pow_le_pow_right Nat.zero_lt_two hcount
  have hproduct := Nat.mul_le_mul_left s.base hpower
  exact Nat.le_min.2 ⟨Nat.le_trans (Nat.min_le_left _ _) hproduct, Nat.min_le_right _ _⟩

/-- To stop doubling at a longest duration changes nothing, for the cap is one. -/
theorem exponential_eq_min_of_cap_le {longest : Nat} (h : s.cap ≤ longest) (attempt : Nat) :
    min (min (s.base * Nat.pow 2 (min attempt mostDoublings)) longest) s.cap =
      s.exponential attempt := by
  rw [Nat.min_assoc, Nat.min_eq_right h]
  rfl

end Schedule

/-- What is asked of a backoff. -/
inductive BackoffRequest
  | delay
  | reset

/-- A backoff, and the delays that it gave since its last reset. -/
structure DelayLog where
  backoff : Backoff
  delays : List Nat

namespace DelayLog

variable {s : Schedule} {words : WordSource}

def start : DelayLog := ⟨.start, []⟩

def step (s : Schedule) (words : WordSource) (l : DelayLog) : BackoffRequest → DelayLog
  | .delay => ⟨l.backoff.next s words, l.delays ++ [(l.backoff.next s words).last]⟩
  | .reset => ⟨l.backoff.reset, []⟩

def run (s : Schedule) (words : WordSource) (rs : List BackoffRequest) : DelayLog :=
  rs.foldl (step s words) start

theorem run_concat (rs : List BackoffRequest) (r : BackoffRequest) :
    run s words (rs ++ [r]) = (run s words rs).step s words r := by
  rw [run, List.foldl_append]
  rfl

theorem length_delays_reset (rs : List BackoffRequest) (n : Nat) :
    (run s words (rs ++ .reset :: List.replicate n .delay)).delays.length = n := by
  induction n with
  | zero => rw [List.replicate_zero, run_concat]; rfl
  | succ n ih =>
    rw [List.replicate_succ', ← List.cons_append, ← List.append_assoc, run_concat, step,
      List.length_append, ih]
    rfl

theorem paced_run (rs : List BackoffRequest) :
    Backoff.Paced s (run s words rs).backoff (run s words rs).delays := by
  induction rs using List.reverseRecOn with
  | nil => exact Backoff.paced_nil rfl rfl
  | append_singleton rs r ih =>
    rw [run_concat]
    cases r with
    | delay => exact ih.next words
    | reset => exact Backoff.paced_reset _

/-! ### Without jitter -/

/-- The delays are what doubling gives, and so is the last of them at most. -/
structure Plain (s : Schedule) (l : DelayLog) : Prop where
  exact : ∀ k d, l.delays[k]? = some d → d = s.exponential k
  last : l.backoff.last ≤ s.exponential l.delays.length

theorem plain_of_empty {l : DelayLog} (hd : l.delays = []) (hl : l.backoff.last = 0) :
    Plain s l where
  exact := by simp [hd]
  last := hl ▸ Nat.zero_le _

theorem Plain.delay {l : DelayLog} (h : Plain s l) (hp : Backoff.Paced s l.backoff l.delays)
    (hjitter : s.jitter.isZero = true)
    (hfits : (Duration.scaled? (s.exponential l.delays.length) s.jitter).isSome) :
    Plain s (l.step s words .delay) := by
  have hcount : s.exponential l.backoff.attempt = s.exponential l.delays.length := by
    rw [hp.attempt, Schedule.exponential_counted]
  obtain ⟨part, hpart⟩ := Option.isSome_iff_exists.1 hfits
  have hspan : s.span l.backoff.attempt = 0 := by
    rw [Schedule.span, hcount, hpart]
    exact Duration.scaled?_of_isZero hjitter hpart
  have hnone : (l.backoff.jitter s words).1 = 0 := by
    rw [Backoff.jitter, hspan]
    rfl
  have hlast : (l.backoff.next s words).last = s.exponential l.delays.length := by
    change max (min (s.exponential l.backoff.attempt + (l.backoff.jitter s words).1) s.cap)
      l.backoff.last = _
    rw [hnone, hcount, Nat.add_zero, Nat.min_eq_left (Schedule.exponential_le_cap _),
      Nat.max_eq_left h.last]
  refine ⟨fun k d hk => ?_, ?_⟩
  · rw [step, hlast, List.getElem?_append] at hk
    split at hk
    · exact h.exact k d hk
    · obtain ⟨hlt, hd⟩ := List.getElem?_eq_some_iff.1 hk
      rw [List.length_singleton] at hlt
      have hk' : k = l.delays.length := by omega
      rw [List.getElem_singleton] at hd
      rw [hk', hd]
  · rw [step, hlast, List.length_append]
    exact Schedule.exponential_mono (Nat.le_add_right _ _)

theorem plain_run (hjitter : s.jitter.isZero = true) (rs : List BackoffRequest)
    (hfits : ∀ k < (run s words rs).delays.length,
      (Duration.scaled? (s.exponential k) s.jitter).isSome) :
    Plain s (run s words rs) := by
  induction rs using List.reverseRecOn with
  | nil => exact plain_of_empty rfl rfl
  | append_singleton rs r ih =>
    rw [run_concat] at hfits ⊢
    cases r with
    | delay =>
      have hlength : ((run s words rs).step s words .delay).delays.length =
          (run s words rs).delays.length + 1 := List.length_append ..
      rw [hlength] at hfits
      have hbefore := ih fun k hk => hfits k (Nat.lt_succ_of_lt hk)
      exact hbefore.delay (paced_run rs) hjitter (hfits _ (Nat.lt_succ_self _))
    | reset => exact plain_of_empty rfl rfl

/-! ### All requests -/

/-- Under any policy, with any random words and after any requests, each delay since the last reset
is bounded by its number, and is at least the one before it. -/
theorem delays_bounded (p : BackoffPolicy) (words : WordSource) (rs : List BackoffRequest) :
    let s := p.schedule
    let cap := max p.cap p.base
    let doubled n := min cap (p.base * Nat.pow 2 (min n 20))
    let delays := (run s words rs).delays
    (∀ k d, delays[k]? = some d → doubled k ≤ d ∧ d ≤ cap) ∧
    delays.Pairwise (· ≤ ·) ∧
    (∀ j k d, doubled j = cap → j ≤ k → delays[k]? = some d → d = cap) ∧
    (s.jitter.isZero = true →
      (∀ k < delays.length, (Duration.scaled? (doubled k) s.jitter).isSome) →
      ∀ k d, delays[k]? = some d → d = doubled k) ∧
    (∀ longest, p.cap ≤ longest → p.base ≤ longest → ∀ n,
      min (min (p.base * Nat.pow 2 (min n 20)) longest) cap = doubled n) ∧
    ∀ n, (run s words (rs ++ .reset :: List.replicate n .delay)).delays.length = n := by
  intro s cap doubled delays
  have hdoubled : ∀ n, doubled n = s.exponential n := fun n => Nat.min_comm _ _
  have hpaced : Backoff.Paced s (run s words rs).backoff delays := paced_run rs
  have hbounds : ∀ k d, delays[k]? = some d → doubled k ≤ d ∧ d ≤ cap := fun k d hd =>
    ⟨hdoubled k ▸ hpaced.exponential_le k d hd, hpaced.le_cap hd⟩
  refine ⟨hbounds, hpaced.sorted, fun j k d hj hjk hd => ?_, fun hjitter hfits k d hd => ?_,
    fun longest hcap hbase n => ?_, length_delays_reset rs⟩
  · obtain ⟨hlow, hhigh⟩ := hbounds k d hd
    have hmono : doubled j ≤ doubled k := by
      rw [hdoubled, hdoubled]
      exact Schedule.exponential_mono hjk
    exact Nat.le_antisymm hhigh (Nat.le_trans (hj ▸ hmono) hlow)
  · simp only [hdoubled] at hfits ⊢
    exact (plain_run hjitter rs hfits).exact k d hd
  · have hlongest : s.cap ≤ longest := Nat.max_le.2 ⟨hcap, hbase⟩
    rw [hdoubled]
    exact Schedule.exponential_eq_min_of_cap_le hlongest n

/-- A jitter that is no number is none; the third doubling comes to the cap. -/
theorem delays_of_no_jitter :
    let p : BackoffPolicy := ⟨250, 1500, .undefined⟩
    let delays := (run p.schedule (fun _ => 0) (List.replicate 5 .delay)).delays
    (∀ k d, delays[k]? = some d → d = min 1500 (250 * Nat.pow 2 (min k 20))) ∧
      ∀ k d, 3 ≤ k → delays[k]? = some d → d = 1500 := by
  intro p delays
  obtain ⟨-, -, hcap, hplain, -⟩ :=
    delays_bounded ⟨250, 1500, .undefined⟩ (fun _ => 0) (List.replicate 5 .delay)
  exact ⟨hplain rfl (by decide +kernel), fun k d hk hd => hcap 3 k d (by decide) hk hd⟩

end DelayLog

end OpsConsole
