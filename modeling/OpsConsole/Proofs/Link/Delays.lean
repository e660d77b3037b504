import OpsConsole.Link.Backoff

/-!
# The delays since a reset

A delay is at least what doubling gives without jitter, at most the cap, and at least the delay
before it. The number of a delay is counted up to a limit that lies far beyond the last doubling, so
the count decides the doubling as well as the number itself would. One more delay after those since
the last reset keeps all of this.
-/

namespace OpsConsole

namespace Schedule

variable {s : Schedule}

theorem exponential_le_cap (attempt : Nat) : s.exponential attempt ≤ s.cap :=
  Nat.min_le_right _ _

theorem exponential_counted (k : Nat) :
    s.exponential (min k Backoff.mostAttempts) = s.exponential k := by
  have hmost : mostDoublings ≤ Backoff.mostAttempts := by decide
  rw [exponential, exponential, Nat.min_assoc, Nat.min_eq_right hmost]

end Schedule

namespace Backoff

variable {s : Schedule} {words : WordSource} {b : Backoff}

theorem attempt_next : (b.next s words).attempt = min (b.attempt + 1) mostAttempts := rfl

theorem last_le_next : b.last ≤ (b.next s words).last :=
  Nat.le_max_right _ _

theorem exponential_le_next : s.exponential b.attempt ≤ (b.next s words).last := by
  have hsum : s.exponential b.attempt ≤
      min (s.exponential b.attempt + (b.jitter s words).1) s.cap :=
    Nat.le_min.2 ⟨Nat.le_add_right _ _, Schedule.exponential_le_cap _⟩
  exact Nat.le_trans hsum (Nat.le_max_left _ _)

theorem next_le_cap (h : b.last ≤ s.cap) : (b.next s words).last ≤ s.cap :=
  Nat.max_le.2 ⟨Nat.min_le_right _ _, h⟩

/-- What a backoff keeps of the delays since the last reset, and what they are like. -/
structure Paced (s : Schedule) (b : Backoff) (delays : List Nat) : Prop where
  attempt : b.attempt = min delays.length mostAttempts
  last : ∀ d ∈ delays, d ≤ b.last
  last_le_cap : b.last ≤ s.cap
  exponential_le : ∀ k d, delays[k]? = some d → s.exponential k ≤ d
  sorted : delays.Pairwise (· ≤ ·)

theorem Paced.le_cap {delays : List Nat} (h : Paced s b delays) {k d : Nat}
    (hd : delays[k]? = some d) : d ≤ s.cap :=
  Nat.le_trans (h.last d (List.mem_of_getElem? hd)) h.last_le_cap

theorem paced_nil (ha : b.attempt = 0) (hl : b.last = 0) : Paced s b [] where
  attempt := ha
  last := by simp
  last_le_cap := hl ▸ Nat.zero_le _
  exponential_le := by simp
  sorted := .nil

theorem paced_reset (b : Backoff) : Paced s b.reset [] := paced_nil rfl rfl

theorem Paced.next {delays : List Nat} (h : Paced s b delays) (words : WordSource) :
    Paced s (b.next s words) (delays ++ [(b.next s words).last]) where
  attempt := by
    rw [attempt_next, h.attempt, List.length_append, List.length_singleton]
    omega
  last d hd := by
    rcases List.mem_append.1 hd with hbefore | hnew
    · exact Nat.le_trans (h.last d hbefore) last_le_next
    · exact Nat.le_of_eq (List.mem_singleton.1 hnew)
  last_le_cap := next_le_cap h.last_le_cap
  exponential_le k d hk := by
    by_cases hlt : k < delays.length
    · rw [List.getElem?_append_left hlt] at hk
      exact h.exponential_le k d hk
    · have hlen : k < (delays ++ [(b.next s words).last]).length :=
        (List.getElem?_eq_some_iff.1 hk).1
      have hlast : k = delays.length := by
        rw [List.length_append, List.length_singleton] at hlen
        omega
      subst hlast
      rw [List.getElem?_concat_length] at hk
      cases hk
      -- The new delay doubles by the count, which may have stopped short of the length.
      rw [← Schedule.exponential_counted, ← h.attempt]
      exact exponential_le_next
  sorted := by
    refine List.pairwise_append.2 ⟨h.sorted, List.pairwise_singleton _ _, ?_⟩
    intro d hd d' hd'
    rw [List.mem_singleton.1 hd']
    exact Nat.le_trans (h.last d hd) last_le_next

end Backoff

end OpsConsole
