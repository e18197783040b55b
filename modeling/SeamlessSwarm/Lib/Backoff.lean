import Mathlib.Algebra.Order.Ring.Basic
import Mathlib.Algebra.Order.GroupWithZero.Basic
import Mathlib.Data.List.Chain

/-! Exponential backoff with a cap and a jitter that is fed back: every delay is the
one before it times a factor, cut off at the cap, plus a jitter. -/

structure Backoff (K : Type*) [Semiring K] [LinearOrder K] where
  factor : K
  cap : K
  width : K
  grows : 1 < factor
  positive : 0 < cap

namespace Backoff
variable {K : Type*} [Semiring K] [LinearOrder K] (s : Backoff K)

def next (backoff jitter : K) : K := min s.cap (backoff * s.factor) + jitter

def delays : K → List K → List K
  | _, [] => []
  | backoff, jitter :: rest => s.next backoff jitter :: delays (s.next backoff jitter) rest

def Drawn (jitters : List K) : Prop := ∀ j ∈ jitters, 0 ≤ j ∧ j < s.width

theorem delays_length (backoff : K) (jitters : List K) :
    (s.delays backoff jitters).length = jitters.length := by
  induction jitters generalizing backoff with
  | nil => rfl
  | cons jitter rest ih => simp only [delays, List.length_cons, ih]

variable [IsStrictOrderedRing K] {s} {backoff jitter : K} {jitters : List K}

theorem floor_le_next (drawn : 0 ≤ jitter) :
    min s.cap (backoff * s.factor) ≤ s.next backoff jitter :=
  le_add_of_nonneg_right drawn

theorem next_lt_ceiling (drawn : jitter < s.width) : s.next backoff jitter < s.cap + s.width :=
  add_lt_add_of_le_of_lt (min_le_left _ _) drawn

theorem next_pos (pos : 0 < backoff) (drawn : 0 ≤ jitter) : 0 < s.next backoff jitter := by
  have factor : 0 < s.factor := zero_lt_one.trans s.grows
  have floor : 0 < min s.cap (backoff * s.factor) := lt_min s.positive (mul_pos pos factor)
  exact floor.trans_le (floor_le_next drawn)

theorem lt_next (pos : 0 < backoff) (below : backoff < s.cap) (drawn : 0 ≤ jitter) :
    backoff < s.next backoff jitter := by
  have longer : backoff < backoff * s.factor := lt_mul_of_one_lt_right pos s.grows
  exact (lt_min below longer).trans_le (floor_le_next drawn)

theorem cap_le_next (capped : s.cap ≤ backoff) (drawn : 0 ≤ jitter) :
    s.cap ≤ s.next backoff jitter := by
  have longer : backoff ≤ backoff * s.factor :=
    le_mul_of_one_le_right (s.positive.le.trans capped) s.grows.le
  have floor : s.cap ≤ min s.cap (backoff * s.factor) := le_min le_rfl (capped.trans longer)
  exact floor.trans (floor_le_next drawn)

theorem delay_lt_ceiling (drawn : s.Drawn jitters) :
    ∀ d ∈ s.delays backoff jitters, d < s.cap + s.width := by
  induction jitters generalizing backoff with
  | nil => nofun
  | cons jitter rest ih =>
    obtain ⟨head, tail⟩ := List.forall_mem_cons.mp drawn
    intro d member
    rcases List.mem_cons.mp member with rfl | later
    · exact next_lt_ceiling head.2
    · exact ih tail d later

theorem cap_le_delay (capped : s.cap ≤ backoff) (drawn : s.Drawn jitters) :
    ∀ d ∈ s.delays backoff jitters, s.cap ≤ d := by
  induction jitters generalizing backoff with
  | nil => nofun
  | cons jitter rest ih =>
    obtain ⟨head, tail⟩ := List.forall_mem_cons.mp drawn
    have next := cap_le_next capped head.1
    intro d member
    rcases List.mem_cons.mp member with rfl | later
    · exact next
    · exact ih next tail d later

theorem delays_rise (pos : 0 < backoff) (drawn : s.Drawn jitters) :
    (backoff :: s.delays backoff jitters).IsChain fun d d' => d < s.cap → d < d' := by
  induction jitters generalizing backoff with
  | nil => exact List.isChain_singleton backoff
  | cons jitter rest ih =>
    obtain ⟨head, tail⟩ := List.forall_mem_cons.mp drawn
    apply List.isChain_cons_cons.mpr
    exact ⟨fun below => lt_next pos below head.1, ih (next_pos pos head.1) tail⟩

theorem delays_stay (drawn : s.Drawn jitters) :
    (s.delays backoff jitters).Pairwise fun d d' => s.cap ≤ d → s.cap ≤ d' := by
  induction jitters generalizing backoff with
  | nil => exact List.Pairwise.nil
  | cons jitter rest ih =>
    obtain ⟨_, tail⟩ := List.forall_mem_cons.mp drawn
    exact List.pairwise_cons.mpr ⟨fun d member capped => cap_le_delay capped tail d member, ih tail⟩

/-- Without any jitter the delays would be powers of the factor up to the cap. -/
theorem floor_le_delay (nonneg : 0 ≤ backoff) (drawn : s.Drawn jitters) {k : Nat} {d : K}
    (delay : (s.delays backoff jitters)[k]? = some d) :
    min s.cap (backoff * s.factor ^ (k + 1)) ≤ d := by
  induction jitters generalizing backoff k with
  | nil => cases delay
  | cons jitter rest ih =>
    obtain ⟨head, tail⟩ := List.forall_mem_cons.mp drawn
    have factor : 0 ≤ s.factor := zero_le_one.trans s.grows.le
    cases k with
    | zero =>
      cases delay
      rw [zero_add, pow_one]
      exact floor_le_next head.1
    | succ k =>
      have floor : 0 ≤ min s.cap (backoff * s.factor) :=
        le_min s.positive.le (mul_nonneg nonneg factor)
      have power : 0 ≤ s.factor ^ (k + 1) := pow_nonneg factor (k + 1)
      have capped : s.cap ≤ s.cap * s.factor ^ (k + 1) :=
        le_mul_of_one_le_right s.positive.le (one_le_pow₀ s.grows.le)
      have step : min s.cap (backoff * s.factor ^ (k + 2)) ≤
          s.next backoff jitter * s.factor ^ (k + 1) := by
        calc min s.cap (backoff * s.factor ^ (k + 2))
            ≤ min (s.cap * s.factor ^ (k + 1)) (backoff * s.factor * s.factor ^ (k + 1)) := by
              rw [mul_assoc, ← pow_succ']
              exact min_le_min capped le_rfl
          _ = min s.cap (backoff * s.factor) * s.factor ^ (k + 1) :=
              (min_mul_of_nonneg _ _ power).symm
          _ ≤ s.next backoff jitter * s.factor ^ (k + 1) :=
              mul_le_mul_of_nonneg_right (floor_le_next head.1) power
      have later := ih (floor.trans (floor_le_next head.1)) tail delay
      exact (le_min (min_le_left _ _) step).trans later

end Backoff
