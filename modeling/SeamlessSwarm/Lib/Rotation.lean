import Mathlib.Data.Int.CardIntervalMod
import Mathlib.Data.List.Nodup

/-! Rotation through a list: turn number `k` falls on the entry at `k` modulo the
length. In a list without repetitions each entry has one residue for itself, and
turns that are numbered one after the other are spread evenly. -/
namespace Rotation

variable {α β : Type*}

def turn (xs : List α) (k : Nat) : Option α := xs[k % xs.length]?

theorem turn_eq_none_iff (xs : List α) (k : Nat) : turn xs k = none ↔ xs = [] := by
  unfold turn
  constructor
  · intro none
    by_contra filled
    have outside := List.getElem?_eq_none_iff.mp none
    have inside := Nat.mod_lt k (List.length_pos_iff.mpr filled)
    omega
  · rintro rfl
    rfl

theorem mem_of_turn {xs : List α} {k : Nat} {x : α} (falls : turn xs k = some x) : x ∈ xs :=
  List.mem_of_getElem? falls

theorem turn_map (f : α → β) (xs : List α) (k : Nat) : turn (xs.map f) k = (turn xs k).map f := by
  unfold turn
  rw [List.length_map, List.getElem?_map]

/-- The entry at a position has exactly the turns of that residue. -/
theorem turn_eq_getElem_iff {xs : List α} (distinct : xs.Nodup) {i : Nat} (inside : i < xs.length)
    (k : Nat) : turn xs k = some xs[i] ↔ k % xs.length = i := by
  unfold turn
  have bound : k % xs.length < xs.length := Nat.mod_lt k (by omega)
  rw [List.getElem?_eq_getElem bound, Option.some_inj]
  exact distinct.getElem_inj_iff

theorem countP_range (p : Nat → Prop) [DecidablePred p] (n : Nat) :
    (List.range n).countP (fun k => decide (p k)) = Nat.count p n := by
  induction n with
  | zero => rfl
  | succ n ih =>
    rw [List.range_succ, List.countP_append, ih, Nat.count_succ, List.countP_singleton]
    by_cases holds : p n <;> simp [holds]

theorem consecutive_even (c n : Nat) {i j : Nat} (first : i < c) (second : j < c) :
    (List.range n).countP (fun k => k % c = i) ≤ (List.range n).countP
    (fun k => k % c = j) + 1 := by
  have counted {r : Nat} (small : r < c) :
      (List.range n).countP (fun k => k % c = r) = n / c + if r < n % c then 1 else 0 := by
    have residue : (fun k => k % c = r) = fun k => k ≡ r [MOD c] := by
      funext k
      rw [Nat.ModEq, Nat.mod_eq_of_lt small]
    rw [countP_range]
    simp only [residue]
    rw [Nat.count_modEq_card _ (by omega), Nat.mod_eq_of_lt small]
  rw [counted first, counted second]
  split <;> split <;> omega

end Rotation
