import Mathlib.Algebra.Order.Ring.Rat
import Mathlib.Tactic.NormNum
import SeamlessSwarm.Lib.Backoff
import SeamlessSwarm.Lib.Trace

/-! The retry loop of `NngClient::run_demo_lifecycle` in exact arithmetic: what it
sleeps between the handshake attempts of a node that cannot reach the hub. -/
namespace SeamlessSwarm
open Trace

/-- What a handshake attempt returned and, after an error, the jitter that was drawn. -/
inductive HandshakeAttempt (Pair : Type) where
  | ok (pair : Pair)
  | err (e : String) (jitter : ℚ)

structure RetryLoop (Pair : Type) where
  attempt : Nat
  backoff : ℚ
  slept : List ℚ
  broke : Option Pair

namespace RetryLoop
variable {Pair : Type}

def start : RetryLoop Pair := ⟨0, 1, [], none⟩

/-- One turn of the loop; after the `break` there is none. -/
def turn (s : RetryLoop Pair) (returned : HandshakeAttempt Pair) : RetryLoop Pair :=
  match s.broke with
  | some _ => s
  | none =>
    match returned with
    | .ok pair => { s with attempt := s.attempt + 1, broke := some pair }
    | .err _ jitter =>
      let sleepSecs := min 30 (s.backoff * (3 / 2)) + jitter
      { s with attempt := s.attempt + 1, backoff := sleepSecs, slept := s.slept ++ [sleepSecs] }

/-- The delays slept after the failed attempts of a lifecycle. -/
def delays (attempts : List (HandshakeAttempt Pair)) : List ℚ := (run turn start attempts).slept

end RetryLoop

namespace HandshakeAttempt
variable {Pair : Type}

def jitters : List (HandshakeAttempt Pair) → List ℚ
  | .err _ jitter :: rest => jitter :: jitters rest
  | _ => []

/-- `gen_range(0.0..1.0)`. -/
def Drawn : HandshakeAttempt Pair → Prop
  | ok _ => True
  | err _ jitter => 0 ≤ jitter ∧ jitter < 1

end HandshakeAttempt

open RetryLoop HandshakeAttempt

/-- The loop backs off: one delay for each failure before the first success, never
shorter than without jitter and always below 31, longer every time up to 30, and at
30 or above from the first one that is, which is the ninth at the latest. -/
structure BacksOff {Pair : Type} (attempts : List (HandshakeAttempt Pair)) : Prop where
  each : (delays attempts).length = (jitters attempts).length
  bounded : ∀ (k : Nat) (d : ℚ), (delays attempts)[k]? = some d →
    min 30 ((3 / 2) ^ (k + 1)) ≤ d ∧ d < 31
  rises : ∀ (k : Nat) (d d' : ℚ), (delays attempts)[k]? = some d →
    (delays attempts)[k + 1]? = some d' → d < 30 → d < d'
  stays : ∀ (i k : Nat) (d d' : ℚ), i < k → (delays attempts)[i]? = some d →
    (delays attempts)[k]? = some d' → 30 ≤ d → 30 ≤ d' ∧ d' < 31
  capped : ∀ (k : Nat) (d : ℚ), 9 ≤ k + 1 → (delays attempts)[k]? = some d → 30 ≤ d

/-- The backoff of the handshake: half as long again up to 30 seconds, and a jitter
of less than a second. -/
def handshakeBackoff : Backoff ℚ where
  factor := 3 / 2
  cap := 30
  width := 1
  grows := by norm_num
  positive := by norm_num

theorem turn_broke {Pair : Type} (s : RetryLoop Pair) (pair : Pair) (broke : s.broke = some pair)
    (attempts : List (HandshakeAttempt Pair)) : run turn s attempts = s := by
  induction attempts with
  | nil => rfl
  | cons returned rest ih =>
    have same : s.turn returned = s := by simp only [turn, broke]
    rw [run_cons, same, ih]

theorem slept_run {Pair : Type} (s : RetryLoop Pair) (going : s.broke = none)
    (attempts : List (HandshakeAttempt Pair)) :
    (run turn s attempts).slept =
      s.slept ++ handshakeBackoff.delays s.backoff (jitters attempts) := by
  induction attempts generalizing s with
  | nil => exact (List.append_nil s.slept).symm
  | cons returned rest ih =>
    rw [run_cons]
    cases returned with
    | ok pair =>
      have ended : s.turn (.ok pair) = { s with attempt := s.attempt + 1, broke := some pair } := by
        simp only [turn, going]
      rw [ended, turn_broke _ pair rfl]
      exact (List.append_nil s.slept).symm
    | err e jitter =>
      have slept : s.turn (.err e jitter) =
          { s with
            attempt := s.attempt + 1
            backoff := handshakeBackoff.next s.backoff jitter
            slept := s.slept ++ [handshakeBackoff.next s.backoff jitter] } := by
        simp only [turn, going]
        rfl
      have still : (s.turn (.err e jitter)).broke = none := by rw [slept, going]
      rw [ih _ still, slept]
      exact List.append_assoc _ _ _

theorem delays_eq {Pair : Type} (attempts : List (HandshakeAttempt Pair)) :
    delays attempts = handshakeBackoff.delays 1 (jitters attempts) :=
  slept_run start rfl attempts

theorem jitters_drawn {Pair : Type} {attempts : List (HandshakeAttempt Pair)}
    (drawn : ∀ a ∈ attempts, a.Drawn) : handshakeBackoff.Drawn (jitters attempts) := by
  induction attempts with
  | nil => nofun
  | cons returned rest ih =>
    obtain ⟨head, tail⟩ := List.forall_mem_cons.mp drawn
    cases returned with
    | ok pair => nofun
    | err e jitter => exact List.forall_mem_cons.mpr ⟨head, ih tail⟩

theorem ninth_power (k : Nat) (late : 9 ≤ k + 1) : (30 : ℚ) ≤ (3 / 2) ^ (k + 1) := by
  calc (30 : ℚ) ≤ (3 / 2) ^ 9 := by norm_num
    _ ≤ (3 / 2) ^ (k + 1) := pow_le_pow_right₀ (by norm_num) late

theorem handshake_backs_off {Pair : Type} (attempts : List (HandshakeAttempt Pair))
    (drawn : ∀ a ∈ attempts, a.Drawn) : BacksOff attempts := by
  have jitter := jitters_drawn drawn
  have floor : ∀ (k : Nat) (d : ℚ), (delays attempts)[k]? = some d →
      min 30 ((3 / 2) ^ (k + 1)) ≤ d := by
    intro k d delay
    rw [delays_eq] at delay
    have power := Backoff.floor_le_delay zero_le_one jitter delay
    rwa [one_mul] at power
  have ceiling : ∀ (k : Nat) (d : ℚ), (delays attempts)[k]? = some d → d < 31 := by
    intro k d delay
    rw [delays_eq] at delay
    have below := Backoff.delay_lt_ceiling jitter d (List.mem_of_getElem? delay)
    have sum : handshakeBackoff.cap + handshakeBackoff.width = 31 := by
      norm_num [handshakeBackoff]
    rwa [sum] at below
  constructor
  · rw [delays_eq, Backoff.delays_length]
  · exact fun k d delay => ⟨floor k d delay, ceiling k d delay⟩
  · intro k d d' delay next below
    rw [delays_eq] at delay next
    have chain := (Backoff.delays_rise zero_lt_one jitter).tail
    obtain ⟨_, rfl⟩ := List.getElem?_eq_some_iff.mp delay
    obtain ⟨inside, rfl⟩ := List.getElem?_eq_some_iff.mp next
    exact List.isChain_iff_getElem.mp chain k inside below
  · intro i k d d' earlier delay later atCap
    refine ⟨?_, ceiling k d' later⟩
    rw [delays_eq] at delay later
    obtain ⟨before, rfl⟩ := List.getElem?_eq_some_iff.mp delay
    obtain ⟨after, rfl⟩ := List.getElem?_eq_some_iff.mp later
    exact List.pairwise_iff_getElem.mp (Backoff.delays_stay jitter) i k before after earlier atCap
  · intro k d late delay
    have power := floor k d delay
    rwa [min_eq_left (ninth_power k late)] at power

theorem two_timeouts_back_off :
    BacksOff [.err "Operation timed out" (1 / 2), .err "Operation timed out" 0, .ok ()] := by
  apply handshake_backs_off
  intro a member
  simp only [List.mem_cons, List.not_mem_nil, or_false] at member
  rcases member with rfl | rfl | rfl
  · exact ⟨by norm_num, by norm_num⟩
  · exact ⟨le_rfl, by norm_num⟩
  · trivial

end SeamlessSwarm
