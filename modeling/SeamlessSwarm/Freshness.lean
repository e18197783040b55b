import Mathlib.Data.List.Induction
import SeamlessSwarm.Admission

/-! Heartbeats against the clock. Each heartbeat that is taken in is logged with
its time; evictions compare the clock with what the receiver wrote as the time. -/
namespace SeamlessSwarm
open Trace

/-- Times are in seconds of one clock. -/
inductive ClockedEvent where
  | admission (time : Nat) (event : AdmissionEvent)
  | evict (now : Nat)
  deriving DecidableEq

def ClockedEvent.time : ClockedEvent → Nat
  | admission time _ => time
  | evict now => now

structure Clocked where
  hub : Admission
  beats : List (Nat × String)
  deriving DecidableEq

structure ClockedRun where
  events : List ClockedEvent
  ordered : events.Pairwise fun earlier later => earlier.time ≤ later.time

def takenIn (prost : Prost) (s : Admission) : AdmissionEvent → Option CapabilityProfile
  | .heartbeat _ msg =>
    if s.receiving then
      match readProfile prost msg with
      | .accept profile => some profile
      | _ => none
    else none
  | _ => none

def beat (prost : Prost) (s : Admission) (time : Nat) (event : AdmissionEvent) :
    List (Nat × String) :=
  ((takenIn prost s event).map fun profile => (time, profile.nodeId)).toList

def lastBeat (id : String) (beats : List (Nat × String)) : Option Nat :=
  (beats.filter fun b => b.2 = id).getLast?.map Prod.fst

section Law
variable (crypto : Crypto) (prost : Prost) (formatDouble : UInt64 → String) (threshold : Nat)

def Clocked.step (s : Clocked) : ClockedEvent → Clocked
  | .admission time event =>
    ⟨s.hub.step crypto prost formatDouble event, s.beats ++ beat prost s.hub time event⟩
  | .evict now =>
    { s with hub := { s.hub with registry := s.hub.registry.evictOfflineNodes now threshold } }

def clocked (hub : Admission) (events : List ClockedEvent) : Clocked :=
  run (Clocked.step crypto prost formatDouble threshold) ⟨hub, []⟩ events

/-- After each eviction a node is registered exactly if its latest heartbeat is
less than the threshold old. -/
def HeartbeatsFresh (hub : Admission) (r : ClockedRun) : Prop :=
  ∀ before now after, r.events = before ++ .evict now :: after → ∀ id seen,
    lastBeat id (clocked crypto prost formatDouble threshold hub before).beats = some seen →
    (now - seen < threshold → ∃ profile,
      (clocked crypto prost formatDouble threshold hub (before ++ [.evict now])).hub.registry.get
        id =
        some profile) ∧
    (threshold ≤ now - seen →
      (clocked crypto prost formatDouble threshold hub (before ++ [.evict now])).hub.registry.get
        id = none)

/-- At each eviction the latest heartbeats are less than the threshold old exactly
if the constant that the receiver writes is. -/
def BeatsLikeConstant (hub : Admission) (r : ClockedRun) : Prop :=
  ∀ before now after, r.events = before ++ .evict now :: after → ∀ id seen,
    lastBeat id (clocked crypto prost formatDouble threshold hub before).beats = some seen →
    (now - seen < threshold ↔ now < 1200 + threshold)

end Law

theorem lastBeat_snoc (id : String) (beats : List (Nat × String)) (time : Nat) (other : String) :
    lastBeat id (beats ++ [(time, other)]) = if other = id then some time else lastBeat
      id beats := by
  by_cases same : other = id <;> simp [lastBeat, List.filter_append, same]

theorem admission_registry (crypto : Crypto) (prost : Prost) (formatDouble : UInt64 → String)
    (s : Admission) (event : AdmissionEvent) :
    (s.step crypto prost formatDouble event).registry =
      match takenIn prost s event with
      | some profile => s.registry.registerNode (heartbeatProfile formatDouble profile)
      | none => s.registry := by
  cases event with
  | heartbeat client msg =>
    cases receiving : s.receiving with
    | false => simp [Admission.step, takenIn, receiving]
    | true => cases read : readProfile prost msg <;> simp [Admission.step, takenIn, receiving, read]
  | _ => rfl

section Run
variable (crypto : Crypto) (prost : Prost) (formatDouble : UInt64 → String) (threshold : Nat)

theorem clocked_snoc (hub : Admission) (events : List ClockedEvent) (event : ClockedEvent) :
    clocked crypto prost formatDouble threshold hub (events ++ [event]) =
      (clocked crypto prost formatDouble threshold hub events).step crypto prost
        formatDouble threshold
        event :=
  run_append _ events [event]

/-- Every heartbeat that was taken in left the constant in its entry, until an
eviction found the constant too old. -/
def ConstantKept (s : Clocked) (events : List ClockedEvent) : Prop :=
  ∀ id seen, lastBeat id s.beats = some seen →
    (∃ profile, s.hub.registry.get id = some profile ∧ profile.lastSeen = 1200) ∨
    (s.hub.registry.get id = none ∧ ∃ e, .evict e ∈ events ∧ 1200 + threshold ≤ e)

/-- Both the row and the log of a node change when its heartbeat is taken in, and
neither does otherwise. -/
theorem beat_step (s : Clocked) (time : Nat) (event : AdmissionEvent) (id : String) :
    (∃ profile, (s.hub.step crypto prost formatDouble event).registry.get id =
          some (heartbeatProfile formatDouble profile) ∧
        lastBeat id (s.beats ++ beat prost s.hub time event) = some time) ∨
      (s.hub.step crypto prost formatDouble event).registry.get id = s.hub.registry.get id ∧
        lastBeat id (s.beats ++ beat prost s.hub time event) = lastBeat id s.beats := by
  have registry := admission_registry crypto prost formatDouble s.hub event
  cases taken : takenIn prost s.hub event with
  | none =>
    simp only [taken] at registry
    exact Or.inr ⟨by rw [registry], by simp [beat, taken]⟩
  | some profile =>
    simp only [taken] at registry
    have row := s.hub.registry.get_insert (heartbeatProfile formatDouble profile) id
    have last : lastBeat id (s.beats ++ beat prost s.hub time event) =
        if profile.nodeId = id then some time else lastBeat id s.beats := by
      simp only [beat, taken, Option.map_some, Option.toList_some, lastBeat_snoc]
    rw [registry, last]
    by_cases named : id = profile.nodeId
    · exact Or.inl ⟨profile, row.trans (if_pos named), if_pos named.symm⟩
    · exact Or.inr ⟨row.trans (if_neg named), if_neg (Ne.symm named)⟩

theorem constant_kept (hub : Admission) (events : List ClockedEvent) :
    ConstantKept threshold (clocked crypto prost formatDouble threshold hub events) events := by
  induction events using List.reverseRecOn with
  | nil =>
    intro id seen last
    cases last
  | append_singleton events event ih =>
    intro id seen last
    rw [clocked_snoc] at last ⊢
    generalize clocked crypto prost formatDouble threshold hub events = s at ih last ⊢
    have later {e : Nat} (member : .evict e ∈ events) : .evict e ∈ events ++ [event] :=
      List.mem_append_left _ member
    cases event with
    | evict now =>
      have row := evictOfflineNodes_get s.hub.registry now threshold id
      rcases ih id seen last with ⟨profile, found, constant⟩ | ⟨gone, e, member, old⟩
      · rw [found] at row
        rcases Nat.lt_or_ge now (1200 + threshold) with recent | old
        · exact Or.inl ⟨profile, by simp [Clocked.step, row, constant, recent], constant⟩
        · exact Or.inr ⟨by simp only [Clocked.step, row, Option.filter, constant,
            Nat.not_lt.mpr old, decide_false, Bool.false_eq_true, if_false], now, by simp, old⟩
      · rw [gone] at row
        exact Or.inr ⟨row, e, later member, old⟩
    | admission time event =>
      rcases beat_step crypto prost formatDouble s time event id with ⟨profile, row,
        _⟩ | ⟨row, same⟩
      · exact Or.inl ⟨_, row, rfl⟩
      · rcases ih id seen (same.symm.trans last) with ⟨profile, found, constant⟩ | ⟨gone, e,
          member, old⟩
        · exact Or.inl ⟨profile, row.trans found, constant⟩
        · exact Or.inr ⟨row.trans gone, e, later member, old⟩

theorem survives_iff (hub : Admission) (r : ClockedRun) {before after : List ClockedEvent}
    {now : Nat}
    (split : r.events = before ++ .evict now :: after) {id : String} {seen : Nat}
    (last : lastBeat id (clocked crypto prost formatDouble threshold hub before).beats =
      some seen) :
    (∃ profile, (clocked crypto prost formatDouble threshold hub
        (before ++ [.evict now])).hub.registry.get id = some profile) ↔ now < 1200 + threshold := by
  have row := evictOfflineNodes_get
    (clocked crypto prost formatDouble threshold hub before).hub.registry now threshold id
  have next : (clocked crypto prost formatDouble threshold hub
      (before ++ [.evict now])).hub.registry.get id =
        ((clocked crypto prost formatDouble threshold hub before).hub.registry.get id).filter
          fun profile => decide (now < profile.lastSeen + threshold) := by
    rw [clocked_snoc]
    exact row
  rw [next]
  rcases constant_kept crypto prost formatDouble threshold hub before id seen last with
    ⟨profile, found, constant⟩ | ⟨gone, e, member, old⟩
  · simp [found, constant]
  · have order := r.ordered
    rw [split] at order
    have earlier : e ≤ now := (List.pairwise_append.mp order).2.2 _ member _ List.mem_cons_self
    rw [gone]
    constructor
    · rintro ⟨profile, absent⟩
      cases absent
    · intro recent
      omega

/-- The evictions of a run follow the heartbeats exactly when, at each of them, the
latest heartbeats are as fresh as the constant 1200 is. -/
theorem heartbeats_fresh_iff_like_constant (hub : Admission) (r : ClockedRun) :
    HeartbeatsFresh crypto prost formatDouble threshold hub r ↔
      BeatsLikeConstant crypto prost formatDouble threshold hub r := by
  constructor
  · intro fresh before now after split id seen last
    obtain ⟨kept, evicted⟩ := fresh before now after split id seen last
    have survives := survives_iff crypto prost formatDouble threshold hub r split last
    constructor
    · exact fun recent => survives.mp (kept recent)
    · intro constant
      by_contra old
      obtain ⟨profile, found⟩ := survives.mpr constant
      rw [evicted (Nat.le_of_not_lt old)] at found
      cases found
  · intro like before now after split id seen last
    have survives := survives_iff crypto prost formatDouble threshold hub r split last
    have agree := like before now after split id seen last
    refine ⟨fun recent => survives.mpr (agree.mp recent), fun old => ?_⟩
    rw [Option.eq_none_iff_forall_ne_some]
    intro profile found
    have recent := agree.mpr (survives.mp ⟨profile, found⟩)
    omega

end Run

section Example

private def steadyNode : CapabilityProfile := ⟨"n", "linux", [], 0⟩

private def steadyLeader : NodeProfile := ⟨"leader", "linux", [], 0, ""⟩

private def steadyRun : ClockedRun where
  events := [.admission 100000
    (.heartbeat "c" (frame 5 (topology.capabilityProfile.encode steadyNode))),
    .evict 100001]
  ordered := by simp [ClockedEvent.time]

theorem fresh_node_is_evicted :
    ¬ HeartbeatsFresh pointCrypto topology toString 5 (Admission.start steadyLeader) steadyRun := by
  intro fresh
  have fits : (topology.capabilityProfile.encode steadyNode).length < 4294967296 := by
    decide +kernel
  have read := decoded_frame topology.capabilityProfile 5 steadyNode fits
  have taken : takenIn topology (Admission.start steadyLeader)
      (.heartbeat "c" (frame 5 (topology.capabilityProfile.encode steadyNode))) =
        some steadyNode := by
    have read' : readProfile topology (frame 5 (topology.capabilityProfile.encode steadyNode)) =
      .accept steadyNode := read
    simp only [takenIn, read']
    rfl
  have last : lastBeat "n" (clocked pointCrypto topology toString 5 (Admission.start steadyLeader)
      [.admission 100000
        (.heartbeat "c" (frame 5 (topology.capabilityProfile.encode steadyNode)))]).beats =
        some 100000 := by
    simp only [clocked, run_cons, run_nil, Clocked.step, beat, taken]
    rfl
  have kept := (fresh [_] 100001 [] rfl "n" 100000 last).1 (by decide)
  have recent := (survives_iff pointCrypto topology toString 5 (Admission.start steadyLeader)
    steadyRun rfl last).mp kept
  exact absurd recent (by decide)

end Example

end SeamlessSwarm
