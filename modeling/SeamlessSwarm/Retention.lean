import SeamlessSwarm.Lib.Trace
import SeamlessSwarm.Registry

/-! What the registry retains, by its whole history. Evictions use one threshold,
and their times never go back. -/
namespace SeamlessSwarm
open Trace

inductive RegistryCall where
  | registerNode (profile : NodeProfile)
  | unregisterNode (nodeId : String)
  | evictOfflineNodes (currentTime : Nat)
  deriving DecidableEq

namespace EphemeralRegistry

def call (threshold : Nat) (registry : EphemeralRegistry) : RegistryCall → EphemeralRegistry
  | .registerNode profile => registry.registerNode profile
  | .unregisterNode nodeId => registry.unregisterNode nodeId
  | .evictOfflineNodes currentTime => registry.evictOfflineNodes currentTime threshold

def after (threshold : Nat) (calls : List RegistryCall) : EphemeralRegistry :=
  run (call threshold) .new calls

end EphemeralRegistry

/-- A `u64` subtraction, which below zero does not give a value. -/
def checkedSub (a b : Nat) : Option Nat :=
  if b ≤ a then some (a - b) else none

/-- The test that an eviction makes of an entry, with its subtraction checked. -/
def evictionTest (currentTime timeoutThreshold : Nat) (profile : NodeProfile) : Option Bool :=
  if currentTime ≥ profile.lastSeen then
    (checkedSub currentTime profile.lastSeen).map fun age => decide (age < timeoutThreshold)
  else some true

def RegistryCall.time : RegistryCall → Option Nat
  | .evictOfflineNodes currentTime => some currentTime
  | _ => none

def evictionTimes (calls : List RegistryCall) : List Nat := calls.filterMap RegistryCall.time

/-- Registered, and since then neither unregistered nor registered anew. -/
def LastRegistered (calls : List RegistryCall) (profile : NodeProfile) : Prop :=
  Since (fun c => c ≠ .unregisterNode profile.nodeId ∧
      ∀ later, c = .registerNode later → profile.nodeId ≠ later.nodeId)
    (· = .registerNode profile) calls

def SeenLately (t threshold : Nat) (profile : NodeProfile) : Prop :=
  profile.lastSeen > t ∨ t - profile.lastSeen < threshold

/-- The registry after the calls and a last eviction at `t`: the last registrations
that stand and were seen lately, whatever the evictions on the way. -/
structure RetentionLaws (threshold : Nat) (calls : List RegistryCall) (t : Nat) : Prop where
  found : ∀ id profile,
    (EphemeralRegistry.after threshold (calls ++ [.evictOfflineNodes t])).getNode id =
    some profile ↔
      profile.nodeId = id ∧ LastRegistered calls profile ∧ SeenLately t threshold profile
  listed : ∀ profile,
    profile ∈ (EphemeralRegistry.after threshold (calls ++ [.evictOfflineNodes t])).listNodes ↔
      LastRegistered calls profile ∧ SeenLately t threshold profile
  once : ((EphemeralRegistry.after threshold (calls ++ [.evictOfflineNodes t])).listNodes.map
    NodeProfile.nodeId).Nodup
  subtracts : ∀ before now rest, calls ++ [.evictOfflineNodes t] = before ++ .evictOfflineNodes
    now :: rest →
    ∀ profile ∈ (EphemeralRegistry.after threshold before).listNodes, ∃ kept,
      evictionTest now threshold profile = some kept ∧
      (profile ∈ (EphemeralRegistry.after threshold
        (before ++ [.evictOfflineNodes now])).listNodes ↔
        kept = true)

def RegistryCall.Spares (threshold : Nat) (profile : NodeProfile) : RegistryCall → Prop
  | .registerNode later => profile.nodeId ≠ later.nodeId
  | .unregisterNode nodeId => profile.nodeId ≠ nodeId
  | .evictOfflineNodes now => now < profile.lastSeen + threshold

section History
variable (threshold : Nat)

theorem mem_evict (registry : EphemeralRegistry) (now : Nat) (profile : NodeProfile) :
    profile ∈ (registry.evictOfflineNodes now threshold).rows ↔
      profile ∈ registry.rows ∧ now < profile.lastSeen + threshold := by
  rw [Keyed.Table.mem_iff_get, evictOfflineNodes_get, Option.filter_eq_some_iff,
    ← Keyed.Table.mem_iff_get, decide_eq_true_iff]

theorem mem_call (registry : EphemeralRegistry) (c : RegistryCall) (profile : NodeProfile) :
    profile ∈ (registry.call threshold c).rows ↔
      c = .registerNode profile ∨ profile ∈ registry.rows ∧ c.Spares threshold profile := by
  cases c with
  | registerNode later =>
    rw [EphemeralRegistry.call, EphemeralRegistry.registerNode, Keyed.Table.mem_insert,
      RegistryCall.registerNode.injEq, eq_comm (a := later)]
    rfl
  | unregisterNode nodeId =>
    rw [EphemeralRegistry.call, EphemeralRegistry.unregisterNode, Keyed.Table.mem_remove]
    simp [RegistryCall.Spares]
  | evictOfflineNodes now =>
    rw [EphemeralRegistry.call, mem_evict]
    simp [RegistryCall.Spares]

theorem mem_after (calls : List RegistryCall) (profile : NodeProfile) :
    profile ∈ (EphemeralRegistry.after threshold calls).rows ↔
      Since (RegistryCall.Spares threshold profile) (· = .registerNode profile) calls := by
  apply run_iff_since (F := fun registry : EphemeralRegistry => profile ∈ registry.rows)
  · intro registry c
    exact mem_call threshold registry c profile
  · exact List.not_mem_nil

theorem seenLately_iff (t : Nat) (profile : NodeProfile) :
    SeenLately t threshold profile ↔ t < profile.lastSeen + threshold := by
  unfold SeenLately
  omega

theorem spares_iff {t : Nat} {c : RegistryCall}
    (earlier : ∀ now, c = .evictOfflineNodes now → now ≤ t)
    {profile : NodeProfile} (seen : t < profile.lastSeen + threshold) :
    c.Spares threshold profile ↔ c ≠ .unregisterNode profile.nodeId ∧
      ∀ later, c = .registerNode later → profile.nodeId ≠ later.nodeId := by
  cases c with
  | registerNode later => simp [RegistryCall.Spares]
  | unregisterNode nodeId => simp [RegistryCall.Spares, eq_comm]
  | evictOfflineNodes now =>
    have passed : now < profile.lastSeen + threshold := Nat.lt_of_le_of_lt (earlier now rfl) seen
    simp [RegistryCall.Spares, passed]

theorem spared_iff {calls : List RegistryCall} {t : Nat}
    (ordered : ∀ now, RegistryCall.evictOfflineNodes now ∈ calls → now ≤ t) {profile : NodeProfile}
    (seen : t < profile.lastSeen + threshold) :
    Since (RegistryCall.Spares threshold profile) (· = .registerNode profile) calls ↔
      LastRegistered calls profile := by
  apply since_congr
  intro c member
  exact spares_iff threshold (fun now same => ordered now (same ▸ member)) seen

theorem evictionTest_eq (now : Nat) (profile : NodeProfile) :
    evictionTest now threshold profile = some (decide (now < profile.lastSeen + threshold)) := by
  unfold evictionTest
  by_cases past : profile.lastSeen ≤ now
  · rw [if_pos past, checkedSub, if_pos past, Option.map_some]
    congr 1
    exact decide_eq_decide.mpr (by omega)
  · rw [if_neg past]
    congr 1
    exact (decide_eq_true (by omega)).symm

theorem after_evict (calls : List RegistryCall) (now : Nat) :
    EphemeralRegistry.after threshold (calls ++ [.evictOfflineNodes now]) =
      (EphemeralRegistry.after threshold calls).evictOfflineNodes now threshold := by
  rw [EphemeralRegistry.after, run_append]
  rfl

end History

/-- With one threshold and times that never go back, the last eviction alone decides
which of the last registrations are still there. -/
theorem retention_laws (threshold : Nat) (calls : List RegistryCall) (t : Nat)
    (ordered : (evictionTimes (calls ++ [.evictOfflineNodes t])).Pairwise (· ≤ ·)) :
    RetentionLaws threshold calls t := by
  have before : ∀ now, RegistryCall.evictOfflineNodes now ∈ calls → now ≤ t := by
    rw [evictionTimes, List.filterMap_append, List.pairwise_append] at ordered
    intro now member
    exact ordered.2.2 now (List.mem_filterMap.mpr ⟨_, member, rfl⟩) t (List.mem_singleton_self t)
  have listed (profile : NodeProfile) :
      profile ∈ (EphemeralRegistry.after threshold (calls ++ [.evictOfflineNodes t])).rows ↔
        LastRegistered calls profile ∧ SeenLately t threshold profile := by
    rw [after_evict, mem_evict, mem_after, seenLately_iff]
    exact and_congr_left fun seen => spared_iff threshold before seen
  constructor
  · intro id profile
    rw [EphemeralRegistry.getNode, Keyed.Table.get_eq_some_iff, listed, and_comm]
  · exact listed
  · exact (EphemeralRegistry.after threshold (calls ++ [.evictOfflineNodes t])).nodup
  · intro start now rest split profile member
    refine ⟨_, evictionTest_eq threshold now profile, ?_⟩
    rw [after_evict, decide_eq_true_iff]
    exact (mem_evict threshold _ now profile).trans (and_iff_right member)

section Example

private def seenAt (id : String) (time : Nat) : NodeProfile := ⟨id, "linux", [], time, ""⟩

/-- A node comes back after its eviction, and another one's clock is ahead. -/
theorem returning_node_is_retained : RetentionLaws 5
    [.registerNode (seenAt "a" 10), .evictOfflineNodes 15, .registerNode (seenAt "a" 16),
      .registerNode (seenAt "b" 18446744073709551615), .evictOfflineNodes 15] 20 :=
  retention_laws 5 _ 20 (by decide)

end Example

end SeamlessSwarm
