import Mathlib.Data.String.Basic
import SeamlessSwarm.Submissions

/-! What requests without an access key can learn and change. The verdict on the
key goes into the response beside the data, not before it. -/
namespace SeamlessSwarm
open Trace

/-- A request of either kind with an empty key. -/
def Unauthorized (medium : MediumProst) (msg : Bytes) : Prop :=
  (∃ payload req, readMedium msg = .accept (10, payload) ∧
    medium.swarmStatusRequest.decode payload = some req ∧ req.accessKey.isEmpty = true) ∨
  ∃ payload req, readMedium msg = .accept (12, payload) ∧
    medium.taskSubmitRequest.decode payload = some req ∧ req.accessKey.isEmpty = true

/-- Two registries look the same to an unauthorized request, and no such request
of the run changes the scheduler or the registry it shares. -/
structure UnauthorizedLearnNothing (medium : MediumProst) (registry other : EphemeralRegistry)
    (events : List MediumEvent) : Prop where
  same : ∀ req, req.accessKey.isEmpty = true →
    statusResponse registry req = statusResponse other req
  unchanged : ∀ before uuid msg after, events = before ++ .receive uuid msg :: after →
    Unauthorized medium msg →
    (mediumHub medium registry (before ++ [.receive uuid msg])).scheduler =
      (mediumHub medium registry before).scheduler

def HasCapability (registry : EphemeralRegistry) (name : String) : Prop :=
  ∃ node ∈ registry.listNodes, ∃ c ∈ node.capabilities, c.name = name

/-- As many nodes, as far as 32 bits tell, and the same capability names. -/
structure SameOutline (registry other : EphemeralRegistry) : Prop where
  count : registry.listNodes.length % 4294967296 = other.listNodes.length % 4294967296
  names : ∀ name, HasCapability registry name ↔ HasCapability other name

theorem status_answered {medium : MediumProst} {msg payload : Bytes} {req : SwarmStatusRequest}
    (read : readMedium msg = .accept (10, payload))
    (decoded : medium.swarmStatusRequest.decode payload = some req) (registry : EphemeralRegistry)
    (uuid : UuidV4) : mediumAnswer medium registry uuid msg = some
    (.status (statusResponse registry req)) := by
  simp only [mediumAnswer, read, if_true, decoded]

theorem mergeSort_dedup_eq_iff {α : Type*} [LinearOrder α] (xs ys : List α) :
    xs.dedup.mergeSort (fun a b => decide (a ≤ b)) = ys.dedup.mergeSort
      (fun a b => decide (a ≤ b)) ↔
      ∀ x, x ∈ xs ↔ x ∈ ys := by
  constructor
  · intro same x
    rw [← List.mem_dedup, ← List.mem_mergeSort, same, List.mem_mergeSort, List.mem_dedup]
  · intro members
    have listed : xs.dedup.Perm ys.dedup := by
      apply (List.perm_ext_iff_of_nodup (List.nodup_dedup xs) (List.nodup_dedup ys)).mpr
      intro x
      rw [List.mem_dedup, List.mem_dedup, members]
    have sorted (zs : List α) :
        (zs.mergeSort fun a b => decide (a ≤ b)).Pairwise fun a b => decide (a ≤ b) = true := by
      apply List.pairwise_mergeSort
      · intro a b c first second
        exact decide_eq_true (le_trans (of_decide_eq_true first) (of_decide_eq_true second))
      · intro a b
        simpa using le_total a b
    apply List.Perm.eq_of_pairwise _ (sorted xs.dedup) (sorted ys.dedup)
    · exact (List.mergeSort_perm _ _).trans (listed.trans (List.mergeSort_perm _ _).symm)
    · intro a b _ _ first second
      exact le_antisymm (of_decide_eq_true first) (of_decide_eq_true second)

theorem mem_capabilityNames (registry : EphemeralRegistry) (name : String) :
    name ∈ (registry.listNodes.flatMap fun n => n.capabilities.map Capability.name) ↔
      HasCapability registry name := by
  simp only [List.mem_flatMap, List.mem_map, HasCapability]

theorem availableCapabilities_eq_iff (registry other : EphemeralRegistry) :
    availableCapabilities registry = availableCapabilities other ↔
      ∀ name, HasCapability registry name ↔ HasCapability other name := by
  unfold availableCapabilities
  rw [mergeSort_dedup_eq_iff]
  simp only [mem_capabilityNames]

theorem nodeCount_eq_iff (n m : Nat) :
    Int32.ofNat n = Int32.ofNat m ↔ n % 4294967296 = m % 4294967296 := by
  rw [← Int32.toBitVec_inj]
  simp only [Int32.toBitVec_ofNat']
  rw [← BitVec.toNat_inj, BitVec.toNat_ofNat, BitVec.toNat_ofNat]

theorem unauthorized_response_eq_iff (registry other : EphemeralRegistry) {req : SwarmStatusRequest}
    (keyless : req.accessKey.isEmpty = true) :
    statusResponse registry req = statusResponse other req ↔ SameOutline registry other := by
  simp only [statusResponse, keyless, SwarmStatusResponse.mk.injEq, true_and, and_true,
    nodeCount_eq_iff, availableCapabilities_eq_iff]
  exact ⟨fun same => ⟨same.1, same.2⟩, fun outline => ⟨outline.count, outline.names⟩⟩

theorem unauthorized_step (medium : MediumProst) (s : MediumHub) (uuid : UuidV4) {msg : Bytes}
    (unauthorized : Unauthorized medium msg) :
    (s.step medium (.receive uuid msg)).scheduler = s.scheduler := by
  have other : (12 : UInt8) ≠ 10 := by decide
  simp only [MediumHub.step]
  split
  · rcases unauthorized with ⟨payload, req, read, decoded, _⟩ | ⟨payload, req, read,
      decoded, keyless⟩
    · simp only [status_answered read decoded]
    · simp only [mediumAnswer, read, other, if_false, decoded, keyless, if_true]
  · rfl

/-- Requests without a key learn nothing about two registries exactly when these
have as many nodes and the same capability names; they never change anything. -/
theorem unauthorized_learn_nothing_iff_same_outline (medium : MediumProst)
    (registry other : EphemeralRegistry) (events : List MediumEvent) :
    UnauthorizedLearnNothing medium registry other events ↔ SameOutline registry other := by
  constructor
  · intro law
    exact (unauthorized_response_eq_iff registry other rfl).mp (law.same ⟨""⟩ rfl)
  · intro outline
    constructor
    · intro req keyless
      exact (unauthorized_response_eq_iff registry other keyless).mpr outline
    · rintro before uuid msg after _ unauthorized
      rw [mediumHub_snoc]
      exact unauthorized_step medium _ uuid unauthorized

/-- The number of nodes and the names of their capabilities are given to everyone. -/
theorem keyless_request_learns_the_swarm :
    ¬ UnauthorizedLearnNothing mediumTopology .new
      (EphemeralRegistry.new.registerNode ⟨"n", "linux", [⟨"has_cuda", "boolean", "true"⟩], 0, ""⟩)
      [] := by
  intro law
  have count := congrArg SwarmStatusResponse.nodeCount (law.same ⟨""⟩ rfl)
  revert count
  decide

end SeamlessSwarm
