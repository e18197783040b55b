import SeamlessSwarm.Disclosure
import SeamlessSwarm.Placement

/-! The capabilities a medium is told of against those it can ask for. The status
answer collects names, and the scheduler compares values. -/
namespace SeamlessSwarm

/-- What is listed can be required, and what alone can be required is listed. -/
structure AdvertisedDispatchable (registry : EphemeralRegistry) : Prop where
  satisfiable : ∀ req, ∀ text ∈ (statusResponse registry req).availableCapabilities,
    ∀ s : ProfileScheduler, s.registry = registry → ∀ id task, s.tasks.get id = some task →
    task.state = .pending → task.requiredCapabilities = [text] →
    ∀ nodes tasks now, id ∈ s.dispatchedIn nodes tasks now
  listed : ∀ text, (∃ n ∈ registry.listNodes, nodeMatchesCapabilities n [text] = true) →
    ∀ req, text ∈ (statusResponse registry req).availableCapabilities

def HasCapabilityValue (registry : EphemeralRegistry) (value : String) : Prop :=
  ∃ node ∈ registry.listNodes, ∃ c ∈ node.capabilities, c.value = value

theorem mem_availableCapabilities (registry : EphemeralRegistry) (req : SwarmStatusRequest)
    (text : String) :
    text ∈ (statusResponse registry req).availableCapabilities ↔ HasCapability registry text := by
  rw [statusResponse, availableCapabilities, List.mem_mergeSort, List.mem_dedup,
    mem_capabilityNames]

theorem matches_one_iff (registry : EphemeralRegistry) (text : String) :
    (∃ n ∈ registry.listNodes, nodeMatchesCapabilities n [text] = true) ↔
      HasCapabilityValue registry text := by
  simp only [nodeMatchesCapabilities_iff, List.forall_mem_singleton, List.mem_map,
    HasCapabilityValue]

theorem dispatched_one_iff {s : ProfileScheduler} {id : String} {task : Task} {text : String}
    (found : s.tasks.get id = some task) (pending : task.state = .pending)
    (one : task.requiredCapabilities = [text]) (nodes : List NodeProfile) (tasks : List Task)
    (now : Nat) :
    id ∈ s.dispatchedIn nodes tasks now ↔ HasCapabilityValue s.registry text := by
  rw [dispatchedIn_iff]
  constructor
  · rintro ⟨_, same, _, n, registered, carries⟩
    rw [found] at same
    cases same
    exact ⟨n, registered, carries text (one ▸ List.mem_singleton_self text)⟩
  · rintro ⟨n, registered, carried⟩
    refine ⟨task, found, pending, n, registered, ?_⟩
    rw [Carries, one]
    exact List.forall_mem_singleton.mpr carried

/-- Advertised means dispatchable, both ways, exactly for a registry whose
capabilities have the same names as values. -/
theorem advertised_dispatchable_iff_names_are_values (registry : EphemeralRegistry) :
    AdvertisedDispatchable registry ↔
      ∀ text, HasCapability registry text ↔ HasCapabilityValue registry text := by
  constructor
  · intro law text
    constructor
    · intro named
      have advertised := (mem_availableCapabilities registry ⟨""⟩ text).mpr named
      let asking : Task := (Task.new "t" .statelessIdempotent [] 3).withCapabilities [text]
      let s := (ProfileScheduler.new registry).submitTask asking
      have dispatched := law.satisfiable ⟨""⟩ text advertised s rfl "t" asking rfl rfl rfl [] [] 0
      exact (dispatched_one_iff rfl rfl rfl [] [] 0).mp dispatched
    · intro valued
      have served := (matches_one_iff registry text).mpr valued
      exact (mem_availableCapabilities registry ⟨""⟩ text).mp (law.listed text served ⟨""⟩)
  · intro same
    constructor
    · rintro req text advertised s rfl id task found pending one nodes tasks now
      have named := (mem_availableCapabilities s.registry req text).mp advertised
      exact (dispatched_one_iff found pending one nodes tasks now).mpr ((same text).mp named)
    · intro text served req
      have valued := (matches_one_iff registry text).mp served
      exact (mem_availableCapabilities registry req text).mpr ((same text).mpr valued)

/-- An agent's `ffmpeg_execution` can be required and is not among what is listed. -/
theorem dispatchable_value_is_not_advertised :
    ¬ AdvertisedDispatchable (EphemeralRegistry.new.registerNode
      ⟨"n", "linux", [⟨"creative_capability_ffmpeg", "string", "ffmpeg_execution"⟩], 0, ""⟩) := by
  intro law
  have listed := law.listed "ffmpeg_execution" (by decide) ⟨""⟩
  obtain ⟨n, registered, c, carried, named⟩ := (mem_availableCapabilities _ ⟨""⟩ _).mp listed
  revert n c
  decide

end SeamlessSwarm
