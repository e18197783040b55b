import SeamlessSwarm.Receivers
import SeamlessSwarm.Scheduler
import SeamlessSwarm.Scout

/-! From the scout of a worker to the scheduler of the hub: the values that the
scheduler matches by come from the discovered applications alone. -/
namespace SeamlessSwarm
open Trace

/-- The profile that `run_demo_lifecycle` pushes. -/
def agentProfile (nodeId osPlatform : String) (capabilities : List DeviceCapability)
    (updatedTimestamp : UInt64) : CapabilityProfile :=
  ⟨nodeId, osPlatform, capabilities, updatedTimestamp⟩

section Texts

theorem ne_execution {text : String} (other : text.toList.getLast? ≠ some 'n') (x : String) :
    text ≠ x ++ "_execution" :=
  Text.ne_append_of_getLast? (by decide) other x

theorem bool_ne_execution (b : Bool) (x : String) :
    (if b then "true" else "false") ≠ x ++ "_execution" := by
  cases b with
  | true => exact ne_execution (by decide) x
  | false => exact ne_execution (by decide) x

theorem int_ne_execution (i : Int) (x : String) : toString i ≠ x ++ "_execution" :=
  ne_execution (Text.getLast?_toString_int i (by decide)) x

theorem cpuClass_ne_execution (cores : Int64) (x : String) :
    cpuClass cores ≠ x ++ "_execution" := by
  unfold cpuClass
  split
  · exact ne_execution (by decide) x
  · split
    · exact ne_execution (by decide) x
    · exact ne_execution (by decide) x

theorem gpuClass_ne_execution (os : Os) (hasGpu : Bool) (x : String) :
    gpuClass os hasGpu ≠ x ++ "_execution" := by
  unfold gpuClass
  split
  · split
    · exact ne_execution (by decide) x
    · exact ne_execution (by decide) x
  · exact ne_execution (by decide) x

theorem memoryTier_ne_execution (ram : UInt64) (x : String) :
    memoryTier ram ≠ x ++ "_execution" := by
  unfold memoryTier
  split
  · exact ne_execution (by decide) x
  · split
    · exact ne_execution (by decide) x
    · exact ne_execution (by decide) x

end Texts

section Routing
variable (formatDouble : UInt64 → String)

def isReading : Option ResourceValue → Bool
  | some (.intVal _) => true
  | some (.doubleVal _) => true
  | some (.boolVal _) => true
  | some (.stringVal _) => false
  | none => false

theorem machine_ne_execution (numbers : ∀ bits x, formatDouble bits ≠ x ++ "_execution") (os : Os)
    (r : Readings) {cap : DeviceCapability}
    (member : cap ∈ cpuProfile r ++ gpuProfile os r ++ memoryProfile r ++ networkProfile)
    (x : String) :
    resourceText formatDouble cap.resourceValue ≠ x ++ "_execution" := by
  have reading : ∀ cap ∈ cpuProfile r ++ gpuProfile os r ++ memoryProfile r ++ networkProfile,
      isReading cap.resourceValue = true := by
    cases os <;> simp [cpuProfile, gpuProfile, memoryProfile, networkProfile, isReading]
  cases value : cap.resourceValue with
  | none =>
    have printed := reading cap member
    rw [value] at printed
    cases printed
  | some content =>
    cases content with
    | intVal i => exact int_ne_execution i.toInt x
    | doubleVal bits => exact numbers bits x
    | boolVal b => exact bool_ne_execution b x
    | stringVal text =>
      have printed := reading cap member
      rw [value] at printed
      cases printed

theorem class_ne_execution (os : Os) (p : Parsed) {cap : DeviceCapability}
    (member : cap ∈ mediumClasses os p) (x : String) :
    resourceText formatDouble cap.resourceValue ≠ x ++ "_execution" := by
  simp only [mediumClasses, List.mem_cons, List.not_mem_nil, or_false] at member
  rcases member with rfl | rfl | rfl | rfl
  · exact cpuClass_ne_execution _ x
  · exact gpuClass_ne_execution os _ x
  · exact memoryTier_ne_execution _ x
  · exact bool_ne_execution _ x

theorem execution_advertised_iff (numbers : ∀ bits x, formatDouble bits ≠ x ++ "_execution")
    (os : Os)
    (r : Readings) (apps : List String) (x : String) :
    (∃ cap ∈ discoverCapabilitiesAsync os r apps,
      resourceText formatDouble cap.resourceValue = x ++ "_execution") ↔ x ∈ apps := by
  constructor
  · rintro ⟨cap, member, text⟩
    rcases List.mem_append.mp member with raw | adapted
    · rcases List.mem_append.mp raw with machine | software
      · exact absurd text (machine_ne_execution formatDouble numbers os r machine x)
      · obtain ⟨app, _, rfl⟩ := List.mem_map.mp software
        exact absurd text (bool_ne_execution true x)
    · rcases List.mem_append.mp adapted with classes | creative
      · exact absurd text (class_ne_execution formatDouble os _ classes x)
      · rw [raw_apps] at creative
        obtain ⟨app, discovered, rfl⟩ := List.mem_map.mp creative
        have same : app = x := Text.append_right_cancel text
        exact same ▸ discovered
  · intro member
    refine ⟨creativeCapability x, ?_, rfl⟩
    apply List.mem_append_right
    apply List.mem_append_right
    rw [raw_apps]
    exact List.mem_map_of_mem member

theorem routed_iff_discovered (numbers : ∀ bits x, formatDouble bits ≠ x ++ "_execution")
    (nodeId osPlatform : String) (now : UInt64) (os : Os) (r : Readings)
    (apps required : List String) :
    nodeMatchesCapabilities (heartbeatProfile formatDouble
        (agentProfile nodeId osPlatform (discoverCapabilitiesAsync os r apps) now))
      (required.map (· ++ "_execution")) = true ↔ ∀ x ∈ required, x ∈ apps := by
  rw [nodeMatchesCapabilities_iff, List.forall_mem_map]
  have advertised := execution_advertised_iff formatDouble numbers os r apps
  have values (x : String) : x ++ "_execution" ∈ (heartbeatProfile formatDouble
      (agentProfile nodeId osPlatform (discoverCapabilitiesAsync os r apps) now)).capabilities.map
        Capability.value ↔ x ∈ apps := by
    rw [← advertised x, heartbeatProfile, List.map_map, List.mem_map]
    rfl
  exact forall₂_congr fun x _ => values x

end Routing

section Registered
variable (crypto : Crypto) (prost : Prost) (formatDouble : UInt64 → String)

/-- Whatever message carries the profile of a worker to the hub, the registered node is
capable of requirements on applications exactly when all of them were discovered;
the message of the worker itself carries it. -/
theorem discovered_apps_routed (numbers : ∀ bits x, formatDouble bits ≠ x ++ "_execution")
    (nodeId osPlatform : String) (now : UInt64) (os : Os) (r : Readings) (apps : List String)
    (s : Admission) (receiving : s.receiving = true) :
    let profile := agentProfile nodeId osPlatform (discoverCapabilitiesAsync os r apps) now
    ((prost.capabilityProfile.encode profile).length < 4294967296 →
      readProfile prost (profileFrame prost profile) = .accept profile) ∧
    ∀ client msg, readProfile prost msg = .accept profile →
      ∃ node, (s.step crypto prost formatDouble (.heartbeat client msg)).registry.get nodeId =
          some node ∧
        ∀ required : List String,
          nodeMatchesCapabilities node (required.map (· ++ "_execution")) = true ↔
            ∀ x ∈ required, x ∈ apps := by
  intro profile
  constructor
  · intro fits
    exact decoded_frame prost.capabilityProfile 5 profile fits
  · intro client msg carried
    refine ⟨heartbeatProfile formatDouble profile, ?_,
      routed_iff_discovered formatDouble numbers nodeId osPlatform now os r apps⟩
    have stored := heartbeat_registry prost formatDouble crypto s client msg receiving
    simp only [heartbeatReceive, carried] at stored
    rw [stored, EphemeralRegistry.registerNode]
    exact (s.registry.get_insert (heartbeatProfile formatDouble profile) nodeId).trans (if_pos rfl)

end Registered

section Example

-- 0.5 for every reading
private def smallMachine : Readings :=
  ⟨4, false, true, false, 0x3FE0000000000000, 0x3FE0000000000000, 0x3FE0000000000000⟩

private def printed (bits : UInt64) : String := if bits = 0x3FE0000000000000 then "0.5" else "1.25"

private def fresh : Admission := .start ⟨"leader", "linux", [], 0, ""⟩

private def studio : CapabilityProfile :=
  agentProfile "studio" "linux" (discoverCapabilitiesAsync .linux smallMachine ["blender", "gimp"])
    1700000000

theorem studio_is_routed : ∃ node,
    (fresh.step pointCrypto topology printed
      (.heartbeat "c" (profileFrame topology studio))).registry.get "studio" = some node ∧
    nodeMatchesCapabilities node ["gimp_execution", "blender_execution"] = true ∧
    nodeMatchesCapabilities node ["gimp_execution", "ollama_execution"] = false := by
  have numbers (bits : UInt64) (x : String) : printed bits ≠ x ++ "_execution" := by
    unfold printed
    split
    · exact ne_execution (by decide) x
    · exact ne_execution (by decide) x
  obtain ⟨written, received⟩ := discovered_apps_routed pointCrypto topology printed numbers "studio"
    "linux" 1700000000 .linux smallMachine ["blender", "gimp"] fresh rfl
  have fits : (topology.capabilityProfile.encode studio).length < 4294967296 := by decide +kernel
  obtain ⟨node, stored, routed⟩ := received "c" (profileFrame topology studio) (written fits)
  refine ⟨node, stored, (routed ["gimp", "blender"]).mpr (by decide), ?_⟩
  apply Bool.eq_false_iff.mpr
  intro capable
  have undiscovered := (routed ["gimp", "ollama"]).mp capable "ollama" (by decide)
  exact absurd undiscovered (by decide)

end Example

end SeamlessSwarm
