import SeamlessSwarm.Lib.Fold
import SeamlessSwarm.Lib.Text
import SeamlessSwarm.Messages

/-! The scout of an agent: the profilers, the discovery of installed software, and
the capability classes made of what they find. Readings of the machine are inputs. -/
namespace SeamlessSwarm

inductive Os where
  | macos
  | windows
  | linux
  | other
  deriving DecidableEq, Repr

/-! Binary64 by its bits. Comparisons with a NaN are false, and both zeros are one. -/
namespace F64

def isNan (bits : UInt64) : Bool := 9218868437227405312 < bits.toNat % 9223372036854775808

def key (bits : UInt64) : Int :=
  if bits.toNat < 9223372036854775808 then bits.toNat
  else -((bits.toNat - 9223372036854775808 : Nat) : Int)

def lt (a b : UInt64) : Bool := !isNan a && !isNan b && key a < key b

def le (a b : UInt64) : Bool := !isNan a && !isNan b && key a ≤ key b

end F64

/-- What the profilers read off the machine; the floating-point values by their bits. -/
structure Readings where
  cores : Int64
  hasNeon : Bool
  hasAvx2 : Bool
  nvidiaDevice : Bool
  gflops : UInt64
  memGb : UInt64
  nvmeSpeedMbs : UInt64
  deriving DecidableEq

def cpuProfile (r : Readings) : List DeviceCapability :=
  [⟨"cpu_cores", "integer", some (.intVal r.cores)⟩,
    ⟨"has_neon", "boolean", some (.boolVal r.hasNeon)⟩,
    ⟨"has_avx2", "boolean", some (.boolVal r.hasAvx2)⟩,
    ⟨"cpu_clock_mhz", "integer", some (.intVal 3200)⟩]

def gpuProfile (os : Os) (r : Readings) : List DeviceCapability :=
  let isMacos := os = .macos
  let hasCuda := if os = .linux then r.nvidiaDevice else false
  [⟨"has_cuda", "boolean", some (.boolVal hasCuda)⟩,
    ⟨"has_metal", "boolean", some (.boolVal isMacos)⟩,
    ⟨"gpu_gflops_benchmark", "float", some (.doubleVal r.gflops)⟩] ++
    if isMacos then [⟨"metal_vram_gb", "integer", some (.intVal 16)⟩] else []

def memoryProfile (r : Readings) : List DeviceCapability :=
  [⟨"total_memory_gb", "float", some (.doubleVal r.memGb)⟩,
    ⟨"nvme_write_mbps", "float", some (.doubleVal r.nvmeSpeedMbs)⟩]

def networkProfile : List DeviceCapability :=
  -- 1.25
  [⟨"link_latency_ms", "float", some (.doubleVal 0x3FF4000000000000)⟩,
    ⟨"link_bandwidth_mbps", "integer", some (.intVal 1000)⟩]

def softwareProfile (discoveredApps : List String) : List DeviceCapability :=
  discoveredApps.map fun app => ⟨"installed_app_" ++ app, "boolean", some (.boolVal true)⟩

def rawCapabilities (os : Os) (r : Readings) (discoveredApps : List String) :
    List DeviceCapability :=
  cpuProfile r ++ gpuProfile os r ++ memoryProfile r ++ networkProfile ++ softwareProfile
    discoveredApps

/-- The variables of the loop of `adapt_to_medium_profile`. -/
structure Parsed where
  physicalCores : Int64
  hasGpu : Bool
  totalRam : UInt64
  latencyMs : UInt64
  discoveredApps : List String

-- 0.0 and 100.0
def Parsed.initial : Parsed := ⟨0, false, 0, 0x4059000000000000, []⟩

def Parsed.readValue (p : Parsed) (resourceName : String) (resourceValue : Option ResourceValue) :
    Parsed :=
  match resourceName with
  | "cpu_cores" =>
    match resourceValue with
    | some (.intVal v) => { p with physicalCores := v }
    | _ => p
  | "has_cuda" | "has_metal" =>
    match resourceValue with
    | some (.boolVal v) => if v then { p with hasGpu := true } else p
    | _ => p
  | "total_memory_gb" =>
    match resourceValue with
    | some (.doubleVal v) => { p with totalRam := v }
    | _ => p
  | "link_latency_ms" =>
    match resourceValue with
    | some (.doubleVal v) => { p with latencyMs := v }
    | _ => p
  | _ => p

def Parsed.read (p : Parsed) (cap : DeviceCapability) : Parsed :=
  match Text.stripPrefix "installed_app_" cap.resourceName with
  | some appName => { p with discoveredApps := p.discoveredApps ++ [appName] }
  | none => p.readValue cap.resourceName cap.resourceValue

def cpuClass (physicalCores : Int64) : String :=
  if physicalCores > 16 then "heavy_parallel"
  else if physicalCores ≥ 8 then "multicore_standard"
  else "low_power_edge"

def gpuClass (os : Os) (hasGpu : Bool) : String :=
  if hasGpu then if os = .macos then "unified_gpu" else "vram_gpu" else "none"

-- 32.0 and 16.0
def memoryTier (totalRam : UInt64) : String :=
  if F64.lt 0x4040000000000000 totalRam then "high_throughput"
  else if F64.le 0x4030000000000000 totalRam then "standard_capacity"
  else "constrained"

def mediumClasses (os : Os) (p : Parsed) : List DeviceCapability :=
  -- 2.0
  let lowLatencyReady := F64.lt p.latencyMs 0x4000000000000000
  [⟨"cpu_class", "string", some (.stringVal (cpuClass p.physicalCores))⟩,
    ⟨"accelerator_class", "string", some (.stringVal (gpuClass os p.hasGpu))⟩,
    ⟨"memory_tier", "string", some (.stringVal (memoryTier p.totalRam))⟩,
    ⟨"low_latency_ready", "boolean", some (.boolVal lowLatencyReady)⟩]

def creativeCapability (app : String) : DeviceCapability :=
  ⟨"creative_capability_" ++ app, "string", some (.stringVal (app ++ "_execution"))⟩

def adaptToMediumProfile (os : Os) (raw : List DeviceCapability) : List DeviceCapability :=
  let p := raw.foldl Parsed.read Parsed.initial
  mediumClasses os p ++ p.discoveredApps.map creativeCapability

def discoverCapabilitiesAsync (os : Os) (r : Readings) (discoveredApps : List String) :
    List DeviceCapability :=
  let raw := rawCapabilities os r discoveredApps
  raw ++ adaptToMediumProfile os raw

/-! What one entry contributes to the variables of the loop. -/

def intOf : ResourceValue → Option Int64
  | .intVal v => some v
  | _ => none

def doubleOf : ResourceValue → Option UInt64
  | .doubleVal v => some v
  | _ => none

/-- The value of a metric, if the entry has its name and a value of its type. -/
def metric {β : Type} (name : String) (value : ResourceValue → Option β) (cap : DeviceCapability) :
    Option β :=
  if cap.resourceName = name then cap.resourceValue.bind value else none

def isTrue : Option ResourceValue → Bool
  | some (.boolVal v) => v
  | _ => false

def raisesGpu (cap : DeviceCapability) : Bool :=
  (cap.resourceName = "has_cuda" || cap.resourceName = "has_metal") && isTrue cap.resourceValue

def installedApp (cap : DeviceCapability) : Option String :=
  Text.stripPrefix "installed_app_" cap.resourceName

def metricNames : List String := ["cpu_cores", "total_memory_gb", "link_latency_ms"]

def inputNames : List String := ["has_cuda", "has_metal"] ++ metricNames

def Parsed.contributed (p : Parsed) (cap : DeviceCapability) (apps : List String) : Parsed where
  physicalCores := (metric "cpu_cores" intOf cap).getD p.physicalCores
  hasGpu := p.hasGpu || raisesGpu cap
  totalRam := (metric "total_memory_gb" doubleOf cap).getD p.totalRam
  latencyMs := (metric "link_latency_ms" doubleOf cap).getD p.latencyMs
  discoveredApps := apps

theorem metric_other {β : Type} {name : String} {value : ResourceValue → Option β}
    {cap : DeviceCapability} (other : cap.resourceName ≠ name) : metric name value cap = none :=
  if_neg other

theorem raisesGpu_other {cap : DeviceCapability} (notCuda : cap.resourceName ≠ "has_cuda")
    (notMetal : cap.resourceName ≠ "has_metal") : raisesGpu cap = false := by
  simp [raisesGpu, notCuda, notMetal]

theorem contributed_unread {cap : DeviceCapability} (unread : cap.resourceName ∉ inputNames)
    (p : Parsed)
    (apps : List String) :
    p.contributed cap apps = { p with discoveredApps := apps } := by
  have other : ∀ input ∈ inputNames, cap.resourceName ≠ input := by
    intro input member same
    exact unread (same ▸ member)
  rw [Parsed.contributed, metric_other (other "cpu_cores" (by decide)),
    metric_other (other "total_memory_gb" (by decide)),
    metric_other (other "link_latency_ms" (by decide)),
    raisesGpu_other (other "has_cuda" (by decide)) (other "has_metal" (by decide)), Bool.or_false]
  rfl

theorem readValue_contributed (p : Parsed) (cap : DeviceCapability) :
    p.readValue cap.resourceName cap.resourceValue =
      p.contributed cap p.discoveredApps := by
  unfold Parsed.readValue Parsed.contributed
  split
  case h_6 cores cuda metal memory latency =>
    rw [metric_other cores, metric_other memory, metric_other latency, raisesGpu_other cuda metal,
      Bool.or_false]
    rfl
  -- The five names the loop reads; a value of another type changes nothing.
  all_goals
    rename_i name
    cases value : cap.resourceValue with
    | none => simp [metric, raisesGpu, name, value, isTrue]
    | some v =>
      cases v with
      | boolVal flag =>
        cases flag <;> simp [metric, raisesGpu, name, value, intOf, doubleOf, isTrue]
      | _ => simp [metric, raisesGpu, name, value, intOf, doubleOf, isTrue]

theorem read_contributed (p : Parsed) (cap : DeviceCapability) :
    p.read cap = p.contributed cap (p.discoveredApps ++ (installedApp cap).toList) := by
  unfold Parsed.read
  cases app : Text.stripPrefix "installed_app_" cap.resourceName with
  | some appName =>
    have unlisted : ∀ input ∈ inputNames, Text.stripPrefix "installed_app_" input = none := by
      decide
    have unread : cap.resourceName ∉ inputNames := by
      intro member
      rw [unlisted _ member] at app
      cases app
    rw [contributed_unread unread, installedApp, app]
    rfl
  | none =>
    rw [installedApp, app, Option.toList_none, List.append_nil]
    exact readValue_contributed p cap

theorem read_app (p : Parsed) (cap : DeviceCapability) :
    (p.read cap).discoveredApps = p.discoveredApps ++ (installedApp cap).toList :=
  congrArg Parsed.discoveredApps (read_contributed p cap)

/-! The applications that the loop collects are those that were discovered. -/

theorem read_apps (raw : List DeviceCapability) (p : Parsed) :
    (raw.foldl Parsed.read p).discoveredApps = p.discoveredApps ++ raw.filterMap installedApp :=
  Fold.collected read_app p raw

theorem software_apps (apps : List String) :
    (softwareProfile apps).filterMap installedApp = apps := by
  unfold softwareProfile
  rw [List.filterMap_map]
  have stripped : (installedApp ∘
      fun app => ⟨"installed_app_" ++ app, "boolean", some (.boolVal true)⟩) = some := by
    funext app
    exact Text.stripPrefix_append _ app
  rw [stripped, List.filterMap_some]

def machineNames : List String :=
  ["cpu_cores", "has_neon", "has_avx2", "cpu_clock_mhz", "has_cuda", "has_metal",
    "gpu_gflops_benchmark", "metal_vram_gb", "total_memory_gb", "nvme_write_mbps",
    "link_latency_ms", "link_bandwidth_mbps"]

theorem machine_names (os : Os) (r : Readings) {cap : DeviceCapability}
    (member : cap ∈ cpuProfile r ++ gpuProfile os r ++ memoryProfile r ++ networkProfile) :
    cap.resourceName ∈ machineNames := by
  have listed : (cpuProfile r ++ gpuProfile os r ++ memoryProfile r ++ networkProfile).map
      DeviceCapability.resourceName ⊆ machineNames := by
    cases os <;> simp [cpuProfile, gpuProfile, memoryProfile, networkProfile, machineNames]
  exact listed (List.mem_map_of_mem member)

theorem raw_apps (os : Os) (r : Readings) (apps : List String) :
    ((rawCapabilities os r apps).foldl Parsed.read Parsed.initial).discoveredApps = apps := by
  have machine : (cpuProfile r ++ gpuProfile os r ++ memoryProfile r ++ networkProfile).filterMap
      installedApp = [] := by
    apply List.filterMap_eq_nil_iff.mpr
    intro cap member
    have unstripped : ∀ name ∈ machineNames, Text.stripPrefix "installed_app_" name = none := by
      decide
    exact unstripped _ (machine_names os r member)
  rw [read_apps, rawCapabilities, List.filterMap_append, machine, software_apps]
  rfl

end SeamlessSwarm
