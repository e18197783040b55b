import SeamlessSwarm.Scout

/-! The adaptation of a capability list to a medium profile, on any list: the profile is
not read back as an input, and the order of the entries does not reclassify a node. -/
namespace SeamlessSwarm

def classNames : List String :=
  ["cpu_class", "accelerator_class", "memory_tier", "low_latency_ready"]

def classEntries (profile : List DeviceCapability) : List DeviceCapability :=
  profile.filter fun cap => cap.resourceName ∈ classNames

def creativeEntries (profile : List DeviceCapability) : List DeviceCapability :=
  profile.filter fun cap => (Text.stripPrefix "creative_capability_" cap.resourceName).isSome

/-- A list in which no metric is reported twice. -/
def ReportsOnce (raw : List DeviceCapability) : Prop :=
  ∀ name ∈ metricNames, raw.countP (fun cap => cap.resourceName = name) ≤ 1

/-! What the adaptation generates is no input of it. -/

theorem read_ignored {cap : DeviceCapability} (unread : cap.resourceName ∉ inputNames)
    (noApp : installedApp cap = none) (p : Parsed) : p.read cap = p := by
  rw [read_contributed, contributed_unread unread, noApp, Option.toList_none, List.append_nil]

theorem classes_named (os : Os) (p : Parsed) :
    (mediumClasses os p).map DeviceCapability.resourceName = classNames := rfl

theorem class_named {os : Os} {p : Parsed} {cap : DeviceCapability}
    (member : cap ∈ mediumClasses os p) : cap.resourceName ∈ classNames := by
  rw [← classes_named os p]
  exact List.mem_map_of_mem member

theorem creative_name (app : String) :
    (creativeCapability app).resourceName = "creative_capability_" ++ app := rfl

theorem creative_unlisted (app : String) {names : List String}
    (unlisted : ∀ name ∈ names, Text.stripPrefix "creative_capability_" name = none) :
    (creativeCapability app).resourceName ∉ names := by
  intro member
  have stripped := unlisted _ member
  rw [creative_name, Text.stripPrefix_append] at stripped
  cases stripped

theorem creative_no_app (app : String) : installedApp (creativeCapability app) = none := by
  have differ : 'i' ≠ 'c' := by decide
  have other : (creativeCapability app).resourceName.toList.head? = some 'c' := by
    rw [creative_name, String.toList_append, List.head?_append]
    rfl
  exact Text.stripPrefix_of_heads rfl other differ

theorem profile_ignored (os : Os) (p : Parsed) (apps : List String) :
    ∀ cap ∈ mediumClasses os p ++ apps.map creativeCapability, ∀ s : Parsed, s.read cap = s := by
  intro cap member
  rcases List.mem_append.mp member with ofClass | ofApp
  · have unread : ∀ name ∈ classNames, name ∉ inputNames := by decide
    have noApp : ∀ name ∈ classNames, Text.stripPrefix "installed_app_" name = none := by decide
    exact read_ignored (unread _ (class_named ofClass)) (noApp _ (class_named ofClass))
  · obtain ⟨app, _, rfl⟩ := List.mem_map.mp ofApp
    have unlisted : ∀ name ∈ inputNames, Text.stripPrefix "creative_capability_" name = none := by
      decide
    exact read_ignored (creative_unlisted app unlisted) (creative_no_app app)

theorem adapt_eq (os : Os) (raw : List DeviceCapability) : adaptToMediumProfile os raw =
    mediumClasses os (raw.foldl Parsed.read Parsed.initial) ++
      (raw.filterMap installedApp).map creativeCapability := by
  have apps : (raw.foldl Parsed.read Parsed.initial).discoveredApps = raw.filterMap installedApp :=
    read_apps raw Parsed.initial
  rw [← apps]
  rfl

theorem readapt_eq (os : Os) (raw : List DeviceCapability) :
    adaptToMediumProfile os (raw ++ adaptToMediumProfile os raw) = adaptToMediumProfile os raw := by
  have ignored := profile_ignored os (raw.foldl Parsed.read Parsed.initial)
    (raw.foldl Parsed.read Parsed.initial).discoveredApps
  unfold adaptToMediumProfile
  rw [List.foldl_append, Fold.ignored ignored]

theorem discovered_readapts (os : Os) (r : Readings) (apps : List String) :
    adaptToMediumProfile os (discoverCapabilitiesAsync os r apps) =
      adaptToMediumProfile os (rawCapabilities os r apps) :=
  readapt_eq os (rawCapabilities os r apps)

theorem classEntries_adapt (os : Os) (raw : List DeviceCapability) :
    classEntries (adaptToMediumProfile os raw) =
      mediumClasses os (raw.foldl Parsed.read Parsed.initial) := by
  have listed : ∀ cap ∈ mediumClasses os (raw.foldl Parsed.read Parsed.initial),
      decide (cap.resourceName ∈ classNames) = true := by
    intro cap member
    rw [decide_eq_true_iff]
    exact class_named member
  have unlisted : ∀ name ∈ classNames, Text.stripPrefix "creative_capability_" name = none := by
    decide
  have creative : ∀ cap ∈ (raw.filterMap installedApp).map creativeCapability,
      ¬ decide (cap.resourceName ∈ classNames) = true := by
    intro cap member
    obtain ⟨app, _, rfl⟩ := List.mem_map.mp member
    rw [decide_eq_true_iff]
    exact creative_unlisted app unlisted
  rw [adapt_eq, classEntries, List.filter_append, List.filter_eq_self.mpr listed,
    List.filter_eq_nil_iff.mpr creative, List.append_nil]

theorem creativeEntries_adapt (os : Os) (raw : List DeviceCapability) :
    creativeEntries (adaptToMediumProfile os raw) =
      (raw.filterMap installedApp).map creativeCapability := by
  have classes : ∀ cap ∈ mediumClasses os (raw.foldl Parsed.read Parsed.initial),
      ¬ (Text.stripPrefix "creative_capability_" cap.resourceName).isSome = true := by
    intro cap member
    have unlisted : ∀ name ∈ classNames,
        ¬ (Text.stripPrefix "creative_capability_" name).isSome = true := by decide
    exact unlisted _ (class_named member)
  have creative : ∀ cap ∈ (raw.filterMap installedApp).map creativeCapability,
      (Text.stripPrefix "creative_capability_" cap.resourceName).isSome = true := by
    intro cap member
    obtain ⟨app, _, rfl⟩ := List.mem_map.mp member
    rw [creative_name, Text.stripPrefix_append]
    rfl
  rw [adapt_eq, creativeEntries, List.filter_append, List.filter_eq_nil_iff.mpr classes,
    List.filter_eq_self.mpr creative, List.nil_append]

/-! The order of the entries. -/

theorem reported_once {raw : List DeviceCapability} (once : ReportsOnce raw) {β : Type}
    {name : String} (value : ResourceValue → Option β) (listed : name ∈ metricNames) :
    (raw.filterMap (metric name value)).length ≤ 1 := by
  rw [List.length_filterMap_eq_countP]
  apply (List.countP_mono_left _).trans (once name listed)
  intro cap _ given
  by_contra other
  have differ : cap.resourceName ≠ name := by simpa using other
  rw [metric_other differ] at given
  cases given

/-- The classes are made of four variables, and none of them depends on the order. -/
theorem classes_perm (os : Os) {raw raw' : List DeviceCapability} (same : raw'.Perm raw)
    (once : ReportsOnce raw') :
    mediumClasses os (raw'.foldl Parsed.read Parsed.initial) =
      mediumClasses os (raw.foldl Parsed.read Parsed.initial) := by
  have cores := Fold.last_given_perm
    (fun p cap => congrArg Parsed.physicalCores (read_contributed p cap)) Parsed.initial same
    (reported_once once intOf (by decide))
  have gpu := Fold.raised_perm
    (fun p cap => congrArg Parsed.hasGpu (read_contributed p cap)) Parsed.initial same
  have ram := Fold.last_given_perm
    (fun p cap => congrArg Parsed.totalRam (read_contributed p cap)) Parsed.initial same
    (reported_once once doubleOf (by decide))
  have latency := Fold.last_given_perm
    (fun p cap => congrArg Parsed.latencyMs (read_contributed p cap)) Parsed.initial same
    (reported_once once doubleOf (by decide))
  simp only [mediumClasses, cores, gpu, ram, latency]

/-- The adaptation of a list is stable: it is not changed by its own output, and where
every metric is reported at most once no order of the list changes the classes. The
creative entries are reordered with the applications and are one for each of them. -/
structure AdaptsStably (os : Os) (raw : List DeviceCapability) : Prop where
  stable : adaptToMediumProfile os (raw ++ adaptToMediumProfile os raw) =
    adaptToMediumProfile os raw
  entries : adaptToMediumProfile os raw =
    classEntries (adaptToMediumProfile os raw) ++ creativeEntries (adaptToMediumProfile os raw)
  classes : ∀ raw', raw'.Perm raw → ReportsOnce raw' →
    (classEntries (adaptToMediumProfile os raw')).map DeviceCapability.resourceName = classNames ∧
      classEntries (adaptToMediumProfile os raw') = classEntries (adaptToMediumProfile os raw)
  creative : ∀ raw', raw'.Perm raw →
    (creativeEntries (adaptToMediumProfile os raw')).Perm
        (creativeEntries (adaptToMediumProfile os raw)) ∧
      creativeEntries (adaptToMediumProfile os raw') =
        (raw'.filterMap installedApp).map creativeCapability

theorem adaptation_stable (os : Os) (raw : List DeviceCapability) : AdaptsStably os raw := by
  constructor
  · exact readapt_eq os raw
  · rw [classEntries_adapt, creativeEntries_adapt, ← adapt_eq]
  · intro raw' same once
    rw [classEntries_adapt, classEntries_adapt]
    exact ⟨classes_named os _, classes_perm os same once⟩
  · intro raw' same
    rw [creativeEntries_adapt, creativeEntries_adapt]
    exact ⟨(same.filterMap installedApp).map creativeCapability, rfl⟩

end SeamlessSwarm
