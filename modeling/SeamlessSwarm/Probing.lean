import SeamlessSwarm.Scout
import SeamlessSwarm.Worker

/-! Which applications a worker finds on its machine, and how it probes the
capabilities that it advertised for them. The two were written apart. -/
namespace SeamlessSwarm

/-- A file name, character by character; `none` for a piece that is no valid text. -/
abbrev FileName := List (Option Char)

structure DirEntry where
  fileName : FileName
  isDir : Bool
  deriving DecidableEq

structure Output where
  success : Bool
  stdout : Bytes
  status : String
  deriving DecidableEq

/-- The letter cases of Unicode, which the standard library has tables for. -/
structure CaseMapping where
  toLowercase : String → String
  toUppercase : Char → String
  toUppercase_ascii : ∀ c, c.isLower = true → toUppercase c = String.singleton c.toUpper

/-- What discovery and probing ask the machine. `output` runs a command under a `PATH`. -/
structure Machine where
  os : Os
  path : String
  pathExists : String → Bool
  readDir : String → Option (List DirEntry)
  output : String → String → List String → Except String Output

namespace FileName

/-- The part before the last dot and the part after it. A name that only starts
with its dot has no extension. -/
def rsplitAtDot (name : FileName) : Option (FileName × FileName) :=
  let after := (name.reverse.takeWhile (· ≠ some '.')).reverse
  let before := name.take (name.length - (after.length + 1))
  if before = [] then none else some (before, after)

def extension (name : FileName) : Option FileName := name.rsplitAtDot.map Prod.snd

def fileStem (name : FileName) : FileName := (name.rsplitAtDot.map Prod.fst).getD name

def toStringLossy (name : FileName) : String :=
  String.ofList (name.map fun piece => piece.getD Text.replacement)

end FileName

section Discovery
variable (cases : CaseMapping) (machine : Machine)

def appName (name : FileName) : String :=
  Text.replaceChar ' ' '_' (cases.toLowercase name.toStringLossy)

/-- The applications that the listings of the platform name. -/
def installedApps : List String :=
  match machine.os with
  | .macos =>
    ((machine.readDir "/Applications").getD []).filterMap fun entry =>
      if entry.fileName.extension = some ("app".toList.map some) then
        some (appName cases entry.fileName.fileStem)
      else none
  | .windows =>
    ((machine.readDir "C:\\Program Files").getD []).filterMap fun entry =>
      if entry.isDir then some (appName cases entry.fileName) else none
  | _ =>
    ((machine.readDir "/usr/share/applications").getD []).filterMap fun entry =>
      if entry.fileName.extension = some ("desktop".toList.map some) then
        some (appName cases entry.fileName.fileStem)
      else none

def knownCliTools : List (String × String) :=
  [("ffmpeg", "ffmpeg"), ("blender", "blender"), ("inkscape", "inkscape"),
    ("HandBrakeCLI", "handbrake"), ("gimp", "gimp"), ("convert", "imagemagick"),
    ("python3", "python3"), ("node", "node"), ("docker", "docker"), ("claude", "claude"),
    ("ollama", "ollama")]

def isSeparator (os : Os) (c : Char) : Bool := c = '/' || (os = .windows && c = '\\')

def join (os : Os) (dir name : String) : String :=
  if dir.toList.getLast?.any (isSeparator os) then dir ++ name
  else dir ++ (if os = .windows then "\\" else "/") ++ name

/-- What paths are compared by: their components, without empty ones and inner dots.
Two leading separators are a root of their own on Windows. -/
def components (os : Os) (path : String) : List String :=
  let path := if os = .windows then Text.replaceChar '\\' '/' path else path
  match Text.split '/' path with
  | [] => []
  | first :: rest =>
    let root := if os = .windows && rest.head? = some "" then "//" else "/"
    (if first = "" then root else first) :: rest.filter fun c => c ≠ "" && c ≠ "."

def homebrewDirs : List String :=
  ["/opt/homebrew/bin", "/opt/homebrew/sbin", "/usr/local/bin", "/usr/local/sbin"]

def searchDirs : List String :=
  homebrewDirs.foldl
    (fun dirs p =>
      if machine.pathExists p && !(dirs.map (components machine.os)).contains
        (components machine.os p)
      then p :: dirs else dirs)
    ((Text.split ':' machine.path).filter (· ≠ ""))

def finds (exe : String) : Bool :=
  (searchDirs machine).any fun dir => machine.pathExists (join machine.os dir exe)

def discoverCliTools : List String :=
  (knownCliTools.filter fun tool => finds machine tool.1).map Prod.snd

def discoveredApps : List String :=
  (discoverCliTools machine).foldl
    (fun apps name => if apps.contains name then apps else apps ++ [name])
    (installedApps cases machine)

end Discovery

namespace CapabilityExecutor
variable (cases : CaseMapping) (machine : Machine)

def run (cmd : String) (args : List String) : Bool × String :=
  let enriched :=
    "/opt/homebrew/bin:/opt/homebrew/sbin:/usr/local/bin:/usr/local/sbin:" ++ machine.path
  match machine.output enriched cmd args with
  | .ok output =>
    let text := Text.firstLine (Text.fromUtf8Lossy output.stdout)
    (output.success, if output.success then text else "exit " ++ output.status)
  | .error e => (false, "not found: " ++ e)

def capitalize (word : String) : String :=
  match word.toList with
  | [] => ""
  | first :: rest => cases.toUppercase first ++ String.ofList rest

def titleCase (app : String) : String :=
  " ".intercalate ((Text.split '_' app).map (capitalize cases))

def probe (capability : String) : Bool × String :=
  match capability with
  | "ffmpeg_execution" => run machine "ffmpeg" ["-version"]
  | "blender_execution" =>
    let command := run machine "blender" ["--version"]
    if command.1 then command
    else run machine "/Applications/Blender.app/Contents/MacOS/Blender" ["--version"]
  | "handbrake_execution" =>
    let command := run machine "HandBrakeCLI" ["--version"]
    if command.1 then command
    else
      let present := machine.pathExists "/Applications/HandBrake.app"
      (present, if present then "HandBrake.app bundle present" else "not found")
  | "inkscape_execution" => run machine "inkscape" ["--version"]
  | "claude_execution" => run machine "claude" ["--version"]
  | cap =>
    let title := titleCase cases ((Text.stripSuffix "_execution" cap).getD cap)
    let present := machine.pathExists ("/Applications/" ++ title ++ ".app")
    (present,
      if present then title ++ ".app bundle present" else "no executor registered for '" ++ cap ++
        "'")

end CapabilityExecutor

section Law
variable (cases : CaseMapping) (machine : Machine)

def versionQueries : String → List (String × String)
  | "ffmpeg" => [("ffmpeg", "-version")]
  | "blender" =>
    [("blender", "--version"), ("/Applications/Blender.app/Contents/MacOS/Blender", "--version")]
  | "handbrake" => [("HandBrakeCLI", "--version")]
  | "inkscape" => [("inkscape", "--version")]
  | "claude" => [("claude", "--version")]
  | _ => []

def bundlePath : String → Option String
  | "ffmpeg" | "blender" | "inkscape" | "claude" => none
  | "handbrake" => some "/Applications/HandBrake.app"
  | app => some ("/Applications/" ++ CapabilityExecutor.titleCase cases app ++ ".app")

/-- One of its version queries succeeds, or its bundle is there. -/
def Backed (app : String) : Prop :=
  (∃ query ∈ versionQueries app, (CapabilityExecutor.run machine query.1 [query.2]).1 = true) ∨
    ∃ path, bundlePath cases app = some path ∧ machine.pathExists path = true

/-- The known tools for which the probe asks for a bundle only. -/
def toolBundle : String → Option String
  | "gimp" => some "/Applications/Gimp.app"
  | "imagemagick" => some "/Applications/Imagemagick.app"
  | "python3" => some "/Applications/Python3.app"
  | "node" => some "/Applications/Node.app"
  | "docker" => some "/Applications/Docker.app"
  | "ollama" => some "/Applications/Ollama.app"
  | _ => none

def versionFlag (exe : String) : String := if exe = "ffmpeg" then "-version" else "--version"

/-- A machine on which every known tool that is found answers its version query. -/
structure Host extends Machine where
  answers : ∀ tool ∈ knownCliTools, finds toMachine tool.1 = true →
    (CapabilityExecutor.run toMachine tool.1 [versionFlag tool.1]).1 = true

/-- What is advertised passes its probe, and so no task is refused for it. -/
structure AdvertisesExecutable : Prop where
  probes : ∀ app ∈ discoveredApps cases machine,
    (CapabilityExecutor.probe cases machine (app ++ "_execution")).1 = true
  accepts : ∀ (env : WorkerEnv) (task : TaskDefinition),
    (∀ i cap, env.probe i cap = (CapabilityExecutor.probe cases machine cap).1) →
    (∀ cap ∈ task.requiredCapabilities, ∃ app ∈ discoveredApps cases machine,
      cap = app ++ "_execution") →
    allCapable env task = true

/-- What the listings name is backed, and so are the tools that are known by a bundle. -/
structure DiscoveriesBacked : Prop where
  installed : ∀ app ∈ installedApps cases machine, Backed cases machine app
  tools : ∀ tool ∈ knownCliTools, finds machine tool.1 = true →
    ∀ path, toolBundle tool.2 = some path → machine.pathExists path = true

end Law

section Probing
variable (cases : CaseMapping)

theorem mem_discoveredApps (machine : Machine) {app : String} :
    app ∈ discoveredApps cases machine ↔
      app ∈ installedApps cases machine ∨ app ∈ discoverCliTools machine := by
  have merged (tools apps : List String) : app ∈ tools.foldl
      (fun apps name => if apps.contains name then apps else apps ++ [name]) apps ↔
        app ∈ apps ∨ app ∈ tools := by
    induction tools generalizing apps with
    | nil => simp
    | cons tool rest ih =>
      rw [List.foldl_cons, ih]
      split
      · next known =>
        have inside : tool ∈ apps := List.contains_iff_mem.mp known
        constructor
        · rintro (old | new)
          · exact Or.inl old
          · exact Or.inr (List.mem_cons_of_mem tool new)
        · rintro (old | new)
          · exact Or.inl old
          · rcases List.mem_cons.mp new with rfl | later
            · exact Or.inl inside
            · exact Or.inr later
      · simp [or_assoc]
  exact merged _ _

theorem mem_discoverCliTools (machine : Machine) {app : String} :
    app ∈ discoverCliTools machine ↔ ∃ tool ∈ knownCliTools, finds machine tool.1 = true ∧
      tool.2 = app := by
  simp [discoverCliTools, and_assoc]

theorem probe_iff (machine : Machine) (app : String) :
    (CapabilityExecutor.probe cases machine (app ++ "_execution")).1 = true ↔
      Backed cases machine app := by
  unfold CapabilityExecutor.probe
  split
  · next name =>
    obtain rfl : app = "ffmpeg" := Text.append_right_cancel name
    simp [Backed, versionQueries, bundlePath]
  · next name =>
    obtain rfl : app = "blender" := Text.append_right_cancel name
    simp only [Backed, versionQueries, bundlePath]
    split <;> simp_all
  · next name =>
    obtain rfl : app = "handbrake" := Text.append_right_cancel name
    simp only [Backed, versionQueries, bundlePath]
    split <;> simp_all
  · next name =>
    obtain rfl : app = "inkscape" := Text.append_right_cancel name
    simp [Backed, versionQueries, bundlePath]
  · next name =>
    obtain rfl : app = "claude" := Text.append_right_cancel name
    simp [Backed, versionQueries, bundlePath]
  · next ffmpeg blender handbrake inkscape claude =>
    have notFfmpeg : app ≠ "ffmpeg" := fun same => ffmpeg (by rw [same]; rfl)
    have notBlender : app ≠ "blender" := fun same => blender (by rw [same]; rfl)
    have notHandbrake : app ≠ "handbrake" := fun same => handbrake (by rw [same]; rfl)
    have notInkscape : app ≠ "inkscape" := fun same => inkscape (by rw [same]; rfl)
    have notClaude : app ≠ "claude" := fun same => claude (by rw [same]; rfl)
    have queries : versionQueries app = [] :=
      versionQueries.eq_6 app notFfmpeg notBlender notHandbrake notInkscape notClaude
    have bundle : bundlePath cases app =
        some ("/Applications/" ++ CapabilityExecutor.titleCase cases app ++ ".app") :=
      bundlePath.eq_6 cases app notFfmpeg notBlender notInkscape notClaude notHandbrake
    simp [Backed, queries, bundle, Text.stripSuffix_append]

theorem titleCase_word (app : String) (first : Char) (rest : List Char)
    (letters : app.toList = first :: rest) (small : first.isLower = true)
    (word : Text.split '_' app = [app]) :
    CapabilityExecutor.titleCase cases app = String.ofList (first.toUpper :: rest) := by
  have capital : CapabilityExecutor.capitalize cases app = String.ofList
      (first.toUpper :: rest) := by
    simp only [CapabilityExecutor.capitalize, letters]
    rw [cases.toUppercase_ascii first small, String.singleton_eq_ofList, ← String.ofList_append]
    rfl
  rw [CapabilityExecutor.titleCase, word, List.map_singleton, capital]
  rfl

theorem toolBundle_eq {app path : String} (known : toolBundle app = some path) :
    versionQueries app = [] ∧ bundlePath cases app = some path := by
  have bundle (title : String) (capital : CapabilityExecutor.titleCase cases app = title) :
      some ("/Applications/" ++ CapabilityExecutor.titleCase cases app ++ ".app") =
        some ("/Applications/" ++ title ++ ".app") := by rw [capital]
  unfold toolBundle at known
  split at known
  · cases known
    exact ⟨rfl, bundle "Gimp" (titleCase_word cases _ 'g' "imp".toList rfl rfl (by decide))⟩
  · cases known
    exact ⟨rfl, bundle "Imagemagick"
      (titleCase_word cases _ 'i' "magemagick".toList rfl rfl (by decide))⟩
  · cases known
    exact ⟨rfl, bundle "Python3" (titleCase_word cases _ 'p' "ython3".toList rfl rfl (by decide))⟩
  · cases known
    exact ⟨rfl, bundle "Node" (titleCase_word cases _ 'n' "ode".toList rfl rfl (by decide))⟩
  · cases known
    exact ⟨rfl, bundle "Docker" (titleCase_word cases _ 'd' "ocker".toList rfl rfl (by decide))⟩
  · cases known
    exact ⟨rfl, bundle "Ollama" (titleCase_word cases _ 'o' "llama".toList rfl rfl (by decide))⟩
  · cases known

theorem tool_backed_iff (host : Host) {tool : String × String} (member : tool ∈ knownCliTools)
    (found : finds host.toMachine tool.1 = true) : Backed cases host.toMachine tool.2 ↔
      ∀ path, toolBundle tool.2 = some path → host.pathExists path = true := by
  have answer := host.answers tool member found
  cases known : toolBundle tool.2 with
  | some path =>
    obtain ⟨queries, bundle⟩ := toolBundle_eq cases known
    simp [Backed, queries, bundle]
  | none =>
    refine iff_of_true (Or.inl ?_) nofun
    have queried : ∀ tool ∈ knownCliTools, toolBundle tool.2 = none →
        (tool.1, versionFlag tool.1) ∈ versionQueries tool.2 := by decide
    exact ⟨_, queried tool member known, answer⟩

theorem advertises_iff_backed (machine : Machine) : AdvertisesExecutable cases machine ↔
    ∀ app ∈ discoveredApps cases machine, Backed cases machine app := by
  constructor
  · intro law app member
    exact (probe_iff cases machine app).mp (law.probes app member)
  · intro backed
    refine ⟨fun app member => (probe_iff cases machine app).mpr (backed app member), ?_⟩
    intro env task same advertised
    simp only [allCapable, List.all_eq_true, List.mem_mapIdx, id_eq]
    rintro verdict ⟨i, inside, rfl⟩
    obtain ⟨app, member, name⟩ := advertised _ (List.getElem_mem inside)
    rw [same, name]
    exact (probe_iff cases machine app).mpr (backed app member)

/-- A worker can run what it advertises exactly when all that it discovers is
backed, for which finding a tool is not enough. -/
theorem advertised_executable_iff_backed (host : Host) :
    AdvertisesExecutable cases host.toMachine ↔ DiscoveriesBacked cases host.toMachine := by
  rw [advertises_iff_backed]
  constructor
  · intro backed
    constructor
    · intro app member
      exact backed app ((mem_discoveredApps cases host.toMachine).mpr (Or.inl member))
    · intro tool member found
      have listed := (mem_discoverCliTools host.toMachine).mpr ⟨tool, member, found, rfl⟩
      exact (tool_backed_iff cases host member found).mp
        (backed tool.2 ((mem_discoveredApps cases host.toMachine).mpr (Or.inr listed)))
  · rintro ⟨installed, tools⟩ app member
    rcases (mem_discoveredApps cases host.toMachine).mp member with listed | searched
    · exact installed app listed
    · obtain ⟨tool, known, found, rfl⟩ := (mem_discoverCliTools host.toMachine).mp searched
      exact (tool_backed_iff cases host known found).mpr (tools tool known found)

end Probing

section Example

private def asciiCases : CaseMapping where
  toLowercase text := String.ofList (text.toList.map Char.toLower)
  toUppercase c := String.singleton c.toUpper
  toUppercase_ascii _ _ := rfl

/-- A Linux machine with one inference tool and, like every such machine, no
directory of application bundles. -/
private def inferenceMachine : Machine where
  os := .linux
  path := "/usr/local/bin:/usr/bin"
  pathExists p := p = "/usr/local/bin" || p = "/usr/bin" || p = "/usr/local/bin/ollama"
  readDir _ := none
  output _ cmd _ :=
    if cmd = "ollama" then
      .ok ⟨true, "ollama version is 0.5.1".toList.map fun c => UInt8.ofNat c.toNat,
        "exit status: 0"⟩
    else .error "No such file or directory (os error 2)"

private def inferenceHost : Host where
  toMachine := inferenceMachine
  answers := by decide

/-- The tool is found and answers, and the worker even has an executor for it, but
its probe looks for a bundle. -/
theorem found_ollama_is_refused : ¬ AdvertisesExecutable asciiCases inferenceHost.toMachine := by
  intro law
  have probed := law.probes "ollama" (by decide)
  exact absurd probed (by decide)

end Example

end SeamlessSwarm
