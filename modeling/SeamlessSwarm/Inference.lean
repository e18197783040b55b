import SeamlessSwarm.Lib.Lines
import SeamlessSwarm.Lib.Utf8
import SeamlessSwarm.Worker

/-! The inference process behind a worker: which model is run, what becomes of its
output, and what the reports of an execution carry. The `ollama` command itself is the
environment. -/
namespace SeamlessSwarm

/-- What a process has ended with; `status` is its exit status as it is printed. -/
structure ProcessOutput where
  success : Bool
  status : String
  stdout : Bytes
  stderr : Bytes
  deriving DecidableEq

inductive ProcessRun where
  | notStarted (e : String)
  | notWaited (e : String)
  | ended (output : ProcessOutput)
  deriving DecidableEq

/-- The command on a node: `ollama list`, if it could be started, and `ollama run` for a
model and the bytes of its standard input. -/
structure OllamaCli where
  list : Option ProcessOutput
  run : String → Bytes → ProcessRun

/-- The exit status of `ollama list` is not looked at. -/
def firstOllamaModel (cli : OllamaCli) : Option String :=
  cli.list.bind fun output =>
    ((Text.lines (Text.fromUtf8Lossy output.stdout)).drop 1).findSome? fun line =>
      (Text.words line).head?.bind fun name => if name.isEmpty then none else some name

def runOllama (cli : OllamaCli) (model prompt : String) : Except String String :=
  match cli.run model (Hex.stringBytes prompt) with
  | .notStarted e => .error ("Failed to start ollama: " ++ e)
  | .notWaited e => .error ("Ollama wait failed: " ++ e)
  | .ended output =>
    if !output.success then
      let stderr := Text.trim (Text.fromUtf8Lossy output.stderr)
      .error (if stderr.isEmpty then "ollama exited with status " ++ output.status else stderr)
    else .ok (Text.trim (Text.fromUtf8Lossy output.stdout))

/-- The blocking task that runs the model; `joined` is whether its handle could be awaited. -/
def inference (cli : OllamaCli) (joined : Bool) (prompt : String) : OllamaOutcome :=
  if joined then
    match runOllama cli ((firstOllamaModel cli).getD "llama3.2:1b") prompt with
    | .ok response => .response response
    | .error e => .error e
  else .panicked

def OllamaCli.workerEnv (cli : OllamaCli) (joined : Bool) (probe : Nat → String → Bool)
    (infoEnabled : Bool) : WorkerEnv where
  probe := probe
  infoEnabled := infoEnabled
  runOllama := inference cli joined

/-! The model that is run. -/

/-- A row of `ollama list`: the name, and what stands after it in the other columns. -/
structure ModelRow where
  name : String
  columns : String
  filled : name.toList ≠ []
  solid : ∀ c ∈ name.toList, Text.isWhitespace c = false
  apart : ∀ c ∈ columns.toList.head?, Text.isWhitespace c = true
  plain : Text.Plain (name ++ columns)

def ModelRow.line (row : ModelRow) : String := row.name ++ row.columns

/-- The table that `ollama list` prints. -/
def modelTable (header : String) (rows : List ModelRow) : String :=
  Text.unlines (header :: rows.map ModelRow.line)

theorem head_words_line (row : ModelRow) : (Text.words row.line).head? = some row.name := by
  have first := Text.head_words row.filled row.solid row.apart
  rwa [← String.toList_append, String.ofList_toList] at first

/-- Whatever the columns hold, the name in the first row of the table is read. -/
theorem firstOllamaModel_table (cli : OllamaCli) {output : ProcessOutput} {header : String}
    {rows : List ModelRow} (listed : cli.list = some output) (plain : Text.Plain header)
    (table : Text.fromUtf8Lossy output.stdout = modelTable header rows) :
    firstOllamaModel cli = rows.head?.map ModelRow.name := by
  have rowsPlain : ∀ row ∈ header :: rows.map ModelRow.line, Text.Plain row := by
    rw [List.forall_mem_cons]
    refine ⟨plain, ?_⟩
    intro line member
    obtain ⟨row, _, rfl⟩ := List.mem_map.mp member
    exact row.plain
  have read : Text.lines (modelTable header rows) = header :: rows.map ModelRow.line :=
    Text.lines_unlines rowsPlain
  rw [firstOllamaModel, listed, Option.bind_some, table, read, List.drop_one, List.tail_cons]
  cases rows with
  | nil => rfl
  | cons row rest =>
    have named : row.name.isEmpty = false := by
      rw [Bool.eq_false_iff, ne_eq, String.isEmpty_iff]
      intro empty
      exact row.filled (by rw [empty]; rfl)
    simp only [List.map_cons, List.findSome?_cons, head_words_line, Option.bind_some, named,
      Bool.false_eq_true, if_false, List.head?_cons, Option.map_some]

/-! What the reports of an execution carry. -/

/-- The executor is chosen by the first capability that a task requires. -/
def AsksModel (task : TaskDefinition) : Prop :=
  task.requiredCapabilities.head?.getD "" = "ollama_execution"

/-- One report of an execution. A completion means that the execution did complete, and its
text is what the model answered to the prompt of this task. -/
structure ReportLaw (env : WorkerEnv) (task : TaskDefinition) (r : TaskProgress) : Prop where
  named : r.taskId = task.taskId
  completed : r.status = TaskStatus.completed.toI32 → Completes env task
  answered : r.resultText ≠ "" → r.status = TaskStatus.completed.toI32 ∧ AsksModel task ∧
    env.runOllama (Text.fromUtf8Lossy task.payload) = .response r.resultText
  complete : r.status = TaskStatus.completed.toI32 → AsksModel task →
    env.runOllama (Text.fromUtf8Lossy task.payload) = .response r.resultText
  checkpoint : r.checkpointData ≠ [] → r.status = TaskStatus.running.toI32 ∧ ¬ AsksModel task ∧
    task.category = TaskCategory.statefulLongRunning.toI32 ∧ r.checkpointData = [88, 99, 111, 222]
  failed : r.errorMessage ≠ "" → r.status = TaskStatus.failed.toI32
  explained : r.status = TaskStatus.failed.toI32 →
    (∀ prompt, env.runOllama prompt ≠ .error "") → r.errorMessage ≠ ""

theorem ReportLaw.running {env : WorkerEnv} {task : TaskDefinition} (pct : F32) :
    ReportLaw env task (sendProgress task.taskId .running pct [] "" "") where
  named := rfl
  completed := nofun
  answered := nofun
  complete := nofun
  checkpoint := nofun
  failed := nofun
  explained := nofun

theorem ReportLaw.failure {env : WorkerEnv} {task : TaskDefinition} (pct : F32) {reason : String}
    (explained : (∀ prompt, env.runOllama prompt ≠ .error "") → reason ≠ "") :
    ReportLaw env task (sendProgress task.taskId .failed pct [] reason "") where
  named := rfl
  completed := nofun
  answered := nofun
  complete := nofun
  checkpoint := nofun
  failed := fun _ => rfl
  explained := fun _ => explained

theorem ReportLaw.answer {env : WorkerEnv} {task : TaskDefinition} {text : String}
    (capable : allCapable env task = true) (asks : AsksModel task)
    (filled : Text.isBlank (Text.fromUtf8Lossy task.payload) = false)
    (cut : env.infoEnabled = true → promptCut (Text.fromUtf8Lossy task.payload) = true)
    (answer : env.runOllama (Text.fromUtf8Lossy task.payload) = .response text) :
    ReportLaw env task (sendProgress task.taskId .completed (F32.ofBits 0x42C80000) [] "" text)
      where
  named := rfl
  completed := fun _ => ⟨capable, fun _ => ⟨filled, cut, text, answer⟩⟩
  answered := fun _ => ⟨rfl, asks, answer⟩
  complete := fun _ _ => answer
  checkpoint := nofun
  failed := nofun
  explained := nofun

theorem ReportLaw.stage {env : WorkerEnv} {task : TaskDefinition} (pct : F32)
    (other : ¬ AsksModel task) :
    ReportLaw env task (sendProgress task.taskId .running pct
      (if task.category = TaskCategory.statefulLongRunning.toI32 then [88, 99, 111, 222] else [])
      "" "") where
  named := rfl
  completed := nofun
  answered := nofun
  complete := nofun
  checkpoint := by
    intro saved
    by_cases stateful : task.category = TaskCategory.statefulLongRunning.toI32
    · exact ⟨rfl, other, stateful, if_pos stateful⟩
    · exact absurd (if_neg stateful) saved
  failed := nofun
  explained := nofun

theorem ReportLaw.finished {env : WorkerEnv} {task : TaskDefinition} (pct : F32)
    (capable : allCapable env task = true) (other : ¬ AsksModel task) :
    ReportLaw env task (sendProgress task.taskId .completed pct [] "" "") where
  named := rfl
  completed := fun _ => ⟨capable, fun asks => absurd asks other⟩
  answered := nofun
  complete := fun _ asks => absurd asks other
  checkpoint := nofun
  failed := nofun
  explained := nofun

theorem ollama_reports {env : WorkerEnv} {task : TaskDefinition}
    (capable : allCapable env task = true)
    (asks : AsksModel task) {r : TaskProgress} (member : r ∈ (executeOllamaTask env task).reports) :
    ReportLaw env task r := by
  unfold executeOllamaTask at member
  dsimp only at member
  split at member
  · rw [List.mem_singleton.mp member]
    exact .failure _ fun _ => by decide
  next filled =>
    split at member
    · cases member
    next goesOn =>
      split at member
      next text answer =>
        rcases List.mem_pair.mp member with rfl | rfl
        · exact .running _
        · exact .answer capable asks (by simpa using filled) (by simpa using goesOn) answer
      next reason answer =>
        rcases List.mem_pair.mp member with rfl | rfl
        · exact .running _
        · exact .failure _ fun filled empty => filled _ (empty ▸ answer)
      next =>
        rcases List.mem_pair.mp member with rfl | rfl
        · exact .running _
        · exact .failure _ fun _ => by decide

theorem execution_report {env : WorkerEnv} {task : TaskDefinition} {r : TaskProgress}
    (member : r ∈ (executeTask env task).reports) : ReportLaw env task r := by
  unfold executeTask at member
  split at member
  · rw [List.mem_singleton.mp member]
    exact .failure _ fun _ => by decide
  next capable =>
    have able : allCapable env task = true := by simpa using capable
    split at member
    next asks => exact ollama_reports able asks member
    next other =>
      simp only [List.mem_cons, List.not_mem_nil, or_false] at member
      rcases member with rfl | rfl | rfl
      · exact .stage _ other
      · exact .running _
      · exact .finished _ able other

/-! Executions with the process as it is run. -/

theorem runOllama_error {cli : OllamaCli} {model prompt e : String}
    (failed : runOllama cli model prompt = .error e) : e ≠ "" := by
  have begun (start rest : String) (filled : start ≠ "") : start ++ rest ≠ "" := by
    rw [ne_eq, String.append_eq_empty_iff]
    exact fun empty => filled empty.1
  unfold runOllama at failed
  split at failed
  · rw [← Except.error.inj failed]
    exact begun _ _ (by decide)
  · rw [← Except.error.inj failed]
    exact begun _ _ (by decide)
  · split at failed
    · rw [← Except.error.inj failed]
      split
      · exact begun _ _ (by decide)
      next filled =>
        rintro empty
        rw [empty] at filled
        exact filled rfl
    · cases failed

theorem inference_error {cli : OllamaCli} {joined : Bool} {prompt : String} :
    inference cli joined prompt ≠ .error "" := by
  unfold inference
  split
  · split
    · nofun
    next e failed =>
      rintro same
      cases same
      exact runOllama_error failed rfl
  · nofun

theorem inference_joined {cli : OllamaCli} {joined : Bool} {prompt text : String}
    (answered : inference cli joined prompt = .response text) : joined = true := by
  unfold inference at answered
  split at answered
  · assumption
  · cases answered

theorem inference_response {cli : OllamaCli} {joined : Bool} {prompt text : String}
    (answered : inference cli joined prompt = .response text) :
    ∃ output, cli.run ((firstOllamaModel cli).getD "llama3.2:1b") (Hex.stringBytes prompt) =
      .ended output ∧ output.success = true ∧
        text = Text.trim (Text.fromUtf8Lossy output.stdout) := by
  unfold inference at answered
  split at answered
  · split at answered
    next response ran =>
      cases answered
      unfold runOllama at ran
      split at ran
      · cases ran
      · cases ran
      next output ended =>
        split at ran
        · cases ran
        next success =>
          cases ran
          exact ⟨output, ended, by simpa using success, rfl⟩
    · cases answered
  · cases answered

/-- With any table of installed models, an answer is what the first of them, or the default
when there is none, has written in a successful run on exactly the bytes of the prompt. -/
theorem first_listed_model_answers (cli : OllamaCli) (output : ProcessOutput) (header : String)
    (rows : List ModelRow) (listed : cli.list = some output) (plain : Text.Plain header)
    (table : output.stdout = Hex.stringBytes (modelTable header rows)) (joined : Bool)
    (prompt : String) :
    ∀ text, inference cli joined prompt = .response text ↔
      joined = true ∧ ∃ ended, cli.run ((rows.head?.map ModelRow.name).getD "llama3.2:1b")
        (Hex.stringBytes prompt) = .ended ended ∧ ended.success = true ∧
          text = Text.trim (Text.fromUtf8Lossy ended.stdout) := by
  have read : Text.fromUtf8Lossy output.stdout = modelTable header rows := by
    rw [table, Text.fromUtf8Lossy_stringBytes]
  have model := firstOllamaModel_table cli listed plain read
  intro text
  constructor
  · intro answered
    rw [← model]
    exact ⟨inference_joined answered, inference_response answered⟩
  · rintro ⟨rfl, ended, ran, success, rfl⟩
    simp only [inference, runOllama, model, ran, success, if_true, Bool.not_true,
      Bool.false_eq_true,
      if_false]

private theorem tiny_solid : ("tiny:1b".toList.all fun c => !Text.isWhitespace c) =
    true := by decide

private theorem tiny_apart : " 1 GB".toList.head? = some ' ' := by decide

private def tinyRow : ModelRow where
  name := "tiny:1b"
  columns := " 1 GB"
  filled := by decide
  solid := fun c member => (Bool.not_eq_true' _).mp (List.all_eq_true.mp tiny_solid c member)
  apart := by
    intro c first
    cases tiny_apart.symm.trans first
    rfl
  plain := by decide

private def tinyTable : ProcessOutput :=
  ⟨true, "exit status: 0", Hex.stringBytes (modelTable "NAME SIZE" [tinyRow]), []⟩

private def tinyCli : OllamaCli :=
  ⟨some tinyTable, fun model _ => if model = "tiny:1b" then .ended
    ⟨true, "exit status: 0", [104, 105, 10], []⟩
    else .notStarted "no such model"⟩

theorem tiny_model_answers : inference tinyCli true "?" = .response "hi" := by
  have answers := first_listed_model_answers tinyCli tinyTable "NAME SIZE" [tinyRow] rfl
    (by decide) rfl true "?"
  exact (answers "hi").mpr ⟨rfl, _, rfl, rfl, by decide +kernel⟩

/-- An execution sends running reports and then one verdict, or panics and sends nothing. A
failure gives its reason, and the text of an answer is the model's output without the white
space around it. -/
structure ReportsLawful (env : WorkerEnv) (task : TaskDefinition) : Prop where
  silent : (executeTask env task).reports = [] ↔ (executeTask env task).panicked = true
  verdict : (executeTask env task).panicked = false →
    EndsWith task .completed (executeTask env task).reports ∨
      EndsWith task .failed (executeTask env task).reports
  lawful : ∀ r ∈ (executeTask env task).reports, ReportLaw env task r
  reasons : ∀ r ∈ (executeTask env task).reports,
    r.errorMessage ≠ "" ↔ r.status = TaskStatus.failed.toI32
  trimmed : ∀ r ∈ (executeTask env task).reports, Text.trim r.resultText = r.resultText

theorem executeOllamaTask_silent (env : WorkerEnv) (task : TaskDefinition) :
    (executeOllamaTask env task).reports = [] ↔ (executeOllamaTask env task).panicked = true := by
  unfold executeOllamaTask
  dsimp only
  split
  · simp
  · split
    · simp
    · split <;> simp

theorem executeTask_silent (env : WorkerEnv) (task : TaskDefinition) :
    (executeTask env task).reports = [] ↔ (executeTask env task).panicked = true := by
  unfold executeTask
  split
  · simp
  · split
    · exact executeOllamaTask_silent env task
    · simp

/-- Every execution on every node reports lawfully. -/
theorem executions_report_lawfully (cli : OllamaCli) (joined : Bool) (probe : Nat → String → Bool)
    (infoEnabled : Bool) (task : TaskDefinition) :
    ReportsLawful (cli.workerEnv joined probe infoEnabled) task := by
  have law : ∀ r ∈ (executeTask (cli.workerEnv joined probe infoEnabled) task).reports,
      ReportLaw (cli.workerEnv joined probe infoEnabled) task r :=
        fun r member => execution_report member
  refine ⟨executeTask_silent _ task, ?_, law, ?_, ?_⟩
  · intro calm
    by_cases completes : Completes (cli.workerEnv joined probe infoEnabled) task
    · exact Or.inl (executeTask_completes completes)
    · right
      apply (executeTask_fails completes).resolve_left
      rw [executeTask_silent, calm]
      nofun
  · intro r member
    exact ⟨(law r member).failed, fun failed => (law r member).explained failed fun _ =>
      inference_error⟩
  · intro r member
    by_cases empty : r.resultText = ""
    · rw [empty]
      rfl
    · obtain ⟨_, _, answer⟩ := (law r member).answered empty
      obtain ⟨output, _, _, same⟩ := inference_response answer
      rw [same, Text.trim_trim]

end SeamlessSwarm
