import SeamlessSwarm.Frames
import SeamlessSwarm.Lib.Text

/-! The worker: how it runs one task and which progress reports it sends. The
capability probes, the log level and the inference process are its environment. -/
namespace SeamlessSwarm

inductive OllamaOutcome where
  | response (text : String)
  | error (reason : String)
  | panicked
  deriving DecidableEq, Repr

/-- `probe i cap` is the verdict of the `i`-th probe of one execution. -/
structure WorkerEnv where
  probe : Nat → String → Bool
  infoEnabled : Bool
  runOllama : String → OllamaOutcome

structure Execution where
  reports : List TaskProgress
  panicked : Bool

def sendProgress (taskId : String) (status : TaskStatus) (pct : F32) (checkpoint : Bytes)
    (err resultText : String) : TaskProgress where
  taskId := taskId
  status := status.toI32
  progressPercentage := pct
  checkpointData := checkpoint
  errorMessage := err
  resultText := resultText

def progressFrame (prost : Prost) (report : TaskProgress) : Bytes :=
  frame 7 (prost.taskProgress.encode report)

/-- Every required capability is probed, also after one of them has failed. -/
def allCapable (env : WorkerEnv) (task : TaskDefinition) : Bool :=
  (task.requiredCapabilities.mapIdx env.probe).all id

/-- The prompt as the log line shows it. A cut inside a character panics. -/
def promptCut (prompt : String) : Bool :=
  Text.isCharBoundary prompt (min prompt.utf8ByteSize 80)

def executeOllamaTask (env : WorkerEnv) (task : TaskDefinition) : Execution :=
  let prompt := Text.fromUtf8Lossy task.payload
  let failed (reason : String) := sendProgress task.taskId .failed (F32.ofBits 0 F32.zero_ne)
    [] reason ""
  -- 10.0
  let running := sendProgress task.taskId .running (F32.ofBits 0x41200000) [] "" ""
  if Text.isBlank prompt then ⟨[failed "empty prompt"], false⟩
  else if env.infoEnabled && !promptCut prompt then ⟨[], true⟩
  else
    match env.runOllama prompt with
    | .response text =>
      -- 100.0
      ⟨[running, sendProgress task.taskId .completed (F32.ofBits 0x42C80000) [] "" text], false⟩
    | .error reason => ⟨[running, failed reason], false⟩
    | .panicked => ⟨[running, failed "internal error"], false⟩

def executeTask (env : WorkerEnv) (task : TaskDefinition) : Execution :=
  if !allCapable env task then
    ⟨[sendProgress task.taskId .failed (F32.ofBits 0 F32.zero_ne) []
      "capability requirements unmet on this node" ""], false⟩
  else
    match task.requiredCapabilities.head?.getD "" with
    | "ollama_execution" => executeOllamaTask env task
    | _ =>
      let checkpoint :=
        if task.category = TaskCategory.statefulLongRunning.toI32 then [88, 99, 111, 222] else []
      -- 33.3, 66.6 and 100.0
      ⟨[sendProgress task.taskId .running (F32.ofBits 0x42053333) checkpoint "" "",
        sendProgress task.taskId .running (F32.ofBits 0x42853333) [] "" "",
        sendProgress task.taskId .completed (F32.ofBits 0x42C80000) [] "" ""], false⟩

def receiveTask (prost : Prost) (msg : Bytes) : Read TaskDefinition :=
  (readTask msg).decoded prost.taskDefinition

theorem receiveTask_definition (prost : Prost) (definition : TaskDefinition)
    (fits : (frame 6 (prost.taskDefinition.encode definition)).length < 4294967301) :
    receiveTask prost (frame 6 (prost.taskDefinition.encode definition)) = .accept definition := by
  have short : (prost.taskDefinition.encode definition).length < 4294967296 := by
    simp only [frame, List.length_append, List.length_cons, BigEndian.toBeBytes,
      List.length_nil] at fits
    omega
  exact decoded_frame prost.taskDefinition 6 definition short

/-- The prompt is not blank, its log line is not cut inside a character, and the
inference process answers. -/
def OllamaCompletes (env : WorkerEnv) (task : TaskDefinition) : Prop :=
  Text.isBlank (Text.fromUtf8Lossy task.payload) = false ∧
    (env.infoEnabled = true → promptCut (Text.fromUtf8Lossy task.payload) = true) ∧
    ∃ text, env.runOllama (Text.fromUtf8Lossy task.payload) = .response text

/-- The executions that end with a report of completion: all capabilities are
there, and an inference task gets its answer. -/
def Completes (env : WorkerEnv) (task : TaskDefinition) : Prop :=
  allCapable env task = true ∧
    (task.requiredCapabilities.head?.getD "" = "ollama_execution" → OllamaCompletes env task)

/-- The reports are running reports and a last one with this status. -/
def EndsWith (task : TaskDefinition) (status : TaskStatus) (reports : List TaskProgress) : Prop :=
  ∃ running last, reports = running ++ [last] ∧
    (∀ r ∈ running, r.taskId = task.taskId ∧ r.status = TaskStatus.running.toI32) ∧
    last.taskId = task.taskId ∧ last.status = status.toI32

theorem executeOllamaTask_completes {env : WorkerEnv} {task : TaskDefinition}
    (completes : OllamaCompletes env task) :
    EndsWith task .completed (executeOllamaTask env task).reports := by
  obtain ⟨filled, cut, text, answer⟩ := completes
  have goesOn : (env.infoEnabled && !promptCut (Text.fromUtf8Lossy task.payload)) = false := by
    cases info : env.infoEnabled with
    | false => rfl
    | true => simp [cut info]
  simp only [executeOllamaTask, filled, Bool.false_eq_true, if_false, goesOn, answer]
  exact ⟨[_], _, rfl, by simp [sendProgress], rfl, rfl⟩

theorem executeOllamaTask_fails {env : WorkerEnv} {task : TaskDefinition}
    (fails : ¬ OllamaCompletes env task) :
    (executeOllamaTask env task).reports = [] ∨
      EndsWith task .failed (executeOllamaTask env task).reports := by
  cases blank : Text.isBlank (Text.fromUtf8Lossy task.payload) with
  | true =>
    simp only [executeOllamaTask, blank, if_true]
    exact Or.inr ⟨[], _, rfl, nofun, rfl, rfl⟩
  | false =>
    cases stops : env.infoEnabled && !promptCut (Text.fromUtf8Lossy task.payload) with
    | true =>
      simp only [executeOllamaTask, blank, Bool.false_eq_true, if_false, stops, if_true]
      exact Or.inl trivial
    | false =>
      simp only [executeOllamaTask, blank, Bool.false_eq_true, if_false, stops]
      right
      cases answer : env.runOllama (Text.fromUtf8Lossy task.payload) with
      | response text =>
        have cut : env.infoEnabled = true → promptCut (Text.fromUtf8Lossy task.payload) = true := by
          intro info
          simpa [info] using stops
        exact absurd ⟨blank, cut, text, answer⟩ fails
      | error reason => exact ⟨[_], _, rfl, by simp [sendProgress], rfl, rfl⟩
      | panicked => exact ⟨[_], _, rfl, by simp [sendProgress], rfl, rfl⟩

theorem executeTask_completes {env : WorkerEnv} {task : TaskDefinition}
    (completes : Completes env task) : EndsWith task .completed (executeTask env task).reports := by
  obtain ⟨capable, ollama⟩ := completes
  unfold executeTask
  rw [capable]
  split
  · contradiction
  · split
    next first => exact executeOllamaTask_completes (ollama first)
    next => exact ⟨[_, _], _, rfl, by simp [sendProgress], rfl, rfl⟩

theorem executeTask_fails {env : WorkerEnv} {task : TaskDefinition} (fails : ¬ Completes env task) :
    (executeTask env task).reports = [] ∨ EndsWith task .failed (executeTask env task).reports := by
  unfold executeTask
  split
  · exact Or.inr ⟨[], _, rfl, nofun, rfl, rfl⟩
  next capable =>
    have able : allCapable env task = true := by simpa using capable
    split
    next first =>
      apply executeOllamaTask_fails
      intro answers
      exact fails ⟨able, fun _ => answers⟩
    next other => exact absurd ⟨able, fun first => absurd first other⟩ fails

theorem executeTask_names {env : WorkerEnv} {task : TaskDefinition} {r : TaskProgress}
    (member : r ∈ (executeTask env task).reports) : r.taskId = task.taskId := by
  have ends {status : TaskStatus} (h : EndsWith task status (executeTask env task).reports) :
      r.taskId = task.taskId := by
    obtain ⟨running, last, split, names, named, _⟩ := h
    rw [split] at member
    rcases List.mem_append.mp member with inRunning | isLast
    · exact (names r inRunning).1
    · rw [List.mem_singleton.mp isLast, named]
  by_cases completes : Completes env task
  · exact ends (executeTask_completes completes)
  · rcases executeTask_fails completes with silent | failed
    · rw [silent] at member
      cases member
    · exact ends failed

end SeamlessSwarm
