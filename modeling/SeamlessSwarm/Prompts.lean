import SeamlessSwarm.Lib.Trace
import SeamlessSwarm.Worker

/-! Prompts and the worker's task loop. The log line takes the first eighty bytes of
a prompt as a string, and the loop runs every task itself. -/
namespace SeamlessSwarm
open Trace

/-- A message for the task loop, with the environment it is handled in. -/
structure TaskMessage where
  env : WorkerEnv
  msg : Bytes

/-- The loop of one worker; a panic ends it. -/
structure TaskLoop where
  alive : Bool
  reports : List TaskProgress

def TaskLoop.receive (prost : Prost) (loop : TaskLoop) (message : TaskMessage) : TaskLoop :=
  if loop.alive then
    match receiveTask prost message.msg with
    | .panic => { loop with alive := false }
    | .reject => loop
    | .accept task =>
      let execution := executeTask message.env task
      { alive := !execution.panicked, reports := loop.reports ++ execution.reports }
  else loop

/-- A message that brings a task with this prompt, logged or not. -/
def Brings (prost : Prost) (info : Bool) (payload : Bytes) (message : TaskMessage) : Prop :=
  message.env.infoEnabled = info ∧
    ∃ task, receiveTask prost message.msg = .accept task ∧ task.payload = payload

/-- The prompt can be handled: no execution panics, the piece for the log line ends
on a boundary, and the loop goes on however often the prompt comes. -/
structure PromptSafe (info : Bool) (payload : Bytes) : Prop where
  executes : ∀ env task, env.infoEnabled = info → task.payload = payload →
    (executeOllamaTask env task).panicked = false
  boundary : info = true → Text.isBlank (Text.fromUtf8Lossy payload) = false →
    promptCut (Text.fromUtf8Lossy payload) = true
  survives : ∀ prost messages, (∀ message ∈ messages, Brings prost info payload message) →
    ∀ loop : TaskLoop, loop.alive = true → (run (TaskLoop.receive prost) loop messages).alive = true

/-- Some number of first characters takes eighty bytes, or all of them take no more. -/
def EndsAtEighty (prompt : String) : Prop :=
  prompt.utf8ByteSize ≤ 80 ∨ ∃ k, String.utf8Len (prompt.toList.take k) = 80

theorem promptCut_iff (prompt : String) : promptCut prompt = true ↔ EndsAtEighty prompt := by
  unfold promptCut EndsAtEighty
  rcases Nat.le_total prompt.utf8ByteSize 80 with short | long
  · rw [Nat.min_eq_left short]
    exact iff_of_true (Text.isCharBoundary_end prompt) (Or.inl short)
  · rw [Nat.min_eq_right long, Text.isCharBoundary_iff]
    constructor
    · exact Or.inr
    · rintro (short | ends)
      · have all : prompt.utf8ByteSize = 80 := Nat.le_antisymm short long
        rw [← Text.isCharBoundary_iff, ← all]
        exact Text.isCharBoundary_end prompt
      · exact ends

theorem executeOllamaTask_panicked (env : WorkerEnv) (task : TaskDefinition) :
    (executeOllamaTask env task).panicked =
      (!Text.isBlank (Text.fromUtf8Lossy task.payload) &&
        (env.infoEnabled && !promptCut (Text.fromUtf8Lossy task.payload))) := by
  simp only [executeOllamaTask]
  cases Text.isBlank (Text.fromUtf8Lossy task.payload) with
  | true => rfl
  | false =>
    cases env.infoEnabled && !promptCut (Text.fromUtf8Lossy task.payload) with
    | true => rfl
    | false => cases env.runOllama (Text.fromUtf8Lossy task.payload) <;> rfl

theorem executeTask_panicked {env : WorkerEnv} {task : TaskDefinition}
    (safe : (executeOllamaTask env task).panicked = false) :
    (executeTask env task).panicked = false := by
  unfold executeTask
  split
  · rfl
  · split
    · exact safe
    · rfl

theorem receive_survives {prost : Prost} {info : Bool} {payload : Bytes}
    (safe : ∀ env task, env.infoEnabled = info → task.payload = payload →
      (executeOllamaTask env task).panicked = false)
    {loop : TaskLoop} (alive : loop.alive = true) {message : TaskMessage}
    (brings : Brings prost info payload message) : (loop.receive prost message).alive = true := by
  obtain ⟨level, task, read, prompt⟩ := brings
  have calm := executeTask_panicked (safe message.env task level prompt)
  simp only [TaskLoop.receive, alive, if_true, read, calm, Bool.not_false]

/-- A prompt is safe exactly if it is not logged, is blank, or has a character end at
its eightieth byte or has no more bytes. -/
theorem prompt_safe_iff (info : Bool) (payload : Bytes) :
    PromptSafe info payload ↔ (info = true →
      Text.isBlank (Text.fromUtf8Lossy payload) = true ∨
        EndsAtEighty (Text.fromUtf8Lossy payload)) := by
  rw [← promptCut_iff]
  constructor
  · intro safe logged
    cases blank : Text.isBlank (Text.fromUtf8Lossy payload) with
    | true => exact Or.inl rfl
    | false => exact Or.inr (safe.boundary logged blank)
  · intro ends
    have executes : ∀ env task, env.infoEnabled = info → task.payload = payload →
        (executeOllamaTask env task).panicked = false := by
      rintro env task rfl rfl
      rw [executeOllamaTask_panicked]
      cases logged : env.infoEnabled with
      | false => simp
      | true =>
        rcases ends logged with blank | cut
        · simp [blank]
        · simp [cut]
    refine ⟨executes, ?_, ?_⟩
    · intro logged filled
      rcases ends logged with blank | cut
      · rw [filled] at blank
        cases blank
      · exact cut
    · intro prost messages brings loop alive
      apply run_invariant_along (I := fun loop : TaskLoop => loop.alive = true)
        (P := fun _ message =>
        Brings prost info payload message)
      · intro loop message alive
        exact receive_survives executes alive
      · exact alive
      · exact along_of_mem fun message member _ => brings message member

section Example

private def accented : Bytes := List.replicate 79 97 ++ [195, 169]

private def accentedChars : List Char := List.replicate 79 'a' ++ ['é']

private theorem accented_decoded : Text.fromUtf8Lossy accented = String.ofList accentedChars :=
  congrArg String.ofList (by decide +kernel)

private theorem accented_filled : Text.isBlank (Text.fromUtf8Lossy accented) = false := by
  rw [accented_decoded, Text.isBlank, String.toList_ofList]
  decide

private theorem accented_cut : promptCut (Text.fromUtf8Lossy accented) = false := by
  rw [accented_decoded, promptCut, String.utf8ByteSize_ofList, Text.isCharBoundary,
    String.toList_ofList]
  decide +kernel

/-- The eightieth byte is the first one of the last letter. -/
theorem accented_prompt_panics : ¬ PromptSafe true accented := by
  intro safe
  have calm := safe.executes ⟨fun _ _ => true, true, fun _ => .response "done"⟩
    ⟨"t", TaskCategory.statelessIdempotent.toI32, "n", accented, 3, 0, ["ollama_execution"]⟩ rfl rfl
  rw [executeOllamaTask_panicked, accented_filled, accented_cut] at calm
  cases calm

end Example

end SeamlessSwarm
