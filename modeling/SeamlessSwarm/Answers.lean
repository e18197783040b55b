import SeamlessSwarm.Lib.Utf8
import SeamlessSwarm.Provenance

/-! What the medium tool prints for a task. It hears some of the frames that the hub has
broadcast, in any order and mixed with silence; what it prints as the end of a task is the
end of an execution of that task, and an answer is what a model said to the prompt. -/
namespace SeamlessSwarm
open Trace

def NoticeOf (report : TaskProgress) : Notice → Prop
  | .progress taskId status percentage =>
    taskId = report.taskId ∧ status = statusStr report.status ∧
      percentage = report.progressPercentage
  | .completed resultText => report.status = TaskStatus.completed.toI32 ∧
    resultText = report.resultText
  | .failed errorMessage => report.status = TaskStatus.failed.toI32 ∧
    errorMessage = report.errorMessage
  | _ => False

theorem watched_notice (prost : Prost) (moved : F32 → F32 → Bool) (id : String) (lastPct : F32)
    (events : List SubEvent) : ∀ n ∈ watchProgress prost moved id lastPct events,
      n = .gaveUpWaiting ∨ (∃ reason, n = .socketError reason) ∨ ∃ msg report,
        .message msg ∈ events ∧ (readWatched msg).bind prost.taskProgress.decode = some report ∧
          report.taskId = id ∧ NoticeOf report n := by
  induction events generalizing lastPct with
  | nil =>
    intro n member
    rw [watchProgress] at member
    exact Or.inl (List.mem_singleton.mp member)
  | cons event rest ih =>
    have later {pct : F32} {n : Notice} (member : n ∈ watchProgress prost moved id pct rest) :
        n = .gaveUpWaiting ∨ (∃ reason, n = .socketError reason) ∨ ∃ msg report,
          .message msg ∈ event :: rest ∧ (readWatched msg).bind prost.taskProgress.decode =
            some report ∧
            report.taskId = id ∧ NoticeOf report n := by
      rcases ih pct n member with waited | error | ⟨msg, report, heard, read⟩
      · exact Or.inl waited
      · exact Or.inr (Or.inl error)
      · exact Or.inr (Or.inr ⟨msg, report, List.mem_cons_of_mem _ heard, read⟩)
    intro n member
    cases event with
    | timedOut =>
      rw [watchProgress] at member
      exact later member
    | error reason =>
      rw [watchProgress] at member
      exact Or.inr (Or.inl ⟨reason, List.mem_singleton.mp member⟩)
    | message msg =>
      rw [watchProgress] at member
      cases read : (readWatched msg).bind prost.taskProgress.decode with
      | none =>
        rw [read] at member
        exact later member
      | some report =>
        simp only [read] at member
        split at member
        · exact later member
        next named =>
          have own : report.taskId = id := by simpa using named
          have printed (line : NoticeOf report n) : n = .gaveUpWaiting ∨
              (∃ reason, n = .socketError reason) ∨
              ∃ msg' report, .message msg' ∈ .message msg :: rest ∧
                (readWatched msg').bind prost.taskProgress.decode = some report ∧
                  report.taskId = id ∧ NoticeOf report n :=
            Or.inr (Or.inr ⟨msg, report, List.mem_cons_self, read, own, line⟩)
          have line (shown : n ∈ if moved report.progressPercentage lastPct ||
              report.status != 1 then
              [Notice.progress id (statusStr report.status) report.progressPercentage] else []) :
              NoticeOf report n := by
            split at shown
            · rw [List.mem_singleton.mp shown]
              exact ⟨own.symm, rfl, rfl⟩
            · cases shown
          split at member
          next completed =>
            rcases List.mem_append.mp member with shown | final
            · exact printed (line shown)
            · rw [List.mem_singleton.mp final] at printed ⊢
              exact printed ⟨completed, rfl⟩
          next =>
            split at member
            next failed =>
              rcases List.mem_append.mp member with shown | final
              · exact printed (line shown)
              · rw [List.mem_singleton.mp final] at printed ⊢
                exact printed ⟨failed, rfl⟩
            next =>
              rcases List.mem_append.mp member with shown | final
              · exact printed (line shown)
              · exact later final

/-- What the tool hears are frames that the hub has broadcast. -/
def Heard (s : Cluster) (events : List SubEvent) : Prop :=
  ∀ msg, .message msg ∈ events → msg ∈ s.fleet.published

/-- The ends that the tool prints for a task are ends of its executions. -/
structure PrintsExecutions (s : Cluster) (id : String) (printed : List Notice) : Prop where
  completed : ∀ text, .completed text ∈ printed → ∃ ran, s.Performed id ran ∧
    Completes ran.env ran.definition ∧
    (AsksModel ran.definition →
      ran.env.runOllama (Text.fromUtf8Lossy ran.definition.payload) = .response text) ∧
    (¬ AsksModel ran.definition → text = "")
  failed : ∀ reason, .failed reason ∈ printed → ∃ ran, s.Performed id ran ∧
    ¬ Completes ran.env ran.definition ∧
    ∃ r ∈ (executeTask ran.env ran.definition).reports, r.errorMessage = reason
  progress : ∀ taskId status percentage, .progress taskId status percentage ∈ printed →
    taskId = id ∧ ∃ ran, s.Performed id ran ∧
      ∃ r ∈ (executeTask ran.env ran.definition).reports, statusStr r.status = status ∧
        r.progressPercentage = percentage

theorem failed_report_incomplete {env : WorkerEnv} {task : TaskDefinition} {r : TaskProgress}
    (member : r ∈ (executeTask env task).reports) (failed : r.status = TaskStatus.failed.toI32) :
    ¬ Completes env task := by
  intro completes
  obtain ⟨running, last, split, names, _, finished⟩ := executeTask_completes completes
  rw [split] at member
  rcases List.mem_append.mp member with inRunning | isLast
  · have status := (names r inRunning).2
    rw [failed] at status
    exact absurd status (by decide)
  · rw [List.mem_singleton.mp isLast, finished] at failed
    exact absurd failed (by decide)

section Run
variable (prost : Prost) (medium : MediumProst) (registry : EphemeralRegistry) (progressPub : Bool)
  (moved : F32 → F32 → Bool) {steps : List ClusterStep}

theorem heard_reported (fits : (cluster prost medium registry progressPub steps).Fits prost)
    {events : List SubEvent}
    (heard : Heard (cluster prost medium registry progressPub steps) events)
    {msg : Bytes} {report : TaskProgress} (inEvents : .message msg ∈ events)
    (read : (readWatched msg).bind prost.taskProgress.decode = some report) :
    ∃ ran, (cluster prost medium registry progressPub steps).Performed report.taskId ran ∧
      report ∈ (executeTask ran.env ran.definition).reports := by
  have inv := cluster_accounted prost medium registry progressPub steps fits
  obtain ⟨sent, reported, rfl⟩ := inv.published msg (heard msg inEvents)
  rw [readWatched_frame prost sent (fits.reported reported _ List.mem_cons_self)] at read
  cases read
  obtain ⟨ran, logged, inReports⟩ := reported
  exact ⟨ran, reported_performed prost medium registry progressPub fits logged inReports, inReports⟩

/-- In every run and for whatever the tool hears of it, the tool prints the progress and
the ends of executions of the task it watches, and nothing else. -/
theorem tool_prints_executions (steps : List ClusterStep)
    (fits : (cluster prost medium registry progressPub steps).Fits prost) (events : List SubEvent)
    (heard : Heard (cluster prost medium registry progressPub steps) events) (id : String)
    (lastPct : F32) :
    PrintsExecutions (cluster prost medium registry progressPub steps) id
      (watchProgress prost moved id lastPct events) := by
  have source {n : Notice} (member : n ∈ watchProgress prost moved id lastPct events)
      (line : n ≠ .gaveUpWaiting ∧ ∀ reason, n ≠ .socketError reason) :
      ∃ ran, (cluster prost medium registry progressPub steps).Performed id ran ∧
        ∃ report ∈ (executeTask ran.env ran.definition).reports, report.taskId = id ∧
          NoticeOf report n := by
    rcases watched_notice prost moved id lastPct events n member with
      waited | ⟨reason, error⟩ | ⟨msg, report, inEvents, read, rfl, printed⟩
    · exact absurd waited line.1
    · exact absurd error (line.2 reason)
    · obtain ⟨ran, performed, inReports⟩ :=
        heard_reported prost medium registry progressPub fits heard inEvents read
      exact ⟨ran, performed, report, inReports, rfl, printed⟩
  constructor
  · intro text member
    obtain ⟨ran, performed, report, inReports, _, finished, rfl⟩ := source member ⟨nofun, nofun⟩
    have law := execution_report inReports
    refine ⟨ran, performed, law.completed finished, law.complete finished, ?_⟩
    intro other
    by_contra filled
    exact other (law.answered filled).2.1
  · intro reason member
    obtain ⟨ran, performed, report, inReports, _, failed, rfl⟩ := source member ⟨nofun, nofun⟩
    exact ⟨ran, performed, failed_report_incomplete inReports failed, report, inReports, rfl⟩
  · intro taskId status percentage member
    obtain ⟨ran, performed, report, inReports, named, rfl, rfl, rfl⟩ := source member ⟨nofun, nofun⟩
    exact ⟨named, ran, performed, report, inReports, rfl, rfl⟩

theorem performed_job {s : Cluster} {a : Accepted}
    (only : ∀ b ∈ s.accepted, b.taskId = a.taskId → b = a)
    (stateless : submittedType a.req.category ≠ .statefulLongRunning) {ran : Ran}
    (performed : s.Performed a.taskId ran) :
    ran.definition = a.req.job.definition a.taskId ran.push.ticket.nodeId := by
  obtain ⟨job, asked, same⟩ := performed.definition
  rcases asked with ⟨b, member, named, rfl⟩ | ⟨_, _, ⟨b, member, named, rfl⟩, stateful⟩
  · rw [← only b member named]
    rwa [← only b member named] at same
  · rw [only b member named] at stateful
    exact absurd stateful stateless

/-- In every run in which workers run the model as they do, the text that the tool prints
for a prompt is what a model has answered to exactly this prompt. -/
theorem printed_answers_are_the_models (steps : List ClusterStep)
    (fits : (cluster prost medium registry progressPub steps).Fits prost)
    (workers : ∀ ran ∈ (cluster prost medium registry progressPub steps).executed,
      ∃ cli joined probe info, ran.env = OllamaCli.workerEnv cli joined probe info)
    (a : Accepted) (only : ∀ b ∈ (cluster prost medium registry progressPub steps).accepted,
      b.taskId = a.taskId → b = a)
    (stateless : submittedType a.req.category ≠ .statefulLongRunning)
    (asks : a.req.requiredCapabilities.head? = some "ollama_execution") (prompt : String)
    (typed : a.req.payload = Hex.stringBytes prompt) (events : List SubEvent)
    (heard : Heard (cluster prost medium registry progressPub steps) events) (lastPct : F32)
    (text : String) (printed : .completed text ∈ watchProgress prost moved a.taskId
      lastPct events) :
    ∃ ran, (cluster prost medium registry progressPub steps).Performed a.taskId ran ∧
      ∃ cli joined probe info output, ran.env = OllamaCli.workerEnv cli joined probe info ∧
        cli.run ((firstOllamaModel cli).getD "llama3.2:1b") (Hex.stringBytes prompt) =
          .ended output ∧
        output.success = true ∧ text = Text.trim (Text.fromUtf8Lossy output.stdout) := by
  obtain ⟨ran, performed, _, answered, _⟩ :=
    (tool_prints_executions prost medium registry progressPub
    moved steps fits events heard a.taskId lastPct).completed text printed
  have same := performed_job only stateless performed
  have first : AsksModel ran.definition := by
    rw [same]
    exact congrArg (Option.getD · "") asks
  have payload : Text.fromUtf8Lossy ran.definition.payload = prompt := by
    rw [same]
    exact (congrArg Text.fromUtf8Lossy typed).trans (Text.fromUtf8Lossy_stringBytes prompt)
  obtain ⟨cli, joined, probe, info, environment⟩ := workers ran performed.logged
  have answer := answered first
  rw [payload, environment] at answer
  obtain ⟨output, ended, success, same⟩ := inference_response answer
  exact ⟨ran, performed, cli, joined, probe, info, output, environment, ended, success, same⟩

end Run

section Example

def heardAnswer : List SubEvent :=
  [.message (progressFrame topology runningReport), .timedOut,
    .message (progressFrame topology answerReport)]

theorem answer_printed : .completed "ok" ∈
    watchProgress topology (fun _ _ => true) (mediumTaskId askUuid) noPct heardAnswer := by
  have first := readWatched_frame topology runningReport question_reports_fit.1
  have second := readWatched_frame topology answerReport question_reports_fit.2
  simp only [heardAnswer, watchProgress, first, second]
  decide

end Example

end SeamlessSwarm
