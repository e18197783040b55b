import SeamlessSwarm.Sessions

/-! Whole runs of the tools and the swarm, from the key that is typed in to the result on
the screen: what a tool and the hub believe of each other, and whose answer is shown. -/
namespace SeamlessSwarm
open Trace Requests

def linesOf (n : Nat) (steps : List WorldStep) : List (Option String) :=
  steps.flatMap fun
    | .input m input => if m = n then input.lines else []
    | _ => []

/-- All requests and replies so far fit the length word of a frame. -/
structure World.Fits (w : World) : Prop where
  sent : ∀ p ∈ w.net.sent, p.2.length < 4294967301
  replies : ∀ p ∈ w.net.replies, p.2.length < 4294967301

/-- What the user of a tool may rely on, and the swarm on its tools: the tool says accepted
of what the hub has accepted under this id, and the hub has accepted what some tool has put
up, as it was typed into that tool; a tool breaks only at a line that is no text. -/
structure World.Agrees (steps : List WorldStep) (w : World) : Prop where
  told : ∀ n, ∀ p ∈ (w.clients n).accepted, p.1 ∈ (w.clients n).asked ∧ w.server.Took p.1 p.2
  asked : ∀ a ∈ w.server.accepted, ∃ n,
    a.req ∈ (w.clients n).asked ∧ Chosen (linesOf n steps) a.req
  broken : ∀ n, (w.clients n).phase = .panicked → none ∈ linesOf n steps

/-- The prompt is what was typed right after the choice of the first row. -/
def PromptTyped (lines : List (Option String)) (prompt : String) : Prop :=
  ∃ before choice line after, lines = before ++ some choice :: some line :: after ∧
    Text.trim choice = "1" ∧ prompt = Text.trim line

/-- Some execution for this id was of a model that answered the prompt with this text. -/
def Cluster.AnsweredBy (s : Cluster) (id prompt text : String) : Prop :=
  ∃ ran, s.Performed id ran ∧
    ∃ cli joined probe info output, ran.env = OllamaCli.workerEnv cli joined probe info ∧
      cli.run ((firstOllamaModel cli).getD "llama3.2:1b") (Hex.stringBytes prompt) = .ended output ∧
      output.success = true ∧ text = Text.trim (Text.fromUtf8Lossy output.stdout)

/-- The text is the result of the request: of a prompt the answer to it, of another task
nothing. -/
structure Cluster.ResultOf (s : Cluster) (lines : List (Option String)) (req : TaskSubmitRequest)
    (id text : String) : Prop where
  prompt : req.requiredCapabilities = ["ollama_execution"] → ∃ prompt, PromptTyped lines prompt ∧
    req.payload = Hex.stringBytes prompt ∧ s.AnsweredBy id prompt text
  other : req.requiredCapabilities ≠ ["ollama_execution"] → text = "" ∧
    ∃ ran, s.Performed id ran ∧ Completes ran.env ran.definition

theorem linesOf_snoc (n : Nat) (steps : List WorldStep) (a : WorldStep) :
    linesOf n (steps ++ [a]) = linesOf n steps ++ linesOf n [a] :=
  List.flatMap_append

theorem unlocal_lines {published : List Bytes} {input : ToolInput}
    (unlocal : input.isLocal published = false) : input.lines = [] := by
  cases input with
  | line text uuid => cases unlocal
  | _ => rfl

section Run
variable (prost : Prost) (medium : MediumProst) (moved : F32 → F32 → Bool)
  (registry : EphemeralRegistry) (progressPub : Bool)

theorem world_snoc (steps : List WorldStep) (a : WorldStep) :
    world prost medium moved registry progressPub (steps ++ [a]) =
      (mediumService prost medium moved).step
        (world prost medium moved registry progressPub steps) a :=
  run_append _ steps [a]

theorem world_lines (n : Nat) (steps : List WorldStep) :
    ((world prost medium moved registry progressPub steps).clients n).lines = linesOf n steps := by
  induction steps using List.reverseRecOn with
  | nil => rfl
  | append_singleton steps a ih =>
    rw [world_snoc, linesOf_snoc, ← ih]
    generalize world prost medium moved registry progressPub steps = w
    have replied (exchange : ∀ m input, a ≠ .input m input) :
        (((mediumService prost medium moved).step w a).clients n).lines =
          (w.clients n).lines ++ [] := by
      rw [List.append_nil]
      rcases (mediumService prost medium moved).step_client w a n with same | ⟨input, acts, source⟩
      · rw [same]
      · have silent : input.lines = [] := by
          rcases source with ⟨given, _⟩ | ⟨e, rfl⟩ | ⟨e, rfl⟩ | ⟨r, rfl⟩
          · exact absurd given (exchange n input)
          all_goals rfl
        rw [acts]
        refine (step_lines (w.clients n) input).trans ?_
        rw [silent, List.append_nil]
    cases a with
    | input m input =>
      have added : linesOf n [.input m input] = if m = n then input.lines else [] :=
        List.append_nil _
      rw [added]
      unfold Service.step
      dsimp only
      split
      next isLocal =>
        rcases (mediumService prost medium moved).feed_client w m input n with
          ⟨rfl, acts⟩ | ⟨other, same⟩
        · rw [acts, if_pos rfl]
          exact step_lines _ input
        · rw [same, if_neg (Ne.symm other), List.append_nil]
      next unlocal =>
        rw [unlocal_lines (Bool.eq_false_iff.mpr unlocal), ite_self, List.append_nil]
    | _ => exact replied nofun

theorem world_holds (steps : List WorldStep)
    (fits : (world prost medium moved registry progressPub steps).Fits) :
    (mediumContract prost medium moved).Holds
      (world prost medium moved registry progressPub steps) := by
  have initial : (mediumContract prost medium moved).Holds
      (Service.start .start (.start registry progressPub)) :=
    ⟨fun _ => ⟨.start, nofun, nofun, nofun⟩, nofun, nofun, .idle⟩
  refine initial.run ⟨fits.sent, fits.replies⟩ ?_
  intro a member
  cases a <;> trivial

theorem world_cluster (steps : List WorldStep) :
    ∃ trail, (world prost medium moved registry progressPub steps).server =
      cluster prost medium registry progressPub trail := by
  have more {s : Cluster} (a : ClusterStep)
      (reached : ∃ trail, s = cluster prost medium registry progressPub trail) :
      ∃ trail, s.step prost medium a = cluster prost medium registry progressPub trail := by
    obtain ⟨trail, rfl⟩ := reached
    exact ⟨trail ++ [a], (cluster_snoc prost medium registry progressPub trail a).symm⟩
  exact Service.server_invariant
    (J := fun s => ∃ trail, s = cluster prost medium registry progressPub trail)
    (mediumService prost medium moved) (fun _ _ uuid query => more (.receive uuid query))
    (fun _ a => more a.step) ⟨[], rfl⟩ steps

/-- In every run of any number of tools and the swarm, whatever is lost, late or repeated
between them, the tools and the hub agree. -/
theorem tools_and_hub_agree (steps : List WorldStep)
    (fits : (world prost medium moved registry progressPub steps).Fits) :
    (world prost medium moved registry progressPub steps).Agrees steps := by
  have inv := world_holds prost medium moved registry progressPub steps fits
  refine ⟨?_, ?_, ?_⟩
  · intro n p member
    exact ⟨(inv.clients n).lawful.accepted p member, (inv.clients n).told p member⟩
  · intro a member
    obtain ⟨n, put⟩ := inv.joint a member
    refine ⟨n, put, ?_⟩
    rw [← world_lines prost medium moved registry progressPub]
    exact (inv.clients n).lawful.asked a.req put
  · intro n panicked
    rw [← world_lines prost medium moved registry progressPub]
    exact (inv.clients n).broken panicked

theorem shown_watched (n : Nat) {notice : Notice} (steps : List WorldStep)
    (shown : .notice notice ∈
      ((world prost medium moved registry progressPub steps).clients n).screen) :
    ∃ before events after k id timeout, steps = before ++ .input n (.watched events) :: after ∧
      ((world prost medium moved registry progressPub before).clients n).phase =
        .watching k id timeout ∧
      Heard (world prost medium moved registry progressPub before).server events ∧
      notice ∈ watchProgress prost moved id noPct events := by
  induction steps using List.reverseRecOn with
  | nil => cases shown
  | append_singleton steps a ih =>
    have later (old : .notice notice ∈
        ((world prost medium moved registry progressPub steps).clients n).screen) :
        ∃ before events after k id timeout,
          steps ++ [a] = before ++ .input n (.watched events) :: after ∧
          ((world prost medium moved registry progressPub before).clients n).phase =
            .watching k id timeout ∧
          Heard (world prost medium moved registry progressPub before).server events ∧
          notice ∈ watchProgress prost moved id noPct events := by
      obtain ⟨before, events, after, k, id, timeout, split, rest⟩ := ih old
      exact ⟨before, events, after ++ [a], k, id, timeout, by rw [split]; simp, rest⟩
    rw [world_snoc] at shown
    rcases (mediumService prost medium moved).step_client _ a n with same | ⟨input, acts, source⟩
    · rw [same] at shown
      exact later shown
    · rw [acts] at shown
      rcases (tool_stepped prost medium moved _ input).shown_new shown with
        old | ⟨k, id, timeout, events, phase, rfl, printed⟩
      · exact later old
      · rcases source with ⟨rfl, isLocal⟩ | ⟨_, given⟩ | ⟨_, given⟩ | ⟨_, given⟩
        · refine ⟨steps, events, [], k, id, timeout, rfl, phase, ?_, printed⟩
          intro msg member
          have heard := List.all_eq_true.mp isLocal (.message msg) member
          simpa using heard
        all_goals cases given

theorem performed_capabilities {s : Cluster} {a : Accepted}
    (only : ∀ b ∈ s.accepted, b.taskId = a.taskId → b = a) {ran : Ran}
    (performed : s.Performed a.taskId ran) : AsksModel ran.definition ↔
      a.req.requiredCapabilities.head?.getD "" = "ollama_execution" := by
  obtain ⟨job, asked, same⟩ := performed.definition
  rw [same]
  rcases asked with ⟨b, member, named, rfl⟩ | ⟨⟨_, ⟨b, member, named, rfl⟩, rfl⟩, _⟩
  · rw [only b member named]
    exact Iff.rfl
  · rw [only b member named]
    exact Iff.rfl

/-- A row asks for the model exactly when it is the first one, and then it was typed with
its prompt. -/
theorem RowTyped.model {lines : List (Option String)} {s : Submission} (typed : RowTyped lines s)
    (model : s.cap = "ollama_execution") :
    ∃ prompt, PromptTyped lines prompt ∧ s = ollamaSubmission prompt := by
  obtain ⟨before, choice, after, split, ⟨other, found⟩ | ⟨first, line, rest, rfl, _, row⟩⟩ := typed
  · rw [submissionFor, if_neg other] at found
    split at found
    · cases found
      exact absurd model (by decide)
    · split at found
      · cases found
        exact absurd model (by decide)
      · cases found
  · exact ⟨_, ⟨before, choice, line, rest, split, first, rfl⟩, row⟩

theorem printed_result (trail : List ClusterStep)
    (frames : (cluster prost medium registry progressPub trail).Fits prost)
    (workers : ∀ ran ∈ (cluster prost medium registry progressPub trail).executed,
      ∃ cli joined probe info, ran.env = OllamaCli.workerEnv cli joined probe info)
    (a : Accepted) (only : ∀ b ∈ (cluster prost medium registry progressPub trail).accepted,
      b.taskId = a.taskId → b = a)
    {lines : List (Option String)} (chosen : Chosen lines a.req) {events : List SubEvent}
    (heard : Heard (cluster prost medium registry progressPub trail) events) {text : String}
    (printed : .completed text ∈ watchProgress prost moved a.taskId noPct events) :
    (cluster prost medium registry progressPub trail).ResultOf lines a.req a.taskId text := by
  obtain ⟨_, s, uuid, row, same⟩ := chosen
  have category : a.req.category = s.category := congrArg TaskSubmitRequest.category same
  have capabilities : a.req.requiredCapabilities = [s.cap] :=
    congrArg TaskSubmitRequest.requiredCapabilities same
  have payload : a.req.payload = s.payload := congrArg TaskSubmitRequest.payload same
  constructor
  · intro model
    rw [capabilities] at model
    obtain ⟨prompt, typed, rfl⟩ := row.model (List.cons.inj model).1
    have stateless : submittedType a.req.category ≠ .statefulLongRunning := by
      rw [category]
      exact nofun
    exact ⟨prompt, typed, payload, printed_answers_are_the_models prost medium registry progressPub
      moved trail frames workers a only stateless (by rw [capabilities]; rfl) prompt payload events
      heard noPct text printed⟩
  · intro other
    obtain ⟨ran, performed, completes, _, otherwise⟩ := (tool_prints_executions prost medium
      registry progressPub moved trail frames events heard a.taskId noPct).completed text printed
    refine ⟨otherwise ?_, ran, performed, completes⟩
    rw [performed_capabilities only performed, capabilities]
    intro first
    exact other (capabilities.trans (congrArg (fun cap => [cap]) first))

theorem world_grows (before more : List WorldStep) :
    (world prost medium moved registry progressPub before).server.Grows
      (world prost medium moved registry progressPub (before ++ more)).server := by
  generalize here : world prost medium moved registry progressPub before = w
  have later : world prost medium moved registry progressPub (before ++ more) =
      run (mediumService prost medium moved).step w more := by
    rw [← here, world, world, run_append]
  have step (s : Cluster) (a : ClusterStep) (grows : w.server.Grows s) :
      w.server.Grows (s.step prost medium a) :=
    grows.trans (cluster_stepped prost medium s a).grows
  rw [later]
  exact Service.server_invariant (J := w.server.Grows) (mediumService prost medium moved)
    (fun s _ uuid query => step s (.receive uuid query)) (fun s a => step s a.step) (.refl _) more

theorem World.Fits.before (before more : List WorldStep)
    (fits : (world prost medium moved registry progressPub (before ++ more)).Fits) :
    (world prost medium moved registry progressPub before).Fits := by
  rw [world, run_append] at fits
  have bounded : (mediumContract prost medium moved).Bounded
      (run (mediumService prost medium moved).step
        (world prost medium moved registry progressPub before) more) := ⟨fits.sent, fits.replies⟩
  exact ⟨bounded.start.sent, bounded.start.replies⟩

/-- In every run in which ids do not repeat and workers run the model as they do, a tool
shows a result only of the task that it has submitted last and was told is accepted, and
the result is what a model has answered to the prompt that was typed for this task, or,
for a task of another kind, empty. -/
theorem shown_results_answer_prompts (steps : List WorldStep) (n : Nat) (text : String) :
    let w := world prost medium moved registry progressPub
    (w steps).Fits → (w steps).server.Fits prost →
    (∀ a ∈ (w steps).server.accepted, ∀ b ∈ (w steps).server.accepted,
      b.taskId = a.taskId → b = a) →
    (∀ ran ∈ (w steps).server.executed,
      ∃ cli joined probe info, ran.env = OllamaCli.workerEnv cli joined probe info) →
    .notice (.completed text) ∈ ((w steps).clients n).screen →
    ∃ before events after k id timeout req,
      steps = before ++ .input n (.watched events) :: after ∧
      ((w before).clients n).phase = .watching k id timeout ∧
      .completed text ∈ watchProgress prost moved id noPct events ∧
      ((w before).clients n).asked.getLast? = some req ∧
      ((w before).clients n).accepted.getLast? = some (req, id) ∧
      (w before).server.Took req id ∧
      (w before).server.ResultOf (linesOf n before) req id text := by
  intro w fits frames distinct workers shown
  obtain ⟨before, events, after, k, id, timeout, rfl, phase, heard, printed⟩ :=
    shown_watched prost medium moved registry progressPub n steps shown
  have grows := world_grows prost medium moved registry progressPub before
    (.input n (.watched events) :: after)
  have holds := world_holds prost medium moved registry progressPub before
    (World.Fits.before prost medium moved registry progressPub before _ fits)
  obtain ⟨req, asked, last⟩ := (holds.clients n).lawful.watching k id timeout phase
  have accepted := List.mem_of_getLast? last
  have chosen := (holds.clients n).lawful.asked req ((holds.clients n).lawful.accepted _ accepted)
  rw [world_lines] at chosen
  obtain ⟨a, member, rfl, rfl⟩ := (holds.clients n).told _ accepted
  refine ⟨before, events, after, k, a.taskId, timeout, a.req, rfl, phase, printed, asked, last,
    ⟨a, member, rfl, rfl⟩, ?_⟩
  have early := frames.before grows
  have only (b : Accepted) (there : b ∈ (w before).server.accepted) : b.taskId = a.taskId → b = a :=
    distinct a (grows.accepted a member) b (grows.accepted b there)
  have runs (ran : Ran) (there : ran ∈ (w before).server.executed) :=
    workers ran (grows.executed ran there)
  obtain ⟨trail, same⟩ := world_cluster prost medium moved registry progressPub before
  dsimp only [w] at early only runs ⊢
  rw [same] at early only runs heard ⊢
  exact printed_result prost medium moved registry progressPub trail early runs a only chosen heard
    printed

end Run

section Example

private def statusQuery : Bytes := frame 10 (mediumTopology.swarmStatusRequest.encode ⟨"key"⟩)

private def welcome : SwarmStatusResponse := ⟨true, 0, [], "Access granted"⟩

private def statusReply : Bytes := frame 11 (mediumTopology.swarmStatusResponse.encode welcome)

private def questionQuery : Bytes := frame 12 (mediumTopology.taskSubmitRequest.encode question)

private def acceptance : TaskSubmitResponse :=
  ⟨true, mediumTaskId askUuid, "Task queued for dispatch to swarm"⟩

private def acceptanceReply : Bytes :=
  frame 13 (mediumTopology.taskSubmitResponse.encode acceptance)

private theorem dialogue_fits :
    (mediumTopology.swarmStatusRequest.encode ⟨"key"⟩).length < 4294967296 ∧
      (mediumTopology.swarmStatusResponse.encode welcome).length < 4294967296 ∧
      (mediumTopology.taskSubmitRequest.encode question).length < 4294967296 ∧
      (mediumTopology.taskSubmitResponse.encode acceptance).length < 4294967296 := by
  decide +kernel

private def loginSteps : List WorldStep :=
  [.input 0 (.line (some "key") askUuid), .input 0 (.dialed none), .send 0,
    .serve 0 askUuid, .arrive 0,
    .input 0 (.subscribed none)]

private def loggedIn : Tool :=
  ⟨.menu "key", .line "  ✓ Access granted" ::
    statusLines "(none yet — waiting for agents to connect)" welcome ++ noNodesLines welcome,
    [some "key"], [], []⟩

private theorem status_served : mediumAnswer mediumTopology .new askUuid statusQuery =
    some (.status welcome) := by
  have short := dialogue_fits.1
  have empty : EphemeralRegistry.new.listNodes = [] := rfl
  rw [statusQuery, status_answered (readMedium_frame (by decide) _ short)
    (mediumTopology.swarmStatusRequest.decode_encode _ short), statusResponse,
    availableCapabilities, empty]
  simp [welcome]

private theorem status_received : receiveFramed (.ok statusReply) =
      .ok (11, mediumTopology.swarmStatusResponse.encode welcome) ∧
    mediumTopology.swarmStatusResponse.decode (mediumTopology.swarmStatusResponse.encode welcome) =
      some welcome :=
  ⟨receiveFramed_frame dialogue_fits.2.1, mediumTopology.swarmStatusResponse.decode_encode _
    dialogue_fits.2.1⟩

private theorem acceptance_received : receiveFramed (.ok acceptanceReply) =
      .ok (13, mediumTopology.taskSubmitResponse.encode acceptance) ∧
    mediumTopology.taskSubmitResponse.decode (mediumTopology.taskSubmitResponse.encode acceptance) =
      some acceptance :=
  ⟨receiveFramed_frame dialogue_fits.2.2.2,
    mediumTopology.taskSubmitResponse.decode_encode _ dialogue_fits.2.2.2⟩

private def dialed : Tool := ⟨.status "key", [], [some "key"], [], []⟩

private theorem typed_key : (mediumService topology mediumTopology (fun _ _ => true)).act 0
    ((mediumService topology mediumTopology (fun _ _ => true)).act 0 .start
      (.line (some "key") askUuid)) (.dialed none) = dialed :=
  rfl

private theorem told_granted : (mediumService topology mediumTopology (fun _ _ => true)).act 0
    ((mediumService topology mediumTopology (fun _ _ => true)).act 0 dialed
      ((mediumService topology mediumTopology (fun _ _ => true)).answered statusReply))
        (.subscribed none) = loggedIn := by
  have entered (t : Tool) : t.enter mediumTopology "key" (.received (.ok statusReply)) =
      t.goTo (.subscribing "key") loggedIn.screen := by
    simp only [Tool.enter, status_received]
    rfl
  have answered (reply : Bytes) : (mediumService topology mediumTopology (fun _ _ => true)).act 0
      dialed ((mediumService topology mediumTopology (fun _ _ => true)).answered reply) =
        dialed.enter mediumTopology "key" (.received (.ok reply)) := rfl
  rw [answered, entered]
  rfl

private theorem loginSteps_eq :
    world topology mediumTopology (fun _ _ => true) .new true loginSteps =
      Service.single .start loggedIn [statusQuery] none [(0, statusReply)] (.start .new true) := by
  have registry : (Cluster.start .new true).fleet.hub.scheduler.registry = .new := rfl
  have served : (mediumService topology mediumTopology (fun _ _ => true)).serve (.start .new true) 0
      askUuid statusQuery = (.start .new true, some statusReply) := by
    simp only [mediumService, Cluster.step, Cluster.reply, registry, status_served, ite_self]
    rfl
  rw [world, loginSteps, Service.start_single, run_cons, run_cons, run_cons, run_cons, run_cons,
    run_cons, run_nil, Service.single_input rfl, Service.single_input rfl, typed_key,
    Service.single_send (rfl : _ = some statusQuery),
    Service.single_serve rfl askUuid (congrArg Prod.snd served), Service.single_arrive rfl rfl,
    Service.single_input rfl, told_granted, served]
  rfl

private def questionSteps : List WorldStep :=
  [.input 0 (.line (some "1") askUuid), .input 0 (.line (some "hi") askUuid), .send 0,
    .other (.fleet (.hub (.call (.registerNode modelNode)))), .serve 1 askUuid, .arrive 1]

private def typing : Tool := loggedIn.log (.line (some "1") askUuid)

private def asker : Tool :=
  ⟨.submitting "key" question 120,
    loggedIn.screen ++ [.line "  Submitting 'ollama inference' to swarm..."],
    [some "key", some "1", some "hi"], [question], []⟩

private def watcher : Tool :=
  ⟨.watching "key" (mediumTaskId askUuid) 120, asker.screen ++
    [.line ("  ✓ Accepted  →  task ID: " ++ mediumTaskId askUuid),
      .line "  Waiting for swarm to pick up and execute the task..."],
    asker.lines, [question], [(question, mediumTaskId askUuid)]⟩

private theorem typed_question : (mediumService topology mediumTopology (fun _ _ => true)).act 0
    ((mediumService topology mediumTopology (fun _ _ => true)).act 0 loggedIn
      (.line (some "1") askUuid)) (.line (some "hi") askUuid) = asker := by
  have chosen (t : Tool) : t.choose "key" "1" askUuid = t.goTo (.prompting "key") [] := rfl
  have prompted (t : Tool) : t.prompt "key" "hi" askUuid =
      t.submit "key" (ollamaSubmission "hi") askUuid := rfl
  have first : (mediumService topology mediumTopology (fun _ _ => true)).act 0 loggedIn
      (.line (some "1") askUuid) = typing.goTo (.prompting "key") [] := chosen typing
  have second : (mediumService topology mediumTopology (fun _ _ => true)).act 0
      (typing.goTo (.prompting "key") []) (.line (some "hi") askUuid) =
        ((typing.goTo (.prompting "key") []).log (.line (some "hi") askUuid)).submit "key"
          (ollamaSubmission "hi") askUuid := prompted _
  have request : (ollamaSubmission "hi").request "key" askUuid = question := by decide
  rw [first, second]
  simp only [Tool.submit, request, Tool.goTo, List.append_nil]
  rfl

private theorem told_accepted :
    (mediumService topology mediumTopology (fun _ _ => true)).act 0 asker
    ((mediumService topology mediumTopology (fun _ _ => true)).answered acceptanceReply) =
    watcher := by
  have submitted (reply : Bytes) :
      (mediumService topology mediumTopology (fun _ _ => true)).act 0 asker
      ((mediumService topology mediumTopology (fun _ _ => true)).answered reply) =
        asker.submitted mediumTopology "key" question 120 (.received (.ok reply)) := rfl
  rw [submitted]
  simp only [Tool.submitted, acceptance_received]
  rfl

private theorem question_served (s : Cluster) (receiving : s.receiving = true) :
    (mediumService topology mediumTopology (fun _ _ => true)).serve s 0 askUuid questionQuery =
      (s.step topology mediumTopology (.receive askUuid questionQuery), some acceptanceReply) := by
  have answered : mediumAnswer mediumTopology s.fleet.hub.scheduler.registry askUuid questionQuery =
      some (.accepted (mediumTaskId askUuid) question acceptance) :=
    submission_accepted mediumTopology _ askUuid question dialogue_fits.2.2.1 rfl
  have replied : s.reply mediumTopology askUuid questionQuery = some acceptanceReply := by
    simp only [Cluster.reply, receiving, if_true, answered]
    rfl
  rw [← replied]
  rfl

private theorem questionSteps_eq :
    world topology mediumTopology (fun _ _ => true) .new true (loginSteps ++ questionSteps) =
      Service.single .start watcher [statusQuery, questionQuery] none
        [(0, statusReply), (1, acceptanceReply)]
        (cluster topology mediumTopology .new true askedSteps) := by
  have registered : ((mediumService topology mediumTopology (fun _ _ => true)).other
      (.start .new true)
      (.fleet (.hub (.call (.registerNode modelNode))))).receiving = true := by
    dsimp only [mediumService, Elsewhere.step, Cluster.step]
    split <;> rfl
  have asked : ((mediumService topology mediumTopology (fun _ _ => true)).other (.start .new true)
      (.fleet (.hub (.call (.registerNode modelNode))))).step topology mediumTopology
        (.receive askUuid questionQuery) = cluster topology mediumTopology .new true
          askedSteps := by
    rw [cluster, askedSteps, run_cons, run_cons, run_nil]
    rfl
  have before := loginSteps_eq
  rw [world] at before
  rw [world, run_append, before, questionSteps, run_cons, run_cons, run_cons, run_cons,
    run_cons, run_cons,
    run_nil, Service.single_input rfl, Service.single_input rfl, typed_question,
    Service.single_send (rfl : _ = some questionQuery), Service.single_other,
    Service.single_serve rfl askUuid (congrArg Prod.snd (question_served _ registered)),
    Service.single_arrive rfl rfl, told_accepted, question_served _ registered, asked]
  rfl

private def answeringSteps : List Elsewhere :=
  [.fleet (.hub (.enter 1)), .fleet (.hub (.listNodes 0)), .fleet (.hub (.assign 0)),
    .fleet (.hub (.load 0)), .fleet (.hub (.push 0 true)), .fleet (.execute 0 answeringEnv),
    .fleet (.deliver 0), .fleet (.deliver 0)]

def conversation : List WorldStep :=
  loginSteps ++ questionSteps ++ answeringSteps.map .other ++ [.input 0 (.watched heardAnswer)]

private def informed : Tool :=
  ⟨.menu "key", watcher.screen ++
      (watchProgress topology (fun _ _ => true) (mediumTaskId askUuid) noPct heardAnswer).map
        .notice,
    asker.lines, [question], [(question, mediumTaskId askUuid)]⟩

private theorem conversation_eq : world topology mediumTopology (fun _ _ => true) .new true
    conversation =
    Service.single .start informed [statusQuery, questionQuery] none
      [(0, statusReply), (1, acceptanceReply)]
      (cluster topology mediumTopology .new true answeredSteps) := by
  have before := questionSteps_eq
  have answered : run (mediumService topology mediumTopology (fun _ _ => true)).other
      (cluster topology mediumTopology .new true askedSteps) answeringSteps =
        cluster topology mediumTopology .new true answeredSteps := by
    rw [answeredSteps, List.append_assoc, List.append_assoc, List.append_assoc, cluster,
      cluster, run_append]
    rfl
  have isLocal : (mediumService topology mediumTopology (fun _ _ => true)).isLocal
      (cluster topology mediumTopology .new true answeredSteps) (.watched heardAnswer) = true := by
    rw [answeredSteps_eq]
    simp [mediumService, ToolInput.isLocal, heardAnswer]
  rw [world] at before
  rw [world, conversation, run_append, run_append, before, Service.single_others, answered,
    run_cons, run_nil,
    Service.single_input isLocal]
  rfl

private theorem conversation_fits :
    (world topology mediumTopology (fun _ _ => true) .new true conversation).Fits := by
  rw [conversation_eq]
  constructor
  · exact List.forall_mem_cons.mpr
      ⟨by decide +kernel, List.forall_mem_singleton.mpr (by decide +kernel)⟩
  · exact List.forall_mem_cons.mpr
      ⟨by decide +kernel, List.forall_mem_singleton.mpr (by decide +kernel)⟩

theorem conversation_agrees :
    (world topology mediumTopology (fun _ _ => true) .new true conversation).Agrees conversation :=
  tools_and_hub_agree topology mediumTopology (fun _ _ => true) .new true conversation
    conversation_fits

theorem conversation_answers_the_prompt :
    let w := world topology mediumTopology (fun _ _ => true) .new true
    ∃ before events after k id timeout req,
      conversation = before ++ .input 0 (.watched events) :: after ∧
      ((w before).clients 0).phase = .watching k id timeout ∧
      .completed "ok" ∈ watchProgress topology (fun _ _ => true) id noPct events ∧
      ((w before).clients 0).asked.getLast? = some req ∧
      ((w before).clients 0).accepted.getLast? = some (req, id) ∧
      (w before).server.Took req id ∧
      (w before).server.ResultOf (linesOf 0 before) req id "ok" := by
  have swarm : (world topology mediumTopology (fun _ _ => true) .new true conversation).server =
      cluster topology mediumTopology .new true answeredSteps := by rw [conversation_eq]; rfl
  refine shown_results_answer_prompts topology mediumTopology (fun _ _ => true) .new true
    conversation 0 "ok" conversation_fits (by rw [swarm]; exact answeredSteps_fit) ?_ ?_ ?_
  · rw [swarm, answeredSteps_eq]
    intro a first b second _
    rw [List.mem_singleton.mp first, List.mem_singleton.mp second]
  · rw [swarm, answeredSteps_eq]
    intro ran member
    rw [List.mem_singleton.mp member]
    exact ⟨_, _, _, _, rfl⟩
  · rw [conversation_eq]
    exact List.mem_append_right _ (List.mem_map.mpr ⟨_, answer_printed, rfl⟩)

end Example

end SeamlessSwarm
