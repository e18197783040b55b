import SeamlessSwarm.Answers

/-! The medium tool's main loop, input by input: the access key, the status exchange, the
menu, submissions and the watch after each of them. Boxes and banners are not modelled.
What the user has submitted and what was accepted of it is kept in logs beside the state. -/
namespace SeamlessSwarm
open Trace

/-- A row of the table of choices; `timeout` is how many seconds a task is watched. -/
structure Submission where
  category : Int32
  cap : String
  label : String
  payload : Bytes
  timeout : Nat
  deriving DecidableEq

def demoPayload : Bytes := Hex.stringBytes "demo-payload"

def ollamaSubmission (ollamaPrompt : String) : Submission :=
  ⟨0, "ollama_execution", "ollama inference", Hex.stringBytes ollamaPrompt, 120⟩

/-- The third choice is labelled interactive and submitted as stateless. -/
def submissionFor (choice ollamaPrompt : String) : Option Submission :=
  if choice = "1" then some (ollamaSubmission ollamaPrompt)
  else if choice = "2" then
    some ⟨1, "blender_execution", "blender scene render", demoPayload, 30⟩
  else if choice = "3" then some ⟨0, "claude_execution", "claude AI task", demoPayload, 30⟩
  else none

def Submission.taskName (s : Submission) (uuid : UuidV4) : String :=
  Text.replaceChar ' ' '-' s.label ++ "-" ++ Hex.asciiString (uuid.text.take 6)

def Submission.request (s : Submission) (accessKey : String) (uuid : UuidV4) :
    TaskSubmitRequest where
  accessKey := accessKey
  taskName := s.taskName uuid
  category := s.category
  requiredCapabilities := [s.cap]
  payload := s.payload

inductive ToolPhase where
  | accessKey
  | dialing (accessKey : String)
  | status (accessKey : String)
  | subscribing (accessKey : String)
  | menu (accessKey : String)
  | prompting (accessKey : String)
  | refreshing (accessKey : String)
  | submitting (accessKey : String) (req : TaskSubmitRequest) (timeout : Nat)
  | watching (accessKey taskId : String) (timeout : Nat)
  | exited (code : Nat)
  | panicked
  deriving DecidableEq

/-- What became of a request that was sent: `received` is what `socket.recv` returned. -/
inductive Exchanged where
  | sendFailed (e : String)
  | received (result : Except String Bytes)

/-- `line` is what was read from the terminal, nothing if it was not text; `watched` is what
the progress socket yields until the deadline. -/
inductive ToolInput where
  | line (text : Option String) (uuid : UuidV4)
  | dialed (error : Option String)
  | subscribed (error : Option String)
  | exchanged (result : Exchanged)
  | watched (events : List SubEvent)

inductive Screen where
  | line (text : String)
  | error (text : String)
  | notice (n : Notice)
  deriving DecidableEq

/-- `lines` are those that came from the terminal. -/
structure Tool where
  phase : ToolPhase
  screen : List Screen
  lines : List (Option String)
  asked : List TaskSubmitRequest
  accepted : List (TaskSubmitRequest × String)

def statusLines (noCapabilities : String) (status : SwarmStatusResponse) : List Screen :=
  [.line ("  │  Nodes online   : " ++ toString status.nodeCount.toInt),
    .line ("  │  Capabilities   : " ++
      if status.availableCapabilities.isEmpty then noCapabilities
      else ", ".intercalate status.availableCapabilities)]

def noNodesLines (status : SwarmStatusResponse) : List Screen :=
  if status.nodeCount = 0 then
    [.line "  No nodes are online yet. Start an agent with: make agent",
      .line "  Tasks you submit will be queued and dispatched when a node joins."]
  else []

def ToolInput.lines : ToolInput → List (Option String)
  | .line text _ => [text]
  | _ => []

/-- `recv_framed` on what the socket returned. -/
def receiveFramed (result : Except String Bytes) : Except String (UInt8 × Bytes) :=
  result.bind recvFramed

namespace Tool
variable (prost : Prost) (medium : MediumProst) (moved : F32 → F32 → Bool)

def start : Tool := ⟨.accessKey, [], [], [], []⟩

def goTo (t : Tool) (phase : ToolPhase) (shown : List Screen) : Tool :=
  { t with phase := phase, screen := t.screen ++ shown }

def exitWith (t : Tool) (errors : List String) : Tool := t.goTo (.exited 1) (errors.map .error)

def submit (t : Tool) (accessKey : String) (s : Submission) (uuid : UuidV4) : Tool :=
  let req := s.request accessKey uuid
  { t.goTo (.submitting accessKey req s.timeout)
      [.line ("  Submitting '" ++ s.label ++ "' to swarm...")] with
    asked := t.asked ++ [req] }

/-- The answer to the first status request decides whether there is a session. -/
def enter (t : Tool) (accessKey : String) : Exchanged → Tool
  | .sendFailed e => t.exitWith ["  Failed to send status request: " ++ e]
  | .received result =>
    match receiveFramed result with
    | .error e => t.exitWith ["  No response from hub: " ++ e]
    | .ok (msgType, payload) =>
      if msgType ≠ 11 then
        t.exitWith ["  Unexpected response type " ++ toString msgType.toNat ++ " from hub."]
      else
        match medium.swarmStatusResponse.decode payload with
        | none => t.goTo .panicked []
        | some status =>
          if !status.authorized then t.exitWith ["  Access denied: " ++ status.message]
          else
            t.goTo (.subscribing accessKey) (.line ("  ✓ " ++ status.message) ::
              statusLines "(none yet — waiting for agents to connect)" status ++
                noNodesLines status)

def choose (t : Tool) (accessKey choice : String) (uuid : UuidV4) : Tool :=
  if choice = "q" ∨ choice = "Q" then
    t.goTo (.exited 0) [.line "  Disconnecting from swarm. Goodbye."]
  else if choice = "s" ∨ choice = "S" then t.goTo (.refreshing accessKey) []
  else if choice = "1" then t.goTo (.prompting accessKey) []
  else
    match submissionFor choice "" with
    | some s => t.submit accessKey s uuid
    | none => t.goTo (.menu accessKey) [.line "  Invalid choice — enter 1, 2, 3, s, or q."]

def prompt (t : Tool) (accessKey p : String) (uuid : UuidV4) : Tool :=
  if p.isEmpty then t.goTo (.menu accessKey) [.line "  No prompt entered."]
  else t.submit accessKey (ollamaSubmission p) uuid

/-- `refresh_status` shows the status and hides every failure. -/
def refresh (t : Tool) (accessKey : String) : Exchanged → Tool
  | .sendFailed _ => t.goTo (.menu accessKey) []
  | .received result =>
    match receiveFramed result with
    | .error _ => t.goTo (.menu accessKey) []
    | .ok (msgType, payload) =>
      if msgType = 11 then
        match medium.swarmStatusResponse.decode payload with
        | none => t.goTo (.menu accessKey) []
        | some status => t.goTo (.menu accessKey) (statusLines "(none)" status)
      else t.goTo (.menu accessKey) []

def submitted (t : Tool) (accessKey : String) (req : TaskSubmitRequest) (timeout : Nat) :
    Exchanged → Tool
  | .sendFailed e => t.goTo (.menu accessKey) [.error ("  Failed to send task: " ++ e)]
  | .received result =>
    match receiveFramed result with
    | .error e => t.goTo (.menu accessKey) [.error ("  No response: " ++ e)]
    | .ok (msgType, payload) =>
      if msgType ≠ 13 then
        t.goTo (.menu accessKey)
          [.error ("  Unexpected response type " ++ toString msgType.toNat ++ ".")]
      else
        match medium.taskSubmitResponse.decode payload with
        | none => t.goTo .panicked []
        | some response =>
          if !response.accepted then
            t.goTo (.menu accessKey) [.line ("  ✗ Task rejected: " ++ response.message)]
          else
            { t.goTo (.watching accessKey response.taskId timeout)
                [.line ("  ✓ Accepted  →  task ID: " ++ response.taskId),
                  .line "  Waiting for swarm to pick up and execute the task..."] with
              accepted := t.accepted ++ [(req, response.taskId)] }

def turn (t : Tool) (input : ToolInput) : Tool :=
  match t.phase, input with
  | .accessKey, .line none _ => t.goTo .panicked []
  | .accessKey, .line (some text) _ =>
    let accessKey := Text.trim text
    if accessKey.isEmpty then t.exitWith ["  No access key provided. Exiting."]
    else t.goTo (.dialing accessKey) []
  | .dialing _, .dialed (some e) =>
    t.exitWith ["  Failed to connect: " ++ e ++ ".", "  Is the hub running? Try: make hub"]
  | .dialing accessKey, .dialed none => t.goTo (.status accessKey) []
  | .status accessKey, .exchanged result => t.enter medium accessKey result
  | .subscribing accessKey, .subscribed (some e) =>
    t.goTo (.menu accessKey) [.error ("  Warning: could not connect to progress broadcast: " ++ e)]
  | .subscribing accessKey, .subscribed none => t.goTo (.menu accessKey) []
  | .menu _, .line none _ => t.goTo .panicked []
  | .menu accessKey, .line (some text) uuid => t.choose accessKey (Text.trim text) uuid
  | .prompting _, .line none _ => t.goTo .panicked []
  | .prompting accessKey, .line (some text) uuid => t.prompt accessKey (Text.trim text) uuid
  | .refreshing accessKey, .exchanged result => t.refresh medium accessKey result
  | .submitting accessKey req timeout, .exchanged result =>
    t.submitted medium accessKey req timeout result
  | .watching accessKey taskId _, .watched events =>
    t.goTo (.menu accessKey) ((watchProgress prost moved taskId noPct events).map .notice)
  | _, _ => t

def log (t : Tool) (input : ToolInput) : Tool := { t with lines := t.lines ++ input.lines }

def step (t : Tool) (input : ToolInput) : Tool := (t.log input).turn prost medium moved input

def request (t : Tool) : Option Bytes :=
  match t.phase with
  | .status accessKey | .refreshing accessKey =>
    some (frame 10 (medium.swarmStatusRequest.encode ⟨accessKey⟩))
  | .submitting _ req _ => some (frame 12 (medium.taskSubmitRequest.encode req))
  | _ => none

end Tool

/-! What every tool submits. -/

def ToolPhase.key : ToolPhase → Option String
  | dialing k | status k | subscribing k | menu k | prompting k | refreshing k | submitting k _ _
  | watching k _ _ => some k
  | _ => none

/-- The key is the first line, without the white space around it, and not empty. -/
def KeyTyped (lines : List (Option String)) (accessKey : String) : Prop :=
  ∃ first, lines.head? = some (some first) ∧ accessKey = Text.trim first ∧ accessKey.isEmpty = false

/-- The row of the table of choices for these lines: the choice was typed, and the prompt of
the first row is the line after it. -/
def RowTyped (lines : List (Option String)) (s : Submission) : Prop :=
  ∃ before choice after, lines = before ++ some choice :: after ∧
    ((Text.trim choice ≠ "1" ∧ submissionFor (Text.trim choice) "" = some s) ∨
      (Text.trim choice = "1" ∧ ∃ line rest, after = some line :: rest ∧
        (Text.trim line).isEmpty = false ∧ s = ollamaSubmission (Text.trim line)))

def Chosen (lines : List (Option String)) (req : TaskSubmitRequest) : Prop :=
  KeyTyped lines req.accessKey ∧
    ∃ s uuid, RowTyped lines s ∧ req = s.request req.accessKey uuid

structure Tool.Lawful (t : Tool) : Prop where
  fresh : t.phase = .accessKey → t.lines = []
  key : ∀ k, t.phase.key = some k → KeyTyped t.lines k
  prompting : ∀ k, t.phase = .prompting k →
    ∃ before choice, t.lines = before ++ [some choice] ∧ Text.trim choice = "1"
  asked : ∀ req ∈ t.asked, Chosen t.lines req
  submitting : ∀ k req timeout, t.phase = .submitting k req timeout → t.asked.getLast? = some req
  accepted : ∀ p ∈ t.accepted, p.1 ∈ t.asked
  watching : ∀ k id timeout, t.phase = .watching k id timeout →
    ∃ req, t.asked.getLast? = some req ∧ t.accepted.getLast? = some (req, id)

/-- Neither a line of text nor, where a response of this type is waited for, a response. -/
def ToolInput.Unreadable (medium : MediumProst) : ToolInput → Prop
  | .line text _ => text = none
  | .exchanged (.received result) => ∃ payload,
      (receiveFramed result = .ok (11, payload) ∧
        medium.swarmStatusResponse.decode payload = none) ∨
      (receiveFramed result = .ok (13, payload) ∧ medium.taskSubmitResponse.decode payload = none)
  | _ => False

/-- The last line is text, and reads so without the white space around it. -/
def Tool.Read (t : Tool) (line : String) : Prop :=
  ∃ text, t.lines.getLast? = some (some text) ∧ line = Text.trim text

/-- The tool moves on without a request, an acceptance or news of a task. -/
structure Tool.Moves (t : Tool) (input : ToolInput) (after : Tool) : Prop where
  lines : after.lines = t.lines
  asked : after.asked = t.asked
  accepted : after.accepted = t.accepted
  quiet : ∀ n, .notice n ∈ after.screen → .notice n ∈ t.screen
  entering : after.phase = .accessKey → t.phase = .accessKey ∧ input.lines = []
  key : ∀ k, after.phase.key = some k →
    t.phase.key = some k ∨ (t.phase = .accessKey ∧ t.Read k ∧ k.isEmpty = false)
  prompting : ∀ k, after.phase = .prompting k →
    (t.phase = .prompting k ∧ input.lines = []) ∨ t.Read "1"
  submitting : ∀ k req timeout, after.phase = .submitting k req timeout → t.phase = after.phase
  watching : ∀ k id timeout, after.phase = .watching k id timeout → t.phase = after.phase
  panicked : after.phase = .panicked → t.phase = .panicked

/-- A row is picked in the menu, or by the prompt for the first one. -/
def Tool.Picks (t : Tool) (s : Submission) : Prop :=
  (∃ choice, t.Read choice ∧ choice ≠ "1" ∧ submissionFor choice "" = some s) ∨
    ∃ k line, t.phase = .prompting k ∧ t.Read line ∧ line.isEmpty = false ∧
      s = ollamaSubmission line

/-- Everything that an input can do. -/
inductive Tool.Stepped (prost : Prost) (medium : MediumProst) (moved : F32 → F32 → Bool) (t : Tool)
    (input : ToolInput) : Tool → Prop where
  | moves (after : Tool) : t.Moves input after → Stepped prost medium moved t input after
  | panics : input.Unreadable medium → Stepped prost medium moved t input (t.goTo .panicked [])
  | asks (k : String) (s : Submission) (uuid : UuidV4) : t.phase.key = some k → input.lines ≠ [] →
      t.Picks s →
      Stepped prost medium moved t input (t.submit k s uuid)
  | accepts (k : String) (req : TaskSubmitRequest) (timeout : Nat) (result : Except String Bytes)
      (payload : Bytes) (response : TaskSubmitResponse) : t.phase = .submitting k req timeout →
      input = .exchanged (.received result) → receiveFramed result = .ok (13, payload) →
      medium.taskSubmitResponse.decode payload = some response →
      Stepped prost medium moved t input { t.goTo (.watching k response.taskId timeout)
          [.line ("  ✓ Accepted  →  task ID: " ++ response.taskId),
            .line "  Waiting for swarm to pick up and execute the task..."] with
        accepted := t.accepted ++ [(req, response.taskId)] }
  | watched (k id : String) (timeout : Nat) (events : List SubEvent) :
      t.phase = .watching k id timeout → input = .watched events →
      Stepped prost medium moved t input
        (t.goTo (.menu k) ((watchProgress prost moved id noPct events).map .notice))

section Step
variable {prost : Prost} {medium : MediumProst} {moved : F32 → F32 → Bool} {t : Tool}
  {input : ToolInput}

def Screen.isNotice : Screen → Bool
  | .notice _ => true
  | _ => false

theorem appended_quiet {screen shown : List Screen} (quiet : ∀ s ∈ shown, s.isNotice = false)
    (n : Notice) (member : .notice n ∈ screen ++ shown) : .notice n ∈ screen := by
  rcases List.mem_append.mp member with old | new
  · exact old
  · cases quiet _ new

theorem goTo_moves {phase : ToolPhase} {shown : List Screen}
    (quiet : ∀ s ∈ shown, s.isNotice = false)
    (key : ∀ k, phase.key = some k →
      t.phase.key = some k ∨ (t.phase = .accessKey ∧ t.Read k ∧ k.isEmpty = false))
    (prompting : ∀ k, phase = .prompting k → t.Read "1")
    (submitting : ∀ k req timeout, phase ≠ .submitting k req timeout)
    (watching : ∀ k id timeout, phase ≠ .watching k id timeout)
    (entered : phase ≠ .accessKey) (alive : phase ≠ .panicked) :
    t.Stepped prost medium moved input (t.goTo phase shown) := by
  refine .moves _ ⟨rfl, rfl, rfl, appended_quiet quiet, fun same => absurd same entered, key,
    fun k same => Or.inr (prompting k same), ?_, ?_, fun same => absurd same alive⟩
  · exact fun k req timeout same => absurd same (submitting k req timeout)
  · exact fun k id timeout same => absurd same (watching k id timeout)

theorem exit_stepped (code : Nat) {shown : List Screen} (quiet : ∀ s ∈ shown, s.isNotice = false) :
    t.Stepped prost medium moved input (t.goTo (.exited code) shown) :=
  goTo_moves quiet nofun nofun nofun nofun nofun nofun

theorem exitWith_stepped (errors : List String) :
    t.Stepped prost medium moved input (t.exitWith errors) := by
  refine exit_stepped 1 ?_
  intro s member
  obtain ⟨e, _, rfl⟩ := List.mem_map.mp member
  rfl

theorem stepped_keeps {phase : ToolPhase} {k : String} (key : t.phase.key = some k)
    (kept : phase = .subscribing k ∨ phase = .menu k ∨ phase = .refreshing k ∨ phase = .status k)
    {shown : List Screen} (quiet : ∀ s ∈ shown, s.isNotice = false) :
    t.Stepped prost medium moved input (t.goTo phase shown) := by
  rcases kept with rfl | rfl | rfl | rfl
  all_goals
    refine goTo_moves quiet ?_ nofun nofun nofun nofun nofun
    intro other same
    cases same
    exact Or.inl key

theorem menu_stepped {k : String} (key : t.phase.key = some k) {shown : List Screen}
    (quiet : ∀ s ∈ shown, s.isNotice = false) :
    t.Stepped prost medium moved input (t.goTo (.menu k) shown) :=
  stepped_keeps key (Or.inr (Or.inl rfl)) quiet

theorem one_quiet {line : Screen} (quiet : line.isNotice = false) : ∀ s ∈ [line],
    s.isNotice = false :=
  List.forall_mem_singleton.mpr quiet

theorem statusLines_quiet (noCapabilities : String) (status : SwarmStatusResponse) :
    ∀ s ∈ statusLines noCapabilities status, s.isNotice = false :=
  List.forall_mem_cons.mpr ⟨rfl, one_quiet rfl⟩

theorem noNodesLines_quiet (status : SwarmStatusResponse) :
    ∀ s ∈ noNodesLines status, s.isNotice = false := by
  unfold noNodesLines
  split
  · exact List.forall_mem_cons.mpr ⟨rfl, one_quiet rfl⟩
  · nofun

theorem enter_stepped {k : String} (key : t.phase.key = some k) {result : Exchanged}
    (given : input = .exchanged result) : t.Stepped prost medium moved input
    (t.enter medium k result) := by
  unfold Tool.enter
  split
  · exact exitWith_stepped _
  next result =>
    split
    · exact exitWith_stepped _
    next msgType payload received =>
      split
      · exact exitWith_stepped _
      next status =>
        have isStatus : msgType = 11 := by simpa using status
        split
        next undecoded =>
          rw [given]
          exact .panics ⟨payload, Or.inl ⟨by rw [received, isStatus], undecoded⟩⟩
        next status _ =>
          split
          · exact exitWith_stepped _
          · refine stepped_keeps key (Or.inl rfl) (List.forall_mem_cons.mpr ⟨rfl, ?_⟩)
            exact List.forall_mem_append.mpr ⟨statusLines_quiet _ status, noNodesLines_quiet status⟩

theorem choose_stepped {k : String} (key : t.phase.key = some k) {choice : String}
    (read : t.Read choice)
    (typed : input.lines ≠ []) (uuid : UuidV4) : t.Stepped prost medium moved input
    (t.choose k choice uuid) := by
  unfold Tool.choose
  split
  · exact exit_stepped 0 (one_quiet rfl)
  · split
    · exact stepped_keeps key (by simp) nofun
    · split
      next first =>
        rw [first] at read
        refine goTo_moves nofun ?_ (fun _ _ => read) nofun nofun nofun nofun
        intro other same
        cases same
        exact Or.inl key
      next other =>
        split
        next s found => exact .asks k s uuid key typed (Or.inl ⟨choice, read, other, found⟩)
        next => exact menu_stepped key (one_quiet rfl)

theorem prompt_stepped {k line : String} (prompting : t.phase = .prompting k) (read : t.Read line)
    (typed : input.lines ≠ []) (uuid : UuidV4) :
    t.Stepped prost medium moved input (t.prompt k line uuid) := by
  have key : t.phase.key = some k := congrArg ToolPhase.key prompting
  unfold Tool.prompt
  split
  · exact menu_stepped key (one_quiet rfl)
  next filled =>
    exact .asks k _ uuid key typed (Or.inr ⟨k, line, prompting, read, by simpa using filled, rfl⟩)

theorem refresh_stepped {k : String} (key : t.phase.key = some k) (result : Exchanged) :
    t.Stepped prost medium moved input (t.refresh medium k result) := by
  have back : t.Stepped prost medium moved input (t.goTo (.menu k) []) := menu_stepped key nofun
  unfold Tool.refresh
  split
  · exact back
  · split
    · exact back
    · split
      · split
        · exact back
        · exact menu_stepped key (statusLines_quiet _ _)
      · exact back

theorem submitted_stepped {k : String} {req : TaskSubmitRequest} {timeout : Nat}
    (phase : t.phase = .submitting k req timeout) {result : Exchanged}
    (given : input = .exchanged result) :
    t.Stepped prost medium moved input (t.submitted medium k req timeout result) := by
  have key : t.phase.key = some k := by rw [phase]; rfl
  have back (line : Screen) (quiet : line.isNotice = false) :
      t.Stepped prost medium moved input (t.goTo (.menu k) [line]) :=
        menu_stepped key (one_quiet quiet)
  unfold Tool.submitted
  split
  · exact back _ rfl
  next result =>
    split
    · exact back _ rfl
    next msgType payload received =>
      split
      · exact back _ rfl
      next response =>
        have isResponse : msgType = 13 := by simpa using response
        rw [isResponse] at received
        split
        next undecoded =>
          rw [given]
          exact .panics ⟨payload, Or.inr ⟨received, undecoded⟩⟩
        next response decoded =>
          split
          · exact back _ rfl
          · exact .accepts k req timeout result payload response phase given received decoded

theorem line_typed (text : Option String) (uuid : UuidV4) : (ToolInput.line text uuid).lines ≠ [] :=
  List.cons_ne_nil _ _

theorem no_line (untyped : ∀ uuid, input ≠ .line none uuid)
    (typed : ∀ text uuid, input ≠ .line (some text) uuid) :
    input.lines = [] := by
  cases input with
  | line text uuid =>
    cases text with
    | none => exact absurd rfl (untyped uuid)
    | some text => exact absurd rfl (typed text uuid)
  | _ => rfl

theorem idle_stepped (silent : (t.phase = .accessKey ∨ ∃ k, t.phase = .prompting k) →
    input.lines = []) :
    t.Stepped prost medium moved input t := by
  refine .moves t ⟨rfl, rfl, rfl, fun _ member => member, ?_, fun _ same => Or.inl same, ?_,
    fun _ _ _ _ => rfl, fun _ _ _ _ => rfl, fun same => same⟩
  · exact fun same => ⟨same, silent (Or.inl same)⟩
  · exact fun k same => Or.inl ⟨same, silent (Or.inr ⟨k, same⟩)⟩

theorem turn_stepped (prost : Prost) (medium : MediumProst) (moved : F32 → F32 → Bool) (t : Tool)
    (input : ToolInput)
    (read : ∀ text uuid, input = .line (some text) uuid → t.Read (Text.trim text)) :
    t.Stepped prost medium moved input (t.turn prost medium moved input) := by
  unfold Tool.turn
  split
  · exact .panics rfl
  next text uuid phase =>
    dsimp only
    split
    · exact exitWith_stepped _
    next filled =>
      refine goTo_moves nofun ?_ nofun nofun nofun nofun nofun
      intro k same
      cases same
      exact Or.inr ⟨phase, read text uuid rfl, by simpa using filled⟩
  · exact exitWith_stepped _
  next phase => exact stepped_keeps (congrArg ToolPhase.key phase) (by simp) nofun
  next phase => exact enter_stepped (congrArg ToolPhase.key phase) rfl
  next phase => exact menu_stepped (congrArg ToolPhase.key phase) (one_quiet rfl)
  next phase => exact menu_stepped (congrArg ToolPhase.key phase) nofun
  · exact .panics rfl
  next text uuid phase =>
    exact choose_stepped (congrArg ToolPhase.key phase) (read text uuid rfl) (line_typed _ uuid)
      uuid
  · exact .panics rfl
  next text uuid phase => exact prompt_stepped phase (read text uuid rfl) (line_typed _ uuid) uuid
  next phase => exact refresh_stepped (congrArg ToolPhase.key phase) _
  next phase => exact submitted_stepped phase rfl
  next events phase => exact .watched _ _ _ events phase rfl
  next keyNone keyLine _ _ _ _ _ _ _ promptNone promptLine _ _ _ =>
    refine idle_stepped ?_
    rintro (same | ⟨k, same⟩)
    · exact no_line (fun uuid => keyNone uuid same) fun text uuid => keyLine text uuid same
    · exact no_line (fun uuid => promptNone k uuid same) fun text uuid =>
        promptLine k text uuid same

theorem tool_stepped (prost : Prost) (medium : MediumProst) (moved : F32 → F32 → Bool) (t : Tool)
    (input : ToolInput) :
    (t.log input).Stepped prost medium moved input (t.step prost medium moved input) := by
  refine turn_stepped prost medium moved (t.log input) input ?_
  rintro text uuid rfl
  exact ⟨text, List.getLast?_concat, rfl⟩

theorem step_lines (t : Tool) (input : ToolInput) :
    (t.step prost medium moved input).lines = t.lines ++ input.lines := by
  have stepped := tool_stepped prost medium moved t input
  generalize t.step prost medium moved input = after at stepped
  cases stepped with
  | moves _ moves => exact moves.lines
  | _ => rfl

theorem KeyTyped.mono {lines : List (Option String)} {k : String} (typed : KeyTyped lines k)
    (more : List (Option String)) : KeyTyped (lines ++ more) k := by
  obtain ⟨first, head, rest⟩ := typed
  exact ⟨first, by rw [List.head?_append, head, Option.some_or], rest⟩

theorem Chosen.mono {lines : List (Option String)} {req : TaskSubmitRequest}
    (chosen : Chosen lines req)
    (more : List (Option String)) : Chosen (lines ++ more) req := by
  obtain ⟨key, s, uuid, ⟨before, choice, after, split, row⟩, same⟩ := chosen
  refine ⟨key.mono more, s, uuid, ⟨before, choice, after ++ more, by rw [split]; simp, ?_⟩, same⟩
  rcases row with other | ⟨first, line, rest, next, prompt⟩
  · exact Or.inl other
  · exact Or.inr ⟨first, line, rest ++ more, by rw [next]; rfl, prompt⟩

theorem read_line {line : String} (read : (t.log input).Read line) (typed : input.lines ≠ []) :
    ∃ text, input.lines = [some text] ∧ line = Text.trim text := by
  obtain ⟨text, last, same⟩ := read
  cases input with
  | line given uuid =>
    have logged : (t.log (.line given uuid)).lines = t.lines ++ [given] := rfl
    rw [logged, List.getLast?_concat] at last
    exact ⟨text, congrArg (fun l => [l]) (Option.some.inj last), same⟩
  | _ => exact absurd rfl typed

theorem read_concat {line : String} (read : t.Read line) :
    ∃ before text, t.lines = before ++ [some text] ∧ line = Text.trim text := by
  obtain ⟨text, last, same⟩ := read
  exact ⟨t.lines.dropLast, text, (List.dropLast_append_getLast? _ last).symm, same⟩

theorem row_typed (inv : t.Lawful) {s : Submission} (typed : input.lines ≠ [])
    (picks : (t.log input).Picks s) :
    RowTyped (t.lines ++ input.lines) s := by
  rcases picks with ⟨choice, read, other, found⟩ | ⟨k, line, prompting, read, filled, row⟩
  · obtain ⟨before, text, split, rfl⟩ := read_concat read
    exact ⟨before, text, [], split, Or.inl ⟨other, found⟩⟩
  · obtain ⟨before, choice, split, first⟩ := inv.prompting k prompting
    obtain ⟨text, given, rfl⟩ := read_line read typed
    exact ⟨before, choice, [some text], by rw [split, given]; simp,
      Or.inr ⟨first, text, [], rfl, filled, row⟩⟩

theorem key_typed (fresh : t.lines = []) {k : String} (read : (t.log input).Read k)
    (filled : k.isEmpty = false) : KeyTyped (t.lines ++ input.lines) k := by
  have typed : input.lines ≠ [] := by
    intro silent
    obtain ⟨text, last, _⟩ := read
    have none : (t.log input).lines = [] := by
      rw [Tool.log, fresh, silent]
      rfl
    rw [none] at last
    cases last
  obtain ⟨text, given, rfl⟩ := read_line read typed
  exact ⟨text, by rw [fresh, given]; rfl, rfl, filled⟩

theorem Tool.Lawful.step (inv : t.Lawful) : (t.step prost medium moved input).Lawful := by
  have stepped := tool_stepped prost medium moved t input
  generalize t.step prost medium moved input = after at stepped
  have asked : ∀ req ∈ t.asked, Chosen (t.lines ++ input.lines) req :=
    fun req member => (inv.asked req member).mono _
  have key (k : String) (same : t.phase.key = some k) : KeyTyped (t.lines ++ input.lines) k :=
    (inv.key k same).mono _
  cases stepped with
  | moves _ moves =>
    constructor
    · intro same
      obtain ⟨entering, silent⟩ := moves.entering same
      rw [moves.lines, Tool.log, silent, inv.fresh entering]
      rfl
    · intro k same
      rw [moves.lines]
      rcases moves.key k same with before | ⟨entering, read, filled⟩
      · exact key k before
      · exact key_typed (inv.fresh entering) read filled
    · intro k same
      rw [moves.lines]
      rcases moves.prompting k same with ⟨before, silent⟩ | first
      · rw [Tool.log, silent, List.append_nil]
        exact inv.prompting k before
      · obtain ⟨before, text, split, one⟩ := read_concat first
        exact ⟨before, text, split, one.symm⟩
    · rw [moves.asked, moves.lines]
      exact asked
    · intro k req timeout same
      rw [moves.asked]
      exact inv.submitting k req timeout ((moves.submitting k req timeout same).trans same)
    · rw [moves.accepted, moves.asked]
      exact inv.accepted
    · intro k id timeout same
      rw [moves.asked, moves.accepted]
      exact inv.watching k id timeout ((moves.watching k id timeout same).trans same)
  | panics _ => exact ⟨nofun, nofun, nofun, asked, nofun, inv.accepted, nofun⟩
  | asks k s uuid held typed picks =>
    refine ⟨nofun, ?_, nofun, ?_, ?_, ?_, nofun⟩
    · intro other same
      cases same
      exact key k held
    · intro req member
      rcases List.mem_append.mp member with old | new
      · exact asked req old
      · rw [List.mem_singleton.mp new]
        exact ⟨key k held, s, uuid, row_typed inv typed picks, rfl⟩
    · intro other req timeout same
      cases same
      exact List.getLast?_concat
    · intro p member
      exact List.mem_append_left _ (inv.accepted p member)
  | accepts k req timeout result payload response phase _ _ _ =>
    refine ⟨nofun, ?_, nofun, asked, nofun, ?_, ?_⟩
    · intro other same
      cases same
      exact key k (congrArg ToolPhase.key phase)
    · intro p member
      rcases List.mem_append.mp member with old | new
      · exact inv.accepted p old
      · rw [List.mem_singleton.mp new]
        exact List.mem_of_getLast? (inv.submitting k req timeout phase)
    · intro other id timeout same
      cases same
      exact ⟨req, inv.submitting k req timeout phase, List.getLast?_concat⟩
  | watched k id timeout events phase _ =>
    refine ⟨nofun, ?_, nofun, asked, nofun, inv.accepted, nofun⟩
    intro other same
    cases same
    exact key k (congrArg ToolPhase.key phase)

/-! What an input adds to the logs and to the screen. -/

namespace Tool.Stepped
variable {after : Tool} (stepped : t.Stepped prost medium moved input after)

include stepped

theorem asked_mono : ∀ req ∈ t.asked, req ∈ after.asked := by
  intro req member
  cases stepped with
  | moves _ moves => rwa [moves.asked]
  | asks k s uuid _ _ _ => exact List.mem_append_left _ member
  | _ => exact member

theorem accepted_mono : ∀ p ∈ t.accepted, p ∈ after.accepted := by
  intro p member
  cases stepped with
  | moves _ moves => rwa [moves.accepted]
  | accepts k req timeout result payload response _ _ _ _ => exact List.mem_append_left _ member
  | _ => exact member

theorem accepted_new {p : TaskSubmitRequest × String} (member : p ∈ after.accepted) :
    p ∈ t.accepted ∨
    ∃ k timeout result payload response, t.phase = .submitting k p.1 timeout ∧
      input = .exchanged (.received result) ∧ receiveFramed result = .ok (13, payload) ∧
      medium.taskSubmitResponse.decode payload = some response ∧ p.2 = response.taskId := by
  cases stepped with
  | moves _ moves =>
    rw [moves.accepted] at member
    exact Or.inl member
  | accepts k req timeout result payload response phase given received decoded =>
    rcases List.mem_append.mp member with old | new
    · exact Or.inl old
    · rw [List.mem_singleton.mp new]
      exact Or.inr ⟨k, timeout, result, payload, response, phase, given, received, decoded, rfl⟩
  | _ => exact Or.inl member

theorem broken (panicked : after.phase = .panicked) : t.phase = .panicked ∨
    input.Unreadable medium := by
  cases stepped with
  | moves _ moves => exact Or.inl (moves.panicked panicked)
  | panics unreadable => exact Or.inr unreadable
  | _ => cases panicked

theorem shown_new {n : Notice} (member : .notice n ∈ after.screen) : .notice n ∈ t.screen ∨
    ∃ k id timeout events, t.phase = .watching k id timeout ∧ input = .watched events ∧
      n ∈ watchProgress prost moved id noPct events := by
  cases stepped with
  | moves _ moves => exact Or.inl (moves.quiet n member)
  | panics _ => exact Or.inl (appended_quiet (List.forall_mem_nil _) n member)
  | asks k s uuid _ _ _ => exact Or.inl (appended_quiet (one_quiet rfl) n member)
  | accepts k req timeout result payload response _ _ _ _ =>
    exact Or.inl (appended_quiet (List.forall_mem_cons.mpr ⟨rfl, one_quiet rfl⟩) n member)
  | watched k id timeout events phase given =>
    rcases List.mem_append.mp member with old | new
    · exact Or.inl old
    · obtain ⟨m, inPrinted, same⟩ := List.mem_map.mp new
      cases same
      exact Or.inr ⟨k, id, timeout, events, phase, given, inPrinted⟩

end Tool.Stepped

theorem asking_waits (asking : t.request medium ≠ none)
    (other : ∀ result, input ≠ .exchanged result) :
    (t.step prost medium moved input).request medium = t.request medium := by
  obtain ⟨phase, screen, lines, asked, accepted⟩ := t
  cases phase with
  | status k | refreshing k | submitting k req timeout =>
    cases input with
    | exchanged result => exact absurd rfl (other result)
    | _ => rfl
  | _ => exact absurd rfl asking

end Step

theorem Tool.Lawful.start : Tool.start.Lawful :=
  ⟨fun _ => rfl, nofun, nofun, nofun, nofun, nofun, nofun⟩

theorem Chosen.category {lines : List (Option String)} {req : TaskSubmitRequest}
    (chosen : Chosen lines req) :
    submittedType req.category ≠ .interactiveLowLatency := by
  obtain ⟨_, s, uuid, ⟨_, choice, _, _, row⟩, same⟩ := chosen
  rw [same]
  rcases row with ⟨first, found⟩ | ⟨_, _, _, _, _, row⟩
  · rw [submissionFor, if_neg first] at found
    split at found
    · cases found
      exact nofun
    · split at found
      · cases found
        exact nofun
      · cases found
  · rw [row]
    exact nofun

section Run
variable (prost : Prost) (medium : MediumProst) (moved : F32 → F32 → Bool)

def session (inputs : List ToolInput) : Tool :=
  run (Tool.step prost medium moved) .start inputs

theorem session_lines (inputs : List ToolInput) :
    (session prost medium moved inputs).lines = inputs.flatMap ToolInput.lines := by
  induction inputs using List.reverseRecOn with
  | nil => rfl
  | append_singleton inputs input ih =>
    have last : session prost medium moved (inputs ++ [input]) =
        (session prost medium moved inputs).step prost medium moved input :=
          run_append _ inputs [input]
    rw [last, step_lines, ih]
    simp

/-- In every session, whatever is typed and whatever the hub answers, the tool submits the
rows that were typed, under the key that was typed first, never a task of the interactive
category, and watches only what was accepted of them. -/
theorem sessions_are_lawful (inputs : List ToolInput) :
    (session prost medium moved inputs).lines = inputs.flatMap ToolInput.lines ∧
      (session prost medium moved inputs).Lawful ∧
      ∀ req ∈ (session prost medium moved inputs).asked,
        submittedType req.category ≠ .interactiveLowLatency := by
  have inv : (session prost medium moved inputs).Lawful :=
    run_invariant (fun _ _ before => before.step) Tool.Lawful.start inputs
  exact ⟨session_lines prost medium moved inputs, inv, fun req asked =>
    (inv.asked req asked).category⟩

end Run

end SeamlessSwarm
