import SeamlessSwarm.Lib.Requests
import SeamlessSwarm.Disclosure
import SeamlessSwarm.Session

/-! Any number of medium tools in front of the swarm. A tool's requests and the replies to
them may be lost, be late or come again; what the tool has given up on may still be served.
The server pushes what it has accepted before it replies, and the push blocks while no
worker is connected: such a reply is one that does not arrive, and no request is served
after it. So nothing here says that a request is ever answered. -/
namespace SeamlessSwarm
open Trace Requests

inductive Elsewhere where
  | failed
  | progressFailed
  | fleet (a : FleetStep)

def Elsewhere.step : Elsewhere → ClusterStep
  | failed => .failed
  | progressFailed => .progressFailed
  | fleet a => .fleet a

/-- What comes from the terminal, from dialing, or from the progress socket, which yields
frames that were broadcast. -/
def ToolInput.isLocal (published : List Bytes) : ToolInput → Bool
  | .exchanged _ => false
  | .watched events => events.all fun
    | .message msg => decide (msg ∈ published)
    | _ => true
  | _ => true

def Cluster.reply (medium : MediumProst) (s : Cluster) (uuid : UuidV4) (msg : Bytes) :
    Option Bytes :=
  if s.receiving then
    (mediumAnswer medium s.fleet.hub.scheduler.registry uuid msg).map (MediumAnswer.reply medium)
  else none

section Service
variable (prost : Prost) (medium : MediumProst) (moved : F32 → F32 → Bool)

def mediumService : Service Tool ToolInput Cluster UuidV4 Elsewhere Bytes Bytes where
  request _ t := t.request medium
  act _ t input := t.step prost medium moved input
  isLocal s input := input.isLocal s.fleet.published
  serve s _ uuid query := (s.step prost medium (.receive uuid query), s.reply medium uuid query)
  other s a := s.step prost medium a.step
  refused e := .exchanged (.sendFailed e)
  lost e := .exchanged (.received (.error e))
  answered answer := .exchanged (.received (.ok answer))

abbrev World : Type := State Tool Cluster Bytes Bytes

abbrev WorldStep : Type := Step ToolInput UuidV4 Elsewhere

/-- The tools are started one after another, each when its first input comes. -/
def world (registry : EphemeralRegistry) (progressPub : Bool) (steps : List WorldStep) : World :=
  run (mediumService prost medium moved).step (Service.start .start (.start registry progressPub))
    steps

end Service

def Cluster.Took (s : Cluster) (req : TaskSubmitRequest) (id : String) : Prop :=
  ∃ a ∈ s.accepted, a.req = req ∧ a.taskId = id

/-- A request of a tool: for the status under a key, or for a task that the tool has put up. -/
def Tool.Asks (medium : MediumProst) (t : Tool) (query : Bytes) : Prop :=
  (∃ k, k.isEmpty = false ∧ query = frame 10 (medium.swarmStatusRequest.encode ⟨k⟩)) ∨
    ∃ req ∈ t.asked, query = frame 12 (medium.taskSubmitRequest.encode req)

/-- A reply: a granted status to a status request, an acceptance to a submission. -/
def Cluster.Answers (medium : MediumProst) (s : Cluster) (query answer : Bytes) : Prop :=
  (∃ k status, query = frame 10 (medium.swarmStatusRequest.encode ⟨k⟩) ∧
    answer = frame 11 (medium.swarmStatusResponse.encode status) ∧ status.authorized = true) ∨
  ∃ req id, query = frame 12 (medium.taskSubmitRequest.encode req) ∧ s.Took req id ∧
    answer = frame 13 (medium.taskSubmitResponse.encode
      ⟨true, id, "Task queued for dispatch to swarm"⟩)

/-- A tool keeps to its table and breaks at its terminal only, believes accepted only what
the hub has accepted, and shows of a task only what it has heard of it. -/
structure Tool.Trusts (prost : Prost) (moved : F32 → F32 → Bool) (s : Cluster) (t : Tool) :
    Prop where
  lawful : t.Lawful
  broken : t.phase = .panicked → none ∈ t.lines
  told : ∀ p ∈ t.accepted, s.Took p.1 p.2
  shown : ∀ notice, .notice notice ∈ t.screen → ∃ req id events,
    (req, id) ∈ t.accepted ∧ Heard s events ∧ notice ∈ watchProgress prost moved id noPct events

/-- A later state of a tool, and of the swarm: logs and broadcasts grow. -/
structure Tool.Later (t after : Tool) : Prop where
  asked : ∀ req ∈ t.asked, req ∈ after.asked
  accepted : ∀ p ∈ t.accepted, p ∈ after.accepted

structure Cluster.After (s t : Cluster) : Prop where
  accepted : ∀ a ∈ s.accepted, a ∈ t.accepted
  published : ∀ msg ∈ s.fleet.published, msg ∈ t.fleet.published

def Cluster.Serves (s : Cluster) (tools : Nat → Tool) : Prop :=
  ∀ a ∈ s.accepted, ∃ n, a.req ∈ (tools n).asked

/-! What a frame of a tool or of the hub is read as. -/

theorem receiveFramed_ok (msg : Bytes) : receiveFramed (.ok msg) = recvFramed msg :=
  rfl

theorem receiveFramed_frame {msgType : UInt8} {payload : Bytes}
    (fits : payload.length < 4294967296) :
    receiveFramed (.ok (frame msgType payload)) = .ok (msgType, payload) := by
  rw [receiveFramed_ok, recvFramed, header_frame, Nat.mod_eq_of_lt fits]
  simp only [Nat.lt_irrefl, if_false, List.take_length]

theorem answer_read {medium : MediumProst} {s : Cluster} {query answer : Bytes}
    (answers : s.Answers medium query answer) (fits : answer.length < 4294967301) :
    (∃ payload status, receiveFramed (.ok answer) = .ok (11, payload) ∧
      medium.swarmStatusResponse.decode payload = some status) ∨
    ∃ req id payload message, query = frame 12 (medium.taskSubmitRequest.encode req) ∧
      s.Took req id ∧
      receiveFramed (.ok answer) = .ok (13, payload) ∧
        medium.taskSubmitResponse.decode payload = some ⟨true, id, message⟩ := by
  rcases answers with ⟨k, status, _, rfl, _⟩ | ⟨req, id, asked, took, rfl⟩
  · have short := payload_fits fits
    exact Or.inl ⟨_, status, receiveFramed_frame short,
      medium.swarmStatusResponse.decode_encode _ short⟩
  · have short := payload_fits fits
    exact Or.inr ⟨req, id, _, _, asked, took, receiveFramed_frame short,
      medium.taskSubmitResponse.decode_encode _ short⟩

section Served
variable {prost : Prost} {medium : MediumProst} {s : Cluster} {t : Tool} {query : Bytes}

theorem Cluster.Took.mono {u : Cluster} {req : TaskSubmitRequest} {id : String}
    (took : s.Took req id)
    (more : ∀ a ∈ s.accepted, a ∈ u.accepted) : u.Took req id := by
  obtain ⟨a, member, same⟩ := took
  exact ⟨a, more a member, same⟩

theorem Cluster.Answers.mono {u : Cluster} {answer : Bytes}
    (answers : s.Answers medium query answer)
    (more : ∀ a ∈ s.accepted, a ∈ u.accepted) : u.Answers medium query answer := by
  rcases answers with status | ⟨req, id, asked, took, same⟩
  · exact Or.inl status
  · exact Or.inr ⟨req, id, asked, took.mono more, same⟩

theorem served (asks : t.Asks medium query) (keyed : ∀ req ∈ t.asked, req.accessKey.isEmpty = false)
    (fits : query.length < 4294967301) (uuid : UuidV4) :
    (∀ a ∈ (s.step prost medium (.receive uuid query)).accepted, a ∈ s.accepted ∨
      (query = frame 12 (medium.taskSubmitRequest.encode a.req) ∧ a.req ∈ t.asked)) ∧
    ∀ answer, s.reply medium uuid query = some answer →
      (s.step prost medium (.receive uuid query)).Answers medium query answer := by
  cases receiving : s.receiving with
  | false =>
    simp only [Cluster.step, Cluster.reply, receiving, Bool.false_eq_true, if_false]
    refine ⟨fun a member => Or.inl member, ?_⟩
    intro answer replied
    cases replied
  | true =>
    rcases asks with ⟨k, filled, rfl⟩ | ⟨req, member, rfl⟩
    · have short := payload_fits fits
      have answered := status_answered (readMedium_frame (by decide) _ short)
        (medium.swarmStatusRequest.decode_encode _ short) s.fleet.hub.scheduler.registry uuid
      simp only [Cluster.step, Cluster.reply, receiving, if_true, answered]
      refine ⟨fun a member => Or.inl member, ?_⟩
      rintro answer ⟨⟩
      refine Or.inl ⟨k, _, rfl, rfl, ?_⟩
      simp only [statusResponse, filled, Bool.not_false]
    · have short := payload_fits fits
      have answered := submission_accepted medium s.fleet.hub.scheduler.registry uuid req short
        (keyed req member)
      simp only [Cluster.step, Cluster.reply, receiving, if_true, answered]
      refine ⟨?_, ?_⟩
      · intro a inAccepted
        rcases List.mem_append.mp inAccepted with old | new
        · exact Or.inl old
        · rw [List.mem_singleton.mp new]
          exact Or.inr ⟨rfl, member⟩
      · rintro answer ⟨⟩
        exact Or.inr ⟨req, _, rfl, ⟨_, List.mem_append_right _ List.mem_cons_self, rfl, rfl⟩, rfl⟩

end Served

theorem cluster_publishes (prost : Prost) (medium : MediumProst) (s : Cluster) (a : ClusterStep) :
    ∀ msg ∈ s.fleet.published, msg ∈ (s.step prost medium a).fleet.published := by
  have stepped := cluster_stepped prost medium s a
  generalize s.step prost medium a = t at stepped ⊢
  intro msg member
  cases stepped with
  | idle _ _ fleet _ _ => rwa [fleet]
  | delivered k report _ => exact receive_broadcasts prost _ _ msg member
  | _ => exact member

theorem cluster_refuses (prost : Prost) (medium : MediumProst) (s : Cluster) {a : ClusterStep}
    (other : ∀ uuid msg, a ≠ .receive uuid msg) : (s.step prost medium a).accepted =
    s.accepted := by
  have stepped := cluster_stepped prost medium s a
  generalize s.step prost medium a = t at stepped ⊢
  cases stepped with
  | idle _ _ _ accepted _ => exact accepted
  | accepted uuid msg _ _ => exact absurd rfl (other uuid msg)
  | _ => rfl

theorem Tool.Asks.mono {medium : MediumProst} {t u : Tool} {query : Bytes}
    (asks : t.Asks medium query)
    (more : ∀ req ∈ t.asked, req ∈ u.asked) : u.Asks medium query := by
  rcases asks with status | ⟨req, member, same⟩
  · exact Or.inl status
  · exact Or.inr ⟨req, more req member, same⟩

theorem Tool.Lawful.keyed {t : Tool} (inv : t.Lawful) : ∀ req ∈ t.asked,
    req.accessKey.isEmpty = false := by
  intro req member
  obtain ⟨⟨_, _, _, filled⟩, _⟩ := inv.asked req member
  exact filled

theorem Tool.Lawful.request {medium : MediumProst} {t : Tool} (inv : t.Lawful) {query : Bytes}
    (asking : t.request medium = some query) : t.Asks medium query := by
  obtain ⟨phase, screen, lines, asked, accepted⟩ := t
  cases phase with
  | status k | refreshing k =>
    cases asking
    obtain ⟨_, _, _, filled⟩ := inv.key k rfl
    exact Or.inl ⟨k, filled, rfl⟩
  | submitting k req timeout =>
    cases asking
    exact Or.inr ⟨req, List.mem_of_getLast? (inv.submitting k req timeout rfl), rfl⟩
  | _ => cases asking

/-! What a tool trusts after an input. -/

section Trust
variable {prost : Prost} {medium : MediumProst} {moved : F32 → F32 → Bool} {s : Cluster} {t : Tool}
  {input : ToolInput}

theorem Tool.Trusts.later {u : Cluster} (inv : t.Trusts prost moved s) (after : s.After u) :
    t.Trusts prost moved u := by
  refine ⟨inv.lawful, inv.broken, fun p member => (inv.told p member).mono after.accepted, ?_⟩
  intro notice member
  obtain ⟨req, id, events, accepted, heard, printed⟩ := inv.shown notice member
  exact ⟨req, id, events, accepted, fun msg inEvents => after.published msg (heard msg inEvents),
    printed⟩

theorem Tool.Trusts.stepped (inv : t.Trusts prost moved s)
    (readable : input.Unreadable medium → none ∈ input.lines)
    (heard : ∀ events, input = .watched events → Heard s events)
    (told : ∀ p ∈ (t.step prost medium moved input).accepted, s.Took p.1 p.2) :
    (t.step prost medium moved input).Trusts prost moved s := by
  have stepped := tool_stepped prost medium moved t input
  refine ⟨inv.lawful.step, ?_, told, ?_⟩
  · intro broken
    rw [step_lines]
    rcases stepped.broken broken with before | unreadable
    · exact List.mem_append_left _ (inv.broken before)
    · exact List.mem_append_right _ (readable unreadable)
  · intro notice member
    rcases stepped.shown_new member with old | ⟨k, id, timeout, events, phase, given, printed⟩
    · obtain ⟨req, id, events, accepted, rest⟩ := inv.shown notice old
      exact ⟨req, id, events, stepped.accepted_mono _ accepted, rest⟩
    · obtain ⟨req, _, accepted⟩ := inv.lawful.watching k id timeout phase
      exact ⟨req, id, events, stepped.accepted_mono _ (List.mem_of_getLast? accepted),
        heard events given, printed⟩

theorem Tool.Trusts.local (inv : t.Trusts prost moved s)
    (isLocal : input.isLocal s.fleet.published = true) :
    (t.step prost medium moved input).Trusts prost moved s := by
  have unasked : ∀ result, input ≠ .exchanged result := by
    rintro result rfl
    cases isLocal
  refine inv.stepped ?_ ?_ ?_
  · intro unreadable
    cases input with
    | line text uuid => exact List.mem_singleton.mpr (Eq.symm unreadable)
    | exchanged result => exact absurd rfl (unasked result)
    | _ => exact absurd unreadable not_false
  · rintro events rfl msg member
    have heard := List.all_eq_true.mp isLocal (.message msg) member
    simpa using heard
  · intro p member
    rcases (tool_stepped prost medium moved t input).accepted_new member with
      old | ⟨_, _, result, _, _, _, given, _⟩
    · exact inv.told p old
    · exact absurd given (unasked (.received result))

theorem Tool.Trusts.unanswered (inv : t.Trusts prost moved s) {result : Exchanged}
    (silent : ∀ r read, result = .received r → receiveFramed r ≠ .ok read) :
    (t.step prost medium moved (.exchanged result)).Trusts prost moved s := by
  refine inv.stepped ?_ nofun ?_
  · intro unreadable
    cases result with
    | sendFailed e => exact absurd unreadable not_false
    | received r =>
      obtain ⟨payload, ⟨received, _⟩ | ⟨received, _⟩⟩ := unreadable
      · exact absurd received (silent r _ rfl)
      · exact absurd received (silent r _ rfl)
  · intro p member
    rcases (tool_stepped prost medium moved t _).accepted_new member with
      old | ⟨_, _, r, payload, _, _, given, received, _⟩
    · exact inv.told p old
    · exact absurd received (silent r _ (ToolInput.exchanged.inj given))

theorem Tool.Trusts.answered (inv : t.Trusts prost moved s) {query answer : Bytes}
    (asking : t.request medium = some query) (small : query.length < 4294967301)
    (answers : s.Answers medium query answer) (short : answer.length < 4294967301) :
    (t.step prost medium moved (.exchanged (.received (.ok answer)))).Trusts prost moved s := by
  have read := answer_read answers short
  refine inv.stepped ?_ nofun ?_
  · rintro ⟨payload, ⟨received, undecoded⟩ | ⟨received, undecoded⟩⟩
    · rcases read with ⟨payload', status, received', decoded⟩ | ⟨_, _, _, _, _, _, received', _⟩
      · cases received.symm.trans received'
        cases undecoded.symm.trans decoded
      · cases received.symm.trans received'
    · rcases read with ⟨_, _, received', _⟩ | ⟨_, _, payload', _, _, _, received', decoded⟩
      · cases received.symm.trans received'
      · cases received.symm.trans received'
        cases undecoded.symm.trans decoded
  · intro p member
    rcases (tool_stepped prost medium moved t _).accepted_new member with
      old | ⟨key, timeout, result, payload, response, phase, given, received, decoded, same⟩
    · exact inv.told p old
    · cases given
      rcases read with ⟨_, _, received', _⟩ | ⟨req, id, payload', _, asked, took,
        received', decoded'⟩
      · cases received.symm.trans received'
      · cases received.symm.trans received'
        cases decoded.symm.trans decoded'
        -- the tool waits with this request, so the reply is about this one
        have own : query = frame 12 (medium.taskSubmitRequest.encode p.1) := by
          have submitting : t.phase = .submitting key p.1 timeout := phase
          rw [Tool.request, submitting] at asking
          exact (Option.some.inj asking).symm
        have encoded := (frame_eq (own.symm.trans asked)).2
        rw [own] at small
        have whole := medium.taskSubmitRequest.decode_encode p.1 (payload_fits small)
        have back := medium.taskSubmitRequest.decode_encode req (encoded ▸ payload_fits small)
        rw [← encoded, whole] at back
        cases back
        rw [same]
        exact took

end Trust

theorem cluster_after (prost : Prost) (medium : MediumProst) (s : Cluster) (a : ClusterStep) :
    s.After (s.step prost medium a) :=
  ⟨(cluster_stepped prost medium s a).grows.accepted, cluster_publishes prost medium s a⟩

theorem elsewhere_serves (prost : Prost) (medium : MediumProst) {s : Cluster} {tools : Nat → Tool}
    (inv : s.Serves tools) (a : Elsewhere) : (s.step prost medium a.step).Serves tools := by
  unfold Cluster.Serves
  rw [cluster_refuses prost medium s (by cases a <;> nofun)]
  exact inv

/-- What the tools and the swarm keep to. -/
def mediumContract (prost : Prost) (medium : MediumProst) (moved : F32 → F32 → Bool) :
    Contract (mediumService prost medium moved) where
  later := Tool.Later
  after := Cluster.After
  client s _ t := t.Trusts prost moved s
  joint := Cluster.Serves
  made _ t query := t.Asks medium query
  answers s query answer := s.Answers medium query answer
  small query := query.length < 4294967301
  short answer := answer.length < 4294967301
  fine _ := True
  calm _ := True
  later_refl _ := ⟨fun _ member => member, fun _ member => member⟩
  act_later _ t input :=
    ⟨(tool_stepped prost medium moved t input).asked_mono,
      (tool_stepped prost medium moved t input).accepted_mono⟩
  serve_after s _ uuid query := cluster_after prost medium s (.receive uuid query)
  other_after s a := cluster_after prost medium s a.step
  made_later _ _ _ _ later asks := asks.mono later.asked
  joint_later _ _ _ later inv := by
    intro a member
    obtain ⟨n, put⟩ := inv a member
    exact ⟨n, (later n).asked a.req put⟩
  client_after _ _ _ _ after inv := inv.later after
  answers_after _ _ _ _ after answers := answers.mono after.accepted
  request_made _ _ _ _ inv asking := inv.lawful.request asking
  request_waits _ _ _ _ asking isLocal := by
    refine asking_waits asking ?_
    rintro result rfl
    cases isLocal
  client_local _ _ _ _ inv isLocal _ := inv.local isLocal
  client_refused _ _ _ _ inv _ := inv.unanswered nofun
  client_lost _ _ _ _ inv _ := inv.unanswered (by rintro r read ⟨⟩; exact nofun)
  client_answered _ _ _ _ _ inv asking small answers short :=
    inv.answered asking small answers short
  serve_answers _ _ _ uuid _ answer inv made small replied :=
    (served made inv.lawful.keyed small uuid).2 answer replied
  joint_serve _ tools n uuid _ inv client made small := by
    intro a member
    rcases (served made client.lawful.keyed small uuid).1 a member with old | ⟨_, put⟩
    · exact inv a old
    · exact ⟨n, put⟩
  joint_other _ _ a inv _ := elsewhere_serves prost medium inv a

end SeamlessSwarm
