import Mathlib.Data.List.Induction
import SeamlessSwarm.Medium

/-! Accepted submissions over whole runs of the medium server. A task id keeps 32
bits of its UUID, tasks stay in the map after they end, and the map is written by
key without looking. -/
namespace SeamlessSwarm
open Trace

def TaskSubmitRequest.job (req : TaskSubmitRequest) : Job :=
  ⟨submittedType req.category, req.payload, 3, req.requiredCapabilities⟩

section Law
variable (medium : MediumProst) (registry : EphemeralRegistry)

def mediumHub (events : List MediumEvent) : MediumHub :=
  run (MediumHub.step medium) (MediumHub.start registry) events

def savedIn (taskId : String) (events : List MediumEvent) : List Bytes :=
  events.flatMap fun
    | .call c => savedBy taskId c
    | _ => []

/-- Every accepted request has a task of its own under the id returned for it: no two
share one, the task has the request's job with the checkpoints saved for it since, and
no later message to the server touches it. -/
structure NoneLost (events : List MediumEvent) : Prop where
  own : ∀ before after, events = before ++ after →
    ((mediumHub medium registry before).accepted.map Accepted.taskId).Nodup
  stored : ∀ before event since after a, events = before ++ [event] ++ since ++ after →
    (mediumHub medium registry (before ++ [event])).accepted =
      (mediumHub medium registry before).accepted ++ [a] →
    ∃ task, (mediumHub medium registry (before ++ [event] ++ since)).scheduler.tasks.get a.taskId =
        some task ∧
      task.job = a.req.job.resumed (savedIn a.taskId since)
  kept : ∀ before uuid msg after, events = before ++ .receive uuid msg :: after →
    ∀ a ∈ (mediumHub medium registry before).accepted,
      (mediumHub medium registry (before ++ [.receive uuid msg])).scheduler.tasks.get a.taskId =
        (mediumHub medium registry before).scheduler.tasks.get a.taskId

/-- The first four bytes, that is eight hexadecimal digits, of the UUIDs generated. -/
def idPrefixes (events : List MediumEvent) : List Bytes :=
  (mediumHub medium registry events).accepted.map fun a => a.uuid.bytes.take 4

end Law

/-! Task ids. -/

theorem encodeBytes_injective {bytes other : Bytes}
    (same : Hex.encodeBytes bytes = Hex.encodeBytes other) : bytes = other := by
  have decoded := Hex.decodePairs_encodeBytes 0 bytes
  rw [same, Hex.decodePairs_encodeBytes] at decoded
  cases decoded
  rfl

theorem text_take (uuid : UuidV4) : uuid.text.take 8 = Hex.encodeBytes (uuid.bytes.take 4) := by
  have eight : (Hex.encodeBytes (uuid.bytes.take 4)).length = 8 := by
    rw [Hex.encodeBytes_length, List.length_take, uuid.length]
    rfl
  simp only [UuidV4.text, List.append_assoc, List.cons_append]
  exact List.take_left' eight

theorem mediumTaskId_inj (uuid other : UuidV4) :
    mediumTaskId uuid = mediumTaskId other ↔ uuid.bytes.take 4 = other.bytes.take 4 := by
  unfold mediumTaskId
  rw [text_take, text_take]
  constructor
  · intro same
    have digits : Hex.asciiString (Hex.encodeBytes (uuid.bytes.take 4)) =
        Hex.asciiString (Hex.encodeBytes (other.bytes.take 4)) := by
      have lists := congrArg String.toList same
      rw [String.toList_append, String.toList_append] at lists
      exact String.toList_inj.mp (List.append_cancel_left lists)
    have bytes := congrArg Hex.stringBytes digits
    rw [Hex.stringBytes_asciiString _ (Hex.encodeBytes_ascii _),
      Hex.stringBytes_asciiString _ (Hex.encodeBytes_ascii _)] at bytes
    exact encodeBytes_injective bytes
  · intro same
    rw [same]

/-! What one event can do. -/

inductive MediumHub.Stepped (s : MediumHub) : MediumEvent → MediumHub → Prop where
  | idle (event : MediumEvent) (after : MediumHub) : after.scheduler = s.scheduler →
      after.accepted = s.accepted → (∀ id, savedIn id [event] = []) → Stepped s event after
  | accepted (uuid : UuidV4) (msg : Bytes) (req : TaskSubmitRequest) :
      Stepped s (.receive uuid msg)
        { s with
          scheduler := s.scheduler.submitTask (submittedTask (mediumTaskId uuid) req)
          accepted := s.accepted ++ [⟨uuid, mediumTaskId uuid, req⟩] }
  | called (c : SchedulerCall) : submitted [c] = [] →
      Stepped s (.call c) { s with scheduler := s.scheduler.call c }

theorem mediumAnswer_accepted {medium : MediumProst} {registry : EphemeralRegistry} {uuid : UuidV4}
    {msg : Bytes} {taskId : String} {req : TaskSubmitRequest} {response : TaskSubmitResponse}
    (answered : mediumAnswer medium registry uuid msg = some (.accepted taskId req response)) :
    taskId = mediumTaskId uuid ∧ response = ⟨true, taskId, "Task queued for dispatch to swarm"⟩ ∧
      req.accessKey.isEmpty = false := by
  unfold mediumAnswer at answered
  split at answered
  · cases answered
  · cases answered
  · split at answered
    · split at answered <;> cases answered
    · split at answered
      · cases answered
      · split at answered
        · cases answered
        next open' =>
          cases answered
          exact ⟨rfl, rfl, by simpa using open'⟩

theorem medium_stepped (medium : MediumProst) (s : MediumHub) (event : MediumEvent) :
    s.Stepped event (s.step medium event) := by
  cases event with
  | receive uuid msg =>
    unfold MediumHub.step
    dsimp only
    split
    · split
      · exact .idle _ _ rfl rfl fun _ => rfl
      next taskId req response answered =>
        obtain ⟨rfl, _, _⟩ := mediumAnswer_accepted answered
        exact .accepted uuid msg req
      · exact .idle _ _ rfl rfl fun _ => rfl
    · exact .idle _ _ rfl rfl fun _ => rfl
  | timedOut => exact .idle _ _ rfl rfl fun _ => rfl
  | failed => exact .idle _ _ rfl rfl fun _ => rfl
  | call c =>
    cases c with
    | submitTask taskId kind payload limit caps => exact .idle _ _ rfl rfl fun _ => rfl
    | _ => exact .called _ rfl

section Run
variable {medium : MediumProst} {registry : EphemeralRegistry}

theorem mediumHub_snoc (events : List MediumEvent) (event : MediumEvent) :
    mediumHub medium registry (events ++ [event]) =
      (mediumHub medium registry events).step medium event :=
  run_append _ events [event]

theorem accepted_grows (before after : List MediumEvent) :
    (mediumHub medium registry before).accepted <+:
      (mediumHub medium registry (before ++ after)).accepted := by
  induction after using List.reverseRecOn with
  | nil => simp
  | append_singleton after event ih =>
    rw [← List.append_assoc, mediumHub_snoc]
    apply ih.trans
    have stepped := medium_stepped medium (mediumHub medium registry (before ++ after)) event
    generalize (mediumHub medium registry (before ++ after)).step medium event = next at stepped ⊢
    cases stepped with
    | idle _ _ _ same _ => simp [same]
    | accepted uuid msg req => exact List.prefix_append _ _
    | called c _ => exact List.prefix_refl _

theorem accepted_ids (events : List MediumEvent) :
    ∀ a ∈ (mediumHub medium registry events).accepted, a.taskId = mediumTaskId a.uuid := by
  refine run_invariant (I := fun s : MediumHub => ∀ a ∈ s.accepted, a.taskId = mediumTaskId a.uuid)
    ?_ (by rintro _ ⟨⟩) events
  intro s event named
  have stepped := medium_stepped medium s event
  generalize s.step medium event = next at stepped ⊢
  cases stepped with
  | idle _ _ _ same _ => rwa [same]
  | accepted uuid msg req =>
    intro a member
    rcases List.mem_append.mp member with old | new
    · exact named a old
    · cases List.mem_singleton.mp new
      rfl
  | called c _ => exact named

theorem distinct_ids_iff (events : List MediumEvent) :
    ((mediumHub medium registry events).accepted.map Accepted.taskId).Nodup ↔
      (idPrefixes medium registry events).Nodup := by
  unfold idPrefixes List.Nodup
  rw [List.pairwise_map, List.pairwise_map]
  apply List.Pairwise.iff_of_mem
  intro a b first second
  rw [accepted_ids events a first, accepted_ids events b second, ne_eq, mediumTaskId_inj]

theorem distinct_before {before after : List MediumEvent}
    (distinct : (idPrefixes medium registry (before ++ after)).Nodup) :
    (idPrefixes medium registry before).Nodup :=
  distinct.sublist ((accepted_grows before after).sublist.map _)

/-- The task of a request, with the checkpoints saved for it. -/
def Holds (s : MediumHub) (a : Accepted) (saved : List Bytes) : Prop :=
  ∃ task, s.scheduler.tasks.get a.taskId = some task ∧ task.job = a.req.job.resumed saved

theorem holds_called {s : MediumHub} {a : Accepted} {saved : List Bytes} (held : Holds s a saved)
    {c : SchedulerCall} (quiet : submitted [c] = []) :
    Holds { s with scheduler := s.scheduler.call c } a (saved ++ savedBy a.taskId c) := by
  obtain ⟨task, found, job⟩ := held
  obtain ⟨after, later, job'⟩ :=
    call_job s.scheduler c found (by rw [quiet]; exact List.not_mem_nil)
  exact ⟨after, later, by rw [job', job, resumed_append]⟩

theorem last_id_fresh {earlier : List Accepted} {last a : Accepted}
    (ids : ((earlier ++ [last]).map Accepted.taskId).Nodup) (member : a ∈ earlier) :
    a.taskId ≠ last.taskId := by
  rw [List.map_append, List.nodup_append] at ids
  exact ids.2.2 a.taskId (List.mem_map_of_mem member) _ (List.mem_singleton_self _)

theorem submitted_get (s : ProfileScheduler) (taskId : String) (req : TaskSubmitRequest)
    (id : String) :
    (s.submitTask (submittedTask taskId req)).tasks.get id =
      if id = taskId then some (submittedTask taskId req) else s.tasks.get id :=
  s.tasks.get_insert (submittedTask taskId req) id

theorem savedIn_snoc (id : String) (events : List MediumEvent) (event : MediumEvent) :
    savedIn id (events ++ [event]) = savedIn id events ++ savedIn id [event] :=
  List.flatMap_append

theorem holds_accepted {before : List MediumEvent} {event : MediumEvent} {a : Accepted}
    (added : (mediumHub medium registry (before ++ [event])).accepted =
      (mediumHub medium registry before).accepted ++ [a]) :
    Holds (mediumHub medium registry (before ++ [event])) a [] := by
  rw [mediumHub_snoc] at added ⊢
  have stepped := medium_stepped medium (mediumHub medium registry before) event
  generalize (mediumHub medium registry before).step medium event = next at stepped added ⊢
  generalize mediumHub medium registry before = s at added stepped
  cases stepped with
  | idle _ _ _ same _ =>
    rw [same] at added
    simp at added
  | called c _ => simp at added
  | accepted uuid msg req =>
    cases List.append_cancel_left added
    exact ⟨_, (submitted_get s.scheduler _ req _).trans (if_pos rfl), rfl⟩

theorem holds_since {events since : List MediumEvent} {a : Accepted}
    (distinct : (idPrefixes medium registry (events ++ since)).Nodup)
    (member : a ∈ (mediumHub medium registry events).accepted)
    (held : Holds (mediumHub medium registry events) a []) :
    Holds (mediumHub medium registry (events ++ since)) a (savedIn a.taskId since) := by
  induction since using List.reverseRecOn with
  | nil => simpa [savedIn] using held
  | append_singleton since event ih =>
    rw [← List.append_assoc] at distinct ⊢
    have still := (accepted_grows events since).subset member
    have before := ih (distinct_before distinct)
    have ids := (distinct_ids_iff _).mpr distinct
    rw [savedIn_snoc]
    rw [mediumHub_snoc] at ids ⊢
    have stepped := medium_stepped medium (mediumHub medium registry (events ++ since)) event
    generalize (mediumHub medium registry (events ++ since)).step medium event =
      next at stepped ids ⊢
    generalize mediumHub medium registry (events ++ since) = s at before still stepped
    cases stepped with
    | idle _ _ same _ quiet =>
      rw [quiet, List.append_nil]
      unfold Holds
      rw [same]
      exact before
    | called c quiet => simpa [savedIn] using holds_called before quiet
    | accepted uuid msg req =>
      obtain ⟨task, found, job⟩ := before
      have other : a.taskId ≠ mediumTaskId uuid := last_id_fresh ids still
      refine ⟨task, by rw [submitted_get, if_neg other, found], ?_⟩
      simpa [savedIn] using job

end Run

/-- No accepted submission of a run is lost exactly when the UUIDs generated for
them differ in their first four bytes. -/
theorem none_lost_iff_prefixes_distinct (medium : MediumProst) (registry : EphemeralRegistry)
    (events : List MediumEvent) :
    NoneLost medium registry events ↔ (idPrefixes medium registry events).Nodup := by
  constructor
  · intro law
    exact (distinct_ids_iff events).mp (law.own events [] (List.append_nil events).symm)
  · intro distinct
    constructor
    · rintro before after rfl
      exact (distinct_ids_iff before).mpr (distinct_before distinct)
    · rintro before event since after a rfl added
      have member : a ∈ (mediumHub medium registry (before ++ [event])).accepted := by
        rw [added]
        exact List.mem_append_right _ (List.mem_singleton_self a)
      exact holds_since (distinct_before distinct) member (holds_accepted added)
    · rintro before uuid msg after rfl a member
      have upTo : (idPrefixes medium registry (before ++ [.receive uuid msg])).Nodup := by
        rw [← List.singleton_append, ← List.append_assoc] at distinct
        exact distinct_before distinct
      have ids := (distinct_ids_iff _).mpr upTo
      rw [mediumHub_snoc] at ids ⊢
      have stepped := medium_stepped medium (mediumHub medium registry before) (.receive uuid msg)
      generalize (mediumHub medium registry before).step medium (.receive uuid msg) = next
        at stepped ids ⊢
      generalize mediumHub medium registry before = s at member stepped ⊢
      cases stepped with
      | idle _ _ same _ _ => rw [same]
      | accepted _ _ req =>
        have other : a.taskId ≠ mediumTaskId uuid := last_id_fresh ids member
        rw [submitted_get, if_neg other]

section Example

private def firstUuid : UuidV4 where
  bytes := [1, 2, 3, 4, 0, 0, 64, 0, 128, 0, 0, 0, 0, 0, 0, 0]
  length := rfl
  version := rfl
  variant := rfl

private def secondUuid : UuidV4 where
  bytes := [1, 2, 3, 4, 0, 0, 64, 0, 128, 0, 0, 0, 0, 0, 0, 1]
  length := rfl
  version := rfl
  variant := rfl

private def request : TaskSubmitRequest := ⟨"key", "render", 1, [], []⟩

private def requestFrame : Bytes := frame 12 (mediumTopology.taskSubmitRequest.encode request)

/-- Two UUIDs that differ in their last byte give one task id. -/
theorem clashing_prefixes_lose_a_submission : firstUuid ≠ secondUuid ∧
    ¬ NoneLost mediumTopology .new
      [.receive firstUuid requestFrame, .receive secondUuid requestFrame] := by
  refine ⟨by decide, ?_⟩
  intro law
  have fits : (mediumTopology.taskSubmitRequest.encode request).length < 4294967296 := by
    decide +kernel
  have answered (registry : EphemeralRegistry) (uuid : UuidV4) :=
    submission_accepted mediumTopology registry uuid request fits rfl
  have distinct := (distinct_ids_iff _).mp (law.own _ [] (List.append_nil _).symm)
  simp only [idPrefixes, mediumHub, run_cons, run_nil, MediumHub.step, MediumHub.start,
    requestFrame,
    answered, if_true] at distinct
  revert distinct
  decide

end Example

end SeamlessSwarm
