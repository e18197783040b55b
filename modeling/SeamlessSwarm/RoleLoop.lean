import Mathlib.Data.List.Induction
import SeamlessSwarm.Leadership

/-! The role loop of a node and what the roles leave running: hub servers, the
leader's loopback worker and the pull loops of its workers. They are tasks of their own
and go on when the role function that started them returns. -/
namespace SeamlessSwarm
open Trace

inductive HubServer where
  | taskPush
  | auth
  | heartbeat
  | medium
  | progress
  deriving DecidableEq, Repr

def HubServer.all : List HubServer := [taskPush, auth, heartbeat, medium, progress]

/-- Where the role loop stands between two of its accesses to shared state. -/
inductive Role where
  | evaluating
  | unled
  | connecting (leaderId leaderTcpBase : String)
  | following (leaderId leaderTcpBase : String)
  | disconnected
  | startingHub
  | hubStarted
  | leading
  | steppedDown
  | panicked
  deriving DecidableEq, Repr

/-- A term is one call of a role function. Servers and pull loops carry the term
that started them; `calls` is the history of the election state. -/
structure Node where
  election : ElectionState
  calls : List TimedCall
  role : Role
  term : Nat
  servers : List (Nat × HubServer)
  loopbacks : List Nat
  pulls : List Nat
  deriving DecidableEq

inductive Announcement where
  | peer (nodeId : String)
  | leader (nodeId leaderTcpBase : String)
  deriving DecidableEq

def Announcement.toCall : Announcement → ElectionCall
  | peer nodeId => .observePeer nodeId
  | leader nodeId leaderTcpBase => .observeLeader nodeId leaderTcpBase

/-- `rows` is an iteration order of the peers, `free` says that no other process has
the hub's ports, and `ok` is what `run_demo_lifecycle` returns. -/
inductive NodeAction where
  | hear (announcement : Announcement)
  | evaluate (rows : List PeerInfo)
  | decide
  | connected (ok : Bool)
  | checkHealth (rows : List PeerInfo)
  | startHub (free : Bool)
  | announce
  | loopbackConnected (term : Nat) (ok : Bool)
  | monitor
  | resume
  | pullLoopEnds (term : Nat)
  | serverEnds (term : Nat) (server : HubServer)
  deriving DecidableEq

structure TimedAction where
  time : Nat
  action : NodeAction
  deriving DecidableEq

namespace Node

def start (myId : String) : Node := ⟨.new myId, [], .evaluating, 0, [], [], []⟩

def call (s : Node) (time : Nat) (call : ElectionCall) : Node :=
  { s with election := s.election.step ⟨time, call⟩, calls := s.calls ++ [⟨time, call⟩] }

def bound (s : Node) : Bool := s.servers.any fun server => server.2 = .taskPush

/-- `start_servers` panics if it cannot bind, and the process ends with the main task. -/
def startServers (s : Node) (free : Bool) : Node :=
  if free && !s.bound then
    { s with role := .hubStarted, servers := s.servers ++ HubServer.all.map fun server =>
      (s.term, server) }
  else { s with role := .panicked, servers := [], loopbacks := [], pulls := [] }

/-- The task sender loop has no way to end, and with it the two sockets of the hub
stay open. -/
def step (s : Node) (a : TimedAction) : Node :=
  match a.action, s.role with
  | .hear announcement, _ => s.call a.time announcement.toCall
  | .evaluate rows, .evaluating =>
    match (s.election.rehash rows).currentLeader a.time with
    | some (leaderId, leaderTcpBase) =>
      { s with role := .connecting leaderId leaderTcpBase, term := s.term + 1 }
    | none => { s with role := .unled }
  | .decide, .unled =>
    if s.election.iShouldBeLeader a.time then { s with role := .startingHub, term := s.term + 1 }
    else { s with role := .evaluating }
  | .connected ok, .connecting leaderId leaderTcpBase =>
    if ok then { s with role := .following leaderId leaderTcpBase, pulls := s.pulls ++ [s.term] }
    else { s with role := .disconnected }
  | .checkHealth rows, .following _ _ =>
    match (s.election.rehash rows).currentLeader a.time with
    | some _ => s
    | none => { s with role := .disconnected }
  | .startHub free, .startingHub => s.startServers free
  | .announce, .hubStarted =>
    { s.call a.time (.setIAmLeader true) with role := .leading, loopbacks :=
      s.loopbacks ++ [s.term] }
  | .loopbackConnected term ok, _ =>
    if term ∈ s.loopbacks then
      { s with
        loopbacks := s.loopbacks.erase term
        pulls := if ok then s.pulls ++ [term] else s.pulls }
    else s
  | .monitor, .leading =>
    if s.election.iShouldBeLeader a.time then s
    else { s.call a.time (.setIAmLeader false) with role := .steppedDown }
  | .resume, .disconnected => { s.call a.time .clearLeaderFlags with role := .evaluating }
  | .resume, .steppedDown => { s with role := .evaluating }
  | .pullLoopEnds term, _ => { s with pulls := s.pulls.erase term }
  | .serverEnds term server, _ =>
    if server = .taskPush then s else { s with servers := s.servers.erase (term, server) }
  | _, _ => s

end Node

def node (myId : String) (actions : List TimedAction) : Node :=
  run Node.step (Node.start myId) actions

/-- What one action can do, apart from nothing. -/
inductive Node.Stepped (s : Node) (time : Nat) : NodeAction → Node → Prop where
  | idle (action : NodeAction) : Stepped s time action s
  | hears (announcement : Announcement) :
      Stepped s time (.hear announcement) (s.call time announcement.toCall)
  | joins (rows : List PeerInfo) (leaderId leaderTcpBase : String) (here : s.role = .evaluating) :
      Stepped s time (.evaluate rows)
        { s with role := .connecting leaderId leaderTcpBase, term := s.term + 1 }
  | misses (rows : List PeerInfo) (here : s.role = .evaluating) :
      Stepped s time (.evaluate rows) { s with role := .unled }
  | stands (here : s.role = .unled) :
      Stepped s time .decide { s with role := .startingHub, term := s.term + 1 }
  | waits (here : s.role = .unled) : Stepped s time .decide { s with role := .evaluating }
  | connects (leaderId leaderTcpBase : String)
    (here : s.role = .connecting leaderId leaderTcpBase) :
      Stepped s time (.connected true)
        { s with role := .following leaderId leaderTcpBase, pulls := s.pulls ++ [s.term] }
  | refused (leaderId leaderTcpBase : String) (here : s.role = .connecting leaderId leaderTcpBase) :
      Stepped s time (.connected false) { s with role := .disconnected }
  | loses (rows : List PeerInfo) (leaderId leaderTcpBase : String)
      (here : s.role = .following leaderId leaderTcpBase)
      (offline : (s.election.rehash rows).currentLeader time = none) :
      Stepped s time (.checkHealth rows) { s with role := .disconnected }
  | binds (here : s.role = .startingHub) (unbound : s.bound = false) :
      Stepped s time (.startHub true)
        { s with
          role := .hubStarted
          servers := s.servers ++ HubServer.all.map fun server => (s.term, server) }
  | panics (free : Bool) (here : s.role = .startingHub) :
      Stepped s time (.startHub free)
        { s with role := .panicked, servers := [], loopbacks := [], pulls := [] }
  | leads (here : s.role = .hubStarted) :
      Stepped s time .announce
        { s.call time (.setIAmLeader true) with
          role := .leading, loopbacks := s.loopbacks ++ [s.term] }
  | serves (term : Nat) (ok : Bool) (waiting : term ∈ s.loopbacks) :
      Stepped s time (.loopbackConnected term ok)
        { s with
          loopbacks := s.loopbacks.erase term
          pulls := if ok then s.pulls ++ [term] else s.pulls }
  | stepsDown (here : s.role = .leading) :
      Stepped s time .monitor { s.call time (.setIAmLeader false) with role := .steppedDown }
  | clears (here : s.role = .disconnected) :
      Stepped s time .resume { s.call time .clearLeaderFlags with role := .evaluating }
  | resumes (here : s.role = .steppedDown) : Stepped s time .resume { s with role := .evaluating }
  | pullEnds (term : Nat) :
      Stepped s time (.pullLoopEnds term) { s with pulls := s.pulls.erase term }
  | serverEnds (term : Nat) (server : HubServer) (other : server ≠ .taskPush) :
      Stepped s time (.serverEnds term server) { s with servers := s.servers.erase (term, server) }

theorem node_stepped (s : Node) (a : TimedAction) : s.Stepped a.time a.action (s.step a) := by
  obtain ⟨time, action⟩ := a
  cases action with
  | hear announcement => exact .hears announcement
  | evaluate rows =>
    cases here : s.role with
    | evaluating =>
      cases found : (s.election.rehash rows).currentLeader time with
      | some leader =>
        simp only [Node.step, here, found]
        exact .joins rows leader.1 leader.2 here
      | none =>
        simp only [Node.step, here, found]
        exact .misses rows here
    | _ =>
      simp only [Node.step, here]
      exact .idle _
  | decide =>
    cases here : s.role with
    | unled =>
      cases should : s.election.iShouldBeLeader time with
      | true =>
        simp only [Node.step, here, should, if_true]
        exact .stands here
      | false =>
        simp only [Node.step, here, should, Bool.false_eq_true, if_false]
        exact .waits here
    | _ =>
      simp only [Node.step, here]
      exact .idle _
  | connected ok =>
    cases here : s.role with
    | connecting leaderId leaderTcpBase =>
      cases ok with
      | true =>
        simp only [Node.step, here, if_true]
        exact .connects leaderId leaderTcpBase here
      | false =>
        simp only [Node.step, here, Bool.false_eq_true, if_false]
        exact .refused leaderId leaderTcpBase here
    | _ =>
      simp only [Node.step, here]
      exact .idle _
  | checkHealth rows =>
    cases here : s.role with
    | following leaderId leaderTcpBase =>
      cases found : (s.election.rehash rows).currentLeader time with
      | some leader =>
        simp only [Node.step, here, found]
        exact .idle _
      | none =>
        simp only [Node.step, here, found]
        exact .loses rows leaderId leaderTcpBase here found
    | _ =>
      simp only [Node.step, here]
      exact .idle _
  | startHub free =>
    cases here : s.role with
    | startingHub =>
      simp only [Node.step, here, Node.startServers]
      split
      next able =>
        obtain ⟨rfl, unbound⟩ := Bool.and_eq_true_iff.mp able
        exact .binds here (by simpa using unbound)
      next => exact .panics free here
    | _ =>
      simp only [Node.step, here]
      exact .idle _
  | announce =>
    cases here : s.role with
    | hubStarted =>
      simp only [Node.step, here]
      exact .leads here
    | _ =>
      simp only [Node.step, here]
      exact .idle _
  | loopbackConnected term ok =>
    by_cases waiting : term ∈ s.loopbacks
    · simp only [Node.step, waiting, if_true]
      exact .serves term ok waiting
    · simp only [Node.step, waiting, if_false]
      exact .idle _
  | monitor =>
    cases here : s.role with
    | leading =>
      simp only [Node.step, here]
      split
      · exact .idle _
      · exact .stepsDown here
    | _ =>
      simp only [Node.step, here]
      exact .idle _
  | resume =>
    cases here : s.role with
    | disconnected =>
      simp only [Node.step, here]
      exact .clears here
    | steppedDown =>
      simp only [Node.step, here]
      exact .resumes here
    | _ =>
      simp only [Node.step, here]
      exact .idle _
  | pullLoopEnds term => exact .pullEnds term
  | serverEnds term server =>
    by_cases push : server = .taskPush
    · simp only [Node.step, push, if_true]
      exact .idle _
    · simp only [Node.step, push, if_false]
      exact .serverEnds term server push

theorem node_snoc (myId : String) (actions : List TimedAction) (a : TimedAction) :
    node myId (actions ++ [a]) = (node myId actions).step a :=
  run_append _ actions [a]

end SeamlessSwarm
