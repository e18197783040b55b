import Mathlib.Data.List.Induction
import Mathlib.Logic.Function.Basic
import SeamlessSwarm.Lib.Trace

/-! Requests and replies over a network that may lose, delay and repeat both. Requests are
numbered in the order in which they are sent; a client takes a reply to its last request
only, and may stop waiting for it. A contract says what clients and server keep to towards
each other; what it promises holds in every run of any number of clients. -/
namespace Requests
open Trace

structure Net (Q R : Type) where
  sent : List (Nat × Q)
  waiting : Nat → Option Nat
  replies : List (Nat × R)

variable {Q R : Type}

namespace Net

def idle : Net Q R := ⟨[], fun _ => none, []⟩

def send (net : Net Q R) (client : Nat) (query : Q) : Net Q R :=
  { net with
    sent := net.sent ++ [(client, query)]
    waiting := Function.update net.waiting client (some net.sent.length) }

def forget (net : Net Q R) (client : Nat) : Net Q R :=
  { net with waiting := Function.update net.waiting client none }

/-- A server may reply to a request any number of times. -/
def reply (net : Net Q R) (k : Nat) (answer : Option R) : Net Q R :=
  { net with replies := net.replies ++ answer.toList.map (k, ·) }

def arrival (net : Net Q R) (j : Nat) : Option (Nat × R) :=
  match net.replies[j]? with
  | none => none
  | some (k, answer) =>
    match net.sent[k]? with
    | none => none
    | some (client, _) => if net.waiting client = some k then some (client, answer) else none

/-- Clients wait for the request that they are making, and replies answer what they reply to. -/
structure Consistent (asks : Nat → Option Q) (answers : Q → R → Prop) (net : Net Q R) : Prop where
  waiting : ∀ client k, net.waiting client = some k →
    ∃ query, net.sent[k]? = some (client, query) ∧ asks client = some query
  replies : ∀ p ∈ net.replies, ∃ client query, net.sent[p.1]? = some (client, query) ∧
    answers query p.2

variable {net : Net Q R} {asks : Nat → Option Q} {answers : Q → R → Prop}

theorem getElem?_append_of_some {α : Type} {xs ys : List α} {k : Nat} {x : α}
    (here : xs[k]? = some x) :
    (xs ++ ys)[k]? = some x := by
  obtain ⟨short, _⟩ := List.getElem?_eq_some_iff.mp here
  rw [List.getElem?_append_left short]
  exact here

theorem forget_idle {client : Nat} (free : net.waiting client = none) :
    net.forget client = net := by
  unfold Net.forget
  rw [Function.update_eq_self_iff.mpr free.symm]

theorem Consistent.idle : Consistent asks answers (Net.idle : Net Q R) :=
  ⟨nofun, nofun⟩

theorem Consistent.send (inv : net.Consistent asks answers) {client : Nat} {query : Q}
    (asked : asks client = some query) : (net.send client query).Consistent asks answers := by
  constructor
  · intro other k waits
    by_cases same : other = client
    · subst same
      have last : net.sent.length = k := by
        simpa [Net.send] using waits
      subst last
      exact ⟨query, List.getElem?_concat_length, asked⟩
    · have before : net.waiting other = some k := by
        simpa [Net.send, same] using waits
      obtain ⟨query', there, asking⟩ := inv.waiting other k before
      exact ⟨query', getElem?_append_of_some there, asking⟩
  · intro p member
    obtain ⟨other, query', there, answered⟩ := inv.replies p member
    exact ⟨other, query', getElem?_append_of_some there, answered⟩

theorem Consistent.forget (inv : net.Consistent asks answers) {client : Nat}
    {asks' : Nat → Option Q}
    (others : ∀ other ≠ client, asks' other = asks other) :
    (net.forget client).Consistent asks' answers := by
  refine ⟨?_, inv.replies⟩
  intro other k waits
  by_cases same : other = client
  · subst same
    simp [Net.forget] at waits
  · have before : net.waiting other = some k := by
      simpa [Net.forget, same] using waits
    rw [others other same]
    exact inv.waiting other k before

theorem Consistent.reply (inv : net.Consistent asks answers) {client k : Nat} {query : Q}
    (there : net.sent[k]? = some (client, query)) {answer : Option R}
    (answered : ∀ r, answer = some r → answers query r) :
    (net.reply k answer).Consistent asks answers := by
  refine ⟨inv.waiting, ?_⟩
  intro p member
  rcases List.mem_append.mp member with old | new
  · exact inv.replies p old
  · obtain ⟨r, given, rfl⟩ := List.mem_map.mp new
    exact ⟨client, query, there, answered r (Option.mem_toList.mp given)⟩

theorem Consistent.mono (inv : net.Consistent asks answers) {asks' : Nat → Option Q}
    {answers' : Q → R → Prop}
    (asking : ∀ client, net.waiting client ≠ none → asks' client = asks client)
    (more : ∀ q r, answers q r → answers' q r) : net.Consistent asks' answers' := by
  constructor
  · intro client k waits
    rw [asking client (by rw [waits]; nofun)]
    exact inv.waiting client k waits
  · intro p member
    obtain ⟨client, query, there, answered⟩ := inv.replies p member
    exact ⟨client, query, there, more query p.2 answered⟩

theorem Consistent.arrival (inv : net.Consistent asks answers) {j client : Nat} {answer : R}
    (taken : net.arrival j = some (client, answer)) :
    (∃ k, net.waiting client = some k ∧ (k, answer) ∈ net.replies) ∧
      ∃ query, asks client = some query ∧ answers query answer := by
  unfold Net.arrival at taken
  split at taken
  · cases taken
  next k answer' given =>
    split at taken
    · cases taken
    next other query there =>
      split at taken
      next waits =>
        cases taken
        have member := List.mem_of_getElem? given
        obtain ⟨query', there', asking⟩ := inv.waiting client k waits
        obtain ⟨other, query'', there'', answered⟩ := inv.replies _ member
        cases there'.symm.trans there''
        exact ⟨⟨k, waits, member⟩, query', asking, answered⟩
      next => cases taken

end Net

/-! Services: a server and its clients. -/

/-- How clients act on inputs and when they make a request, and what the server does with a
request and otherwise. The three last fields are the inputs in place of a reply. -/
structure Service (C I S U V Q R : Type) where
  request : Nat → C → Option Q
  act : Nat → C → I → C
  isLocal : S → I → Bool
  serve : S → Nat → U → Q → S × Option R
  other : S → V → S
  refused : String → I
  lost : String → I
  answered : R → I

structure State (C S Q R : Type) where
  clients : Nat → C
  net : Net Q R
  server : S

inductive Step (I U V : Type) where
  | input (n : Nat) (input : I)
  | send (n : Nat)
  | refuse (n : Nat) (e : String)
  | serve (k : Nat) (u : U)
  | arrive (j : Nat)
  | giveUp (n : Nat) (e : String)
  | other (v : V)

namespace Service
variable {C I S U V Q R : Type} (sys : Service C I S U V Q R)

def start (client : C) (server : S) : State C S Q R := ⟨fun _ => client, .idle, server⟩

def feed (s : State C S Q R) (n : Nat) (input : I) : State C S Q R :=
  { s with clients := Function.update s.clients n (sys.act n (s.clients n) input) }

def step (s : State C S Q R) : Step I U V → State C S Q R
  | .input n input => if sys.isLocal s.server input then sys.feed s n input else s
  | .send n =>
    match s.net.waiting n, sys.request n (s.clients n) with
    | none, some query => { s with net := s.net.send n query }
    | _, _ => s
  | .refuse n e =>
    match s.net.waiting n with
    | none => sys.feed s n (sys.refused e)
    | some _ => s
  | .serve k u =>
    match s.net.sent[k]? with
    | none => s
    | some (n, query) =>
      { s with
        net := s.net.reply k (sys.serve s.server n u query).2
        server := (sys.serve s.server n u query).1 }
  | .arrive j =>
    match s.net.arrival j with
    | none => s
    | some (n, answer) => { sys.feed s n (sys.answered answer) with net := s.net.forget n }
  | .giveUp n e =>
    match s.net.waiting n with
    | none => s
    | some _ => { sys.feed s n (sys.lost e) with net := s.net.forget n }
  | .other v => { s with server := sys.other s.server v }

def asks (s : State C S Q R) (n : Nat) : Option Q := sys.request n (s.clients n)

theorem feed_self (s : State C S Q R) (n : Nat) (input : I) :
    (sys.feed s n input).clients n = sys.act n (s.clients n) input :=
  Function.update_self n _ _

theorem feed_client (s : State C S Q R) (n : Nat) (input : I) (m : Nat) :
    (m = n ∧ (sys.feed s n input).clients m = sys.act n (s.clients n) input) ∨
      (m ≠ n ∧ (sys.feed s n input).clients m = s.clients m) := by
  by_cases same : m = n
  · subst same
    exact Or.inl ⟨rfl, sys.feed_self s m input⟩
  · exact Or.inr ⟨same, Function.update_of_ne same _ _⟩

/-- What an exchange leaves in which nothing comes in between. -/
structure Exchanged (sys : Service C I S U V Q R) (s after : State C S Q R) (n : Nat)
    (u : U) (query : Q)
    (answer : R) : Prop where
  client : after.clients n = sys.act n (s.clients n) (sys.answered answer)
  server : after.server = (sys.serve s.server n u query).1
  free : after.net.waiting n = none
  sent : after.net.sent.length = s.net.sent.length + 1
  replies : after.net.replies.length = s.net.replies.length + 1

theorem undisturbed {s : State C S Q R} {n : Nat} {query : Q} {answer : R} {u : U}
    (free : s.net.waiting n = none) (asking : sys.request n (s.clients n) = some query)
    (replied : (sys.serve s.server n u query).2 = some answer) :
    Exchanged sys s (run sys.step s
      [.send n, .serve s.net.sent.length u, .arrive s.net.replies.length]) n u
      query answer := by
  have sends : sys.step s (.send n) = { s with net := s.net.send n query } := by
    simp only [step, free, asking]
  have serves : sys.step { s with net := s.net.send n query } (.serve s.net.sent.length u) =
      { s with
        net := (s.net.send n query).reply s.net.sent.length (some answer)
        server := (sys.serve s.server n u query).1 } := by
    simp only [step, Net.send, List.getElem?_concat_length, replied]
  have arrival : ((s.net.send n query).reply s.net.sent.length (some answer)).arrival
      s.net.replies.length =
      some (n, answer) := by
    simp only [Net.arrival, Net.reply, Net.send, Option.toList_some, List.map_cons, List.map_nil,
      List.getElem?_concat_length, Function.update_self, if_true]
  rw [run_cons, run_cons, run_cons, run_nil, sends, serves]
  simp only [step, arrival]
  constructor
  · exact sys.feed_self s n (sys.answered answer)
  · rfl
  · exact Function.update_self n _ _
  · exact List.length_append
  · exact List.length_append

/-- A client takes the inputs given to it, and what stands for a reply. -/
theorem step_client (s : State C S Q R) (a : Step I U V) (n : Nat) :
    (sys.step s a).clients n = s.clients n ∨ ∃ input,
      (sys.step s a).clients n = sys.act n (s.clients n) input ∧
        ((a = .input n input ∧ sys.isLocal s.server input = true) ∨
          (∃ e, input = sys.refused e) ∨ (∃ e, input = sys.lost e) ∨ ∃ r,
            input = sys.answered r) := by
  have fed (m : Nat) (input : I) : (sys.feed s m input).clients n = s.clients n ∨
      (n = m ∧ (sys.feed s m input).clients n = sys.act n (s.clients n) input) := by
    rcases sys.feed_client s m input n with ⟨rfl, same⟩ | ⟨_, same⟩
    · exact Or.inr ⟨rfl, same⟩
    · exact Or.inl same
  cases a with
  | input m input =>
    unfold Service.step
    dsimp only
    split
    next isLocal =>
      rcases fed m input with same | ⟨rfl, acts⟩
      · exact Or.inl same
      · exact Or.inr ⟨input, acts, Or.inl ⟨rfl, isLocal⟩⟩
    · exact Or.inl rfl
  | refuse m e =>
    unfold Service.step
    dsimp only
    split
    · rcases fed m (sys.refused e) with same | ⟨rfl, acts⟩
      · exact Or.inl same
      · exact Or.inr ⟨_, acts, Or.inr (Or.inl ⟨e, rfl⟩)⟩
    · exact Or.inl rfl
  | arrive j =>
    unfold Service.step
    dsimp only
    split
    · exact Or.inl rfl
    next m answer _ =>
      rcases fed m (sys.answered answer) with same | ⟨rfl, acts⟩
      · exact Or.inl same
      · exact Or.inr ⟨_, acts, Or.inr (Or.inr (Or.inr ⟨answer, rfl⟩))⟩
  | giveUp m e =>
    unfold Service.step
    dsimp only
    split
    · exact Or.inl rfl
    · rcases fed m (sys.lost e) with same | ⟨rfl, acts⟩
      · exact Or.inl same
      · exact Or.inr ⟨_, acts, Or.inr (Or.inr (Or.inl ⟨e, rfl⟩))⟩
  | send m | serve k u =>
    unfold Service.step
    dsimp only
    split <;> exact Or.inl rfl
  | other v => exact Or.inl rfl

theorem server_invariant {J : S → Prop} (served : ∀ s n u q, J s → J (sys.serve s n u q).1)
    (moved : ∀ s v, J s → J (sys.other s v)) {s : State C S Q R} (initial : J s.server)
    (steps : List (Step I U V)) : J (run sys.step s steps).server := by
  refine run_invariant (I := fun s : State C S Q R => J s.server) ?_ initial steps
  intro s a inv
  cases a with
  | serve k u =>
    unfold Service.step
    dsimp only
    split
    · exact inv
    next n query _ => exact served s.server n u query inv
  | other v => exact moved s.server v inv
  | input n input | send n | refuse n e | arrive j | giveUp n e =>
    unfold Service.step
    dsimp only
    split <;> exact inv

/-! The first client alone, with what it has sent, waits for and was replied. -/

def single (idle c : C) (sent : List Q) (waiting : Option Nat) (replies : List (Nat × R))
    (server : S) :
    State C S Q R :=
  ⟨Function.update (fun _ => idle) 0 c,
    ⟨sent.map (0, ·), Function.update (fun _ => none) 0 waiting, replies⟩, server⟩

variable {sys} {idle c : C} {sent : List Q} {waiting : Option Nat} {replies : List (Nat × R)}
  {server : S}

theorem start_single : (start idle server : State C S Q R) = single idle idle [] none
    [] server := by
  simp only [start, single, Function.update_eq_self, List.map_nil, Net.idle]

theorem single_input {input : I} (isLocal : sys.isLocal server input = true) :
    sys.step (single idle c sent waiting replies server) (.input 0 input) =
      single idle (sys.act 0 c input) sent waiting replies server := by
  simp only [step, single, isLocal, if_true, feed, Function.update_self, Function.update_idem]

theorem single_send {query : Q} (asking : sys.request 0 c = some query) :
    sys.step (single idle c sent none replies server) (.send 0) =
      single idle c (sent ++ [query]) (some sent.length) replies server := by
  simp only [step, single, Function.update_self, asking, Net.send, Function.update_idem,
    List.map_append,
    List.map_cons, List.map_nil, List.length_map]

theorem single_serve {k : Nat} {query : Q} (there : sent[k]? = some query) (u : U) {answer : R}
    (replied : (sys.serve server 0 u query).2 = some answer) :
    sys.step (single idle c sent waiting replies server) (.serve k u) =
      single idle c sent waiting (replies ++ [(k, answer)]) (sys.serve server 0 u query).1 := by
  simp only [step, single, List.getElem?_map, there, Option.map_some, Net.reply, replied,
    Option.toList_some, List.map_cons, List.map_nil]

theorem single_arrive {j k : Nat} {query : Q} {answer : R} (there : sent[k]? = some query)
    (replied : replies[j]? = some (k, answer)) :
    sys.step (single idle c sent (some k) replies server) (.arrive j) =
      single idle (sys.act 0 c (sys.answered answer)) sent none replies server := by
  simp only [step, single, Net.arrival, replied, List.getElem?_map, there, Option.map_some,
    Function.update_self, if_true, feed, Net.forget, Function.update_idem]

theorem single_other (v : V) : sys.step (single idle c sent waiting replies server) (.other v) =
    single idle c sent waiting replies (sys.other server v) :=
  rfl

theorem single_others (moves : List V) :
    run sys.step (single idle c sent waiting replies server) (moves.map .other) =
      single idle c sent waiting replies (run sys.other server moves) := by
  induction moves generalizing server with
  | nil => rfl
  | cons v moves ih =>
    rw [List.map_cons, run_cons, run_cons, single_other, ih]

end Service

/-- What clients and server of a service keep to. `later` and `after` are what a client and
the server keep from step to step, `client` and `joint` the invariants, `made` what is known
of a request that was made, `answers` of a reply; `small` and `short` bound the messages,
`fine` is required of every input that is not a reply and `calm` of every other move. -/
structure Contract {C I S U V Q R : Type} (sys : Service C I S U V Q R) where
  later : C → C → Prop
  after : S → S → Prop
  client : S → Nat → C → Prop
  joint : S → (Nat → C) → Prop
  made : Nat → C → Q → Prop
  answers : S → Q → R → Prop
  small : Q → Prop
  short : R → Prop
  fine : I → Prop
  calm : V → Prop
  later_refl : ∀ c, later c c
  act_later : ∀ n c input, later c (sys.act n c input)
  serve_after : ∀ s n u q, after s (sys.serve s n u q).1
  other_after : ∀ s v, after s (sys.other s v)
  made_later : ∀ n c c' q, later c c' → made n c q → made n c' q
  joint_later : ∀ s cs cs', (∀ n, later (cs n) (cs' n)) → joint s cs → joint s cs'
  client_after : ∀ s s' n c, after s s' → client s n c → client s' n c
  answers_after : ∀ s s' q r, after s s' → answers s q r → answers s' q r
  request_made : ∀ s n c q, client s n c → sys.request n c = some q → made n c q
  request_waits : ∀ s n c input, sys.request n c ≠ none → sys.isLocal s input = true →
    sys.request n (sys.act n c input) = sys.request n c
  client_local : ∀ s n c input, client s n c → sys.isLocal s input = true → fine input →
    client s n (sys.act n c input)
  client_refused : ∀ s n c e, client s n c → fine (sys.refused e) →
    client s n (sys.act n c (sys.refused e))
  client_lost : ∀ s n c e, client s n c → fine (sys.lost e) → client s n (sys.act n c (sys.lost e))
  client_answered : ∀ s n c q r, client s n c → sys.request n c = some q → small q → answers s q r →
    short r → client s n (sys.act n c (sys.answered r))
  serve_answers : ∀ s n c u q r, client s n c → made n c q → small q →
    (sys.serve s n u q).2 = some r →
    answers (sys.serve s n u q).1 q r
  joint_serve : ∀ s cs n u q, joint s cs → client s n (cs n) → made n (cs n) q → small q →
    joint (sys.serve s n u q).1 cs
  joint_other : ∀ s cs v, joint s cs → calm v → joint (sys.other s v) cs

namespace Contract
variable {C I S U V Q R : Type} {sys : Service C I S U V Q R} (contract : Contract sys)

structure Holds (s : State C S Q R) : Prop where
  clients : ∀ n, contract.client s.server n (s.clients n)
  joint : contract.joint s.server s.clients
  sent : ∀ p ∈ s.net.sent, contract.made p.1 (s.clients p.1) p.2
  net : s.net.Consistent (sys.asks s) (contract.answers s.server)

structure Bounded (s : State C S Q R) : Prop where
  sent : ∀ p ∈ s.net.sent, contract.small p.2
  replies : ∀ p ∈ s.net.replies, contract.short p.2

/-- The step is no input and no move that the contract does not allow. -/
def Allowed : Step I U V → Prop
  | .input _ input => contract.fine input
  | .refuse _ e => contract.fine (sys.refused e)
  | .giveUp _ e => contract.fine (sys.lost e)
  | .other v => contract.calm v
  | _ => True

variable {contract} {s : State C S Q R}

theorem Holds.feed (inv : contract.Holds s) {n : Nat} {input : I}
    (client : contract.client s.server n (sys.act n (s.clients n) input)) {net : Net Q R}
    (sent : net.sent = s.net.sent)
    (consistent : net.Consistent (sys.asks (sys.feed s n input)) (contract.answers s.server)) :
    contract.Holds { sys.feed s n input with net := net } := by
  have later (m : Nat) : contract.later (s.clients m) ((sys.feed s n input).clients m) := by
    rcases sys.feed_client s n input m with ⟨rfl, same⟩ | ⟨_, same⟩
    · rw [same]
      exact contract.act_later m _ input
    · rw [same]
      exact contract.later_refl _
  refine ⟨?_, contract.joint_later _ _ _ later inv.joint, ?_, consistent⟩
  · intro m
    dsimp only
    rcases sys.feed_client s n input m with ⟨rfl, same⟩ | ⟨_, same⟩
    · rw [same]
      exact client
    · rw [same]
      exact inv.clients m
  · rw [sent]
    exact fun p member => contract.made_later p.1 _ _ p.2 (later p.1) (inv.sent p member)

theorem Holds.settle (inv : contract.Holds s) {n : Nat} {input : I}
    (client : contract.client s.server n (sys.act n (s.clients n) input)) :
    contract.Holds { sys.feed s n input with net := s.net.forget n } := by
  refine inv.feed client rfl (inv.net.forget ?_)
  intro m other
  rcases sys.feed_client s n input m with ⟨same, _⟩ | ⟨_, same⟩
  · exact absurd same other
  · unfold Service.asks
    rw [same]

theorem Holds.local (inv : contract.Holds s) {n : Nat} {input : I}
    (isLocal : sys.isLocal s.server input = true) (fine : contract.fine input) :
    contract.Holds (sys.feed s n input) := by
  refine inv.feed (contract.client_local _ n _ input (inv.clients n) isLocal fine) rfl ?_
  refine inv.net.mono ?_ fun _ _ answers => answers
  intro m waits
  unfold Service.asks
  rcases sys.feed_client s n input m with ⟨rfl, same⟩ | ⟨_, same⟩
  · obtain ⟨k, waits⟩ := Option.ne_none_iff_exists'.mp waits
    obtain ⟨query, _, asking⟩ := inv.net.waiting m k waits
    have requests : sys.request m (s.clients m) ≠ none := fun none => nomatch asking.symm.trans none
    rw [same, contract.request_waits _ m _ input requests isLocal]
  · rw [same]

theorem Holds.moved (inv : contract.Holds s) {server : S} (after : contract.after s.server server)
    (joint : contract.joint server s.clients) {net : Net Q R} (sent : net.sent = s.net.sent)
    (consistent : net.Consistent (sys.asks s) (contract.answers server)) :
    contract.Holds { s with net := net, server := server } := by
  refine ⟨fun n => contract.client_after _ _ n _ after (inv.clients n), joint, ?_, consistent⟩
  rw [sent]
  exact inv.sent

theorem Holds.step (inv : contract.Holds s) (bounded : contract.Bounded s) {a : Step I U V}
    (allowed : contract.Allowed a) : contract.Holds (sys.step s a) := by
  cases a with
  | input n input =>
    unfold Service.step
    dsimp only
    split
    next isLocal => exact inv.local isLocal allowed
    · exact inv
  | send n =>
    unfold Service.step
    dsimp only
    split
    next query _ asking =>
      refine ⟨inv.clients, inv.joint, ?_, inv.net.send asking⟩
      intro p member
      rcases List.mem_append.mp member with old | new
      · exact inv.sent p old
      · rw [List.mem_singleton.mp new]
        exact contract.request_made _ n _ query (inv.clients n) asking
    · exact inv
  | refuse n e =>
    unfold Service.step
    dsimp only
    split
    next free =>
      have same := inv.settle (contract.client_refused _ n _ e (inv.clients n) allowed)
      rwa [Net.forget_idle free] at same
    · exact inv
  | serve k u =>
    unfold Service.step
    dsimp only
    split
    · exact inv
    next n query there =>
      have member := List.mem_of_getElem? there
      have client := inv.clients n
      have made := inv.sent _ member
      have small := bounded.sent _ member
      have after := contract.serve_after s.server n u query
      refine inv.moved after (contract.joint_serve _ _ n u query inv.joint client made small) rfl ?_
      refine (inv.net.mono (fun _ _ => rfl) fun q r => contract.answers_after _ _ q r after).reply
        there ?_
      exact fun r => contract.serve_answers _ n _ u query r client made small
  | arrive j =>
    unfold Service.step
    dsimp only
    split
    · exact inv
    next n answer taken =>
      obtain ⟨⟨k, waits, replied⟩, query, asking, answers⟩ := inv.net.arrival taken
      obtain ⟨_, there, sameAsk⟩ := inv.net.waiting n k waits
      cases sameAsk.symm.trans asking
      exact inv.settle (contract.client_answered _ n _ query answer (inv.clients n) asking
        (bounded.sent _ (List.mem_of_getElem? there)) answers (bounded.replies _ replied))
  | giveUp n e =>
    unfold Service.step
    dsimp only
    split
    · exact inv
    · exact inv.settle (contract.client_lost _ n _ e (inv.clients n) allowed)
  | other v =>
    have after := contract.other_after s.server v
    refine inv.moved after (contract.joint_other _ _ v inv.joint allowed) rfl ?_
    exact inv.net.mono (fun _ _ => rfl) fun q r => contract.answers_after _ _ q r after

theorem Bounded.before {a : Step I U V} (bounded : contract.Bounded (sys.step s a)) :
    contract.Bounded s := by
  suffices kept : (∀ p ∈ s.net.sent, p ∈ (sys.step s a).net.sent) ∧
      ∀ p ∈ s.net.replies, p ∈ (sys.step s a).net.replies from
    ⟨fun p member => bounded.sent p (kept.1 p member), fun p member =>
      bounded.replies p (kept.2 p member)⟩
  have same : (∀ p ∈ s.net.sent, p ∈ s.net.sent) ∧ ∀ p ∈ s.net.replies, p ∈ s.net.replies :=
    ⟨fun _ member => member, fun _ member => member⟩
  cases a with
  | send n =>
    unfold Service.step
    dsimp only
    split
    · exact ⟨fun _ member => List.mem_append_left _ member, same.2⟩
    · exact same
  | serve k u =>
    unfold Service.step
    dsimp only
    split
    · exact same
    · exact ⟨same.1, fun _ member => List.mem_append_left _ member⟩
  | other v => exact same
  | input n input | refuse n e | arrive j | giveUp n e =>
    unfold Service.step
    dsimp only
    split <;> exact same

theorem Bounded.start {steps : List (Step I U V)}
    (bounded : contract.Bounded (Trace.run sys.step s steps)) : contract.Bounded s := by
  induction steps generalizing s with
  | nil => exact bounded
  | cons a rest ih => exact (ih bounded).before

/-- The rule: what holds at the start holds after every run with allowed inputs and bounded
messages. -/
theorem Holds.run (inv : contract.Holds s) {steps : List (Step I U V)}
    (bounded : contract.Bounded (Trace.run sys.step s steps))
    (allowed : ∀ a ∈ steps, contract.Allowed a) :
    contract.Holds (Trace.run sys.step s steps) := by
  induction steps using List.reverseRecOn with
  | nil => exact inv
  | append_singleton steps a ih =>
    have last : Trace.run sys.step s (steps ++ [a]) = sys.step (Trace.run sys.step s steps) a :=
      run_append _ steps [a]
    rw [last] at bounded ⊢
    have earlier := ih bounded.before fun b member => allowed b (List.mem_append_left _ member)
    exact earlier.step bounded.before (allowed a (List.mem_append_right _ List.mem_cons_self))

end Contract
end Requests
