import Mathlib.Logic.Function.Basic
import SeamlessSwarm.Lib.Trace

/-! Nodes that broadcast to each other. What was sent stays in the air: it may reach any
node at any later time, several times or never. An invariant of the nodes, relative to what
has been sent, is carried through all interleavings. -/
namespace Broadcast
open Trace

/-- What a node does by itself, what it sends, and what a message makes of it. -/
structure System (ι σ ε β μ τ : Type*) where
  act : ι → σ → ε → σ
  emits : ι → σ → β → List μ
  hear : ι → σ → μ → τ → σ

structure State (ι σ μ : Type*) where
  nodes : ι → σ
  air : List μ

inductive Step (ι ε β τ : Type*) where
  | act (n : ι) (e : ε)
  | emit (n : ι) (b : β)
  | deliver (n : ι) (message : Nat) (time : τ)

variable {ι σ ε β μ τ : Type*} [DecidableEq ι]

def Step.node : Step ι ε β τ → Option ι
  | act n _ => some n
  | emit _ _ => none
  | deliver n _ _ => some n

namespace System
variable (S : System ι σ ε β μ τ)

def step (s : State ι σ μ) : Step ι ε β τ → State ι σ μ
  | .act n e => { s with nodes := Function.update s.nodes n (S.act n (s.nodes n) e) }
  | .emit n b => { s with air := s.air ++ S.emits n (s.nodes n) b }
  | .deliver n message time =>
    match s.air[message]? with
    | some m => { s with nodes := Function.update s.nodes n (S.hear n (s.nodes n) m time) }
    | none => s

theorem step_frame {n : ι} (s : State ι σ μ) {a : Step ι ε β τ} (other : a.node ≠ some n) :
    (S.step s a).nodes n = s.nodes n := by
  cases a with
  | act k e => exact Function.update_of_ne (fun same => other (congrArg some same.symm)) _ _
  | emit k b => rfl
  | deliver k message time =>
    unfold step
    dsimp only
    split
    · exact Function.update_of_ne (fun same => other (congrArg some same.symm)) _ _
    · rfl

theorem run_frame {n : ι} (s : State ι σ μ) {steps : List (Step ι ε β τ)}
    (others : ∀ a ∈ steps, a.node ≠ some n) : (run S.step s steps).nodes n = s.nodes n := by
  induction steps generalizing s with
  | nil => rfl
  | cons a rest ih =>
    rw [run_cons, ih _ (fun b member => others b (List.mem_cons_of_mem a member))]
    exact S.step_frame s (others a List.mem_cons_self)

theorem sent_by {initial : State ι σ μ} (silent : initial.air = []) {steps : List (Step ι ε β τ)}
    {m : μ}
    (member : m ∈ (run S.step initial steps).air) :
    ∃ before n b after, steps = before ++ .emit n b :: after ∧
      m ∈ S.emits n ((run S.step initial before).nodes n) b := by
  induction steps using List.reverseRecOn with
  | nil =>
    rw [run_nil, silent] at member
    cases member
  | append_singleton steps a ih =>
    have longer (sent : m ∈ (run S.step initial steps).air) : ∃ before n b after,
        steps ++ [a] = before ++ .emit n b :: after ∧
          m ∈ S.emits n ((run S.step initial before).nodes n) b := by
      obtain ⟨before, n, b, after, rfl, emitted⟩ := ih sent
      exact ⟨before, n, b, after ++ [a], by simp, emitted⟩
    rw [run_append, run_cons, run_nil] at member
    cases a with
    | act n e => exact longer member
    | emit n b =>
      rcases List.mem_append.mp member with old | new
      · exact longer old
      · exact ⟨steps, n, b, [], rfl, new⟩
    | deliver n message time =>
      unfold step at member
      dsimp only at member
      split at member
      · exact longer member
      · exact longer member

end System

/-- An invariant of each node, given what has been sent, with a fact about every message.
Actions may be restricted. -/
structure Law (S : System ι σ ε β μ τ) where
  node : (μ → Prop) → ι → σ → Prop
  message : μ → Prop
  allowed : ι → σ → ε → Prop
  mono : ∀ {sent sent' : μ → Prop} {n s}, (∀ m, sent m → sent' m) → node sent n s → node sent' n s
  acts : ∀ {sent n s e}, node sent n s → allowed n s e → node sent n (S.act n s e)
  emits : ∀ {sent n s b}, node sent n s → ∀ m ∈ S.emits n s b, message m
  hears : ∀ {sent n s m}, node sent n s → sent m → message m → ∀ time,
    node sent n (S.hear n s m time)

namespace Law
variable {S : System ι σ ε β μ τ} (L : Law S)

structure Holds (s : State ι σ μ) : Prop where
  nodes : ∀ n, L.node (· ∈ s.air) n (s.nodes n)
  air : ∀ m ∈ s.air, L.message m

def Admits (s : State ι σ μ) : Step ι ε β τ → Prop
  | .act n e => L.allowed n (s.nodes n) e
  | _ => True

variable {L}

theorem Holds.moved {s : State ι σ μ} (inv : L.Holds s) {n : ι} {after : σ}
    (kept : L.node (· ∈ s.air) n after) :
    L.Holds { s with nodes := Function.update s.nodes n after } := by
  refine ⟨fun m => ?_, inv.air⟩
  by_cases same : m = n
  · subst same
    dsimp only
    rw [Function.update_self]
    exact kept
  · dsimp only
    rw [Function.update_of_ne same]
    exact inv.nodes m

theorem Holds.step {s : State ι σ μ} (inv : L.Holds s) {a : Step ι ε β τ}
    (admitted : L.Admits s a) :
    L.Holds (S.step s a) := by
  cases a with
  | act n e => exact inv.moved (L.acts (inv.nodes n) admitted)
  | emit n b =>
    constructor
    · intro m
      exact L.mono (fun _ sent => List.mem_append_left _ sent) (inv.nodes m)
    · intro m member
      rcases List.mem_append.mp member with old | new
      · exact inv.air m old
      · exact L.emits (inv.nodes n) m new
  | deliver n message time =>
    unfold System.step
    dsimp only
    split
    next m here =>
      have sent := List.mem_of_getElem? here
      exact inv.moved (L.hears (inv.nodes n) sent (inv.air m sent) time)
    · exact inv

theorem Holds.along {s : State ι σ μ} (inv : L.Holds s) {steps : List (Step ι ε β τ)}
    (admitted : Along S.step L.Admits s steps) : L.Holds (run S.step s steps) :=
  run_invariant_along (fun _ _ inv admitted => inv.step admitted) inv admitted

theorem Holds.always {s : State ι σ μ} (inv : L.Holds s) (free : ∀ n s e, L.allowed n s e)
    (steps : List (Step ι ε β τ)) : L.Holds (run S.step s steps) := by
  refine inv.along (along_of_mem ?_)
  rintro (⟨n, e⟩ | ⟨n, b⟩ | ⟨n, message, time⟩) _ s
  · exact free n (s.nodes n) e
  · trivial
  · trivial

end Law

end Broadcast
