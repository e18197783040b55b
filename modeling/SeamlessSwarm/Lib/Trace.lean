import Mathlib.Data.List.Basic
import Mathlib.Data.List.Induction

/-! Runs of a step function over a list of actions, and the rules that carry a
fact along a run: an invariant, a condition that every step must meet, and the
splitting of a run at one of its steps. -/
namespace Trace

variable {σ α : Type*}

def run (step : σ → α → σ) (s : σ) (actions : List α) : σ := actions.foldl step s

/-- Every step of the run meets the condition in the state it is taken in. -/
def Along (step : σ → α → σ) (P : σ → α → Prop) : σ → List α → Prop
  | _, [] => True
  | s, a :: rest => P s a ∧ Along step P (step s a) rest

/-- What the steps of a run put out, in order. -/
def trail {ε : Type*} (step : σ → α → σ) (out : σ → α → List ε) : σ → List α → List ε
  | _, [] => []
  | s, a :: rest => out s a ++ trail step out (step s a) rest

/-- Some action met `Q`, and every later one met `P`. -/
def Since (P Q : α → Prop) (actions : List α) : Prop :=
  ∃ before a after, actions = before ++ a :: after ∧ Q a ∧ ∀ b ∈ after, P b

theorem not_since_nil (P Q : α → Prop) : ¬ Since P Q [] := by
  rintro ⟨before, a, after, split, _⟩
  cases before <;> cases split

theorem since_snoc (P Q : α → Prop) (actions : List α) (a : α) :
    Since P Q (actions ++ [a]) ↔ Q a ∨ Since P Q actions ∧ P a := by
  constructor
  · rintro ⟨before, b, after, split, start, kept⟩
    rcases after.eq_nil_or_concat with rfl | ⟨middle, last, rfl⟩
    · obtain ⟨_, same⟩ := List.append_inj' split rfl
      cases same
      exact Or.inl start
    · rw [List.concat_eq_append, ← List.cons_append, ← List.append_assoc] at split
      obtain ⟨rfl, same⟩ := List.append_inj' split rfl
      cases same
      right
      refine ⟨⟨before, b, middle, rfl, start, ?_⟩, kept a (by simp)⟩
      intro c member
      exact kept c (by simp [member])
  · rintro (start | ⟨⟨before, b, after, rfl, start, kept⟩, last⟩)
    · exact ⟨actions, a, [], rfl, start, nofun⟩
    · refine ⟨before, b, after ++ [a], by simp, start, ?_⟩
      intro c member
      rcases List.mem_append.mp member with earlier | final
      · exact kept c earlier
      · rw [List.mem_singleton.mp final]
        exact last

theorem since_congr {P P' Q : α → Prop} {actions : List α} (agree : ∀ a ∈ actions, P a ↔ P' a) :
    Since P Q actions ↔ Since P' Q actions := by
  have one {P P' : α → Prop} (weaker : ∀ a ∈ actions, P a → P' a) :
      Since P Q actions → Since P' Q actions := by
    rintro ⟨before, a, after, rfl, start, kept⟩
    refine ⟨before, a, after, rfl, start, ?_⟩
    intro b member
    exact weaker b (by simp [member]) (kept b member)
  exact ⟨one fun a member => (agree a member).mp, one fun a member => (agree a member).mpr⟩

section Run
variable {step : σ → α → σ}

@[simp] theorem run_nil (s : σ) : run step s [] = s := rfl

@[simp] theorem run_cons (s : σ) (a : α) (rest : List α) :
    run step s (a :: rest) = run step (step s a) rest := rfl

@[simp] theorem run_append (s : σ) (before after : List α) :
    run step s (before ++ after) = run step (run step s before) after :=
  List.foldl_append

theorem run_invariant {I : σ → Prop} (preserved : ∀ s a, I s → I (step s a))
    {s : σ} (initial : I s) (actions : List α) : I (run step s actions) := by
  induction actions generalizing s with
  | nil => exact initial
  | cons a rest ih => exact ih (preserved s a initial)

/-- A fact that each step brings about, keeps or ends by its action alone holds after
a run exactly if it was brought about and kept since. -/
theorem run_iff_since {F : σ → Prop} {P Q : α → Prop}
    (exact_step : ∀ s a, F (step s a) ↔ Q a ∨ F s ∧ P a) {s : σ} (initial : ¬ F s)
    (actions : List α) : F (run step s actions) ↔ Since P Q actions := by
  induction actions using List.reverseRecOn with
  | nil => exact iff_of_false initial (not_since_nil P Q)
  | append_singleton actions a ih => rw [run_append, run_cons, run_nil, exact_step, since_snoc, ih]

/-- An invariant that a step keeps only under a condition holds after every run
whose steps all meet that condition. -/
theorem run_invariant_along {I : σ → Prop} {P : σ → α → Prop}
    (preserved : ∀ s a, I s → P s a → I (step s a))
    {s : σ} (initial : I s) {actions : List α} (along : Along step P s actions) :
    I (run step s actions) := by
  induction actions generalizing s with
  | nil => exact initial
  | cons a rest ih => exact ih (preserved s a initial along.1) along.2

theorem along_append {P : σ → α → Prop} (s : σ) (before after : List α) :
    Along step P s (before ++ after) ↔
      Along step P s before ∧ Along step P (run step s before) after := by
  induction before generalizing s with
  | nil => simp [Along]
  | cons a rest ih => simp only [List.cons_append, Along, ih, run_cons, and_assoc]

/-- A run meets a condition along its way exactly when each of its steps does,
taken in the state that the steps before it lead to. -/
theorem along_iff_split {P : σ → α → Prop} (s : σ) (actions : List α) :
    Along step P s actions ↔
      ∀ before a after, actions = before ++ a :: after → P (run step s before) a := by
  constructor
  · intro along before a after split
    rw [split, along_append] at along
    exact along.2.1
  · intro each
    induction actions generalizing s with
    | nil => trivial
    | cons a rest ih =>
      refine ⟨each [] a rest rfl, ih (step s a) ?_⟩
      intro before b after split
      exact each (a :: before) b after (by rw [split]; rfl)

theorem along_and {P Q : σ → α → Prop} {s : σ} {actions : List α} (first : Along step P s actions)
    (second : Along step Q s actions) : Along step (fun s a => P s a ∧ Q s a) s actions := by
  induction actions generalizing s with
  | nil => trivial
  | cons a rest ih => exact ⟨⟨first.1, second.1⟩, ih first.2 second.2⟩

theorem along_of_mem {P : σ → α → Prop} {s : σ} {actions : List α}
    (each : ∀ a ∈ actions, ∀ s, P s a) :
    Along step P s actions := by
  induction actions generalizing s with
  | nil => trivial
  | cons a rest ih =>
    exact ⟨each a List.mem_cons_self s, ih fun b member => each b (List.mem_cons_of_mem a member)⟩

theorem along_congr {P Q R : σ → α → Prop} (agree : ∀ s a, R s a → (P s a ↔ Q s a))
    {s : σ} {actions : List α} (along : Along step R s actions) :
    Along step P s actions ↔ Along step Q s actions := by
  induction actions generalizing s with
  | nil => exact Iff.rfl
  | cons a rest ih => simp only [Along, agree s a along.1, ih along.2]

theorem run_relation_along (R : σ → σ → Prop) {P : σ → α → Prop} (refl : ∀ s, R s s)
    (trans : ∀ {s t u}, R s t → R t u → R s u) (kept : ∀ s a, P s a → R s (step s a))
    {s : σ} {actions : List α} (along : Along step P s actions) : R s (run step s actions) := by
  induction actions generalizing s with
  | nil => exact refl s
  | cons a rest ih => exact trans (kept s a along.1) (ih along.2)

/-- Every entry of a log that only grows was there at the start or was added by
one of the steps. -/
theorem logged_at {ε : Type*} (log : σ → List ε) (new : σ → α → List ε)
    (grows : ∀ s a, log (step s a) = log s ++ new s a) {s : σ} {actions : List α} {e : ε}
    (member : e ∈ log (run step s actions)) :
    e ∈ log s ∨ ∃ before a after, actions = before ++ a :: after ∧
      e ∈ new (run step s before) a := by
  induction actions generalizing s with
  | nil => exact Or.inl member
  | cons a rest ih =>
    rcases ih member with early | ⟨before, b, after, split, added⟩
    · rw [grows] at early
      rcases List.mem_append.mp early with old | added
      · exact Or.inl old
      · exact Or.inr ⟨[], a, rest, rfl, added⟩
    · exact Or.inr ⟨a :: before, b, after, by rw [split]; rfl, added⟩

section Trail
variable {ε : Type*} {out : σ → α → List ε}

theorem trail_append (s : σ) (before after : List α) :
    trail step out s (before ++ after) =
      trail step out s before ++ trail step out (run step s before) after := by
  induction before generalizing s with
  | nil => rfl
  | cons a rest ih => simp only [List.cons_append, trail, ih, run_cons, List.append_assoc]

theorem mem_trail {s : σ} {before after : List α} {a : α} {e : ε}
    (added : e ∈ out (run step s before) a) : e ∈ trail step out s (before ++ a :: after) := by
  rw [trail_append]
  exact List.mem_append_right _ (List.mem_append_left _ added)

section Outputs
variable {I : σ → Prop} (kept : ∀ s a, I s → I (step s a))
include kept

theorem trail_forall {P : ε → Prop} (each : ∀ s a, I s → ∀ e ∈ out s a, P e) {s : σ} (initial : I s)
    (actions : List α) : ∀ e ∈ trail step out s actions, P e := by
  induction actions generalizing s with
  | nil => nofun
  | cons a rest ih =>
    intro e member
    rcases List.mem_append.mp member with now | later
    · exact each s a initial e now
    · exact ih (kept s a initial) e later

theorem trail_filterMap {δ : Type*} {from' : σ → α → List δ} {f : δ → Option ε}
    (each : ∀ s a, I s → out s a = (from' s a).filterMap f) {s : σ} (initial : I s)
    (actions : List α) :
    trail step out s actions = (trail step from' s actions).filterMap f := by
  induction actions generalizing s with
  | nil => rfl
  | cons a rest ih =>
    rw [trail, trail, List.filterMap_append, each s a initial, ih (kept s a initial)]

end Outputs

theorem position_of_nodup {s : σ} {before after before' after' : List α} {a a' : α} {e : ε}
    (distinct : (trail step out s (before ++ a :: after)).Nodup)
    (same : before ++ a :: after = before' ++ a' :: after')
    (here : e ∈ out (run step s before) a) (there : e ∈ out (run step s before') a') :
    before = before' := by
  induction before generalizing s before' with
  | nil =>
    cases before' with
    | nil => rfl
    | cons b rest =>
      simp only [List.nil_append, List.cons_append, List.cons.injEq] at same
      obtain ⟨rfl, rfl⟩ := same
      have apart := (List.nodup_append.mp distinct).2.2
      exact absurd rfl (apart e here e (mem_trail there))
  | cons b rest ih =>
    cases before' with
    | nil =>
      simp only [List.nil_append, List.cons_append, List.cons.injEq] at same
      obtain ⟨rfl, rfl⟩ := same
      have apart := (List.nodup_append.mp distinct).2.2
      exact absurd rfl (apart e there e (mem_trail here))
    | cons b' rest' =>
      simp only [List.cons_append, List.cons.injEq] at same
      obtain ⟨rfl, same⟩ := same
      have tail := (List.nodup_append.mp distinct).2.1
      rw [ih tail same here there]

end Trail
end Run
end Trace
