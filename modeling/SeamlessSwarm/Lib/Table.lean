import Mathlib.Data.List.Nodup
import Mathlib.Data.List.Perm.Basic

/-! A hash map whose values carry their own key, as the list of its values.
The list stands for the iteration order, which a hash map leaves unspecified:
`reorder` turns it into any other order, and lookups do not see the change. -/
namespace Keyed

variable {κ ν : Type*}

/-- The rows of a map, no two of them under one key. -/
structure Table (key : ν → κ) where
  rows : List ν
  nodup : (rows.map key).Nodup

namespace Table
variable {key : ν → κ}

@[ext] theorem ext {t u : Table key} (same : t.rows = u.rows) : t = u := by
  cases t; cases u; cases same; rfl

instance [DecidableEq ν] : DecidableEq (Table key) := fun t u =>
  decidable_of_iff (t.rows = u.rows) ⟨ext, fun h => h ▸ rfl⟩

def empty : Table key := ⟨[], List.nodup_nil⟩

def retain (t : Table key) (keep : ν → Bool) : Table key :=
  ⟨t.rows.filter keep, t.nodup.sublist (List.filter_sublist.map key)⟩

def withRows (t : Table key) (rows : List ν) (same : rows.map key = t.rows.map key) :
    Table key := ⟨rows, same ▸ t.nodup⟩

def mapRows (t : Table key) (f : ν → ν) (keeps : ∀ v, key (f v) = key v) : Table key :=
  t.withRows (t.rows.map f)
    (by simp only [List.map_map]; exact List.map_congr_left fun v _ => keeps v)

/-- Another iteration order of the same rows; any other list is ignored. -/
def reorder [DecidableEq ν] (t : Table key) (rows : List ν) : Table key :=
  if h : rows.Perm t.rows then ⟨rows, (h.map key).nodup_iff.mpr t.nodup⟩ else t

theorem reorder_perm [DecidableEq ν] (t : Table key) (rows : List ν) :
    (t.reorder rows).rows.Perm t.rows := by
  unfold reorder
  split
  · assumption
  · exact List.Perm.refl _

theorem reorder_rows [DecidableEq ν] (t : Table key) {rows : List ν} (order : rows.Perm t.rows) :
    (t.reorder rows).rows = rows := by
  rw [reorder, dif_pos order]

variable [DecidableEq κ]

def get (t : Table key) (k : κ) : Option ν := t.rows.find? (fun v => key v = k)

def remove (t : Table key) (k : κ) : Table key := t.retain (fun v => key v ≠ k)

def insert (t : Table key) (v : ν) : Table key where
  rows := v :: (t.remove (key v)).rows
  nodup := by
    refine List.nodup_cons.mpr ⟨?_, (t.remove (key v)).nodup⟩
    intro member
    obtain ⟨w, hw, same⟩ := List.mem_map.mp member
    simp [remove, retain, same] at hw

def modify (t : Table key) (k : κ) (f : ν → ν) (keeps : ∀ v, key (f v) = key v) : Table key :=
  t.mapRows (fun v => if key v = k then f v else v) (fun v => by
    by_cases h : key v = k
    · simp only [h, if_true]; exact (keeps v).trans h
    · simp only [h, if_false])

/-! Lookups. A key has at most one row, so a lookup is membership. -/

theorem get_eq_some_iff (t : Table key) (k : κ) (v : ν) :
    t.get k = some v ↔ v ∈ t.rows ∧ key v = k := by
  constructor
  · intro found
    exact ⟨List.mem_of_find?_eq_some found, by simpa using List.find?_some found⟩
  · rintro ⟨member, named⟩
    cases found : t.get k with
    | none =>
      have absent := List.find?_eq_none.mp found v member
      simp [named] at absent
    | some w =>
      have hw : key w = k := by simpa using List.find?_some found
      have same := List.inj_on_of_nodup_map t.nodup (List.mem_of_find?_eq_some found) member
        (hw.trans named.symm)
      rw [same]

theorem mem_iff_get (t : Table key) (v : ν) : v ∈ t.rows ↔ t.get (key v) = some v := by
  simp [get_eq_some_iff]

theorem key_of_get {t : Table key} {k : κ} {v : ν} (found : t.get k = some v) : key v = k :=
  ((get_eq_some_iff t k v).mp found).2

theorem mem_of_get {t : Table key} {k : κ} {v : ν} (found : t.get k = some v) : v ∈ t.rows :=
  ((get_eq_some_iff t k v).mp found).1

theorem get_congr {t u : Table key} {k l : κ}
    (same : ∀ v, (v ∈ t.rows ∧ key v = k) ↔ (v ∈ u.rows ∧ key v = l)) : t.get k = u.get l := by
  apply Option.ext
  intro v
  rw [get_eq_some_iff, get_eq_some_iff, same]

@[simp] theorem get_empty (k : κ) : (empty : Table key).get k = none := rfl

theorem get_of_perm {t u : Table key} (same : t.rows.Perm u.rows) (k : κ) : t.get k = u.get k :=
  get_congr fun v => by rw [same.mem_iff]

@[simp] theorem get_reorder [DecidableEq ν] (t : Table key) (rows : List ν) (k : κ) :
    (t.reorder rows).get k = t.get k :=
  get_of_perm (t.reorder_perm rows) k

theorem get_retain (t : Table key) (keep : ν → Bool) (k : κ) :
    (t.retain keep).get k = (t.get k).filter keep := by
  apply Option.ext
  intro v
  simp only [get_eq_some_iff, Option.filter_eq_some_iff, retain, List.mem_filter]
  constructor
  · rintro ⟨⟨member, kept⟩, named⟩; exact ⟨⟨member, named⟩, kept⟩
  · rintro ⟨⟨member, named⟩, kept⟩; exact ⟨⟨member, kept⟩, named⟩

@[simp] theorem get_remove_self (t : Table key) (k : κ) : (t.remove k).get k = none := by
  rw [remove, get_retain]
  cases found : t.get k with
  | none => rfl
  | some v => simp [key_of_get found]

theorem get_remove_ne (t : Table key) {k l : κ} (other : l ≠ k) :
    (t.remove k).get l = t.get l := by
  rw [remove, get_retain]
  cases found : t.get l with
  | none => rfl
  | some v => simp [key_of_get found, other]

@[simp] theorem get_insert_self (t : Table key) (v : ν) : (t.insert v).get (key v) = some v := by
  simp [get_eq_some_iff, insert]

theorem get_insert_ne (t : Table key) (v : ν) {k : κ} (other : k ≠ key v) :
    (t.insert v).get k = t.get k := by
  rw [← get_remove_ne t other]
  apply get_congr
  intro w
  simp only [insert, List.mem_cons]
  constructor
  · rintro ⟨rfl | member, named⟩
    · exact absurd named.symm other
    · exact ⟨member, named⟩
  · rintro ⟨member, named⟩; exact ⟨Or.inr member, named⟩

theorem get_insert (t : Table key) (v : ν) (k : κ) :
    (t.insert v).get k = if k = key v then some v else t.get k := by
  by_cases h : k = key v
  · subst h; simp
  · simp only [h, if_false]; exact get_insert_ne t v h

theorem mem_remove (t : Table key) (k : κ) (v : ν) :
    v ∈ (t.remove k).rows ↔ v ∈ t.rows ∧ key v ≠ k := by
  simp only [remove, retain, List.mem_filter, decide_eq_true_iff]

theorem mem_insert (t : Table key) (w v : ν) :
    v ∈ (t.insert w).rows ↔ v = w ∨ v ∈ t.rows ∧ key v ≠ key w := by
  rw [insert, List.mem_cons, mem_remove]

theorem get_mapRows (t : Table key) (f : ν → ν) (keeps : ∀ v, key (f v) = key v) (k : κ) :
    (t.mapRows f keeps).get k = (t.get k).map f := by
  apply Option.ext
  intro w
  simp only [get_eq_some_iff, Option.map_eq_some_iff, mapRows, withRows, List.mem_map]
  constructor
  · rintro ⟨⟨v, member, rfl⟩, named⟩; exact ⟨v, ⟨member, (keeps v).symm.trans named⟩, rfl⟩
  · rintro ⟨v, ⟨member, named⟩, rfl⟩; exact ⟨⟨v, member, rfl⟩, (keeps v).trans named⟩

theorem get_modify (t : Table key) (k : κ) (f : ν → ν) (keeps : ∀ v, key (f v) = key v) (l : κ) :
    (t.modify k f keeps).get l = if l = k then (t.get l).map f else t.get l := by
  rw [modify, get_mapRows]
  cases found : t.get l with
  | none => simp
  | some v =>
    have named := key_of_get found
    by_cases h : l = k
    · simp [named, h]
    · simp [named, h]

end Table
end Keyed
