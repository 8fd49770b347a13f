import Mathlib.Data.List.Nodup
import UnsafeCensus.Value.Table

/-!
# Tables as finite maps

A table in which no name stands twice is a finite map, and writing one table into another is the
union of the two in which the entries of the second win.
-/

namespace UnsafeCensus.Table

variable {α : Type} {t u : Table α} {key other : String} {value : α}

-- ---------------------------------------------------------------------------
-- Looking up
-- ---------------------------------------------------------------------------

@[simp] theorem get?_nil (key : String) : get? ([] : Table α) key = none := rfl

theorem get?_cons (e : String × α) (t : Table α) (key : String) :
    get? (e :: t) key = if e.1 = key then some e.2 else t.get? key := by
  simp only [get?, List.find?_cons]
  split <;> simp_all

theorem mem_names : key ∈ t.map (·.1) ↔ ∃ value, t.get? key = some value := by
  induction t with
  | nil => simp
  | cons e t ih =>
    rw [List.map_cons, List.mem_cons, ih, get?_cons]
    by_cases h : e.1 = key
    · simp [h]
    · simp [h, Ne.symm h]

theorem get?_eq_none : t.get? key = none ↔ key ∉ t.map (·.1) := by
  rw [mem_names, ← Option.isSome_iff_exists, Option.not_isSome_iff_eq_none]

theorem has_eq (t : Table α) (key : String) : t.has key = (t.get? key).isSome := by
  induction t with
  | nil => rfl
  | cons e t ih =>
    rw [has, List.any_cons, get?_cons]
    by_cases h : e.1 = key
    · simp [h]
    · rw [beq_eq_false_iff_ne.mpr h, if_neg h, Bool.false_or]
      exact ih

theorem mem_of_get?_eq_some (h : t.get? key = some value) : (key, value) ∈ t := by
  obtain ⟨e, hfind, rfl⟩ := Option.map_eq_some_iff.mp h
  have hname : e.1 = key := by simpa using List.find?_some hfind
  rw [← hname]
  exact List.mem_of_find?_eq_some hfind

-- ---------------------------------------------------------------------------
-- Writing and erasing
-- ---------------------------------------------------------------------------

theorem get?_put (key : String) (value : α) (t : Table α) (other : String) :
    (t.put key value).get? other = if key = other then some value else t.get? other := by
  split
  · next h => rw [← h, get?_put_self]
  · next h => exact get?_put_of_ne value t h

theorem get?_erase (key : String) (t : Table α) (other : String) :
    (t.erase key).get? other = if key = other then none else t.get? other := by
  induction t with
  | nil => simp [erase]
  | cons e t ih =>
    have hcons : erase key (e :: t) = if e.1 = key then erase key t else e :: erase key t := by
      simp only [erase, List.filter_cons, bne_iff_ne]
      split <;> simp_all
    rw [hcons]
    by_cases he : e.1 = key
    · rw [if_pos he, ih, get?_cons]
      by_cases hkey : key = other
      · simp [hkey]
      · simp [hkey, he]
    · rw [if_neg he, get?_cons, ih, get?_cons]
      by_cases hkey : key = other
      · subst hkey
        rw [if_pos rfl, if_neg he, if_pos rfl]
      · simp [hkey]

theorem mem_put {e : String × α} (h : e ∈ t.put key value) : e = (key, value) ∨ e ∈ t := by
  induction t with
  | nil => exact Or.inl (List.mem_singleton.mp h)
  | cons d t ih =>
    rw [put] at h
    split at h
    · rcases List.mem_cons.mp h with h | h
      · exact Or.inl h
      · exact Or.inr (List.mem_cons_of_mem d h)
    · rcases List.mem_cons.mp h with h | h
      · exact Or.inr (h ▸ List.mem_cons_self)
      · exact (ih h).imp_right (List.mem_cons_of_mem d)

-- ---------------------------------------------------------------------------
-- Distinct names
-- ---------------------------------------------------------------------------

/-- No name stands twice. -/
def NamesDistinct (t : Table α) : Prop :=
  (t.map (·.1)).Nodup

theorem namesDistinct_nil : NamesDistinct ([] : Table α) := List.nodup_nil

theorem namesDistinct_cons {e : String × α} :
    NamesDistinct (e :: t) ↔ e.1 ∉ t.map (·.1) ∧ NamesDistinct t := List.nodup_cons

theorem NamesDistinct.put (h : t.NamesDistinct) (key : String) (value : α) :
    (t.put key value).NamesDistinct := by
  induction t with
  | nil => exact namesDistinct_cons.mpr ⟨List.not_mem_nil, namesDistinct_nil⟩
  | cons e t ih =>
    obtain ⟨hfresh, ht⟩ := namesDistinct_cons.mp h
    rw [Table.put]
    split
    · next he =>
      rw [beq_iff_eq] at he
      exact namesDistinct_cons.mpr ⟨he ▸ hfresh, ht⟩
    · next he =>
      refine namesDistinct_cons.mpr ⟨?_, ih ht⟩
      -- The name is not among the old ones, and the new one is another.
      rw [← get?_eq_none, get?_put_of_ne value t fun hkey => he (by simp [hkey]), get?_eq_none]
      exact hfresh

theorem NamesDistinct.erase (h : t.NamesDistinct) (key : String) : (t.erase key).NamesDistinct :=
  List.Nodup.sublist (List.filter_sublist.map _) h

/-- What the second table has wins, and what it does not have is left. -/
theorem get?_update (hu : u.NamesDistinct) (t : Table α) (key : String) :
    (t.update u).get? key = (u.get? key).or (t.get? key) := by
  induction u generalizing t with
  | nil => rfl
  | cons e u ih =>
    obtain ⟨hfresh, hu⟩ := namesDistinct_cons.mp hu
    have hupdate : t.update (e :: u) = (t.put e.1 e.2).update u := rfl
    rw [hupdate, ih hu, get?_put, get?_cons]
    split
    · next he =>
      have hnone : get? u key = none := get?_eq_none.mpr (he ▸ hfresh)
      rw [hnone, Option.none_or, Option.some_or]
    · rfl

theorem mem_names_update :
    key ∈ (t.update u).map (·.1) ↔ key ∈ u.map (·.1) ∨ key ∈ t.map (·.1) := by
  induction u generalizing t with
  | nil => simp [update]
  | cons e u ih =>
    have hupdate : t.update (e :: u) = (t.put e.1 e.2).update u := rfl
    have hput : key ∈ (t.put e.1 e.2).map (·.1) ↔ key = e.1 ∨ key ∈ t.map (·.1) := by
      simp only [mem_names, get?_put]
      split
      · next he => simp [he]
      · next he => simp [Ne.symm he]
    rw [hupdate, ih, hput, List.map_cons, List.mem_cons, or_assoc]
    exact or_left_comm

end UnsafeCensus.Table
