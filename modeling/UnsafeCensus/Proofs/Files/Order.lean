import Mathlib.Data.String.Basic
import UnsafeCensus.Files.Discovery

/-!
# Locations in order

Sequences of names are ordered like words whose letters are names. Sorting puts locations into this
order, and if none is there twice, each is then strictly before the next.
-/

namespace UnsafeCensus.Files

variable {α : Type} [LinearOrder α] {a b : Location} {ls : List Location}

-- ---------------------------------------------------------------------------
-- The order of names
-- ---------------------------------------------------------------------------

theorem Path.partsLt_iff : Path.partsLt a b = true ↔ a < b := by
  induction a generalizing b with
  | nil =>
    cases b with
    | nil => simp [partsLt]
    | cons name b => simp [partsLt]
  | cons name a ih =>
    cases b with
    | nil => simp [partsLt]
    | cons name' b => simp [partsLt, ih, List.cons_lt_cons_iff]

theorem Path.not_partsLt_iff : (!Path.partsLt b a) = true ↔ a ≤ b := by
  rw [Bool.not_eq_true', ← Bool.not_eq_true, Path.partsLt_iff, not_lt]

/-- Each location of a list is before all that follow. -/
def InOrder (ls : List Location) : Prop :=
  ls.Pairwise fun a b => Path.partsLt a b = true

theorem inOrder_iff : InOrder ls ↔ ls.Pairwise (· < ·) := by
  simp only [InOrder, Path.partsLt_iff]

instance : Decidable (InOrder ls) :=
  inferInstanceAs (Decidable (ls.Pairwise _))

theorem append_lt_append_iff {base : Location} : base ++ a < base ++ b ↔ a < b := by
  induction base with
  | nil => rfl
  | cons name base ih => simp [ih]

-- ---------------------------------------------------------------------------
-- Sorting
-- ---------------------------------------------------------------------------

theorem mem_sortedLocations : a ∈ sortedLocations ls ↔ a ∈ ls :=
  (List.mergeSort_perm ls _).mem_iff

theorem pairwise_sortedLocations (h : ls.Nodup) : (sortedLocations ls).Pairwise (· < ·) := by
  have htrans (a b c : Location) (hab : (!Path.partsLt b a) = true)
      (hbc : (!Path.partsLt c b) = true) : (!Path.partsLt c a) = true := by
    rw [Path.not_partsLt_iff] at *
    exact hab.trans hbc
  have htotal (a b : Location) : (!Path.partsLt b a || !Path.partsLt a b) = true := by
    simp only [Bool.or_eq_true, Path.not_partsLt_iff]
    exact le_total a b
  have hsorted : (sortedLocations ls).Pairwise fun a b => (!Path.partsLt b a) = true :=
    List.pairwise_mergeSort htrans htotal ls
  have hnodup : (sortedLocations ls).Nodup := (List.mergeSort_perm ls _).nodup_iff.mpr h
  refine (hsorted.and hnodup).imp fun {a b} ⟨hle, hne⟩ => ?_
  exact lt_of_le_of_ne (Path.not_partsLt_iff.mp hle) hne

/-- In a list in order, a run at the front holds what nothing before stops. -/
theorem mem_takeWhile_iff_of_pairwise {l : List α} (h : l.Pairwise (· < ·)) {p : α → Bool} {x : α} :
    x ∈ l.takeWhile p ↔ x ∈ l ∧ p x = true ∧ ∀ y ∈ l, y < x → p y = true := by
  induction l with
  | nil => simp
  | cons first l ih =>
    obtain ⟨hfirst, hl⟩ := List.pairwise_cons.mp h
    by_cases hp : p first = true
    · rw [List.takeWhile_cons_of_pos hp, List.mem_cons, ih hl]
      constructor
      · rintro (rfl | ⟨hx, hpx, hbefore⟩)
        · refine ⟨List.mem_cons_self, hp, fun y hy hlt => ?_⟩
          rcases List.mem_cons.mp hy with rfl | hy
          · exact hp
          · exact absurd hlt (hfirst y hy).asymm
        · exact ⟨List.mem_cons_of_mem _ hx, hpx, List.forall_mem_cons.mpr ⟨fun _ => hp, hbefore⟩⟩
      · rintro ⟨hx, hpx, hbefore⟩
        refine (List.mem_cons.mp hx).imp_right fun hx => ⟨hx, hpx, ?_⟩
        exact fun y hy => hbefore y (List.mem_cons_of_mem _ hy)
    · rw [List.takeWhile_cons_of_neg hp]
      refine ⟨nofun, fun ⟨hx, hpx, hbefore⟩ => ?_⟩
      rcases List.mem_cons.mp hx with rfl | hx
      · exact absurd hpx hp
      · exact absurd (hbefore first List.mem_cons_self (hfirst x hx)) hp

/-- Where each is before the next, the places in the list need not be looked at. -/
theorem pairwise_iff_of_pairwise {l : List α} (h : l.Pairwise (· < ·)) {r : α → α → Prop} :
    l.Pairwise r ↔ ∀ x ∈ l, ∀ y ∈ l, x < y → r x y := by
  induction l with
  | nil => simp
  | cons first l ih =>
    obtain ⟨hfirst, hl⟩ := List.pairwise_cons.mp h
    rw [List.pairwise_cons, ih hl]
    constructor
    · rintro ⟨hr, hrest⟩ x hx y hy hlt
      rcases List.mem_cons.mp hx with rfl | hx
      · rcases List.mem_cons.mp hy with rfl | hy
        · exact absurd hlt (lt_irrefl _)
        · exact hr y hy
      · rcases List.mem_cons.mp hy with heq | hy
        · exact absurd (heq ▸ hlt) (hfirst x hx).asymm
        · exact hrest x hx y hy hlt
    · intro hall
      refine ⟨fun y hy => ?_, fun x hx y hy => ?_⟩
      · exact hall _ List.mem_cons_self y (List.mem_cons_of_mem _ hy) (hfirst y hy)
      · exact hall x (List.mem_cons_of_mem _ hx) y (List.mem_cons_of_mem _ hy)

end UnsafeCensus.Files
