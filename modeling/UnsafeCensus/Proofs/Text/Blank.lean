import Mathlib.Data.List.TakeWhile
import UnsafeCensus.Text.Blank

/-!
# Trimming

Trimming takes a run of blanks off either end, and only that.
-/

namespace UnsafeCensus.Text

variable {c : Char} {s w : List Char}

/-- Blanks, and nothing else. -/
def Blanks (w : List Char) : Prop :=
  ∀ c ∈ w, isBlank c = true

instance : DecidablePred Blanks :=
  fun w => decidable_of_iff (w.all isBlank = true) List.all_eq_true

theorem blanks_nil : Blanks [] := nofun

theorem Blanks.append {v : List Char} (h : Blanks v) (h' : Blanks w) : Blanks (v ++ w) :=
  List.forall_mem_append.mpr ⟨h, h'⟩

-- ---------------------------------------------------------------------------
-- At the beginning
-- ---------------------------------------------------------------------------

theorem trimStart_append (h : Blanks w) (s : List Char) : trimStart (w ++ s) = trimStart s :=
  List.dropWhile_append_of_pos h

theorem trimStart_cons (h : isBlank c = false) (s : List Char) : trimStart (c :: s) = c :: s :=
  List.dropWhile_cons_of_neg (by simp [h])

theorem trimStart_eq_nil : trimStart s = [] ↔ Blanks s :=
  List.dropWhile_eq_nil_iff

theorem not_isBlank_of_trimStart_eq_cons {rest : List Char} (h : trimStart s = c :: rest) :
    isBlank c = false := by
  have hnot := List.head?_dropWhile_not isBlank s
  rw [trimStart] at h
  rw [h] at hnot
  exact hnot

theorem exists_blanks_append_trimStart (s : List Char) : ∃ w, Blanks w ∧ s = w ++ trimStart s :=
  ⟨s.takeWhile isBlank, fun _ hc => List.mem_takeWhile_imp hc, List.takeWhile_append_dropWhile.symm⟩

-- ---------------------------------------------------------------------------
-- At the end
-- ---------------------------------------------------------------------------

theorem trimEnd_append (h : Blanks w) (s : List Char) : trimEnd (s ++ w) = trimEnd s := by
  have hreverse : ∀ c ∈ w.reverse, isBlank c = true := fun c hc => h c (List.mem_reverse.mp hc)
  rw [trimEnd, List.reverse_append, List.dropWhile_append_of_pos hreverse, trimEnd]

theorem trimEnd_concat (h : isBlank c = false) (s : List Char) : trimEnd (s ++ [c]) = s ++ [c] := by
  simp [trimEnd, h]

theorem exists_trimEnd_append_blanks (s : List Char) : ∃ w, Blanks w ∧ s = trimEnd s ++ w := by
  obtain ⟨w, hw, hs⟩ := exists_blanks_append_trimStart s.reverse
  refine ⟨w.reverse, fun c hc => hw c (List.mem_reverse.mp hc), ?_⟩
  have hreverse := congrArg List.reverse hs
  simpa [trimEnd, trimStart] using hreverse

-- ---------------------------------------------------------------------------
-- On both sides
-- ---------------------------------------------------------------------------

theorem trim_append {v : List Char} (hv : Blanks v) (hw : Blanks w) (s : List Char) :
    trim (v ++ s ++ w) = trim s := by
  rw [trim, List.append_assoc, trimStart_append hv, trim]
  by_cases hs : Blanks s
  · rw [trimStart_eq_nil.mpr (hs.append hw), trimStart_eq_nil.mpr hs]
  · have hne : trimStart s ≠ [] := fun h => hs (trimStart_eq_nil.mp h)
    have happend : trimStart (s ++ w) = trimStart s ++ w := by
      simp only [trimStart] at hne ⊢
      simp [List.dropWhile_append, hne]
    rw [happend, trimEnd_append hw]

theorem exists_blanks_append_trim (s : List Char) :
    ∃ v w, Blanks v ∧ Blanks w ∧ s = v ++ trim s ++ w := by
  obtain ⟨v, hv, hs⟩ := exists_blanks_append_trimStart s
  obtain ⟨w, hw, htrim⟩ := exists_trimEnd_append_blanks (trimStart s)
  refine ⟨v, w, hv, hw, ?_⟩
  rw [trim, List.append_assoc, ← htrim, ← hs]

theorem trim_trim (s : List Char) : trim (trim s) = trim s := by
  obtain ⟨v, w, hv, hw, hs⟩ := exists_blanks_append_trim s
  have htrim := congrArg trim hs
  rw [trim_append hv hw] at htrim
  exact htrim.symm

theorem trim_isPrefix (s : List Char) : trim s <+: trimStart s := by
  obtain ⟨w, -, hw⟩ := exists_trimEnd_append_blanks (trimStart s)
  exact ⟨w, hw.symm⟩

theorem trim_eq_nil : trim s = [] ↔ Blanks s := by
  constructor
  · intro h
    obtain ⟨v, w, hv, hw, hs⟩ := exists_blanks_append_trim s
    rw [h, List.append_nil] at hs
    exact hs ▸ hv.append hw
  · intro h
    rw [trim, trimStart_eq_nil.mpr h]
    rfl

/-- What is left begins with what is no blank. -/
theorem exists_trim_eq_cons (h : ¬ Blanks s) : ∃ c rest, trim s = c :: rest ∧ isBlank c = false := by
  obtain ⟨c, rest, htrim⟩ := List.exists_cons_of_ne_nil (mt trim_eq_nil.mp h)
  obtain ⟨behind, hbehind⟩ := trim_isPrefix s
  rw [htrim, List.cons_append] at hbehind
  exact ⟨c, rest, htrim, not_isBlank_of_trimStart_eq_cons hbehind.symm⟩

theorem eq_nil_of_blanks (h : Blanks w) (hnone : ∀ c ∈ w, isBlank c = false) : w = [] := by
  rw [List.eq_nil_iff_forall_not_mem]
  intro c hc
  exact Bool.false_ne_true ((hnone c hc).symm.trans (h c hc))

theorem trim_of_not_isBlank (h : ∀ c ∈ s, isBlank c = false) : trim s = s := by
  obtain ⟨v, w, hv, hw, hs⟩ := exists_blanks_append_trim s
  rw [hs, List.forall_mem_append, List.forall_mem_append] at h
  rw [eq_nil_of_blanks hv h.1.1, eq_nil_of_blanks hw h.2, List.nil_append, List.append_nil] at hs
  exact hs.symm

end UnsafeCensus.Text
