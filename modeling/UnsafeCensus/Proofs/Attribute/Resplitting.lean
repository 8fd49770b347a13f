import UnsafeCensus.Proofs.Attribute.Splitting

/-!
# Splitting what has been split

A text is the join of its pieces, and no other pieces fit the commas outside its brackets. What is
left of the pieces as arguments falls apart no further, one by one or joined again. That holds for
texts whose brackets do not match too: only the last argument can leave one open.
-/

namespace UnsafeCensus.Attribute

open Text (Blanks trim)

variable {depth : Nat} {s piece : List Char} {pieces args : List (List Char)}

-- ---------------------------------------------------------------------------
-- Pieces that make up a text
-- ---------------------------------------------------------------------------

/-- Pieces, one at least, that make up a text with commas between them. None has a comma outside its
brackets, and none but the last leaves a bracket open, each piece read by itself. -/
structure Cuts (s : List Char) (pieces : List (List Char)) : Prop where
  ne_nil : pieces ≠ []
  joined : [','].intercalate pieces = s
  isWhole : ∀ piece ∈ pieces, IsWhole 0 piece
  closed : ∀ piece ∈ pieces.dropLast, depthAfter 0 piece = 0

theorem cuts_singleton : Cuts s [piece] ↔ piece = s ∧ IsWhole 0 piece := by
  constructor
  · intro h
    exact ⟨by simpa using h.joined, h.isWhole piece List.mem_cons_self⟩
  · rintro ⟨rfl, h⟩
    exact ⟨by simp, by simp, by simpa using h, by simp⟩

theorem cuts_cons (hne : pieces ≠ []) :
    Cuts s (piece :: pieces) ↔ IsWhole 0 piece ∧ depthAfter 0 piece = 0 ∧
      ∃ rest, Cuts rest pieces ∧ s = piece ++ ',' :: rest := by
  have hjoin : [','].intercalate (piece :: pieces) = piece ++ ',' :: [','].intercalate pieces := by
    rw [List.intercalate_cons_of_ne_nil hne]
    simp
  constructor
  · rintro ⟨-, hjoined, hwhole, hclosed⟩
    rw [List.dropLast_cons_of_ne_nil hne] at hclosed
    obtain ⟨hpiece, hpieces⟩ := List.forall_mem_cons.mp hwhole
    obtain ⟨hend, hends⟩ := List.forall_mem_cons.mp hclosed
    exact ⟨hpiece, hend, _, ⟨hne, rfl, hpieces, hends⟩, by rw [← hjoined, hjoin]⟩
  · rintro ⟨hpiece, hend, rest, hrest, rfl⟩
    refine ⟨List.cons_ne_nil _ _, ?_, List.forall_mem_cons.mpr ⟨hpiece, hrest.isWhole⟩, ?_⟩
    · rw [hjoin, hrest.joined]
    · rw [List.dropLast_cons_of_ne_nil hne]
      exact List.forall_mem_cons.mpr ⟨hend, hrest.closed⟩

theorem pieces_ne_nil (h : Pieces depth s pieces) : pieces ≠ [] := by
  cases h <;> exact List.cons_ne_nil _ _

/-- The pieces of a text are those that make it up. -/
theorem cuts_iff : Cuts s pieces ↔ Pieces 0 s pieces := by
  induction pieces generalizing s with
  | nil => exact iff_of_false (fun h => h.ne_nil rfl) (fun h => pieces_ne_nil h rfl)
  | cons piece pieces ih =>
    by_cases hne : pieces = []
    · subst hne
      rw [cuts_singleton]
      constructor
      · rintro ⟨rfl, h⟩
        exact .last h
      · intro h
        cases h with
        | last h => exact ⟨rfl, h⟩
        | cut _ _ hrest => exact absurd rfl (pieces_ne_nil hrest)
    · rw [cuts_cons hne]
      constructor
      · rintro ⟨hpiece, hend, rest, hrest, rfl⟩
        exact .cut hpiece hend (ih.mp hrest)
      · intro h
        cases h with
        | last _ => exact absurd rfl hne
        | cut hpiece hend hrest => exact ⟨hpiece, hend, _, ih.mpr hrest, rfl⟩

-- ---------------------------------------------------------------------------
-- Arguments again
-- ---------------------------------------------------------------------------

theorem depthAfter_trim (depth : Nat) (s : List Char) :
    depthAfter depth (trim s) = depthAfter depth s := by
  obtain ⟨v, w, hv, hw, hs⟩ := Text.exists_blanks_append_trim s
  have hpadded : depthAfter depth (v ++ trim s ++ w) = depthAfter depth (trim s) := by
    rw [depthAfter_append, depthAfter_append, depthAfter_blanks hv, depthAfter_blanks hw]
  rw [← hpadded, ← hs]

theorem IsWhole.trim (h : IsWhole depth s) : IsWhole depth (trim s) := by
  obtain ⟨v, w, hv, hw, hs⟩ := Text.exists_blanks_append_trim s
  rw [hs, isWhole_append, isWhole_append, depthAfter_blanks hv] at h
  exact h.1.2

/-- What stays of a piece as an argument. -/
structure IsAtomic (arg : List Char) : Prop where
  ne_nil : arg ≠ []
  trimmed : trim arg = arg
  isWhole : IsWhole 0 arg

theorem IsAtomic.splitArguments_eq {arg : List Char} (h : IsAtomic arg) :
    splitArguments arg = [arg] := by
  rw [splitArguments_of_isWhole h.isWhole, h.trimmed]
  simp [h.ne_nil]

theorem isAtomic_of_mem_splitArguments {arg : List Char} (h : arg ∈ splitArguments s) :
    IsAtomic arg := by
  have hcuts : Cuts s (segments 0 s) := cuts_iff.mpr (pieces_segments 0 s)
  rw [splitArguments, List.mem_filter, List.mem_map] at h
  obtain ⟨⟨piece, hpiece, rfl⟩, hne⟩ := h
  exact ⟨by simpa using hne, Text.trim_trim piece, (hcuts.isWhole piece hpiece).trim⟩

/-- Whatever has something behind it has some property. -/
theorem forall_mem_dropLast_iff {α : Type} {P : α → Prop} {l : List α} :
    (∀ a ∈ l.dropLast, P a) ↔ l.Pairwise fun a _ => P a := by
  induction l with
  | nil => simp
  | cons a l ih =>
    cases l with
    | nil => simp
    | cons b l =>
      have hbehind : (∀ c ∈ b :: l, P a) ↔ P a :=
        ⟨fun h => h b List.mem_cons_self, fun h _ _ => h⟩
      rw [List.dropLast_cons_cons, List.forall_mem_cons, ih, List.pairwise_cons (a := a), hbehind]

/-- An argument with another one behind it leaves no bracket open. -/
theorem depthAfter_of_mem_dropLast {arg : List Char} (h : arg ∈ (splitArguments s).dropLast) :
    depthAfter 0 arg = 0 := by
  have hcuts : Cuts s (segments 0 s) := cuts_iff.mpr (pieces_segments 0 s)
  have hpairwise := forall_mem_dropLast_iff.mp hcuts.closed
  have hargs : (splitArguments s).Pairwise fun a _ => depthAfter 0 a = 0 := by
    refine List.Pairwise.filter _ (List.pairwise_map.mpr (hpairwise.imp fun hclosed => ?_))
    rw [depthAfter_trim, hclosed]
  exact forall_mem_dropLast_iff.mpr hargs arg h

theorem splitArguments_intercalate (hatomic : ∀ arg ∈ args, IsAtomic arg)
    (hclosed : ∀ arg ∈ args.dropLast, depthAfter 0 arg = 0) :
    splitArguments ([','].intercalate args) = args := by
  induction args with
  | nil => rfl
  | cons arg args ih =>
    obtain ⟨harg, hargs⟩ := List.forall_mem_cons.mp hatomic
    by_cases hne : args = []
    · simpa [hne] using harg.splitArguments_eq
    · rw [List.dropLast_cons_of_ne_nil hne] at hclosed
      obtain ⟨hend, hends⟩ := List.forall_mem_cons.mp hclosed
      have hjoin : [','].intercalate (arg :: args) = arg ++ ',' :: [','].intercalate args := by
        rw [List.intercalate_cons_of_ne_nil hne]
        simp
      rw [hjoin, splitArguments_append_comma harg.isWhole hend, ih hargs hends, harg.trimmed]
      simp [harg.ne_nil]

-- ---------------------------------------------------------------------------
-- Splitting
-- ---------------------------------------------------------------------------

/-- A text is made up of pieces in one way, its arguments are what these pieces hold between blanks,
and no argument splits again: neither alone, nor when all are joined. -/
theorem splits_once_and_for_all (raw : List Char) :
    (∃! pieces, Cuts raw pieces) ∧
    (∀ pieces, Cuts raw pieces →
      splitArguments raw = (pieces.map trim).filter fun arg => !arg.isEmpty) ∧
    (∀ arg ∈ splitArguments raw, splitArguments arg = [arg]) ∧
    splitArguments ([','].intercalate (splitArguments raw)) = splitArguments raw := by
  have hcuts {pieces : List (List Char)} : Cuts raw pieces ↔ segments 0 raw = pieces :=
    cuts_iff.trans pieces_iff
  refine ⟨⟨segments 0 raw, hcuts.mpr rfl, fun _ h => (hcuts.mp h).symm⟩, ?_, ?_, ?_⟩
  · intro pieces h
    rw [splitArguments, hcuts.mp h]
  · intro arg harg
    exact (isAtomic_of_mem_splitArguments harg).splitArguments_eq
  · exact splitArguments_intercalate (fun _ => isAtomic_of_mem_splitArguments)
      fun _ => depthAfter_of_mem_dropLast

/-- A closing bracket too many, a lone comma, and a bracket that stays open. -/
def unbalanced : List Char := " a), ,b(c, d) ,\te[f, g".toList

def unbalancedPieces : List (List Char) :=
  [" a)".toList, " ".toList, "b(c, d) ".toList, "\te[f, g".toList]

theorem unbalanced_splits_once :
    Cuts unbalanced unbalancedPieces ∧
    splitArguments unbalanced = ["a)".toList, "b(c, d)".toList, "e[f, g".toList] ∧
    "e[f, g".toList ∈ splitArguments unbalanced ∧
    splitArguments "e[f, g".toList = ["e[f, g".toList] := by
  have hcuts : Cuts unbalanced unbalancedPieces :=
    ⟨by decide, by decide +kernel, by decide +kernel, by decide +kernel⟩
  obtain ⟨-, hargs, hatomic, -⟩ := splits_once_and_for_all unbalanced
  have hsplit : splitArguments unbalanced = ["a)".toList, "b(c, d)".toList, "e[f, g".toList] := by
    rw [hargs _ hcuts]
    decide +kernel
  have hmem : "e[f, g".toList ∈ splitArguments unbalanced := by
    rw [hsplit]
    decide +kernel
  exact ⟨hcuts, hsplit, hmem, hatomic _ hmem⟩

end UnsafeCensus.Attribute
