import UnsafeCensus.Attribute.Arguments
import UnsafeCensus.Proofs.Text.Blank

/-!
# Splitting an argument list

`Pieces` says what it is to cut a text at the commas that stand outside all brackets. There is one
way to do so for each text. And a list of arguments that are written with commas and blanks between
them falls into these arguments.
-/

namespace UnsafeCensus.Attribute

open Text (Blanks isBlank trim)

variable {depth : Nat} {c : Char} {s t w : List Char} {pieces : List (List Char)}

-- ---------------------------------------------------------------------------
-- Depth
-- ---------------------------------------------------------------------------

/-- How deep in brackets a text ends that begins at a depth. -/
def depthAfter (depth : Nat) (s : List Char) : Nat :=
  s.foldl deepen depth

/-- No comma of a text that begins at a depth stands outside all brackets. -/
def IsWhole (depth : Nat) (s : List Char) : Prop :=
  ∀ before after, s = before ++ ',' :: after → depthAfter depth before ≠ 0

theorem depthAfter_append (depth : Nat) (s t : List Char) :
    depthAfter depth (s ++ t) = depthAfter (depthAfter depth s) t :=
  List.foldl_append

theorem isWhole_nil (depth : Nat) : IsWhole depth [] := by
  intro before after h
  simp at h

theorem isWhole_cons : IsWhole depth (c :: s) ↔
    ¬ (c = ',' ∧ depth = 0) ∧ IsWhole (deepen depth c) s := by
  constructor
  · intro h
    refine ⟨fun ⟨hc, hdepth⟩ => h [] s (by rw [hc]; rfl) hdepth, ?_⟩
    rintro before after rfl
    exact h (c :: before) after rfl
  · rintro ⟨hc, hs⟩ before after h
    cases before with
    | nil =>
      intro hdepth
      exact hc ⟨(List.cons.inj h).1, hdepth⟩
    | cons d before =>
      obtain ⟨rfl, rfl⟩ := List.cons.inj h
      exact hs before after rfl

theorem isWhole_append : IsWhole depth (s ++ t) ↔
    IsWhole depth s ∧ IsWhole (depthAfter depth s) t := by
  induction s generalizing depth with
  | nil => simp [isWhole_nil, depthAfter]
  | cons c s ih =>
    rw [List.cons_append, isWhole_cons, isWhole_cons, ih, and_assoc]
    rfl

-- ---------------------------------------------------------------------------
-- Marks
-- ---------------------------------------------------------------------------

/-- The characters that part and group arguments. -/
def isMark (c : Char) : Bool :=
  c == ',' || isOpening c || isClosing c

theorem isMark_cases (h : isMark c = true) : c ∈ [',', '(', '[', '\x7b', ')', ']', '\x7d'] := by
  simpa [isMark, isOpening, isClosing, or_assoc] using h

/-- To find out about a list of characters, its members are looked at one by one, and not all
characters there are. -/
theorem forall_eq_false_of_all {P : Char → Bool} (h : (s.all fun c => !P c) = true) :
    ∀ c ∈ s, P c = false := by
  simpa using h

theorem not_isBlank_of_isMark (h : isMark c = true) : isBlank c = false :=
  forall_eq_false_of_all (by decide) c (isMark_cases h)

theorem deepen_of_not_isMark (h : isMark c = false) (depth : Nat) : deepen depth c = depth := by
  simp only [isMark, Bool.or_eq_false_iff] at h
  simp [deepen, h.1.2, h.2]

theorem depthAfter_of_not_isMark (h : ∀ c ∈ s, isMark c = false) (depth : Nat) :
    depthAfter depth s = depth := by
  induction s with
  | nil => rfl
  | cons c s ih =>
    obtain ⟨hc, hs⟩ := List.forall_mem_cons.mp h
    rw [depthAfter, List.foldl_cons, deepen_of_not_isMark hc]
    exact ih hs

theorem isWhole_of_not_isMark (h : ∀ c ∈ s, isMark c = false) (depth : Nat) : IsWhole depth s := by
  rintro before after rfl
  have hcomma := h ',' (List.mem_append_right _ List.mem_cons_self)
  exact absurd hcomma (by decide)

-- ---------------------------------------------------------------------------
-- Pieces
-- ---------------------------------------------------------------------------

/-- The pieces of a text that begins at a depth, between the commas outside all brackets. -/
inductive Pieces : Nat → List Char → List (List Char) → Prop
  | last {depth : Nat} {s : List Char} (h : IsWhole depth s) : Pieces depth s [s]
  | cut {depth : Nat} {s rest : List Char} {pieces : List (List Char)} (h : IsWhole depth s)
      (hdepth : depthAfter depth s = 0) (hrest : Pieces 0 rest pieces) :
      Pieces depth (s ++ ',' :: rest) (s :: pieces)

theorem Pieces.cons (hc : ¬ (c = ',' ∧ depth = 0)) {piece : List Char}
    (h : Pieces (deepen depth c) s (piece :: pieces)) :
    Pieces depth (c :: s) ((c :: piece) :: pieces) := by
  cases h with
  | last h => exact .last (isWhole_cons.mpr ⟨hc, h⟩)
  | cut h hdepth hrest => exact .cut (isWhole_cons.mpr ⟨hc, h⟩) hdepth hrest

theorem segments_cons_of_ne (hc : ¬ (c = ',' ∧ depth = 0)) :
    ∃ piece pieces, segments (deepen depth c) s = piece :: pieces ∧
      segments depth (c :: s) = (c :: piece) :: pieces := by
  obtain ⟨piece, pieces, h⟩ := List.exists_cons_of_ne_nil (segments_ne_nil (deepen depth c) s)
  exact ⟨piece, pieces, h, by simp [segments, hc, h]⟩

theorem pieces_segments (depth : Nat) (s : List Char) : Pieces depth s (segments depth s) := by
  induction s generalizing depth with
  | nil => exact .last (isWhole_nil depth)
  | cons c s ih =>
    by_cases hc : c = ',' ∧ depth = 0
    · obtain ⟨rfl, rfl⟩ := hc
      exact .cut (isWhole_nil 0) rfl (ih 0)
    · obtain ⟨piece, pieces, hs, hcons⟩ := segments_cons_of_ne (s := s) hc
      rw [hcons]
      exact .cons hc (hs ▸ ih (deepen depth c))

theorem segments_of_isWhole (h : IsWhole depth s) : segments depth s = [s] := by
  induction s generalizing depth with
  | nil => rfl
  | cons c s ih =>
    obtain ⟨hc, hs⟩ := isWhole_cons.mp h
    obtain ⟨piece, pieces, hpieces, hcons⟩ := segments_cons_of_ne (s := s) hc
    rw [ih hs, List.cons.injEq] at hpieces
    obtain ⟨rfl, rfl⟩ := hpieces
    exact hcons

/-- A comma outside all brackets separates what stands before it from what stands behind. -/
theorem segments_append_outer (hdepth : depthAfter depth s = 0) (rest : List Char) :
    segments depth (s ++ ',' :: rest) = segments depth s ++ segments 0 rest := by
  induction s generalizing depth with
  | nil =>
    obtain rfl : depth = 0 := hdepth
    rfl
  | cons c s ih =>
    by_cases hc : c = ',' ∧ depth = 0
    · obtain ⟨rfl, rfl⟩ := hc
      exact congrArg ([] :: ·) (ih hdepth)
    · obtain ⟨piece, pieces, hs, hcons⟩ := segments_cons_of_ne (s := s) hc
      obtain ⟨piece', pieces', hs', hcons'⟩ := segments_cons_of_ne (s := s ++ ',' :: rest) hc
      rw [ih hdepth, hs, List.cons_append, List.cons.injEq] at hs'
      obtain ⟨rfl, rfl⟩ := hs'
      rw [hcons, List.cons_append, hcons', List.cons_append]

theorem segments_append_comma (h : IsWhole depth s) (hdepth : depthAfter depth s = 0)
    (rest : List Char) : segments depth (s ++ ',' :: rest) = s :: segments 0 rest := by
  rw [segments_append_outer hdepth, segments_of_isWhole h, List.singleton_append]

/-- A text falls into pieces in one way. -/
theorem pieces_iff : Pieces depth s pieces ↔ segments depth s = pieces := by
  constructor
  · intro h
    induction h with
    | last h => exact segments_of_isWhole h
    | cut h hdepth _ ih => rw [segments_append_comma h hdepth, ih]
  · rintro rfl
    exact pieces_segments depth s

theorem isWhole_iff : IsWhole depth s ↔ segments depth s = [s] := by
  constructor
  · exact segments_of_isWhole
  · intro h
    have hpieces := pieces_iff.mpr h
    generalize hone : [s] = pieces at hpieces
    cases hpieces with
    | last h => exact h
    | cut _ _ hrest =>
      obtain ⟨-, rfl⟩ := List.cons.inj hone
      cases hrest

instance : Decidable (IsWhole depth s) :=
  decidable_of_iff _ isWhole_iff.symm

-- ---------------------------------------------------------------------------
-- From one comma to the next
-- ---------------------------------------------------------------------------

section Between

variable {α : Type}

/-- Nothing stands before, or a separator does that is outside all brackets. -/
def Opens (sep : α) (level : List α → Nat) (before : List α) : Prop :=
  before = [] ∨ ∃ front, before = front ++ [sep] ∧ level front = 0

/-- Nothing stands behind, or a separator does. -/
def Closes (sep : α) (behind : List α) : Prop :=
  behind = [] ∨ ∃ rest, behind = sep :: rest

/-- A stretch of a list begins and ends at a separator, or where the list does. -/
def Between (sep : α) (level : List α → Nat) (l stretch : List α) : Prop :=
  ∃ before behind, l = before ++ stretch ++ behind ∧ Opens sep level before ∧ Closes sep behind

end Between

theorem Pieces.between (h : Pieces depth s pieces) {piece : List Char} (hpiece : piece ∈ pieces) :
    Between ',' (depthAfter depth) s piece := by
  induction h with
  | last h =>
    obtain rfl := List.mem_singleton.mp hpiece
    exact ⟨[], [], by simp, .inl rfl, .inl rfl⟩
  | @cut depth s rest pieces h hdepth _ ih =>
    rcases List.mem_cons.mp hpiece with rfl | hpiece
    · exact ⟨[], ',' :: rest, by simp, .inl rfl, .inr ⟨rest, rfl⟩⟩
    · obtain ⟨before, behind, rfl, hopens, hcloses⟩ := ih hpiece
      refine ⟨s ++ ',' :: before, behind, by simp, .inr ?_, hcloses⟩
      rcases hopens with rfl | ⟨front, rfl, hfront⟩
      · exact ⟨s, rfl, hdepth⟩
      · refine ⟨s ++ ',' :: front, by simp, ?_⟩
        rw [depthAfter_append, hdepth]
        exact hfront

/-- The pieces are the stretches from one comma to the next. -/
theorem mem_segments_iff (hwhole : IsWhole 0 s) (hclosed : depthAfter 0 s = 0) :
    s ∈ segments 0 t ↔ Between ',' (depthAfter 0) t s := by
  constructor
  · exact (pieces_segments 0 t).between
  · rintro ⟨before, behind, rfl, hopens, hcloses⟩
    have hfirst : s ∈ segments 0 (s ++ behind) := by
      rcases hcloses with rfl | ⟨rest, rfl⟩
      · simp [segments_of_isWhole hwhole]
      · simp [segments_append_comma hwhole hclosed]
    rcases hopens with rfl | ⟨front, rfl, hfront⟩
    · simpa using hfirst
    · rw [List.append_assoc, List.append_assoc, List.singleton_append, segments_append_outer hfront]
      exact List.mem_append_right _ hfirst

/-- The arguments that a text has: its pieces without the blanks around them, but for those that are
nothing else. -/
def Splits (s : List Char) (args : List (List Char)) : Prop :=
  ∃ pieces, Pieces 0 s pieces ∧ args = (pieces.map trim).filter fun a => !a.isEmpty

theorem splits_iff {args : List (List Char)} : Splits s args ↔ splitArguments s = args := by
  constructor
  · rintro ⟨pieces, hpieces, rfl⟩
    rw [splitArguments, pieces_iff.mp hpieces]
  · rintro rfl
    exact ⟨_, pieces_segments 0 s, rfl⟩

-- ---------------------------------------------------------------------------
-- Written arguments
-- ---------------------------------------------------------------------------

/-- What can be an argument: not empty, without blanks around it, with no comma outside its
brackets, and with no more brackets opened than closed at its end. -/
structure IsArgument (arg : List Char) : Prop where
  ne_nil : arg ≠ []
  trimmed : trim arg = arg
  isWhole : IsWhole 0 arg
  closed : depthAfter 0 arg = 0

theorem isArgument_iff {arg : List Char} : IsArgument arg ↔
    arg ≠ [] ∧ trim arg = arg ∧ IsWhole 0 arg ∧ depthAfter 0 arg = 0 :=
  ⟨fun h => ⟨h.ne_nil, h.trimmed, h.isWhole, h.closed⟩,
    fun ⟨hne, htrimmed, hwhole, hclosed⟩ => ⟨hne, htrimmed, hwhole, hclosed⟩⟩

instance : DecidablePred IsArgument :=
  fun _ => decidable_of_iff _ isArgument_iff.symm

/-- A text writes arguments: commas between them, and blanks wherever one likes. -/
inductive Lists : List (List Char) → List Char → Prop
  | none {w : List Char} (h : Blanks w) : Lists [] w
  | last {v arg w : List Char} (hv : Blanks v) (hw : Blanks w) : Lists [arg] (v ++ arg ++ w)
  | more {v arg w text : List Char} {args : List (List Char)} (hv : Blanks v) (hw : Blanks w)
      (hrest : Lists args text) : Lists (arg :: args) (v ++ arg ++ w ++ ',' :: text)

theorem isMark_of_blanks (h : Blanks w) : ∀ c ∈ w, isMark c = false := by
  intro c hc
  rw [Bool.eq_false_iff]
  intro hmark
  exact Bool.false_ne_true ((not_isBlank_of_isMark hmark).symm.trans (h c hc))

theorem depthAfter_blanks (h : Blanks w) (depth : Nat) : depthAfter depth w = depth :=
  depthAfter_of_not_isMark (isMark_of_blanks h) depth

theorem isWhole_blanks (h : Blanks w) (depth : Nat) : IsWhole depth w :=
  isWhole_of_not_isMark (isMark_of_blanks h) depth

theorem IsArgument.isWhole_padded {v : List Char} (h : IsArgument s) (hv : Blanks v)
    (hw : Blanks w) : IsWhole 0 (v ++ s ++ w) := by
  rw [isWhole_append, isWhole_append, depthAfter_blanks hv]
  exact ⟨⟨isWhole_blanks hv 0, h.isWhole⟩, isWhole_blanks hw _⟩

theorem IsArgument.depthAfter_padded {v : List Char} (h : IsArgument s) (hv : Blanks v)
    (hw : Blanks w) : depthAfter 0 (v ++ s ++ w) = 0 := by
  rw [depthAfter_append, depthAfter_append, depthAfter_blanks hv, h.closed, depthAfter_blanks hw]

/-- An argument stands between two commas with nothing but blanks around it. -/
theorem mem_splitArguments_iff (h : IsArgument s) :
    s ∈ splitArguments t ↔
      ∃ v w, Blanks v ∧ Blanks w ∧ Between ',' (depthAfter 0) t (v ++ s ++ w) := by
  have hpiece {v w : List Char} (hv : Blanks v) (hw : Blanks w) :=
    mem_segments_iff (t := t) (h.isWhole_padded hv hw) (h.depthAfter_padded hv hw)
  rw [splitArguments, List.mem_filter, List.mem_map]
  constructor
  · rintro ⟨⟨piece, hmem, rfl⟩, -⟩
    obtain ⟨v, w, hv, hw, hsplit⟩ := Text.exists_blanks_append_trim piece
    exact ⟨v, w, hv, hw, (hpiece hv hw).mp (hsplit ▸ hmem)⟩
  · rintro ⟨v, w, hv, hw, hbetween⟩
    refine ⟨⟨_, (hpiece hv hw).mpr hbetween, ?_⟩, by simpa using h.ne_nil⟩
    rw [Text.trim_append hv hw, h.trimmed]

theorem splitArguments_of_isWhole (h : IsWhole 0 s) :
    splitArguments s = [trim s].filter fun a => !a.isEmpty := by
  rw [splitArguments, segments_of_isWhole h, List.map_singleton]

theorem splitArguments_append_comma (h : IsWhole 0 s) (hdepth : depthAfter 0 s = 0)
    (rest : List Char) :
    splitArguments (s ++ ',' :: rest) =
      ([trim s].filter fun a => !a.isEmpty) ++ splitArguments rest := by
  rw [splitArguments, segments_append_comma h hdepth, List.map_cons, splitArguments,
    ← List.singleton_append, List.filter_append]

/-- A text that writes arguments has these arguments. -/
theorem splitArguments_of_lists {args : List (List Char)} (h : Lists args s)
    (hargs : ∀ arg ∈ args, IsArgument arg) : splitArguments s = args := by
  induction h with
  | none h =>
    have htrim := Text.trimStart_eq_nil.mpr h
    simp [splitArguments_of_isWhole (isWhole_blanks h 0), trim, htrim, Text.trimEnd]
  | @last v arg w hv hw =>
    have harg := hargs arg List.mem_cons_self
    rw [splitArguments_of_isWhole (harg.isWhole_padded hv hw), Text.trim_append hv hw, harg.trimmed]
    simp [harg.ne_nil]
  | @more v arg w text args hv hw _ ih =>
    obtain ⟨harg, hrest⟩ := List.forall_mem_cons.mp hargs
    rw [splitArguments_append_comma (harg.isWhole_padded hv hw) (harg.depthAfter_padded hv hw),
      Text.trim_append hv hw, harg.trimmed, ih hrest]
    simp [harg.ne_nil]

end UnsafeCensus.Attribute
