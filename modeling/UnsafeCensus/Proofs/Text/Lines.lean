import UnsafeCensus.Proofs.Text.Blank

/-!
# Lines

A text that is not empty has a first line, which goes up to the first line end. The first line of a
trimmed text is not empty either, since every line end is a blank.
-/

namespace UnsafeCensus.Text

variable {c : Char} {s : List Char}

/-- The lines of a text without what ends them. A carriage return and a line feed behind it end a
line together, and a line end at the end of the text begins no further line. -/
def lines : List Char → List (List Char)
  | [] => []
  | '\r' :: '\n' :: rest => [] :: lines rest
  | c :: rest =>
    if isLineEnd c then [] :: lines rest
    else
      match lines rest with
      | [] => [[c]]
      | line :: others => (c :: line) :: others

example : lines "a\r\n\nb\u2028".toList = ["a".toList, [], "b".toList] := by decide +kernel

theorem firstLine_cons (h : isLineEnd c = false) (s : List Char) :
    firstLine (c :: s) = c :: firstLine s :=
  List.takeWhile_cons_of_pos (by simp [h])

theorem firstLine_cons_of_isLineEnd (h : isLineEnd c = true) (s : List Char) :
    firstLine (c :: s) = [] :=
  List.takeWhile_cons_of_neg (by simp [h])

/-- There is a first line as soon as there is a character. -/
theorem exists_lines_eq (h : s ≠ []) : ∃ others, lines s = firstLine s :: others := by
  fun_induction lines s with
  | case1 => exact absurd rfl h
  | case2 rest =>
    -- a carriage return is a line end by itself, so the pair ends no later than it does
    rw [firstLine_cons_of_isLineEnd (by decide)]
    exact ⟨lines rest, rfl⟩
  | case3 c rest _ hend =>
    rw [firstLine_cons_of_isLineEnd hend]
    exact ⟨lines rest, rfl⟩
  | case4 c rest _ hend hnone ih =>
    have hrest : rest = [] := by
      by_contra hne
      obtain ⟨others, hlines⟩ := ih hne
      rw [hnone] at hlines
      cases hlines
    rw [hrest, firstLine_cons (Bool.eq_false_iff.mpr hend)]
    exact ⟨[], rfl⟩
  | case5 c rest _ hend line others hsome ih =>
    have hrest : rest ≠ [] := by
      rintro rfl
      cases hsome
    obtain ⟨others', hlines⟩ := ih hrest
    obtain ⟨rfl, rfl⟩ := List.cons.inj (hsome.symm.trans hlines)
    rw [firstLine_cons (Bool.eq_false_iff.mpr hend)]
    exact ⟨others, rfl⟩

/-- The line goes up to the first line end of the text, or to the end of the text. -/
structure IsFirstLine (line s : List Char) : Prop where
  isPrefix : line <+: s
  noLineEnd : ∀ c ∈ line, isLineEnd c = false
  ends : ∀ c ∈ (s.drop line.length).head?, isLineEnd c = true

theorem isFirstLine_firstLine (s : List Char) : IsFirstLine (firstLine s) s := by
  refine ⟨List.takeWhile_prefix _, ?_, ?_⟩
  · intro c hc
    simpa using List.mem_takeWhile_imp hc
  · induction s with
    | nil => exact nofun
    | cons c s ih =>
      cases hend : isLineEnd c with
      | false =>
        rw [firstLine_cons hend]
        exact ih
      | true =>
        rw [firstLine_cons_of_isLineEnd hend]
        rintro _ ⟨⟩
        exact hend

/-- What trimming leaves begins with what is no blank, hence no line end. -/
theorem exists_firstLine_trim (h : ¬ Blanks s) :
    ∃ c rest, firstLine (trim s) = c :: rest ∧ isBlank c = false := by
  obtain ⟨c, rest, htrim, hc⟩ := exists_trim_eq_cons h
  have hend : isLineEnd c = false := by
    cases hend : isLineEnd c with
    | false => rfl
    | true => exact absurd (isBlank_of_isLineEnd hend) (by simp [hc])
  exact ⟨c, firstLine rest, by rw [htrim, firstLine_cons hend], hc⟩

end UnsafeCensus.Text
