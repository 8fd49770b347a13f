import Mathlib.Data.List.TakeWhile
import UnsafeCensus.Failure.Basic

/-!
# Positions in parts

The line and the column of an offset are a matter of the bytes before it. Bytes in front that
contain no newline move offsets, and move columns on the first line only: a failure that is shifted
by the length of such bytes is the failure at the same place of the whole.
-/

namespace UnsafeCensus.Text

theorem lineAt_congr {a b : List UInt8} {n : Nat} (h : a.take n = b.take n) :
    lineAt a n = lineAt b n := by
  rw [lineAt, lineAt, h]

theorem columnAt_congr {a b : List UInt8} {n : Nat} (h : a.take n = b.take n) :
    columnAt a n = columnAt b n := by
  rw [columnAt, columnAt, lineStart, lineStart, h]

theorem lineAt_of_isPrefix {a b : List UInt8} (h : a <+: b) : lineAt b a.length = lineAt a a.length :=
  lineAt_congr (by rw [List.take_length, ← List.prefix_iff_eq_take.mp h])

theorem columnAt_of_isPrefix {a b : List UInt8} (h : a <+: b) :
    columnAt b a.length = columnAt a a.length :=
  columnAt_congr (by rw [List.take_length, ← List.prefix_iff_eq_take.mp h])

-- ---------------------------------------------------------------------------
-- Bytes in front
-- ---------------------------------------------------------------------------

theorem lineAt_eq_one {bytes : List UInt8} {n : Nat} :
    lineAt bytes n = 1 ↔ newline ∉ bytes.take n := by
  rw [lineAt, Nat.add_eq_right, List.count_eq_zero]

theorem dropWhile_eq_nil {bytes : List UInt8} :
    bytes.reverse.dropWhile (· != newline) = [] ↔ newline ∉ bytes := by
  simp only [List.dropWhile_eq_nil_iff, List.mem_reverse, bne_iff_ne]
  exact ⟨fun h hmem => h newline hmem rfl, fun h b hb hnewline => h (hnewline ▸ hb)⟩

theorem lineStart_of_lineAt_eq_one {bytes : List UInt8} {n : Nat} (h : lineAt bytes n = 1) :
    lineStart bytes n = 0 := by
  rw [lineStart, dropWhile_eq_nil.mpr (lineAt_eq_one.mp h)]
  rfl

theorem lineAt_append {front : List UInt8} (hfront : newline ∉ front) (bytes : List UInt8)
    (n : Nat) : lineAt (front ++ bytes) (front.length + n) = lineAt bytes n := by
  rw [lineAt, lineAt, List.take_length_add_append, List.count_append,
    List.count_eq_zero.mpr hfront, Nat.zero_add]

theorem lineStart_append (front : List UInt8) {bytes : List UInt8} {n : Nat}
    (hline : lineAt bytes n ≠ 1) :
    lineStart (front ++ bytes) (front.length + n) = front.length + lineStart bytes n := by
  have hrest : ((bytes.take n).reverse.dropWhile (· != newline)).isEmpty = false := by
    rw [Bool.eq_false_iff, ne_eq, List.isEmpty_iff, dropWhile_eq_nil, ← lineAt_eq_one]
    exact hline
  rw [lineStart, lineStart, List.take_length_add_append, List.reverse_append, List.dropWhile_append,
    hrest, if_neg Bool.false_ne_true, List.length_append, List.length_reverse, Nat.add_comm]

theorem columnAt_append {front : List UInt8} (hfront : newline ∉ front) (bytes : List UInt8)
    (n : Nat) :
    columnAt (front ++ bytes) (front.length + n) =
      if lineAt bytes n = 1 then front.length + columnAt bytes n else columnAt bytes n := by
  split_ifs with hline
  · have hwhole : lineAt (front ++ bytes) (front.length + n) = 1 :=
      (lineAt_append hfront bytes n).trans hline
    rw [columnAt, columnAt, lineStart_of_lineAt_eq_one hline, lineStart_of_lineAt_eq_one hwhole]
    rfl
  · rw [columnAt, columnAt, lineStart_append front hline, Nat.add_sub_add_left]

end UnsafeCensus.Text

namespace UnsafeCensus.Failure

/-- A failure that is shifted is one of the whole. -/
theorem shifted_ofOffset (cause : Cause) {front : List UInt8} (hfront : Text.newline ∉ front)
    (bytes : List UInt8) (n : Nat) :
    (ofOffset cause bytes n).shifted front.length =
      ofOffset cause (front ++ bytes) (front.length + n) := by
  have hline := Text.lineAt_append hfront bytes n
  have hcolumn := Text.columnAt_append hfront bytes n
  rw [ofOffset, ofOffset, shifted, Failure.mk.injEq]
  dsimp only
  rw [hline, hcolumn]
  refine ⟨rfl, ?_, rfl, ?_, rfl⟩
  · omega
  · split_ifs <;> omega

end UnsafeCensus.Failure
