import UnsafeCensus.Failure.Basic
import UnsafeCensus.Tree.Basic

/-!
# Diagnosis of a parse tree

A parser gives a tree for every text and marks in it what does not fit. A tree whose root reports no
error is good; otherwise the first flaw in source order is named. The search only enters children
that report an error or are missing tokens themselves.
-/

namespace UnsafeCensus

namespace Tree

/-- The node is itself what is wrong. -/
def isFlaw (t : Tree) : Bool := t.data.isError || t.data.isMissing

/-- A flaw may lie at the node or below. -/
def mayHoldFlaw (t : Tree) : Bool := t.data.hasError || t.data.isMissing

theorem sizes_filter_le (p : Tree → Bool) (ts : List Tree) : sizes (ts.filter p) ≤ sizes ts := by
  induction ts with
  | nil => exact Nat.le_refl _
  | cons t ts ih =>
    rw [List.filter_cons]
    split
    · exact Nat.add_le_add_left ih _
    · exact Nat.le_trans ih (Nat.le_add_left _ _)

/-- The first flaw at or below pending trees. -/
def firstFlaw? : List Tree → Option Tree
  | [] => none
  | t :: rest =>
    if t.isFlaw then some t else firstFlaw? (t.children.filter mayHoldFlaw ++ rest)
termination_by ts => sizes ts
decreasing_by
  have := sizes_filter_le mayHoldFlaw t.children
  simp only [sizes_append, sizes, size_eq]
  omega

end Tree

namespace Diagnosis

/-- How many characters of the offending text a message shows. -/
def snippetLimit : Nat := 24

/-- A text cut to the limit, with dots if something was cut. -/
def shorten (s : List Char) : List Char :=
  if snippetLimit < s.length then s.take snippetLimit ++ ['.', '.', '.'] else s

/-- What is wrong at a flaw, given the source. -/
def cause (source : List UInt8) (flaw : Tree) : Cause :=
  if flaw.data.isMissing then .missing flaw.kind
  else
    match Text.firstLine (Text.trim (Text.Utf8.decodeLossy (flaw.data.span.slice source))) with
    | [] => .unexpectedEnd
    | line => .unexpected (shorten line)

/-- The failure that a flaw is reported as. Points count from zero, failures from one. -/
def failureAt (source : List UInt8) (flaw : Tree) : Failure where
  cause := cause source flaw
  offset := flaw.data.span.start
  line := flaw.data.point.row + 1
  column := flaw.data.point.column + 1
  path := none

/-- The failure that a tree with errors reports. -/
def failure (source : List UInt8) (root : Tree) : Failure :=
  match Tree.firstFlaw? [root] with
  | some flaw => failureAt source flaw
  | none => ⟨.unlocated, 0, 1, 1, none⟩

end Diagnosis

/-- A tree without errors, or what is wrong with it. -/
def Tree.diagnose (source : List UInt8) (t : Tree) : Except Failure Tree :=
  if t.data.hasError then .error (Diagnosis.failure source t) else .ok t

end UnsafeCensus
