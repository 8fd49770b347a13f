import UnsafeCensus.Tree.Basic

/-!
# Trees as rows

A tree written as a list of rows in source order, each naming the row of its parent.
-/

namespace UnsafeCensus

/-- A node and the row of its parent; the root has none. -/
structure Row where
  parent : Option Nat
  data : Node
deriving Repr

/-- Put a finished tree in front of the children already found for its parent. -/
private def adopt (pending : Array (List Tree)) (row : Row) (t : Tree) : Array (List Tree) :=
  match row.parent with
  | some p => pending.modify p (t :: ·)
  | none => pending

/-- Rows are taken from the last to the first, so the children of a row are complete when it is
reached. The last tree made is that of the first row. -/
private def assemble (pending : Array (List Tree)) (made : Option Tree) :
    List (Row × Nat) → Option Tree
  | [] => made
  | (row, k) :: rest =>
    let t := Tree.node row.data (pending[k]?.getD [])
    assemble (adopt pending row t) (some t) rest

/-- The tree that rows describe, if there is a row at all. -/
def Tree.ofRows? (rows : List Row) : Option Tree :=
  assemble (Array.replicate rows.length []) none rows.zipIdx.reverse

end UnsafeCensus
