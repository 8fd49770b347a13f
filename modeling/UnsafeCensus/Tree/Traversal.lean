import UnsafeCensus.Tree.Site

/-!
# Depth-first traversal over a work list

`visits enter` pops the first pending site, records it, and pushes its children in source order in
front of what is pending, in the context that `enter` gives for them. Where `enter` gives none, the
children are left out. Pending sites of several depths stand in one list, each with the context it
is to be visited in, so no context outlives its subtree and the depth of a tree costs no stack.
-/

namespace UnsafeCensus.Traversal

/-- A site that waits to be visited, with the context it is visited in. -/
abbrev Frame (Context : Type) := Context × Site

def weight {Context : Type} (pending : List (Frame Context)) : Nat :=
  Tree.sizes (pending.map fun f => f.2.tree)

/-- The frames that stand for the children of a site. -/
def push {Context : Type} (s : Site) (context : Option Context) : List (Frame Context) :=
  match context with
  | some c => s.children.map fun child => (c, child)
  | none => []

theorem weight_push_lt {Context : Type} (s : Site) (context : Option Context)
    (rest : List (Frame Context)) (c : Context) :
    weight (push s context ++ rest) < weight ((c, s) :: rest) := by
  simp only [weight, List.map_append, Tree.sizes_append, List.map_cons, Tree.sizes, Tree.size_eq]
  cases context with
  | none => simp only [push, List.map_nil, Tree.sizes]; omega
  | some d =>
    simp only [push, List.map_map, Function.comp_def]
    have h : (s.children.map fun child => child.tree) = s.tree.children := s.map_tree_children
    simp only [h]
    omega

/-- The frames popped, in order, until nothing is pending. -/
def visits {Context : Type} (enter : Context → Site → Option Context) :
    List (Frame Context) → List (Frame Context)
  | [] => []
  | (c, s) :: rest => (c, s) :: visits enter (push s (enter c s) ++ rest)
termination_by pending => weight pending
decreasing_by exact weight_push_lt ..

/-- Every site at or below a site, in source order. -/
def preorder (s : Site) : List Site :=
  (visits (fun _ _ => some ()) [((), s)]).map (·.2)

end UnsafeCensus.Traversal
