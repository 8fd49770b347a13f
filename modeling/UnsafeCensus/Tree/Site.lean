import UnsafeCensus.Tree.Basic

/-!
# Sites

A node together with what surrounds it: the kinds of its ancestors and the siblings before it.
What a node means depends on both (a function is a method by what encloses it, an item is
decorated by the attributes before it), so the rules about nodes are stated of sites.
-/

namespace UnsafeCensus

structure Site where
  tree : Tree
  /-- The kinds of the ancestors, nearest first. -/
  above : List String
  /-- The siblings before the node, nearest first. -/
  before : List Tree
deriving Repr

namespace Site

/-- A tree that stands alone. -/
def root (t : Tree) : Site := ⟨t, [], []⟩

/-- The sites of siblings, of which those in `before` have been passed. -/
def siblings (above : List String) (before : List Tree) : List Tree → List Site
  | [] => []
  | t :: ts => ⟨t, above, before⟩ :: siblings above (t :: before) ts

def children (s : Site) : List Site :=
  siblings (s.tree.kind :: s.above) [] s.tree.children

theorem map_tree_siblings (above : List String) (before ts : List Tree) :
    (siblings above before ts).map tree = ts := by
  induction ts generalizing before with
  | nil => rfl
  | cons t ts ih => simp [siblings, ih]

theorem map_tree_children (s : Site) : s.children.map tree = s.tree.children :=
  map_tree_siblings ..

end Site

end UnsafeCensus
