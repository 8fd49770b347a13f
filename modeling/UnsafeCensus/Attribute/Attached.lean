import UnsafeCensus.Attribute.Basic
import UnsafeCensus.Tree.Site

/-!
# The attributes of an item

Outer attributes are siblings: the run of attributes and comments that ends directly before an
item decorates it. Inner attributes are among the children of the scope they are written for.
-/

namespace UnsafeCensus

/-- Comments of both kinds. -/
def Tree.isComment (t : Tree) : Bool :=
  t.kind == "line_comment" || t.kind == "block_comment"

/-- A sibling that may stand between an item and an attribute of it. -/
def Tree.isDecoration (t : Tree) : Bool :=
  t.kind == Attribute.outerKind || t.isComment

namespace Site

/-- The attributes written before the node, in source order. -/
def outerAttributes (source : List UInt8) (s : Site) : List Attribute :=
  ((s.before.takeWhile Tree.isDecoration).reverse.filter fun t => t.kind == Attribute.outerKind)
    |>.filterMap (Attribute.ofNode? source)

end Site

namespace Tree

/-- The attributes written inside a scope for the scope. -/
def innerAttributes (source : List UInt8) (scope : Tree) : List Attribute :=
  (scope.namedChildren.filter fun t => t.kind == Attribute.innerKind)
    |>.filterMap (Attribute.ofNode? source)

end Tree

end UnsafeCensus
