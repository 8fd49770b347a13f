import UnsafeCensus.Text.Position
import UnsafeCensus.Text.Utf8

/-!
# Parse trees

The concrete tree of a source file. A node carries the name of its grammar rule, the bytes it
spans, what the parser reports about it, and the field it fills in its parent. The text of a node
is read from the source it spans.
-/

namespace UnsafeCensus

/-- The bytes from `start` up to `stop`. -/
structure Span where
  start : Nat
  stop : Nat
deriving DecidableEq, Repr

def Span.slice (s : Span) (source : List UInt8) : List UInt8 :=
  (source.drop s.start).take (s.stop - s.start)

/-- A row and a column in bytes, both counted from zero. -/
structure Point where
  row : Nat
  column : Nat
deriving DecidableEq, Repr

/-- The row and the column of an offset. -/
def Point.ofOffset (source : List UInt8) (offset : Nat) : Point :=
  ⟨(source.take offset).count Text.newline, offset - Text.lineStart source offset⟩

/-- What is known of a node apart from its children. -/
structure Node where
  kind : String
  span : Span
  /-- Where the span starts, as the parser reports it. -/
  point : Point
  /-- A rule of the grammar, as opposed to one of its tokens. -/
  named : Bool
  /-- Text that fits no rule. -/
  isError : Bool
  /-- A token that was expected and is not there. -/
  isMissing : Bool
  /-- An error lies here or below, as the parser reports it. -/
  hasError : Bool
  /-- The parser gives no text for the node. -/
  textless : Bool
  field : Option String
deriving DecidableEq, Repr

inductive Tree where
  | node (data : Node) (children : List Tree)
deriving Repr

namespace Tree

def data : Tree → Node
  | node d _ => d

def children : Tree → List Tree
  | node _ ts => ts

def kind (t : Tree) : String := t.data.kind

def named (t : Tree) : Bool := t.data.named

def namedChildren (t : Tree) : List Tree :=
  t.children.filter named

/-- The first child that fills a field. -/
def childByField? (name : String) (t : Tree) : Option Tree :=
  t.children.find? fun c => c.data.field == some name

/-- The text a node spans, with replacement characters where it is malformed. -/
def text (source : List UInt8) (t : Tree) : List Char :=
  if t.data.textless then [] else Text.Utf8.decodeLossy (t.data.span.slice source)

mutual

/-- The tree with the points of its nodes computed from a source. -/
def located (source : List UInt8) : Tree → Tree
  | node d ts => node { d with point := .ofOffset source d.span.start } (locatedAll source ts)

def locatedAll (source : List UInt8) : List Tree → List Tree
  | [] => []
  | t :: ts => located source t :: locatedAll source ts

end

mutual

/-- The number of nodes. -/
def size : Tree → Nat
  | node _ ts => 1 + sizes ts

/-- The number of nodes of a list of trees. -/
def sizes : List Tree → Nat
  | [] => 0
  | t :: ts => size t + sizes ts

end

theorem sizes_append (ts us : List Tree) : sizes (ts ++ us) = sizes ts + sizes us := by
  induction ts with
  | nil => simp [sizes]
  | cons t ts ih => simp [sizes, ih, Nat.add_assoc]

theorem size_eq (t : Tree) : t.size = 1 + sizes t.children := by
  cases t
  simp [size, children]

end Tree

end UnsafeCensus
