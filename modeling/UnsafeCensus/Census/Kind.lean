import UnsafeCensus.Attribute.Attached

/-!
# What the census sees in a node

The kinds of nodes that matter for counting, which of them are marked as unsafe, which children of
a block are statements, and which items are tests.
-/

namespace UnsafeCensus

/-- The kinds of nodes the census distinguishes. -/
inductive Kind
  | function
  | method
  | trait
  | impl
  | module
  | block
  | unsafeBlock
  | other
deriving DecidableEq, Repr

namespace Tree

def isFunctionLike (t : Tree) : Bool :=
  t.kind == "function_item" || t.kind == "function_signature_item"

/-- Declared unsafe. A function says so among its modifiers, an item of another kind by a keyword
of its own. -/
def isMarkedUnsafe (t : Tree) : Bool :=
  if t.isFunctionLike then
    match t.children.find? fun c => c.kind == "function_modifiers" with
    | some modifiers => modifiers.children.any fun m => m.kind == "unsafe"
    | none => false
  else t.children.any fun c => c.kind == "unsafe"

/-- The kinds of children of a block that are not executed: declarations, attributes, comments,
labels and the empty statement. -/
def nonStatementKinds : List String := [
  "label", "empty_statement", "attribute_item", "inner_attribute_item", "function_item",
  "function_signature_item", "struct_item", "union_item", "enum_item", "trait_item", "impl_item",
  "mod_item", "foreign_mod_item", "type_item", "const_item", "static_item", "use_declaration",
  "extern_crate_declaration", "macro_definition", "associated_type", "line_comment",
  "block_comment"]

/-- A statement that consists of an unsafe block and nothing else. -/
def wrapsUnsafeBlock (t : Tree) : Bool :=
  t.kind == "expression_statement" &&
    match t.namedChildren.filter fun c => !c.isComment with
    | [c] => c.kind == "unsafe_block"
    | _ => false

/-- A child of a block that is executed as a statement. An unsafe block is none in its own right:
its statements are. -/
def isStatement (t : Tree) : Bool :=
  t.named && !nonStatementKinds.contains t.kind && t.kind != "unsafe_block" && !t.wrapsUnsafeBlock

/-- The number of statements of a block. -/
def statementCount (t : Tree) : Nat :=
  t.children.countP isStatement

end Tree

namespace Site

/-- A function is a method if it is declared in the body of a trait or of an implementation. -/
def isMethod (s : Site) : Bool :=
  match s.above with
  | "declaration_list" :: owner :: _ => owner == "impl_item" || owner == "trait_item"
  | _ => false

/-- The kind of a node. A signature outside a trait declares a foreign function, which is not
counted. -/
def kind (s : Site) : Kind :=
  if s.tree.isFunctionLike then
    if s.isMethod then .method
    else if s.tree.kind == "function_signature_item" then .other
    else .function
  else
    match s.tree.kind with
    | "trait_item" => .trait
    | "impl_item" => .impl
    | "mod_item" => .module
    | "block" => .block
    | "unsafe_block" => .unsafeBlock
    | _ => .other

def isTestFunction (source : List UInt8) (s : Site) : Bool :=
  (s.outerAttributes source).any Attribute.marksTest

def isTestModule (source : List UInt8) (s : Site) : Bool :=
  (s.outerAttributes source).any Attribute.keepsForTests

/-- A function, method or module that exists for tests only. -/
def isTestItem (source : List UInt8) (s : Site) : Bool :=
  match s.kind with
  | .function | .method => s.isTestFunction source
  | .module => s.isTestModule source
  | _ => false

end Site

end UnsafeCensus
