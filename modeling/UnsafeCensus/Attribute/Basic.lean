import UnsafeCensus.Attribute.Arguments
import UnsafeCensus.Text.WordChar
import UnsafeCensus.Tree.Basic

/-!
# Attributes

An attribute such as `forbid(unsafe_code)` or `test`, read from the text of its node: a path and,
in parentheses, arguments. `read?` accepts a text iff it has this form, with blanks allowed before
the path, after it and at the end.
-/

namespace UnsafeCensus

structure Attribute where
  path : String
  args : List String
  /-- Written `#![...]`, inside what it decorates. -/
  inner : Bool
deriving DecidableEq, Repr

namespace Attribute

/-! ## Reading -/

/-- The first character of a path is a letter of ASCII or the underscore. -/
def isPathStart (c : Char) : Bool :=
  c.isAlpha || c == '_'

def isPathChar (c : Char) : Bool :=
  Text.isWordChar c || c == ':'

/-- The last character and what stands before it. -/
def unsnoc? (s : List Char) : Option (List Char × Char) :=
  match s.reverse with
  | c :: r => some (r.reverse, c)
  | [] => none

/-- The text between a parenthesis that has been read and the one that ends the text. -/
def closed? (s : List Char) : Option (List Char) :=
  match unsnoc? (Text.trimEnd s) with
  | some (inside, ')') => some inside
  | _ => none

/-- What may follow a path: nothing, or a text in parentheses. -/
def tail? (s : List Char) : Option (List Char) :=
  match Text.trimStart s with
  | [] => some []
  | '(' :: rest => closed? rest
  | _ => none

/-- The path of an attribute text and the text of its arguments. -/
def read? (text : List Char) : Option (List Char × List Char) :=
  match Text.trimStart text with
  | c :: rest =>
    if isPathStart c then
      (tail? (rest.dropWhile isPathChar)).map fun args => (c :: rest.takeWhile isPathChar, args)
    else none
  | [] => none

/-- The attribute that a text writes. -/
def ofText? (inner : Bool) (text : List Char) : Option Attribute :=
  (read? text).map fun r =>
    { path := String.ofList r.1
      args := (splitArguments r.2).map String.ofList
      inner := inner }

/-- The text after the last `::`, given what stands before it in reverse. -/
private def lastSegment (kept : List Char) : List Char → List Char
  | ':' :: ':' :: _ => kept
  | c :: rest => lastSegment (c :: kept) rest
  | [] => kept

/-- The last segment of the path. -/
def name (a : Attribute) : String :=
  String.ofList (lastSegment [] a.path.toList.reverse)

/-! ## Nodes -/

def outerKind : String := "attribute_item"
def innerKind : String := "inner_attribute_item"

/-- The attribute that a node holds: that of its first named child of the right kind. -/
def ofNode? (source : List UInt8) (item : Tree) : Option Attribute :=
  match item.namedChildren.find? fun c => c.kind == "attribute" with
  | some a => ofText? (item.kind == innerKind) (a.text source)
  | none => none

/-! ## What attributes say -/

/-- The lint that guards against unsafe code. -/
def unsafeLint : String := "unsafe_code"

/-- Forbids unsafe code in the scope it is written for. -/
def forbidsUnsafe (a : Attribute) : Bool :=
  a.path == "forbid" && a.args.contains unsafeLint

/-- Marks a test, plainly: an attribute `test` with arguments is something else. -/
def marksTest (a : Attribute) : Bool :=
  a.name == "test" && a.args.isEmpty

/-- Keeps what it decorates for test builds. Conditions that contain others are not looked into. -/
def keepsForTests (a : Attribute) : Bool :=
  a.path == "cfg" && a.args.contains "test"

end Attribute

/-- What a scope says about unsafe code. -/
inductive SafetyPolicy
  | unstated
  | forbidden
deriving DecidableEq, Repr

/-- Unsafe code is forbidden as soon as one attribute forbids it. -/
def SafetyPolicy.ofAttributes (attributes : List Attribute) : SafetyPolicy :=
  if attributes.any Attribute.forbidsUnsafe then .forbidden else .unstated

end UnsafeCensus
