import UnsafeCensus.Grammar.Token

/-!
# Goals

The grammar of Rust as a predictive one: a source is read by meeting goals from left to right, and
what a goal asks for is decided by the tokens ahead. A goal is met by taking tokens, by other goals
that come in its place, or both. Goals of the same kind of phrase are gathered in one type.
-/

namespace UnsafeCensus.Grammar

/-- How far an expression reaches. -/
structure Reach where
  /-- A brace begins the block behind the expression, and no literal of a struct. -/
  bare : Bool
  /-- A pattern may be tested behind `&&`. -/
  tests : Bool
deriving DecidableEq, Repr

namespace Reach

/-- Within brackets and in statements. -/
def free : Reach := ⟨false, false⟩

/-- Between a keyword and a block. -/
def beforeBlock : Reach := ⟨true, false⟩

/-- Behind an operator that binds less than `&&`. -/
def loose (r : Reach) : Reach := { r with tests := false }

end Reach

/-- Expressions and their parts. -/
inductive ExprGoal
  /-- An expression. -/
  | whole (reach : Reach)
  /-- An expression, or tests of patterns joined by `&&`. -/
  | condition (reach : Reach)
  /-- What stands before the first operator, with what is written before it. -/
  | operand (reach : Reach)
  /-- An operand, if one begins here. `braces` tells whether a block may be one. -/
  | optionalOperand (braces : Bool) (reach : Reach)
  /-- Operators with their other operands, and what is written behind an operand. -/
  | rest (reach : Reach)
  /-- What follows a name. `literal` tells whether it may be the name of a struct. -/
  | pathTail (literal : Bool) (reach : Reach)
  /-- A closure, from its parameters on. -/
  | closure (reach : Reach)
  | closureParameters
  | closureParametersEnd
  | closureBody (reach : Reach)
  /-- An expression that ends in a block. -/
  | blockLike
  | elsePart
  | arms
  | armGuard
  | armValue
  | armEnd
  | armAfterBlock
  /-- The inside of parentheses, from behind the opening one. -/
  | parenthesized
  | parenthesizedEnd
  /-- The inside of parentheses that must hold a comma, from behind the opening one. -/
  | tuple
  /-- The inside of an array, from behind the opening bracket. -/
  | array
  | arrayEnd
  | fieldInitializer
  | fieldValue
  /-- A value behind an equals sign, if there is one. -/
  | initializer
  /-- Any number of attributes. -/
  | attributes (inner : Bool)
deriving DecidableEq, Repr

/-- Patterns and their parts. -/
inductive PatternGoal
  /-- A pattern with alternatives. -/
  | whole
  | alternatives
  /-- A pattern without alternatives. -/
  | single
  /-- A pattern or a closure. -/
  | element
  /-- What follows a name. -/
  | pathTail
  /-- What may follow a literal: the rest of a range. -/
  | rangeTail
  /-- The end of a range. -/
  | bound
  | boundPath
  | field
  | fieldTail
deriving DecidableEq, Repr

/-- Types and their parts, and parameters. -/
inductive TypeGoal
  /-- A type, with further bounds if `bounded`. -/
  | whole (bounded : Bool)
  | single
  /-- Further bounds, each behind a plus. -/
  | moreBounds
  /-- One bound: a lifetime, what is captured, or a type. -/
  | bound
  | captured
  /-- Bounds behind a colon, if there is one. -/
  | bounds
  /-- A type behind a colon, if there is one. -/
  | ascription
  /-- What follows a name. -/
  | pathTail
  | pathTailAfterArguments
  /-- The rest of a path behind a type in angle brackets, from the closing bracket on. -/
  | qualifiedTail
  /-- A trait behind `as`, if it is there. -/
  | asTrait
  | arrayEnd
  /-- The type of a result behind an arrow, if there is one, with further bounds if `bounded`. -/
  | returnType (bounded : Bool)
  /-- Arguments in angle brackets. -/
  | arguments
  | argument
  | binding
  /-- Parameters in angle brackets. -/
  | parameters
  /-- Parameters in angle brackets, if there are any. -/
  | optionalParameters
  | parameter
  | default
  | constDefault
  /-- Parameters of a function, in parentheses. -/
  | functionParameters
  | functionParameter
  /-- A parameter, behind its attribute. -/
  | bareParameter
  | functionParameterType
deriving DecidableEq, Repr

/-- Items, attributes and their parts. -/
inductive ItemGoal
  /-- The words before `fn`. -/
  | modifiers
  | functionName
  | functionEnd
  | visibility
  | moduleName
  | moduleEnd
  | declarations
  | declaration
  | structBody
  | fields
  | field
  | tupleField
  | variant
  | variantBody
  | implParameters
  | implNegation
  | implTarget
  | implEnd
  | whereClause
  | predicates
  | predicatesEnd
  | staticModifiers
  /-- What follows the name of a type. `isPublic` tells that it cannot be a member of a trait. -/
  | typeTail (isPublic : Bool)
  | useClause
  | useTail
  | crateAlias
  | macroBody
  | rules (close : Char)
  | rulesEnd (close : Char)
  | attributeItem
  | attributePath
  | attributePathTail
  | attributeValue
deriving DecidableEq, Repr

/-- Statements, and what may end them. -/
inductive StatementGoal
  /-- Statements up to the closing brace of their block, or up to the end of the input. -/
  | many (inBlock : Bool)
  | single
  | block
  /-- The end of a statement that is an expression. -/
  | finishExpression
  | afterBlockLike
  | afterMacro
  | letAlternative
deriving DecidableEq, Repr

/-- Tokens that are not looked into. -/
inductive TreeGoal
  /-- Tokens in brackets. -/
  | bracketed (inRule : Bool)
  /-- Tokens up to a closing bracket. -/
  | tokens (inRule : Bool)
  /-- What follows a repetition in a rule: a separator, and how often. -/
  | repetition
deriving DecidableEq, Repr

/-- What a source has to hold next, or a step in building the tree. -/
inductive Goal where
  -- Tokens
  | punct (c : Char)
  /-- Punctuation characters without anything between them. -/
  | joined (cs : List Char)
  | word (w : String)
  /-- Any word. -/
  | name
  /-- Any tokens: some that have been looked at. -/
  | skip (n : Nat)
  -- Nodes
  /-- A node begins. -/
  | start
  /-- The node that was begun last ends. -/
  | finish (kind : String) (field : Option String)
  /-- The node that was begun last is none: its children belong to the one around it. -/
  | dissolve
  /-- A token that is a node. -/
  | leaf (kind : String) (named : Bool) (field : Option String)
  -- Lists
  /-- Items separated by commas up to a closing bracket. A comma may stand at the end, also where
  there is no item. -/
  | list (item : List Goal) (close : Char)
  /-- What follows an item. -/
  | listEnd (item : List Goal) (close : Char)
  /-- What follows a comma behind an item. -/
  | listNext (item : List Goal) (close : Char)
  -- Phrases
  | expr (g : ExprGoal)
  | pattern (g : PatternGoal)
  | type (g : TypeGoal)
  | item (g : ItemGoal)
  | statement (g : StatementGoal)
  | tree (g : TreeGoal)
deriving Repr

/-- How a goal is met: the number of tokens that are taken, and the goals that remain. -/
structure Move where
  taken : Nat
  goals : List Goal

/-- The way to meet a goal, if there is one. -/
abbrev Prediction := Option Move

namespace Prediction

def take (n : Nat) (goals : List Goal) : Prediction := some ⟨n, goals⟩

/-- No token is taken. -/
def stay (goals : List Goal) : Prediction := take 0 goals

/-- The goal asks for nothing here. -/
def nothing : Prediction := stay []

end Prediction

namespace Goal

/-- A list with at least one item. -/
def nonempty (items : List Goal) (close : Char) : List Goal :=
  items ++ [listEnd items close]

/-- A node around goals. -/
def node (kind : String) (goals : List Goal) : List Goal :=
  start :: goals ++ [finish kind none]

def expression : Goal := expr (.whole .free)
def block : Goal := statement .block
def aType : Goal := type (.whole true)
def delimited : Goal := tree (.bracketed false)

end Goal

/-! ## Words -/

/-- The names of the primitive types. -/
def primitiveTypes : List String := [
  "u8", "i8", "u16", "i16", "u32", "i32", "u64", "i64", "u128", "i128", "isize", "usize", "f32",
  "f64", "bool", "str", "char"]

/-- Words that are keywords in some places and names in all. -/
def softKeywords : List String := ["default", "union", "gen", "raw"]

/-- Words that begin a path and are no names. -/
def pathKeywords : List String := ["self", "super", "crate"]

/-- Words that begin an expression and are never names there. -/
def expressionKeywords : List String := [
  "async", "break", "const", "continue", "for", "if", "loop", "match", "move", "return", "static",
  "unsafe", "while", "yield", "try", "true", "false"]

/-- Words that begin an item and are never names where one may begin. -/
def itemKeywords : List String := [
  "enum", "extern", "fn", "impl", "let", "mod", "pub", "struct", "trait", "type", "use"]

namespace Cursor

def hasLiteral (c : Cursor) (k : Nat) : Bool :=
  match c.peek k with
  | some .integer | some .float | some .text | some .character => true
  | some (.word w) => w == "true" || w == "false"
  | _ => false

def hasNumber (c : Cursor) (k : Nat) : Bool :=
  match c.peek k with
  | some .integer | some .float => true
  | _ => false

def hasName (c : Cursor) (k : Nat) : Bool :=
  (c.word? k).isSome

def hasMetavariable (c : Cursor) (k : Nat) : Bool :=
  c.peek k == some .metavariable

def hasOpening (c : Cursor) (k : Nat) : Bool :=
  c.hasPunct k '(' || c.hasPunct k '[' || c.hasPunct k '\x7b'

/-- A lifetime or the name of a label. -/
def hasLifetime (c : Cursor) (k : Nat) : Bool :=
  c.peek k == some .quote && c.hasName (k + 1)

/-- The two colons of a path. -/
def hasPathSeparator (c : Cursor) (k : Nat) : Bool :=
  c.hasJoined k [':', ':']

/-- A bang that calls a macro: brackets follow, and it is not the beginning of `!=`. -/
def hasMacroBang (c : Cursor) (k : Nat) : Bool :=
  c.hasPunct k '!' && c.hasOpening (k + 1)

/-- A label before a loop or block. -/
def hasLabel (c : Cursor) (k : Nat) : Bool :=
  c.hasLifetime k && c.hasPunct (k + 2) ':'

/-- The end of the words that may stand before `fn`. -/
def modifiersEnd (fuel : Nat) (c : Cursor) (k : Nat) : Nat :=
  match fuel with
  | 0 => k
  | fuel + 1 =>
    if c.hasWordOf k ["async", "default", "const", "unsafe"] then modifiersEnd fuel c (k + 1)
    else if c.hasWord k "extern" then
      modifiersEnd fuel c (if c.peek (k + 1) == some .text then k + 2 else k + 1)
    else k

/-- A function begins here, with the words before it; the place of the word `fn`. -/
def functionAt? (c : Cursor) (k : Nat) : Option Nat :=
  let f := modifiersEnd (c.tokens.size - c.pos) c k
  if c.hasWord f "fn" then some f else none

end Cursor

end UnsafeCensus.Grammar
