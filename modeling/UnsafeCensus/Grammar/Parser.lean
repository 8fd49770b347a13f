import UnsafeCensus.Grammar.Lexer
import UnsafeCensus.Grammar.Pattern
import UnsafeCensus.Grammar.Statement
import UnsafeCensus.Grammar.TokenTree
import UnsafeCensus.Grammar.Type

/-!
# The parser

`parse` meets the goals of a source file one after the other, with the goals that are left on a
stack and the nodes that have been begun on another, so nothing that is nested, however deep, costs
more than place on these stacks. A source that does not fit the grammar gives a tree that reports an
error and does not say where.

What is said of scans is said of any parser. This one serves to run them.
-/

namespace UnsafeCensus.Grammar

/-! ## Nodes under construction -/

/-- A node that has been begun: where, and its children so far, latest first. -/
structure Frame where
  start : Nat
  children : List Tree

/-- A node without errors. -/
def soundNode (kind : String) (span : Span) (named : Bool) (field : Option String)
    (children : List Tree) : Tree :=
  .node ⟨kind, span, ⟨0, 0⟩, named, false, false, false, false, field⟩ children

/-- Add trees, latest first, to the innermost node that has been begun. -/
def adopt (trees : List Tree) : List Frame → Option (List Frame)
  | [] => none
  | f :: fs => some ({ f with children := trees ++ f.children } :: fs)

/-! ## One step -/

structure Situation where
  cursor : Cursor
  goals : List Goal
  frames : List Frame

namespace Situation

/-- Take tokens and put goals in front of those that are left. -/
def move (s : Situation) (n : Nat) (goals : List Goal) : Situation :=
  { s with cursor := s.cursor.advance n, goals := goals ++ s.goals }

def predicted (s : Situation) (p : Prediction) : Option Situation :=
  p.map fun m => s.move m.taken m.goals

/-- Take a number of tokens if some condition holds of what lies ahead. -/
def demand (s : Situation) (condition : Bool) (n : Nat) : Option Situation :=
  if condition then some (s.move n []) else none

def listNextGoals (item : List Goal) (close : Char) (c : Cursor) : Prediction :=
  if c.hasPunct 0 close then .take 1 [] else .stay (item ++ [.listEnd item close])

def listGoals (item : List Goal) (close : Char) (c : Cursor) : Prediction :=
  if c.hasPunct 0 ',' && c.hasPunct 1 close then .take 2 [] else listNextGoals item close c

def listEndGoals (item : List Goal) (close : Char) (c : Cursor) : Prediction :=
  if c.hasPunct 0 ',' then .take 1 [.listNext item close]
  else if c.hasPunct 0 close then .take 1 []
  else none

/-- Meet one goal. -/
def meet (s : Situation) (g : Goal) : Option Situation :=
  let c := s.cursor
  match g with
  | .punct p => s.demand (c.hasPunct 0 p) 1
  | .joined ps => s.demand (c.hasJoined 0 ps) ps.length
  | .word w => s.demand (c.hasWord 0 w) 1
  | .name => s.demand (c.hasName 0) 1
  | .skip n => s.demand (c.pos + n ≤ c.tokens.size) n
  | .start => some { s with frames := ⟨c.start, []⟩ :: s.frames }
  | .finish kind field =>
    match s.frames with
    | [] => none
    | f :: fs =>
      let t := soundNode kind ⟨f.start, c.stopBefore⟩ true field f.children.reverse
      (adopt [t] fs).map fun frames => { s with frames }
  | .dissolve =>
    match s.frames with
    | [] => none
    | f :: fs => (adopt f.children fs).map fun frames => { s with frames }
  | .leaf kind named field =>
    match c.tokens[c.pos]? with
    | none => none
    | some token =>
      (adopt [soundNode kind token.span named field []] s.frames).map fun frames =>
        { s with cursor := c.advance 1, frames }
  | .list item close => s.predicted (listGoals item close c)
  | .listEnd item close => s.predicted (listEndGoals item close c)
  | .listNext item close => s.predicted (listNextGoals item close c)
  | .expr g => s.predicted (g.predict c)
  | .pattern g => s.predicted (g.predict c)
  | .type g => s.predicted (g.predict c)
  | .item g => s.predicted (g.predict c)
  | .statement g => s.predicted (g.predict c)
  | .tree g => s.predicted (g.predict c)

/-- Meet goals until none is left. The frames of the end are the result. -/
def run (fuel : Nat) (s : Situation) : Option (List Frame) :=
  match fuel with
  | 0 => none
  | fuel + 1 =>
    match s.goals with
    | [] => if s.cursor.atEnd then some s.frames else none
    | g :: goals =>
      match meet { s with goals } g with
      | some s => run fuel s
      | none => none

end Situation

/-! ## Sources -/

/-- More steps than meeting all goals takes: between two tokens only so many goals come in each
other's place. -/
def stepLimit (tokens : Nat) : Nat := 256 * (tokens + 1)

/-- The tree of tokens, if they fit the grammar. -/
def treeOf? (tokens : Array Token) : Option Tree :=
  let goals : List Goal := [.start, .statement (.many false), .finish "source_file" none]
  match Situation.run (stepLimit tokens.size) ⟨⟨tokens, 0⟩, goals, [⟨0, []⟩]⟩ with
  | some [⟨_, [t]⟩] => some t
  | _ => none

/-- The tree of a source that does not fit. -/
def errorTree : Tree :=
  .node ⟨"ERROR", ⟨0, 0⟩, ⟨0, 0⟩, true, true, false, true, false, none⟩ []

/-- The tree of a source in UTF-8. -/
def parse (source : List UInt8) : Tree :=
  let read := do
    let chars ← (Text.Utf8.decode? source).toOption
    let tokens ← tokens? chars
    treeOf? tokens
  (read.getD errorTree).located source

end UnsafeCensus.Grammar
