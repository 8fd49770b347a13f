import UnsafeCensus.Tree.Basic

/-!
# Tokens

The tokens of Rust, as far as they can be told without knowing where they stand. Punctuation comes
one character at a time, since which characters belong together depends on the context (`>>` closes
two argument lists, or shifts), and keywords are words, since most of them are keywords in some
places only.
-/

namespace UnsafeCensus.Grammar

inductive Lexeme
  | word (text : String)
  | integer
  | float
  /-- A string of any kind. -/
  | text
  | character
  /-- The quote before the name of a lifetime or label. -/
  | quote
  /-- A name with a dollar sign before it. -/
  | metavariable
  | punct (c : Char)
deriving DecidableEq, Repr

structure Token where
  lexeme : Lexeme
  span : Span
deriving DecidableEq, Repr

/-- The tokens from some position on. -/
structure Cursor where
  tokens : Array Token
  pos : Nat

namespace Cursor

/-- The token a number of places ahead. -/
def peek (c : Cursor) (k : Nat) : Option Lexeme :=
  (c.tokens[c.pos + k]?).map (·.lexeme)

def advance (c : Cursor) (k : Nat) : Cursor :=
  { c with pos := c.pos + k }

def atEnd (c : Cursor) : Bool :=
  c.tokens.size ≤ c.pos

/-- The token some places ahead is a punctuation character. -/
def hasPunct (c : Cursor) (k : Nat) (p : Char) : Bool :=
  c.peek k == some (.punct p)

/-- The token some places ahead is a certain word. -/
def hasWord (c : Cursor) (k : Nat) (w : String) : Bool :=
  c.peek k == some (.word w)

/-- The word some places ahead. -/
def word? (c : Cursor) (k : Nat) : Option String :=
  match c.peek k with
  | some (.word w) => some w
  | _ => none

/-- The token some places ahead is one of some words. -/
def hasWordOf (c : Cursor) (k : Nat) (ws : List String) : Bool :=
  match c.word? k with
  | some w => ws.contains w
  | none => false

/-- Nothing stands between the token some places ahead and the one after it. -/
def isJoint (c : Cursor) (k : Nat) : Bool :=
  match c.tokens[c.pos + k]?, c.tokens[c.pos + k + 1]? with
  | some a, some b => a.span.stop == b.span.start
  | _, _ => false

/-- Punctuation characters without anything between them, from some places ahead on. -/
def hasJoined (c : Cursor) (k : Nat) : List Char → Bool
  | [] => true
  | [p] => c.hasPunct k p
  | p :: ps => c.hasPunct k p && c.isJoint k && hasJoined c (k + 1) ps

/-- Where the next token begins. At the end of the input that is where the last one ends. -/
def start (c : Cursor) : Nat :=
  match c.tokens[c.pos]? with
  | some t => t.span.start
  | none => ((c.tokens.back?).map fun t => t.span.stop).getD 0

/-- Where the token before ends. -/
def stopBefore (c : Cursor) : Nat :=
  match c.pos with
  | 0 => c.start
  | p + 1 => ((c.tokens[p]?).map fun t => t.span.stop).getD c.start

end Cursor

end UnsafeCensus.Grammar
