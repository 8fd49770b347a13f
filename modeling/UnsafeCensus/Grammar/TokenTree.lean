import UnsafeCensus.Grammar.Goal

/-!
# Token trees

What stands in the brackets of a macro call, of an attribute or of a rule of a macro: any tokens, in
which only brackets have to match. In rules, a dollar sign begins a variable or a repetition.
-/

namespace UnsafeCensus.Grammar

open Prediction

namespace TreeGoal

def goal (g : TreeGoal) : Goal := .tree g

def closing? (c : Cursor) : Option Char :=
  if c.hasPunct 0 '(' then some ')'
  else if c.hasPunct 0 '[' then some ']'
  else if c.hasPunct 0 '\x7b' then some '\x7d'
  else none

def atClosing (c : Cursor) : Bool :=
  c.hasPunct 0 ')' || c.hasPunct 0 ']' || c.hasPunct 0 '\x7d'

/-- How far away the next sign is that says how often something is repeated. -/
def repetitionSign? (fuel : Nat) (c : Cursor) (k : Nat) : Option Nat :=
  match fuel with
  | 0 => none
  | fuel + 1 =>
    if c.hasPunct k '+' || c.hasPunct k '*' || c.hasPunct k '?' then some k
    else repetitionSign? fuel c (k + 1)

def predict (c : Cursor) : TreeGoal → Prediction
  | bracketed inRule =>
    match closing? c with
    | some close => take 1 [goal (tokens inRule), .punct close]
    | none => none
  | tokens inRule =>
    if c.atEnd then none
    else if atClosing c then nothing
    else if (closing? c).isSome then stay [goal (bracketed inRule), goal (tokens inRule)]
    else if inRule && c.hasPunct 0 '$' then
      if c.hasPunct 1 '(' then
        take 2 [goal (tokens true), .punct ')', goal repetition, goal (tokens true)]
      else none
    else take 1 [goal (tokens inRule)]
  | repetition => (repetitionSign? (c.tokens.size - c.pos) c 0).map fun k => ⟨k + 1, []⟩

end TreeGoal

end UnsafeCensus.Grammar
