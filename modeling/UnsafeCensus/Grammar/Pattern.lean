import UnsafeCensus.Grammar.Goal

/-!
# Patterns
-/

namespace UnsafeCensus.Grammar

open Prediction

namespace PatternGoal

def goal (g : PatternGoal) : Goal := .pattern g

/-- Something that may end a range begins here. -/
def boundBegins (c : Cursor) (k : Nat) : Bool :=
  c.hasLiteral k || (c.hasPunct k '-' && c.hasNumber (k + 1)) || c.hasMetavariable k ||
    c.hasPathSeparator k || (c.hasName k && !c.hasWordOf k ["if", "in", "else"])

/-- The rest of a range, if there is one. -/
def predictRange (c : Cursor) : Prediction :=
  if c.hasJoined 0 ['.', '.', '='] || c.hasJoined 0 ['.', '.', '.'] then take 3 [goal bound]
  else if c.hasJoined 0 ['.', '.'] then
    take 2 (if boundBegins c 2 then [goal bound] else [])
  else nothing

/-- A pattern that begins with a word. -/
def predictWord (c : Cursor) (w : String) : Prediction :=
  if w == "ref" || w == "mut" then take 1 [goal single]
  else if w == "_" then take 1 []
  else if w == "const" then if c.hasPunct 1 '\x7b' then take 1 [.block] else none
  else if w == "true" || w == "false" then take 1 [goal rangeTail]
  else if pathKeywords.contains w then
    if c.hasPathSeparator 1 then take 1 [goal pathTail] else none
  else take 1 [goal pathTail]

def predictSingle (c : Cursor) : Prediction :=
  if c.hasLiteral 0 then take 1 [goal rangeTail]
  else
    match c.peek 0 with
    | some (.word w) => predictWord c w
    | some .metavariable => take 1 [goal pathTail]
    | some (.punct p) =>
      if p == '-' then if c.hasNumber 1 then take 2 [goal rangeTail] else none
      else if p == '&' then take 1 [goal single]
      else if p == '(' then take 1 [.list [goal element] ')']
      else if p == '[' then take 1 [.list [goal whole] ']']
      else if p == '<' then take 1 [.aType, .type .asTrait, .punct '>', goal pathTail]
      else if c.hasPathSeparator 0 && c.hasName 2 then take 3 [goal pathTail]
      else if c.hasJoined 0 ['.', '.', '='] then take 3 [goal bound]
      else if c.hasJoined 0 ['.', '.'] then take 2 (if boundBegins c 2 then [goal bound] else [])
      else none
    | _ => none

def predictPathTail (c : Cursor) : Prediction :=
  if c.hasPathSeparator 0 then
    if c.hasName 2 then take 3 [goal pathTail]
    else if c.hasPunct 2 '<' then take 2 [.type .arguments, goal pathTail]
    else none
  else if c.hasMacroBang 0 then take 1 [.delimited]
  else if c.hasPunct 0 '(' then take 1 [.list [goal whole] ')']
  else if c.hasPunct 0 '\x7b' then take 1 [.list [goal field] '\x7d']
  else if c.hasPunct 0 '@' then take 1 [goal single]
  else predictRange c

def predictField (c : Cursor) : Prediction :=
  if c.hasJoined 0 ['.', '.'] then take 2 []
  else
    let ref := if c.hasWord 0 "ref" && c.hasName 1 then 1 else 0
    let mutable := if c.hasWord ref "mut" && c.hasName (ref + 1) then ref + 1 else ref
    if c.hasName mutable then take (mutable + 1) [goal fieldTail] else none

def predict (c : Cursor) : PatternGoal → Prediction
  | whole =>
    if c.hasPunct 0 '|' then take 1 [goal whole] else stay [goal single, goal alternatives]
  | alternatives => if c.hasPunct 0 '|' then take 1 [goal whole] else nothing
  | single => predictSingle c
  | element =>
    if c.hasPunct 0 '|' || c.hasWordOf 0 ["static", "async", "move"] then stay [.expression]
    else stay [goal whole]
  | pathTail => predictPathTail c
  | rangeTail => predictRange c
  | bound =>
    if c.hasLiteral 0 then take 1 []
    else if c.hasPunct 0 '-' && c.hasNumber 1 then take 2 []
    else if c.hasPathSeparator 0 && c.hasName 2 then take 3 [goal boundPath]
    else if c.hasName 0 || c.hasMetavariable 0 then take 1 [goal boundPath]
    else none
  | boundPath =>
    if c.hasPathSeparator 0 then
      if c.hasName 2 then take 3 [goal boundPath]
      else if c.hasPunct 2 '<' then take 2 [.type .arguments, goal boundPath]
      else none
    else nothing
  | field => predictField c
  | fieldTail => if c.hasPunct 0 ':' then take 1 [goal whole] else nothing

end PatternGoal

end UnsafeCensus.Grammar
