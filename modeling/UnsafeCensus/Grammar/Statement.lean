import UnsafeCensus.Grammar.Expression
import UnsafeCensus.Grammar.Item

/-!
# Statements

An expression is a statement if a semicolon ends it or if it ends in a block; before the brace that
closes a block it stands there itself. An expression that ends in a block goes on behind it only
where nothing else could begin. A call of a macro stands there itself, unless it is the beginning of
an expression.
-/

namespace UnsafeCensus.Grammar

open Prediction

namespace StatementGoal

def goal (g : StatementGoal) : Goal := .statement g

/-- The kind of the node of an expression that is more than one operand. -/
def expressionKind : String := "expression"

def letDeclaration : List Goal :=
  Goal.node "let_declaration"
    [.word "let", .pattern .whole, .type .ascription, .expr .initializer, goal letAlternative,
      .punct ';']

/-- A statement, where no item begins. Two nodes are begun: one for the statement and one for its
expression, if it needs them. -/
def predictExpression (c : Cursor) : Prediction :=
  match c.macroAt? with
  | some bang =>
    stay ([.start, .start] ++ Goal.node "macro_invocation" [.skip (bang + 1), .delimited] ++
      [goal afterMacro])
  | none =>
    if c.hasBlockLike then stay [.start, .start, .expr .blockLike, goal afterBlockLike]
    else
      stay [.start, .start, .expression, .finish expressionKind none, goal finishExpression]

def predictSingle (c : Cursor) : Prediction :=
  if c.hasPunct 0 ';' then stay [.leaf "empty_statement" true none]
  else if c.hasPunct 0 '#' then stay [.item .attributeItem]
  else if c.hasWord 0 "let" then stay letDeclaration
  else
    match ItemGoal.begin? c with
    | some goals => stay goals
    | none => if c.hasWordOf 0 itemKeywords then none else predictExpression c

def predict (c : Cursor) : StatementGoal → Prediction
  | many inBlock =>
    if c.atEnd then (if inBlock then none else nothing)
    else if inBlock && c.hasPunct 0 '\x7d' then nothing
    else stay [goal single, goal (many inBlock)]
  | single => predictSingle c
  | block =>
    let label := if c.hasLabel 0 then 3 else 0
    stay (Goal.node "block" [.skip label, .punct '\x7b', goal (many true), .punct '\x7d'])
  | finishExpression =>
    if c.hasPunct 0 ';' then take 1 [.finish "expression_statement" none]
    else if c.hasPunct 0 '\x7d' then stay [.dissolve]
    else none
  | afterBlockLike =>
    if c.continuesBlockLike then
      stay [.expr (.rest .free), .finish expressionKind none, goal finishExpression]
    else stay [.dissolve, .finish "expression_statement" none]
  | afterMacro =>
    if c.hasPunct 0 ';' then take 1 [.dissolve, .finish "expression_statement" none]
    else if c.continuesOperand then
      stay [.expr (.rest .free), .finish expressionKind none, goal finishExpression]
    else stay [.dissolve, .dissolve]
  | letAlternative => if c.hasWord 0 "else" then take 1 [.block] else nothing

end StatementGoal

end UnsafeCensus.Grammar
