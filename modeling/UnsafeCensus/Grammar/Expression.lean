import UnsafeCensus.Grammar.Goal

/-!
# Expressions

Operators are read without regard to how they bind, since no count depends on it, except where
binding decides what may follow: a pattern can only be tested behind `&&` as long as no operator has
been read that binds less.
-/

namespace UnsafeCensus.Grammar

open Prediction

/-! ## What begins and what continues an expression -/

namespace Cursor

/-- An operand begins here, where none is required. Where a token may also be an operator between
operands, it is one; `braces` tells whether a block may be the operand. -/
def hasOptionalOperand (c : Cursor) (braces : Bool) : Bool :=
  match c.peek 0 with
  | some .integer | some .float | some .text | some .character | some .metavariable => true
  | some .quote => c.hasLabel 0
  | some (.word w) => w != "as" && w != "else"
  | some (.punct p) =>
    if p == '\x7b' then braces
    else if p == '(' || p == '[' then true
    else if p == '-' || p == '*' || p == '!' then !c.isJoint 0 || !c.hasPunct 1 '='
    else if p == '&' || p == '|' then
      !c.isJoint 0 || !(c.hasPunct 1 '=' || c.hasPunct 1 p)
    else if p == '<' then !c.isJoint 0 || !(c.hasPunct 1 '=' || c.hasPunct 1 '<')
    else c.hasJoined 0 ['.', '.'] || c.hasPathSeparator 0
  | none => false

/-- The length of the operator between two operands that stands here, and whether it binds less
than `&&`. The arrow of a match arm is none. -/
def operator? (c : Cursor) : Option (Nat × Bool) :=
  let is (s : List Char) : Bool := c.hasJoined 0 s
  if is ['<', '<', '='] || is ['>', '>', '='] then some (3, true)
  else if is ['|', '|'] then some (2, true)
  else if [['=', '='], ['!', '='], ['<', '='], ['>', '='], ['<', '<'], ['>', '>'],
      ['&', '&']].any is then some (2, false)
  else if ['+', '-', '*', '/', '%', '^', '&', '|'].any fun p => is [p, '='] then some (2, true)
  else if is ['=', '>'] then none
  else if is ['='] then some (1, true)
  else if ['+', '-', '*', '/', '%', '^', '&', '|', '<', '>'].any fun p => is [p] then
    some (1, false)
  else none

/-- An expression that ends in a block begins here. -/
def hasBlockLike (c : Cursor) : Bool :=
  let blockAfterMove := c.hasPunct 1 '\x7b' || (c.hasWord 1 "move" && c.hasPunct 2 '\x7b')
  match c.peek 0 with
  | some (.punct p) => p == '\x7b'
  | some .quote => c.hasLabel 0
  | some (.word w) =>
    if ["if", "match", "while", "loop", "for"].contains w then true
    else if ["unsafe", "try", "const"].contains w then c.hasPunct 1 '\x7b'
    else if w == "async" || w == "gen" then blockAfterMove
    else false
  | _ => false

/-- An expression that ended in a block goes on here, where a statement or an arm might also begin:
the token can only stand behind an operand. -/
def continuesBlockLike (c : Cursor) : Bool :=
  match c.peek 0 with
  | some (.word w) => w == "as"
  | some (.punct p) =>
    if p == '.' then
      !c.hasJoined 0 ['.', '.'] || c.hasJoined 0 ['.', '.', '='] || c.hasJoined 0 ['.', '.', '.']
    else if p == '?' || p == '+' || p == '/' || p == '%' || p == '^' || p == '>' then true
    else if p == '=' then !c.hasJoined 0 ['=', '>']
    else if p == '-' || p == '*' || p == '!' then c.hasJoined 0 [p, '=']
    else if p == '&' || p == '|' then c.hasJoined 0 [p, '='] || c.hasJoined 0 [p, p]
    else if p == '<' then c.hasJoined 0 ['<', '='] || c.hasJoined 0 ['<', '<']
    else false
  | _ => false

/-- A match arm may begin here behind one that ended in a block. -/
def beginsArm (c : Cursor) : Bool :=
  if c.hasLiteral 0 || c.hasMetavariable 0 then true
  else
    match c.peek 0 with
    | some (.word w) => w != "as"
    | some (.punct p) =>
      if p == '(' || p == '[' || p == '#' then true
      else if p == '&' || p == '|' || p == '-' || p == '<' then !c.continuesBlockLike
      else (c.hasJoined 0 ['.', '.'] && !c.hasJoined 0 ['.', '.', '.']) || c.hasPathSeparator 0
    | _ => false

/-- How many words stand before the parameters of a closure. -/
def closureModifiers (c : Cursor) : Nat :=
  let after (w : String) (k : Nat) : Nat := if c.hasWord k w then k + 1 else k
  after "move" (after "async" (after "static" 0))

/-- Something goes on behind an operand. -/
def continuesOperand (c : Cursor) : Bool :=
  c.operator?.isSome || c.hasPunct 0 '.' || c.hasPunct 0 '?' || c.hasPunct 0 '(' ||
    c.hasPunct 0 '[' || c.hasWord 0 "as"

end Cursor

/-! ## Expressions -/

namespace ExprGoal

def goal (g : ExprGoal) : Goal := .expr g

/-- The arguments of a call, from behind the opening parenthesis. -/
def callArguments : Goal := .list [goal (attributes false), .expression] ')'

/-- An operand that begins with a word. -/
def predictWord (c : Cursor) (r : Reach) (w : String) : Prediction :=
  if c.hasBlockLike then stay [goal blockLike]
  else if w == "true" || w == "false" then take 1 []
  else if w == "break" then
    take (if c.hasLifetime 1 then 3 else 1) [goal (optionalOperand (!r.bare) r.loose)]
  else if w == "continue" then take (if c.hasLifetime 1 then 3 else 1) []
  else if w == "return" || w == "yield" then take 1 [goal (optionalOperand true r.loose)]
  else if w == "static" || w == "async" || w == "move" then
    take c.closureModifiers [goal (closure r.loose)]
  else if expressionKeywords.contains w then none
  else if w == "self" then take 1 [goal (pathTail false r)]
  else if pathKeywords.contains w then
    if c.hasPathSeparator 1 then take 1 [goal (pathTail false r)] else none
  else take 1 [goal (pathTail (!(primitiveTypes.contains w || softKeywords.contains w)) r)]

def predictOperand (c : Cursor) (r : Reach) : Prediction :=
  match c.peek 0 with
  | some .integer | some .float | some .text | some .character => take 1 []
  | some .metavariable => take 1 [goal (pathTail false r)]
  | some .quote => if c.hasLabel 0 then stay [goal blockLike] else none
  | some (.word w) => predictWord c r w
  | some (.punct p) =>
    if p == '-' || p == '*' || p == '!' then take 1 [goal (operand r)]
    else if p == '&' then
      if c.hasWord 1 "raw" && c.hasWordOf 2 ["const", "mut"] then take 3 [goal (operand r)]
      else take (if c.hasWord 1 "mut" then 2 else 1) [goal (operand r)]
    else if p == '|' then stay [goal (closure r.loose)]
    else if p == '\x7b' then stay [.block]
    else if p == '(' then
      if c.hasPunct 1 '#' then take 1 [goal (attributes false), goal tuple]
      else take 1 [goal parenthesized]
    else if p == '[' then take 1 [goal (attributes false), goal array]
    else if p == '<' then
      take 1
        [.aType, .type .asTrait, .punct '>', .joined [':', ':'], .name, goal (pathTail false r)]
    else if c.hasPathSeparator 0 && c.hasName 2 then take 3 [goal (pathTail true r)]
    else if c.hasJoined 0 ['.', '.'] then take 2 [goal (optionalOperand (!r.bare) r.loose)]
    else none
  | none => none

/-- A field or method behind a point, or a range. -/
def predictPoint (c : Cursor) (r : Reach) : Prediction :=
  if c.hasJoined 0 ['.', '.', '='] || c.hasJoined 0 ['.', '.', '.'] then
    take 3 [goal (operand r.loose), goal (rest r.loose)]
  else if c.hasJoined 0 ['.', '.'] then
    take 2 [goal (optionalOperand (!r.bare) r.loose), goal (rest r.loose)]
  else if c.hasName 1 then
    if c.hasPathSeparator 2 && c.hasPunct 4 '<' then take 4 [.type .arguments, goal (rest r)]
    else take 2 [goal (rest r)]
  else if c.peek 1 == some .integer then take 2 [goal (rest r)]
  else none

def predictRest (c : Cursor) (r : Reach) : Prediction :=
  if c.hasPunct 0 '.' then predictPoint c r
  else if c.hasPunct 0 '?' then take 1 [goal (rest r)]
  else if c.hasPunct 0 '(' then take 1 [callArguments, goal (rest r)]
  else if c.hasPunct 0 '[' then take 1 [.expression, .punct ']', goal (rest r)]
  else if c.hasWord 0 "as" then take 1 [.type (.whole false), goal (rest r)]
  else
    match c.operator? with
    | none => nothing
    | some (n, loose) =>
      if r.tests && c.hasJoined 0 ['&', '&'] && c.hasWord 2 "let" then
        take 3 [.pattern .whole, .punct '=', goal (operand r), goal (rest r)]
      else
        let r := if loose then r.loose else r
        take n [goal (operand r), goal (rest r)]

def predictPathTail (c : Cursor) (literal : Bool) (r : Reach) : Prediction :=
  if c.hasPathSeparator 0 then
    if c.hasName 2 then take 3 [goal (pathTail true r)]
    else if c.hasPunct 2 '<' then take 2 [.type .arguments, goal (pathTail true r)]
    else none
  else if c.hasMacroBang 0 then take 1 [.delimited]
  else if literal && !r.bare && c.hasPunct 0 '\x7b' then
    take 1 [.list [goal (attributes false), goal fieldInitializer] '\x7d']
  else nothing

/-- An expression that ends in a block, as a node of its own. -/
def predictBlockLike (c : Cursor) : Prediction :=
  if c.hasLabel 0 then
    if c.hasPunct 3 '\x7b' then stay [.block]
    else if c.hasWordOf 3 ["while", "loop", "for"] then take 3 [goal blockLike]
    else none
  else
    match c.word? 0 with
    | some "unsafe" => stay (Goal.node "unsafe_block" [.word "unsafe", .block])
    | some "async" =>
      stay (Goal.node "async_block" [.skip (if c.hasWord 1 "move" then 2 else 1), .block])
    | some "gen" =>
      stay (Goal.node "gen_block" [.skip (if c.hasWord 1 "move" then 2 else 1), .block])
    | some "try" => stay (Goal.node "try_block" [.word "try", .block])
    | some "const" => stay (Goal.node "const_block" [.word "const", .block])
    | some "if" =>
      stay (Goal.node "if_expression"
        [.word "if", goal (condition .beforeBlock), .block, goal elsePart])
    | some "match" =>
      stay (Goal.node "match_expression"
        [.word "match", goal (whole .beforeBlock), .punct '\x7b', goal arms])
    | some "while" =>
      stay (Goal.node "while_expression"
        [.word "while", goal (condition .beforeBlock), .block])
    | some "loop" => stay (Goal.node "loop_expression" [.word "loop", .block])
    | some "for" =>
      stay (Goal.node "for_expression"
        [.word "for", .pattern .whole, .word "in", goal (whole .beforeBlock), .block])
    | _ => stay [.block]

def predictArms (c : Cursor) : Prediction :=
  if c.hasPunct 0 '\x7d' then take 1 []
  else
    stay [goal (attributes true), .pattern .whole, goal armGuard, .joined ['=', '>'], goal armValue]

def predictFieldInitializer (c : Cursor) : Prediction :=
  if c.hasJoined 0 ['.', '.'] then take 2 [.expression]
  else if c.hasName 0 then take 1 [goal fieldValue]
  else if c.peek 0 == some .integer && c.hasPunct 1 ':' then take 2 [.expression]
  else none

def predict (c : Cursor) : ExprGoal → Prediction
  | whole r => stay [goal (operand r), goal (rest r)]
  | condition r =>
    let r := { r with tests := true }
    if c.hasWord 0 "let" then
      take 1 [.pattern .whole, .punct '=', goal (operand r), goal (rest r)]
    else stay [goal (whole r)]
  | operand r => predictOperand c r
  | optionalOperand braces r =>
    if c.hasOptionalOperand braces then stay [goal (operand r), goal (rest r)] else nothing
  | rest r => predictRest c r
  | pathTail literal r => predictPathTail c literal r
  | closure r =>
    if c.hasPunct 0 '|' then take 1 [goal closureParameters, goal (closureBody r)]
    else none
  | closureParameters =>
    if c.hasPunct 0 '|' then take 1 []
    else stay [.pattern .single, .type .ascription, goal closureParametersEnd]
  | closureParametersEnd =>
    if c.hasPunct 0 ',' then
      take 1 [.pattern .single, .type .ascription, goal closureParametersEnd]
    else if c.hasPunct 0 '|' then take 1 []
    else none
  | closureBody r =>
    if c.hasJoined 0 ['-', '>'] then take 2 [.aType, .block]
    else stay [goal (operand r), goal (rest r)]
  | blockLike => predictBlockLike c
  | elsePart =>
    if c.hasWord 0 "else" then
      take 1 [if c.hasWord 1 "if" then goal blockLike else .block]
    else nothing
  | arms => predictArms c
  | armGuard => if c.hasWord 0 "if" then take 1 [goal (condition .free)] else nothing
  | armValue =>
    if c.hasBlockLike then stay [goal blockLike, goal armAfterBlock]
    else stay [.expression, goal armEnd]
  | armEnd =>
    if c.hasPunct 0 ',' then take 1 [goal arms]
    else if c.hasPunct 0 '\x7d' then stay [goal arms]
    else none
  | armAfterBlock =>
    if c.beginsArm then stay [goal arms]
    else if c.continuesOperand then stay [goal (rest .free), goal armEnd]
    else stay [goal armEnd]
  | parenthesized =>
    if c.hasPunct 0 ')' then take 1 [] else stay [.expression, goal parenthesizedEnd]
  | parenthesizedEnd =>
    if c.hasPunct 0 ',' then take 1 [.listNext [.expression] ')'] else stay [.punct ')']
  | tuple => stay [.expression, .punct ',', .listNext [.expression] ')']
  | array =>
    if c.hasPunct 0 ']' then take 1 []
    else if c.hasPunct 0 ',' && c.hasPunct 1 ']' then take 2 []
    else stay [.expression, goal arrayEnd]
  | arrayEnd =>
    if c.hasPunct 0 ';' then take 1 [.expression, .punct ']']
    else stay [.listEnd [goal (attributes false), .expression] ']']
  | fieldInitializer => predictFieldInitializer c
  | fieldValue => if c.hasPunct 0 ':' then take 1 [.expression] else nothing
  | initializer => if c.hasPunct 0 '=' then take 1 [.expression] else nothing
  | attributes inner =>
    if c.hasPunct 0 '#' && (inner || !c.hasPunct 1 '!') then
      stay [.item .attributeItem, goal (attributes inner)]
    else nothing

end ExprGoal

end UnsafeCensus.Grammar
