import UnsafeCensus.Grammar.Goal

/-!
# Types, and the parameters of functions
-/

namespace UnsafeCensus.Grammar

open Prediction

/-! ## Where a parameter has a pattern -/

/-- How deep in brackets a scan stands. -/
structure Depth where
  brackets : Nat
  angles : Nat

/-- A single colon stands outside all brackets before the parameter ends. -/
def colonAhead (fuel : Nat) (c : Cursor) (k : Nat) (d : Depth) : Bool :=
  match fuel with
  | 0 => false
  | fuel + 1 =>
    let outside := d.brackets == 0 && d.angles == 0
    match c.peek k with
    | none => false
    | some (.punct p) =>
      if p == '(' || p == '[' || p == '\x7b' then
        colonAhead fuel c (k + 1) { d with brackets := d.brackets + 1 }
      else if p == ')' || p == ']' || p == '\x7d' then
        if d.brackets == 0 then false
        else colonAhead fuel c (k + 1) { d with brackets := d.brackets - 1 }
      else if c.hasJoined k ['-', '>'] || c.hasJoined k ['=', '>'] then
        colonAhead fuel c (k + 2) d
      else if p == '<' then colonAhead fuel c (k + 1) { d with angles := d.angles + 1 }
      else if p == '>' then colonAhead fuel c (k + 1) { d with angles := d.angles - 1 }
      else if c.hasPathSeparator k then colonAhead fuel c (k + 2) d
      else if p == ':' && outside then true
      else if p == ',' && outside then false
      else colonAhead fuel c (k + 1) d
    | some _ => colonAhead fuel c (k + 1) d

/-- The length of `self` with what may stand before it, where it is the whole parameter. -/
def receiverLength? (c : Cursor) : Option Nat :=
  let ref := if c.hasPunct 0 '&' then 1 else 0
  let life := if c.hasLifetime ref then ref + 2 else ref
  let mutable := if c.hasWord life "mut" then life + 1 else life
  if c.hasWord mutable "self" && (c.hasPunct (mutable + 1) ',' || c.hasPunct (mutable + 1) ')') then
    some (mutable + 1)
  else none

/-! ## Types -/

namespace TypeGoal

def goal (g : TypeGoal) : Goal := .type g

/-- Parameters of a function and the type of its result. -/
def signature : List Goal := [goal functionParameters, goal (returnType false)]

/-- A type that begins with a word. -/
def predictWord (c : Cursor) (w : String) : Prediction :=
  if w == "impl" || w == "dyn" then take 1 [goal single]
  else if w == "for" then take 1 [goal parameters, goal single]
  else
    match c.functionAt? 0 with
    | some f => take (f + 1) signature
    | none =>
      if ["unsafe", "extern", "async", "const"].contains w then none
      else if pathKeywords.contains w then
        if c.hasPathSeparator 1 then take 1 [goal pathTailAfterArguments] else none
      else if primitiveTypes.contains w then take 1 [goal pathTailAfterArguments]
      else take 1 [goal pathTail]

def predictSingle (c : Cursor) : Prediction :=
  match c.peek 0 with
  | some (.word w) => predictWord c w
  | some .metavariable => take 1 [goal pathTail]
  | some .quote => if c.hasLifetime 0 && c.hasPunct 2 '+' then take 2 [] else none
  | some (.punct p) =>
    if p == '&' then
      let life := if c.hasLifetime 1 then 3 else 1
      take (if c.hasWord life "mut" then life + 1 else life) [goal single]
    else if p == '*' then if c.hasWordOf 1 ["const", "mut"] then take 2 [goal single] else none
    else if p == '(' then
      if c.hasPunct 1 ')' then take 2 [] else take 1 (Goal.nonempty [.aType] ')')
    else if p == '[' then take 1 [.aType, goal arrayEnd]
    else if p == '!' then take 1 []
    else if p == '?' then take 1 [goal single]
    else if p == '<' then take 1 [.aType, goal asTrait, goal qualifiedTail]
    else if c.hasPathSeparator 0 && c.hasName 2 then take 3 [goal pathTail]
    else none
  | _ => none

/-- What follows a name whose arguments have been read, or that takes none. -/
def predictAfterArguments (c : Cursor) : Prediction :=
  if c.hasPathSeparator 0 && c.hasName 2 then take 3 [goal pathTail]
  else if c.hasPathSeparator 0 && c.hasPunct 2 '<' then
    take 2 [goal arguments, goal pathTailAfterArguments]
  else nothing

def predictPathTail (c : Cursor) : Prediction :=
  if c.hasPunct 0 '<' then stay [goal arguments, goal pathTailAfterArguments]
  else if c.hasPunct 0 '(' then stay signature
  else if c.hasMacroBang 0 then take 1 [.delimited]
  else predictAfterArguments c

def predictArgument (c : Cursor) : Prediction :=
  if c.hasLifetime 0 then take 2 [goal moreBounds, goal bounds]
  else if c.hasLiteral 0 then take 1 [goal bounds]
  else if c.hasPunct 0 '\x7b' then stay [.block, goal bounds]
  else stay [.aType, goal binding, goal bounds]

def predictParameter (c : Cursor) : Prediction :=
  if c.hasLifetime 0 then take 2 [goal bounds]
  else if c.hasWord 0 "const" then
    take 1 [.name, .punct ':', .aType, goal constDefault]
  else if c.hasMetavariable 0 then take 1 []
  else if c.hasName 0 then take 1 [goal bounds, goal default]
  else none

def predictConstDefault (c : Cursor) : Prediction :=
  if c.hasPunct 0 '=' then
    if c.hasPunct 1 '\x7b' then take 1 [.block]
    else if c.hasPunct 1 '-' && c.hasNumber 2 then take 3 []
    else if c.hasLiteral 1 || c.hasName 1 then take 2 []
    else none
  else nothing

def predictParameterOfFunction (c : Cursor) : Prediction :=
  if c.hasJoined 0 ['.', '.', '.'] then take 3 []
  else if c.hasWord 0 "mut" && c.hasJoined 1 ['.', '.', '.'] then take 4 []
  else
    match receiverLength? c with
    | some n => take n []
    | none =>
      if c.hasWord 0 "self" && c.hasPunct 1 ':' && !c.hasPathSeparator 1 then
        take 2 [goal functionParameterType]
      else if c.hasWord 0 "mut" && c.hasWord 1 "self" && c.hasPunct 2 ':' then
        take 3 [goal functionParameterType]
      else if colonAhead (c.tokens.size - c.pos) c 0 ⟨0, 0⟩ then
        stay [.pattern .whole, .punct ':', goal functionParameterType]
      else stay [.aType]

def predict (c : Cursor) : TypeGoal → Prediction
  | whole bounded => stay (goal single :: if bounded then [goal moreBounds] else [])
  | single => predictSingle c
  | moreBounds => if c.hasPunct 0 '+' then take 1 [goal bound, goal moreBounds] else nothing
  | bound =>
    if c.hasLifetime 0 then take 2 []
    else if c.hasWord 0 "use" && c.hasPunct 1 '<' then take 2 [.list [goal captured] '>']
    else stay [goal single]
  | captured =>
    if c.hasLifetime 0 then take 2 [] else if c.hasName 0 then take 1 [] else none
  | bounds =>
    if c.hasPunct 0 ':' then take 1 [goal bound, goal moreBounds] else nothing
  | ascription => if c.hasPunct 0 ':' then take 1 [.aType] else nothing
  | pathTail => predictPathTail c
  | pathTailAfterArguments => predictAfterArguments c
  | qualifiedTail =>
    if c.hasPunct 0 '>' && c.hasPathSeparator 1 && c.hasName 3 then take 4 [goal pathTail]
    else none
  | asTrait => if c.hasWord 0 "as" then take 1 [.aType] else nothing
  | arrayEnd =>
    if c.hasPunct 0 ';' then take 1 [.expression, .punct ']'] else stay [.punct ']']
  | returnType bounded =>
    if c.hasJoined 0 ['-', '>'] then take 2 [goal (whole bounded)] else nothing
  | arguments => if c.hasPunct 0 '<' then take 1 (Goal.nonempty [goal argument] '>') else none
  | argument => predictArgument c
  | binding => if c.hasPunct 0 '=' then take 1 [.aType] else nothing
  | parameters =>
    if c.hasPunct 0 '<' then
      take 1 (Goal.nonempty [.expr (.attributes false), goal parameter] '>')
    else none
  | optionalParameters => if c.hasPunct 0 '<' then stay [goal parameters] else nothing
  | parameter => predictParameter c
  | default => if c.hasPunct 0 '=' then take 1 [.aType] else nothing
  | constDefault => predictConstDefault c
  | functionParameters =>
    if c.hasPunct 0 '(' then
      take 1 [.list [goal functionParameter] ')']
    else none
  | functionParameter =>
    if c.hasPunct 0 '#' then stay [.item .attributeItem, goal bareParameter]
    else stay [goal bareParameter]
  | bareParameter => predictParameterOfFunction c
  | functionParameterType => if c.hasJoined 0 ['.', '.', '.'] then take 3 [] else stay [.aType]

end TypeGoal

end UnsafeCensus.Grammar
