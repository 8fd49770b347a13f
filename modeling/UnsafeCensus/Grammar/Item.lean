import UnsafeCensus.Grammar.Goal

/-!
# Items

Functions, types, traits, implementations, modules and the other declarations, attributes, and the
definitions of macros.
-/

namespace UnsafeCensus.Grammar

open Prediction

/-! ## Lookahead -/

namespace Cursor

/-- The end of a path of names, from a name on. -/
def pathEnd (fuel : Nat) (c : Cursor) (k : Nat) : Nat :=
  match fuel with
  | 0 => k
  | fuel + 1 =>
    if c.hasPathSeparator k && c.hasName (k + 2) then pathEnd fuel c (k + 3) else k

/-- The place of the bang of a macro that is called here by its path. -/
def macroAt? (c : Cursor) : Option Nat :=
  let first := if c.hasPathSeparator 0 then 2 else 0
  let begins :=
    match c.peek first with
    | some (.word w) =>
      !(expressionKeywords.contains w || primitiveTypes.contains w) &&
        (!pathKeywords.contains w || c.hasPathSeparator (first + 1))
    | some .metavariable => c.hasPathSeparator (first + 1)
    | _ => false
  let bang := pathEnd (c.tokens.size - c.pos) c (first + 1)
  if begins && c.hasMacroBang bang then some bang else none

/-- The length of a visibility; none is of length zero. -/
def visibilityLength (c : Cursor) : Nat :=
  if c.hasWord 0 "pub" then
    if c.hasPunct 1 '(' && c.hasWordOf 2 pathKeywords && c.hasPunct 3 ')' then 4
    else if c.hasPunct 1 '(' && c.hasWord 2 "in" then
      let first := if c.hasPathSeparator 3 then 5 else 3
      let close := pathEnd (c.tokens.size - c.pos) c (first + 1)
      if c.hasPunct close ')' then close + 1 else 1
    else 1
  else if c.hasWord 0 "crate" && c.hasName 1 then 1
  else 0

/-- An extern block begins here, from its modifiers on; where it opens. -/
def foreignAt? (c : Cursor) (k : Nat) : Option Nat :=
  let e := if c.hasWord k "unsafe" then k + 1 else k
  if c.hasWord e "extern" then
    let after := if c.peek (e + 1) == some .text then e + 2 else e + 1
    if c.hasPunct after '\x7b' || c.hasPunct after ';' then some after else none
  else none

/-- The parameters of an implementation are those, and not the beginning of a type in angle
brackets: no `as` stands in them outside further brackets. -/
def hasImplParameters (fuel : Nat) (c : Cursor) (k depth : Nat) : Bool :=
  match fuel with
  | 0 => true
  | fuel + 1 =>
    if c.hasPunct k '<' then hasImplParameters fuel c (k + 1) (depth + 1)
    else if c.hasJoined k ['-', '>'] then hasImplParameters fuel c (k + 2) depth
    else if c.hasPunct k '>' then
      if depth ≤ 1 then true else hasImplParameters fuel c (k + 1) (depth - 1)
    else if depth == 1 && c.hasWord k "as" then false
    else if c.atEnd then true
    else hasImplParameters fuel c (k + 1) depth

end Cursor

/-! ## Items -/

namespace ItemGoal

def goal (g : ItemGoal) : Goal := .item g

/-- A body of declarations. -/
def declarationList : List Goal :=
  [.start, .punct '\x7b', goal declarations, .punct '\x7d',
    .finish "declaration_list" (some "body")]

/-- A function whose word `fn` stands some places ahead, behind a visibility of some length. -/
def function (v f : Nat) : List Goal :=
  [.start, .skip v] ++
    (if v < f then Goal.node "function_modifiers" [goal modifiers] else []) ++
    [.word "fn", goal functionName, .type .optionalParameters, .type .functionParameters,
      .type (.returnType true), goal whereClause, goal functionEnd]

/-- An item that begins with a keyword, behind a visibility of some length. -/
def keyworded (c : Cursor) (v : Nat) (w : String) : Option (List Goal) :=
  match w with
  | "mod" =>
    some (Goal.node "mod_item" [.skip (v + 1), goal moduleName, goal moduleEnd])
  | "struct" =>
    some (Goal.node "struct_item"
      [.skip (v + 1), .name, .type .optionalParameters, goal structBody])
  | "union" =>
    if c.hasName (v + 1) && !c.hasWord (v + 1) "as" then
      some (Goal.node "union_item"
        [.skip (v + 1), .name, .type .optionalParameters, goal whereClause, goal fields])
    else none
  | "enum" =>
    some (Goal.node "enum_item"
      [.skip (v + 1), .name, .type .optionalParameters, goal whereClause, .punct '\x7b',
        .list [.expr (.attributes false), goal variant] '\x7d'])
  | "type" =>
    some [.start, .skip (v + 1), .name, .type .optionalParameters, goal (typeTail (v != 0))]
  | "use" => some (Goal.node "use_declaration" [.skip (v + 1), goal useClause, .punct ';'])
  | "trait" =>
    some (Goal.node "trait_item" ([.skip (v + 1), .name, .type .optionalParameters, .type .bounds,
      goal whereClause] ++ declarationList))
  | "impl" =>
    if v = 0 then
      some (Goal.node "impl_item" [.skip 1, goal implParameters, goal implNegation, .aType,
        goal implTarget, goal whereClause, goal implEnd])
    else none
  | "const" =>
    if c.hasPunct (v + 1) '\x7b' then none
    else
      some (Goal.node "const_item"
        [.skip (v + 1), .name, .punct ':', .aType, .expr .initializer, .punct ';'])
  | "static" =>
    if c.hasPunct (v + 1) '|' || c.hasWordOf (v + 1) ["move", "async"] then none
    else
      some (Goal.node "static_item" [.skip (v + 1), goal staticModifiers, .name, .punct ':', .aType,
        .expr .initializer, .punct ';'])
  | "extern" =>
    if c.hasWord (v + 1) "crate" then
      some (Goal.node "extern_crate_declaration"
        [.skip (v + 2), .name, goal crateAlias, .punct ';'])
    else none
  | "unsafe" =>
    if c.hasWord (v + 1) "trait" then
      some (Goal.node "trait_item" ([.skip v, .leaf "unsafe" false none, .word "trait", .name,
        .type .optionalParameters, .type .bounds, goal whereClause] ++ declarationList))
    else if v = 0 && c.hasWord 1 "impl" then
      some (Goal.node "impl_item" [.leaf "unsafe" false none, .word "impl", goal implParameters,
        goal implNegation, .aType, goal implTarget, goal whereClause, goal implEnd])
    else none
  | "macro_rules" =>
    if v = 0 && c.isJoint 0 && c.hasPunct 1 '!' then
      some (Goal.node "macro_definition" [.skip 2, .name, goal macroBody])
    else none
  | _ => none

/-- The goals of the item that begins here, if one does. -/
def begin? (c : Cursor) : Option (List Goal) :=
  let v := c.visibilityLength
  match c.functionAt? v with
  | some f => some (function v f)
  | none =>
    match c.foreignAt? v with
    | some n => some (Goal.node "foreign_mod_item" [.skip n, goal moduleEnd])
    | none => (c.word? v).bind (keyworded c v)

/-! ## Parts of items -/

def predictStructBody (c : Cursor) : Prediction :=
  if c.hasPunct 0 ';' then take 1 []
  else if c.hasPunct 0 '(' then
    take 1 [.list [.expr (.attributes false), goal tupleField] ')', goal whereClause, .punct ';']
  else stay [goal whereClause, goal fields]

def predictUseClause (c : Cursor) : Prediction :=
  let first := if c.hasPathSeparator 0 then 2 else 0
  if c.hasPunct first '\x7b' then take (first + 1) [.list [goal useClause] '\x7d']
  else if c.hasPunct first '*' then take (first + 1) []
  else if c.hasName first || c.hasMetavariable first then take (first + 1) [goal useTail]
  else none

def predictUseTail (c : Cursor) : Prediction :=
  if c.hasPathSeparator 0 then
    if c.hasPunct 2 '<' then take 2 [.type .arguments, goal useTail] else stay [goal useClause]
  else if c.hasWord 0 "as" then take 1 [.name]
  else nothing

/-- A predicate of a where clause begins here. -/
def predicateBegins (c : Cursor) : Bool :=
  c.hasLifetime 0 || c.hasName 0 || c.hasPunct 0 '&' || c.hasPunct 0 '*' || c.hasPunct 0 '[' ||
    c.hasPunct 0 '<' || c.hasPathSeparator 0 || (c.hasPunct 0 '(' && !c.hasPunct 1 ')')

def predictPredicates (c : Cursor) : Prediction :=
  if predicateBegins c then
    if c.hasLifetime 0 then
      if c.hasPunct 2 ':' then take 2 [.type .bounds, goal predicatesEnd] else none
    else
      stay [.type .single, .punct ':', .type .bound, .type .moreBounds, goal predicatesEnd]
  else nothing

def predictTypeTail (c : Cursor) (isPublic : Bool) : Prediction :=
  let member : List Goal := [.punct ';', .finish "associated_type" none]
  if c.hasPunct 0 ':' then
    if isPublic then none else stay (.type .bounds :: goal whereClause :: member)
  else if c.hasPunct 0 '=' then
    take 1 [.aType, goal whereClause, .punct ';', .finish "type_item" none]
  else if c.hasPunct 0 ';' then if isPublic then none else stay member
  else if c.hasWord 0 "where" then stay [goal whereClause, goal (typeTail isPublic)]
  else none

def predictMacroBody (c : Cursor) : Prediction :=
  if c.hasPunct 0 '\x7b' then take 1 [goal (rules '\x7d')]
  else if c.hasPunct 0 '(' then take 1 [goal (rules ')'), .punct ';']
  else if c.hasPunct 0 '[' then take 1 [goal (rules ']'), .punct ';']
  else none

/-- An attribute: its node holds another one for what stands in the brackets. -/
def predictAttribute (c : Cursor) : Prediction :=
  let inner := c.hasPunct 1 '!'
  let opening := if inner then 2 else 1
  if c.hasPunct 0 '#' && c.hasPunct opening '[' then
    stay (.start :: .skip (opening + 1) ::
      Goal.node "attribute" [goal attributePath, goal attributeValue] ++
      [.punct ']', .finish (if inner then "inner_attribute_item" else "attribute_item") none])
  else none

def predictDeclaration (c : Cursor) : Prediction :=
  if c.hasPunct 0 ';' then stay [.leaf "empty_statement" true none]
  else if c.hasPunct 0 '#' then stay [goal attributeItem]
  else
    match begin? c with
    | some goals => stay goals
    | none =>
      if c.hasWord 0 "let" then stay [.statement .single]
      else if c.hasWordOf 0 itemKeywords then none
      else
        match c.macroAt? with
        | some bang => stay (Goal.node "macro_invocation" [.skip (bang + 1), .delimited])
        | none => none

def predict (c : Cursor) : ItemGoal → Prediction
  | modifiers =>
    if c.hasWord 0 "unsafe" then stay [.leaf "unsafe" false none, goal modifiers]
    else if c.hasWordOf 0 ["async", "default", "const"] then take 1 [goal modifiers]
    else if c.hasWord 0 "extern" then
      take (if c.peek 1 == some .text then 2 else 1) [goal modifiers]
    else nothing
  | functionName => if c.hasName 0 || c.hasMetavariable 0 then take 1 [] else none
  | functionEnd =>
    if c.hasPunct 0 ';' then take 1 [.finish "function_signature_item" none]
    else stay [.block, .finish "function_item" none]
  | visibility => take c.visibilityLength []
  | moduleName =>
    if c.hasName 0 then stay [.leaf "identifier" true (some "name")] else none
  | moduleEnd => if c.hasPunct 0 ';' then take 1 [] else stay declarationList
  | declarations =>
    if c.hasPunct 0 '\x7d' then nothing else stay [goal declaration, goal declarations]
  | declaration => predictDeclaration c
  | structBody => predictStructBody c
  | fields =>
    stay [.punct '\x7b', .list [.expr (.attributes false), goal field] '\x7d']
  | field => stay [goal visibility, .name, .punct ':', .aType]
  | tupleField => stay [goal visibility, .aType]
  | variant => stay [goal visibility, .name, goal variantBody, .expr .initializer]
  | variantBody =>
    if c.hasPunct 0 '\x7b' then stay [goal fields]
    else if c.hasPunct 0 '(' then
      take 1 [.list [.expr (.attributes false), goal tupleField] ')']
    else nothing
  | implParameters =>
    if c.hasPunct 0 '<' && c.hasImplParameters (c.tokens.size - c.pos) 0 0 then
      stay [.type .parameters]
    else nothing
  | implNegation => if c.hasPunct 0 '!' then take 1 [] else nothing
  | implTarget => if c.hasWord 0 "for" then take 1 [.aType] else nothing
  | implEnd => if c.hasPunct 0 ';' then take 1 [] else stay declarationList
  | whereClause => if c.hasWord 0 "where" then take 1 [goal predicates] else nothing
  | predicates => predictPredicates c
  | predicatesEnd => if c.hasPunct 0 ',' then take 1 [goal predicates] else nothing
  | staticModifiers =>
    let ref := if c.hasWord 0 "ref" then 1 else 0
    take (if c.hasWord ref "mut" then ref + 1 else ref) []
  | typeTail isPublic => predictTypeTail c isPublic
  | useClause => predictUseClause c
  | useTail => predictUseTail c
  | crateAlias => if c.hasWord 0 "as" then take 1 [.name] else nothing
  | macroBody => predictMacroBody c
  | rules close =>
    if c.hasPunct 0 close then take 1 []
    else
      stay [.tree (.bracketed true), .joined ['=', '>'], .tree (.bracketed true),
        goal (rulesEnd close)]
  | rulesEnd close =>
    if c.hasPunct 0 ';' then take 1 [goal (rules close)]
    else if c.hasPunct 0 close then take 1 []
    else none
  | attributeItem => predictAttribute c
  | attributePath =>
    if c.hasPathSeparator 0 && c.hasName 2 then take 3 [goal attributePathTail]
    else if c.hasName 0 || c.hasMetavariable 0 then take 1 [goal attributePathTail]
    else none
  | attributePathTail =>
    if c.hasPathSeparator 0 then
      if c.hasName 2 then take 3 [goal attributePathTail]
      else if c.hasPunct 2 '<' then
        take 2 [.type .arguments, .joined [':', ':'], .name, goal attributePathTail]
      else none
    else nothing
  | attributeValue =>
    if c.hasPunct 0 '=' then take 1 [.expression]
    else if c.hasOpening 0 then stay [.delimited]
    else nothing

end ItemGoal

end UnsafeCensus.Grammar
