/-!
# Texts in TOML

Blanks, comments, bare keys and the four kinds of strings. Each reader takes the text from where it
stands and gives what it read and the rest, or nothing if the text is malformed. String readers
stand behind the opening quotes.
-/

namespace UnsafeCensus.Toml

/-- What a reader gives: a result and the rest of the text. -/
abbrev Read (α : Type) := Option (α × List Char)

/-! ## Classes of characters -/

def isBlank (c : Char) : Bool := c == ' ' || c == '\t'

def isBlankOrNewline (c : Char) : Bool := isBlank c || c == '\n'

def isBareKeyChar (c : Char) : Bool := c.isAlphanum || c == '-' || c == '_'

/-- A control character that may not stand in a line. -/
def isForbidden (c : Char) : Bool := (c.toNat < 0x20 && c != '\t') || c.toNat == 0x7F

/-- A control character that may not stand in a text of several lines. -/
def isForbiddenInLines (c : Char) : Bool := isForbidden c && c != '\n'

/-! ## Between the tokens -/

def skipBlanks (s : List Char) : List Char := s.dropWhile isBlank

/-- The text after a comment, which ends before a newline. -/
def skipComment? : List Char → Option (List Char)
  | '#' :: rest =>
    let line := rest.takeWhile (· != '\n')
    if line.any isForbidden then none else some (rest.dropWhile (· != '\n'))
  | s => some s

/-- The text after blanks, newlines and comments. -/
def skipLines? (fuel : Nat) (s : List Char) : Option (List Char) :=
  match fuel with
  | 0 => none
  | fuel + 1 =>
    match s.dropWhile isBlankOrNewline with
    | '#' :: rest => (skipComment? ('#' :: rest)).bind (skipLines? fuel)
    | s => some s

/-! ## Escapes -/

def hexValue? (c : Char) : Option Nat :=
  if c.isDigit then some (c.toNat - '0'.toNat)
  else if 'a' ≤ c ∧ c ≤ 'f' then some (c.toNat - 'a'.toNat + 10)
  else if 'A' ≤ c ∧ c ≤ 'F' then some (c.toNat - 'A'.toNat + 10)
  else none

/-- The character that hexadecimal digits number, if they number one. -/
def charOfHex? (digits : List Char) : Option Char :=
  (digits.foldlM (fun n c => (hexValue? c).map (n * 16 + ·)) 0).bind fun n =>
    if n < 0xD800 ∨ (0xE000 ≤ n ∧ n < 0x110000) then some (Char.ofNat n) else none

/-- What a backslash and a letter stand for. -/
def escaped? : Char → Option Char
  | 'b' => some '\x08'
  | 't' => some '\t'
  | 'n' => some '\n'
  | 'f' => some '\x0C'
  | 'r' => some '\r'
  | '"' => some '"'
  | '\\' => some '\\'
  | _ => none

def consRead (c : Char) (r : Read (List Char)) : Read (List Char) :=
  r.map fun p => (c :: p.1, p.2)

/-! ## Strings -/

/-- A string on one line, with escapes. -/
def basicString : List Char → Read (List Char)
  | [] => none
  | '"' :: rest => some ([], rest)
  | '\\' :: 'u' :: a :: b :: c :: d :: rest =>
    (charOfHex? [a, b, c, d]).bind (consRead · (basicString rest))
  | '\\' :: 'U' :: a :: b :: c :: d :: e :: f :: g :: h :: rest =>
    (charOfHex? [a, b, c, d, e, f, g, h]).bind (consRead · (basicString rest))
  | '\\' :: c :: rest => (escaped? c).bind (consRead · (basicString rest))
  | c :: rest => if isForbidden c then none else consRead c (basicString rest)

/-- A string on one line, taken as it stands. -/
def literalString : List Char → Read (List Char)
  | [] => none
  | c :: rest =>
    if c == '\'' then some ([], rest)
    else if isForbidden c then none
    else consRead c (literalString rest)

/-- Up to two quotes that stand directly behind three closing ones belong to the string. -/
def closingQuotes (quote : Char) : List Char → List Char × List Char
  | a :: b :: rest =>
    if a == quote then if b == quote then ([a, b], rest) else ([a], b :: rest)
    else ([], a :: b :: rest)
  | [a] => if a == quote then ([a], []) else ([], [a])
  | [] => ([], [])

/-- Where a string of several lines stands after a backslash: within the text, before the newline
that a backslash at the end of a line needs, or in the blank lines that it swallows. -/
inductive Margin
  | text
  | lineEnd
  | swallowing
deriving DecidableEq

/-- A string of several lines, with escapes. -/
def basicLines : Margin → List Char → Read (List Char)
  | _, [] => none
  | .lineEnd, c :: rest =>
    if c == '\n' then basicLines .swallowing rest
    else if isBlank c then basicLines .lineEnd rest
    else none
  | _, '"' :: '"' :: '"' :: rest => some (closingQuotes '"' rest)
  | _, '\\' :: 'u' :: a :: b :: c :: d :: rest =>
    (charOfHex? [a, b, c, d]).bind (consRead · (basicLines .text rest))
  | _, '\\' :: 'U' :: a :: b :: c :: d :: e :: f :: g :: h :: rest =>
    (charOfHex? [a, b, c, d, e, f, g, h]).bind (consRead · (basicLines .text rest))
  | _, '\\' :: c :: rest =>
    if c == '\n' then basicLines .swallowing rest
    else if isBlank c then basicLines .lineEnd rest
    else (escaped? c).bind (consRead · (basicLines .text rest))
  | margin, c :: rest =>
    if margin == .swallowing && isBlankOrNewline c then basicLines .swallowing rest
    else if isForbiddenInLines c then none
    else consRead c (basicLines .text rest)

/-- A string of several lines, taken as it stands. -/
def literalLines : List Char → Read (List Char)
  | [] => none
  | '\'' :: '\'' :: '\'' :: rest => some (closingQuotes '\'' rest)
  | c :: rest => if isForbiddenInLines c then none else consRead c (literalLines rest)

/-- A newline directly behind the opening quotes is not part of the string. -/
def dropFirstNewline : List Char → List Char
  | '\n' :: rest => rest
  | s => s

/-- A string of any kind. -/
def string : List Char → Read String
  | '"' :: '"' :: '"' :: rest => asString (basicLines .text (dropFirstNewline rest))
  | '\'' :: '\'' :: '\'' :: rest => asString (literalLines (dropFirstNewline rest))
  | '"' :: rest => asString (basicString rest)
  | '\'' :: rest => asString (literalString rest)
  | _ => none
where
  asString (r : Read (List Char)) : Read String :=
    r.map fun p => (String.ofList p.1, p.2)

/-! ## Keys -/

/-- One part of a key: bare, or a string on one line. -/
def keyPart : List Char → Read String
  | '"' :: rest => (basicString rest).map fun p => (String.ofList p.1, p.2)
  | '\'' :: rest => (literalString rest).map fun p => (String.ofList p.1, p.2)
  | s =>
    match s.takeWhile isBareKeyChar with
    | [] => none
    | bare => some (String.ofList bare, s.dropWhile isBareKeyChar)

/-- The parts of a key, joined by dots. -/
def key (fuel : Nat) (s : List Char) : Option (List String × List Char) :=
  match fuel with
  | 0 => none
  | fuel + 1 => do
    let (first, rest) ← keyPart s
    match skipBlanks rest with
    | '.' :: rest =>
      let (more, rest) ← key fuel (skipBlanks rest)
      return (first :: more, rest)
    | rest => return ([first], rest)

end UnsafeCensus.Toml
