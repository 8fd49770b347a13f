import UnsafeCensus.Grammar.Token
import UnsafeCensus.Text.Comment
import UnsafeCensus.Text.Identifier

/-!
# The lexer

`tokens?` cuts a source text into tokens, or finds that it cannot be cut: a string or comment that
does not end, an escape that is none, a character that begins no token. Every scanner takes the
rest of the text with its offset in bytes and gives what is left after what it read.
-/

namespace UnsafeCensus.Grammar

/-- The rest of a text and the offset at which it begins. -/
structure Rest where
  offset : Nat
  chars : List Char

namespace Rest

/-- The rest after a character. -/
def after (offset : Nat) (c : Char) (chars : List Char) : Rest :=
  ⟨offset + c.utf8Size, chars⟩

/-- Skip the characters of a class. -/
def skipWhile (p : Char → Bool) (offset : Nat) : List Char → Rest
  | [] => ⟨offset, []⟩
  | c :: cs => if p c then skipWhile p (offset + c.utf8Size) cs else ⟨offset, c :: cs⟩

/-- Skip a number of characters. -/
def skip (n : Nat) (r : Rest) : Rest :=
  ⟨(r.chars.take n).foldl (fun o c => o + c.utf8Size) r.offset, r.chars.drop n⟩

def skipClass (p : Char → Bool) (r : Rest) : Rest :=
  skipWhile p r.offset r.chars

end Rest

/-! ## Between the tokens -/

def isSpace (c : Char) : Bool :=
  c == ' ' || (0x09 ≤ c.toNat && c.toNat ≤ 0x0D)

/-- The rest after a block comment, from inside it. -/
def skipBlockComment (r : Rest) : Option Rest :=
  (Text.afterBlockComment? .plain 0 r.chars).map fun rest =>
    r.skip (r.chars.length - rest.length)

/-- The text after two slashes documents something: a third slash and no fourth, or a bang. -/
def isDocComment : List Char → Bool
  | '/' :: '/' :: _ => false
  | '/' :: _ => true
  | '!' :: _ => true
  | _ => false

/-- The rest after a line comment. The zero character ends those that document nothing. -/
def skipLineComment (offset : Nat) (cs : List Char) : Rest :=
  let documents := isDocComment cs
  Rest.skipWhile (fun c => c != '\n' && (documents || c != '\x00')) offset cs

/-- The rest from the next token on. -/
def skipTrivia (fuel : Nat) (r : Rest) : Option Rest :=
  match fuel with
  | 0 => none
  | fuel + 1 =>
    let r := r.skipClass isSpace
    match r.chars with
    | '/' :: '/' :: cs => skipTrivia fuel (skipLineComment (r.offset + 2) cs)
    | '/' :: '*' :: cs => (skipBlockComment ⟨r.offset + 2, cs⟩).bind (skipTrivia fuel)
    | _ => some r

/-! ## Strings and characters -/

def isHexDigit (c : Char) : Bool :=
  c.isDigit || ('a' ≤ c && c ≤ 'f') || ('A' ≤ c && c ≤ 'F')

/-- How many characters an escape takes after its backslash, if it is one. -/
def escapeLength? : List Char → Option Nat
  | 'x' :: a :: b :: _ => if isHexDigit a && isHexDigit b then some 3 else none
  | 'u' :: '\x7b' :: cs =>
    match cs.takeWhile isHexDigit, cs.dropWhile isHexDigit with
    | [], _ => none
    | ds, '\x7d' :: _ => some (ds.length + 3)
    | _, _ => none
  | 'u' :: a :: b :: c :: d :: _ => if [a, b, c, d].all isHexDigit then some 5 else none
  | 'x' :: _ => none
  | 'u' :: _ => none
  | _ :: _ => some 1
  | [] => none

/-- The rest after a string, from behind its opening quote. -/
def skipString (fuel : Nat) (r : Rest) : Option Rest :=
  match fuel with
  | 0 => none
  | fuel + 1 =>
    let r := r.skipClass fun c => c != '"' && c != '\\'
    match r.chars with
    | '"' :: cs => some ⟨r.offset + 1, cs⟩
    | '\\' :: cs => (escapeLength? cs).bind fun n => skipString fuel (r.skip (n + 1))
    | _ => none

/-- The rest after a raw string, from behind its opening quote. -/
def skipRawString (hashes offset : Nat) : List Char → Option Rest
  | [] => none
  | c :: cs =>
    if c == '"' && cs.take hashes == List.replicate hashes '#' then
      some ⟨offset + 1 + hashes, cs.drop hashes⟩
    else skipRawString hashes (offset + c.utf8Size) cs

/-- The rest after a raw string, from behind the letter that marks it, if it is one. -/
def rawString? (r : Rest) : Option (Option Rest) :=
  let hashes := (r.chars.takeWhile (· == '#')).length
  match r.chars.drop hashes with
  | '"' :: cs => some (skipRawString hashes (r.offset + hashes + 1) cs)
  | _ => none

/-- The rest after a character in quotes, from behind the opening one, if it is one. -/
def character? (r : Rest) : Option Rest :=
  match r.chars with
  | '\'' :: cs => some ⟨r.offset + 1, cs⟩
  | '\\' :: cs =>
    match escapeLength? cs with
    | some n =>
      if cs.take n == ['\x00'] then none
      else
        let r := r.skip (n + 1)
        match r.chars with
        | '\'' :: cs => some ⟨r.offset + 1, cs⟩
        | _ => none
    | none => none
  | c :: '\'' :: cs => if c == '\x00' then none else some ⟨r.offset + c.utf8Size + 1, cs⟩
  | _ => none

/-! ## Numbers -/

def isNumberChar (c : Char) : Bool := c.isDigit || c == '_'

/-- The suffixes that say the type of a number, longer ones before their beginnings. -/
def numericTypes : List String := [
  "u8", "i8", "u16", "i16", "u32", "i32", "u64", "i64", "u128", "i128", "isize", "usize", "f32",
  "f64"]

def skipNumericType (r : Rest) : Rest :=
  match numericTypes.find? fun t => t.toList.isPrefixOf r.chars with
  | some t => r.skip t.length
  | none => r

/-- The rest after the digits of a base, if there is one. -/
def radixDigits? (p : Char → Bool) (r : Rest) : Option Rest :=
  match r.chars with
  | c :: _ => if p c then some (r.skipClass p) else none
  | [] => none

/-- The rest after a whole number. -/
def skipInteger (r : Rest) : Rest :=
  let marked? := match r.chars with
    | '0' :: 'x' :: cs => radixDigits? (fun c => isHexDigit c || c == '_') ⟨r.offset + 2, cs⟩
    | '0' :: 'b' :: cs =>
      radixDigits? (fun c => c == '0' || c == '1' || c == '_') ⟨r.offset + 2, cs⟩
    | '0' :: 'o' :: cs =>
      radixDigits? (fun c => ('0' ≤ c && c ≤ '7') || c == '_') ⟨r.offset + 2, cs⟩
    | _ => none
  skipNumericType (marked?.getD (r.skipClass isNumberChar))

/-- The rest after a point and the digits that follow it. A point before a letter or another point
does not belong to the number. -/
def fraction? (r : Rest) : Option Rest :=
  match r.chars with
  | '.' :: c :: cs =>
    if c == '.' || (Text.isIdentStart c && c != '_') then none
    else some (Rest.skipWhile isNumberChar (r.offset + 1) (c :: cs))
  | ['.'] => some ⟨r.offset + 1, []⟩
  | _ => none

/-- The rest after an exponent. -/
def exponent? (r : Rest) : Option Rest :=
  match r.chars with
  | e :: cs =>
    if e == 'e' || e == 'E' then
      let sign := if cs.head? == some '+' || cs.head? == some '-' then 1 else 0
      radixDigits? isNumberChar (r.skip (1 + sign))
    else none
  | [] => none

/-- The rest after the type of a number with a point or exponent: a letter and digits. -/
def skipFloatType (r : Rest) : Rest :=
  match r.chars with
  | t :: d :: cs =>
    if (t == 'u' || t == 'i' || t == 'f') && d.isDigit then
      Rest.skipWhile Char.isDigit (r.offset + 1) (d :: cs)
    else r
  | _ => r

/-- The rest after a number with a point or exponent, if it is one. -/
def float? (r : Rest) : Option Rest :=
  let whole := r.skipClass isNumberChar
  match whole.chars with
  | '.' :: _ =>
    (fraction? whole).map fun r =>
      match r.chars with
      | e :: _ =>
        if e == 'e' || e == 'E' then ((exponent? r).map skipFloatType).getD r else skipFloatType r
      | [] => r
  | _ => (exponent? whole).map skipFloatType

/-! ## Tokens -/

def punctuation : List Char := "()[]\x7b\x7d+-*/%^!&|<>=@.,;:#?$".toList

def isPunctuation (c : Char) : Bool := punctuation.contains c

/-- The rest after a word. -/
def skipWord (r : Rest) : Rest := r.skipClass Text.isIdentContinue

/-- The letters before a string or character that mark its kind, or before a name that is written
raw, and what the token is then. -/
def marked? (fuel : Nat) (r : Rest) : Option (Option (Lexeme × Rest)) :=
  let raw (n : Nat) :=
    (rawString? (r.skip n)).map fun rest => rest.map fun rest => (Lexeme.text, rest)
  let plain (n : Nat) :=
    some ((skipString fuel (r.skip n)).map fun rest => (Lexeme.text, rest))
  match r.chars with
  | 'r' :: '"' :: _ => raw 1
  | 'r' :: '#' :: c :: cs =>
    match raw 1 with
    | some token => some token
    | none =>
      if Text.isIdentStart c then
        let rest := skipWord (r.skip 2)
        some (some (.word ("r#" ++ String.ofList ((c :: cs).takeWhile Text.isIdentContinue)), rest))
      else none
  | 'b' :: 'r' :: _ => raw 2
  | 'c' :: 'r' :: _ => raw 2
  | 'b' :: '"' :: _ => plain 2
  | 'c' :: '"' :: _ => plain 2
  | 'b' :: '\'' :: _ => (character? (r.skip 2)).map fun rest => some (.character, rest)
  | _ => none

/-- A number. Behind a single point it has no point of its own. -/
def number (afterPoint : Bool) (r : Rest) : Lexeme × Rest :=
  match if afterPoint then none else float? r with
  | some rest => (.float, rest)
  | none => (.integer, skipInteger r)

/-- The token that a text begins with. -/
def token? (fuel : Nat) (afterPoint : Bool) (r : Rest) : Option (Lexeme × Rest) :=
  match marked? fuel r with
  | some token => token
  | none =>
    match r.chars with
    | [] => none
    | c :: cs =>
      if Text.isIdentStart c then
        some (.word (String.ofList (r.chars.takeWhile Text.isIdentContinue)), skipWord r)
      else if c.isDigit then some (number afterPoint r)
      else if c == '"' then
        (skipString fuel ⟨r.offset + 1, cs⟩).map fun rest => (.text, rest)
      else if c == '\'' then
        match character? ⟨r.offset + 1, cs⟩ with
        | some rest => some (.character, rest)
        | none => some (.quote, ⟨r.offset + 1, cs⟩)
      else if c == '$' then
        match cs with
        | d :: _ =>
          if d.isAlpha || d == '_' then
            some (.metavariable, Rest.skipWhile (fun c => c.isAlphanum || c == '_')
              (r.offset + 1) cs)
          else some (.punct c, ⟨r.offset + 1, cs⟩)
        | [] => some (.punct c, ⟨r.offset + 1, cs⟩)
      else if isPunctuation c then some (.punct c, ⟨r.offset + 1, cs⟩)
      else none

/-- The last token is a point that is not part of a range. -/
def endsInPoint (read : Array Token) : Bool :=
  match read.back? with
  | some last =>
    last.lexeme == .punct '.' &&
      match read.size with
      | n + 2 =>
        match read[n]? with
        | some before => !(before.lexeme == .punct '.' && before.span.stop == last.span.start)
        | none => true
      | _ => true
  | none => false

/-- All tokens from here on, behind those that have been read. -/
def lex (fuel : Nat) (read : Array Token) (r : Rest) : Option (Array Token) :=
  match fuel with
  | 0 => none
  | fuel + 1 =>
    match skipTrivia (fuel + 1) r with
    | none => none
    | some r =>
      if r.chars.isEmpty then some read
      else
        match token? (fuel + 1) (endsInPoint read) r with
        | none => none
        | some (lexeme, rest) => lex fuel (read.push ⟨lexeme, ⟨r.offset, rest.offset⟩⟩) rest

/-- The text after a line for the operating system at the very beginning, which starts with `#!`.
Before an opening bracket these two characters begin an attribute. -/
def skipInterpreterLine (r : Rest) : Rest :=
  match r.chars with
  | '#' :: '!' :: cs =>
    let line := Rest.skipWhile (· != '\n') (r.offset + 2) cs
    match line.chars with
    | '\n' :: rest => if cs.head? = some '[' then r else ⟨line.offset + 1, rest⟩
    | _ => r
  | _ => r

/-- A byte order mark before the text is not part of it. -/
def skipMark (chars : List Char) : Rest :=
  match chars with
  | c :: cs => if c == '\uFEFF' then .after 0 c cs else ⟨0, chars⟩
  | [] => ⟨0, []⟩

/-- The tokens of a text. -/
def tokens? (chars : List Char) : Option (Array Token) :=
  (skipTrivia (chars.length + 1) (skipMark chars)).bind fun r =>
    lex (chars.length + 1) #[] (skipInterpreterLine r)

end UnsafeCensus.Grammar
