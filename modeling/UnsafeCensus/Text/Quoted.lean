import UnsafeCensus.Text.Printable
import UnsafeCensus.Text.Str

/-!
# Quoted text

Text between quotes, on one line. The quotes are single unless the text holds a single quote and no
double one; the quote in use, the backslash and what cannot be printed are escaped, surrogates too.
-/

namespace UnsafeCensus.Text

/-- The digits of a number in base sixteen, filled up to a width. -/
def hexDigits (width n : Nat) : List Char :=
  let digits := Nat.toDigits 16 n
  List.replicate (width - digits.length) '0' ++ digits

def quoteMark (s : Str) : Char :=
  if s.contains (.char '\'') && !s.contains (.char '"') then '"' else '\''

/-- One character between quotes of a kind. -/
def escapeChar (mark c : Char) : List Char :=
  if c == mark || c == '\\' then ['\\', c]
  else if c == '\n' then ['\\', 'n']
  else if c == '\r' then ['\\', 'r']
  else if c == '\t' then ['\\', 't']
  else if isPrintable c then [c]
  else if c.toNat < 0x100 then '\\' :: 'x' :: hexDigits 2 c.toNat
  else if c.toNat < 0x10000 then '\\' :: 'u' :: hexDigits 4 c.toNat
  else '\\' :: 'U' :: hexDigits 8 c.toNat

/-- One code point between quotes of a kind. -/
def escapeRune (mark : Char) : Rune → List Char
  | .char c => escapeChar mark c
  | .surrogate n => '\\' :: 'u' :: hexDigits 4 (Rune.surrogate n).code

def quote (s : Str) : Str :=
  let mark := quoteMark s
  .ofChars (mark :: s.flatMap (escapeRune mark) ++ [mark])

end UnsafeCensus.Text
