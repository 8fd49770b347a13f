import UnsafeCensus.Text.Blank

/-!
# Argument lists

The text between the parentheses of an attribute, cut at the commas that stand outside all
brackets. Brackets of the three kinds count alike, a closing one never leads below the outermost
level, and nothing else in the text is looked at: not strings, not comments.
-/

namespace UnsafeCensus.Attribute

def isOpening (c : Char) : Bool :=
  c == '(' || c == '[' || c == '\x7b'

def isClosing (c : Char) : Bool :=
  c == ')' || c == ']' || c == '\x7d'

/-- How deep in brackets the text stands after a character. -/
def deepen (depth : Nat) (c : Char) : Nat :=
  if isOpening c then depth + 1 else if isClosing c then depth - 1 else depth

/-- The pieces between the commas of the outermost level, for a text that begins at some depth. -/
def segments (depth : Nat) : List Char → List (List Char)
  | [] => [[]]
  | c :: rest =>
    if c == ',' && depth == 0 then [] :: segments 0 rest
    else
      match segments (deepen depth c) rest with
      | piece :: pieces => (c :: piece) :: pieces
      | [] => [[c]]

/-- The arguments of a list: its pieces without the blanks around them, the empty ones left out. -/
def splitArguments (raw : List Char) : List (List Char) :=
  ((segments 0 raw).map Text.trim).filter fun a => !a.isEmpty

theorem segments_ne_nil (depth : Nat) (raw : List Char) : segments depth raw ≠ [] := by
  cases raw with
  | nil => simp [segments]
  | cons c rest =>
    simp only [segments]
    split
    · simp
    · split <;> simp

end UnsafeCensus.Attribute
