import UnsafeCensus.Text.Utf8

/-!
# Strings

A string is a row of code points. Nearly all of them are characters; a surrogate that stands alone
occurs where bytes that are no text were let through. Only a string of characters has an encoding,
and the faults of encoding name the first run of surrogates.
-/

namespace UnsafeCensus.Text

/-- A code point: a character, or a surrogate by its number among the surrogates. -/
inductive Rune
  | char (c : Char)
  | surrogate (n : Fin 0x800)
deriving DecidableEq, Repr

namespace Rune

def code : Rune → Nat
  | char c => c.toNat
  | surrogate n => 0xD800 + n.val

def isSurrogate : Rune → Bool
  | char _ => false
  | surrogate _ => true

def char? : Rune → Option Char
  | char c => some c
  | surrogate _ => none

/-- A code point that counts as whitespace. -/
def isBlank : Rune → Bool
  | char c => Text.isBlank c
  | surrogate _ => false

end Rune

abbrev Str := List Rune

namespace Str

def ofChars (s : List Char) : Str := s.map .char

def ofString (s : String) : Str := ofChars s.toList

instance : Coe String Str := ⟨ofString⟩

/-- The characters of a string, if it has no others. -/
def chars? (s : Str) : Option (List Char) := s.mapM Rune.char?

/-- The string without the blanks around it. -/
def trim (s : Str) : Str :=
  ((s.dropWhile Rune.isBlank).reverse.dropWhile Rune.isBlank).reverse

/-- Strings one after another with a string between them. -/
def join (between : Str) (parts : List Str) : Str :=
  (parts.intersperse between).flatten

/-! ## Encoding -/

/-- The first surrogates that stand in a row, and where they do. -/
structure EncodeFault where
  offset : Nat
  run : List Rune
deriving DecidableEq, Repr

/-- Why a string that is not all characters cannot be encoded. -/
def encodeFault (s : Str) : EncodeFault where
  offset := (s.takeWhile (!·.isSurrogate)).length
  run := (s.dropWhile (!·.isSurrogate)).takeWhile (·.isSurrogate)

/-- The characters of a string that is to be encoded. -/
def toChars (s : Str) : Except EncodeFault (List Char) :=
  match s.chars? with
  | some cs => .ok cs
  | none => .error s.encodeFault

theorem chars?_ofChars (s : List Char) : chars? (ofChars s) = some s := by
  induction s with
  | nil => rfl
  | cons c s ih =>
    simp only [chars?, ofChars, List.map_cons, List.mapM_cons, Rune.char?] at ih ⊢
    rw [ih]
    rfl

theorem chars?_eq_some {s : Str} {cs : List Char} : chars? s = some cs ↔ s = ofChars cs := by
  constructor
  · intro h
    induction s generalizing cs with
    | nil =>
      cases h
      rfl
    | cons r s ih =>
      rw [chars?, List.mapM_cons] at h
      cases r with
      | surrogate n => exact nomatch h
      | char c =>
        obtain ⟨rest, hrest, rfl⟩ : ∃ rest, chars? s = some rest ∧ c :: rest = cs := by
          simpa [Rune.char?, chars?, Option.bind_eq_some_iff] using h
        rw [ih hrest]
        rfl
  · rintro rfl
    exact chars?_ofChars cs

theorem ofChars_injective {s t : List Char} (h : ofChars s = ofChars t) : s = t := by
  have hs := chars?_ofChars s
  rw [h, chars?_ofChars] at hs
  exact (Option.some.inj hs).symm

theorem toChars_eq_ok {s : Str} {cs : List Char} : toChars s = .ok cs ↔ s = ofChars cs := by
  rw [← chars?_eq_some, toChars]
  cases s.chars? <;> simp

@[simp] theorem toChars_ofChars (s : List Char) : toChars (ofChars s) = .ok s :=
  toChars_eq_ok.mpr rfl

end Str

end UnsafeCensus.Text
