import UnsafeCensus.Toml.Text
import UnsafeCensus.Value.Basic

/-!
# Numbers, dates and times in TOML
-/

namespace UnsafeCensus.Toml

/-- What is wrong with a document. -/
inductive Flaw
  | malformed
  /-- A whole number in decimal digits, and more of them than are read. -/
  | numeralTooLong (digits : Nat)
  /-- A value inside more brackets than the reader has room for. -/
  | tooDeep
deriving DecidableEq, Repr

/-! ## Digits -/

/-- Further digits, each of which may have one underscore before it, and the rest. -/
def moreDigits (isDigit : Char → Bool) : List Char → List Char × List Char
  | '_' :: c :: rest =>
    if isDigit c then
      let (ds, rest) := moreDigits isDigit rest
      (c :: ds, rest)
    else ([], '_' :: c :: rest)
  | c :: rest =>
    if isDigit c then
      let (ds, rest) := moreDigits isDigit rest
      (c :: ds, rest)
    else ([], c :: rest)
  | [] => ([], [])

/-- At least one digit. -/
def digits (isDigit : Char → Bool) : List Char → Read (List Char)
  | c :: rest =>
    if isDigit c then
      let (ds, rest) := moreDigits isDigit rest
      some (c :: ds, rest)
    else none
  | [] => none

def valueOf (base : Nat) (ds : List Char) : Nat :=
  ds.foldl (fun n c => n * base + (hexValue? c).getD 0) 0

/-! ## Numbers -/

/-- A whole number with a mark of its base. -/
def radixNumber : List Char → Read Nat
  | '0' :: 'x' :: rest =>
    (digits (fun c => (hexValue? c).isSome) rest).map fun p => (valueOf 16 p.1, p.2)
  | '0' :: 'o' :: rest =>
    (digits (fun c => '0' ≤ c && c ≤ '7') rest).map fun p => (valueOf 8 p.1, p.2)
  | '0' :: 'b' :: rest =>
    (digits (fun c => c == '0' || c == '1') rest).map fun p => (valueOf 2 p.1, p.2)
  | _ => none

/-- A sign, if there is one: whether it is a minus. -/
def sign : List Char → Bool × List Char
  | '-' :: rest => (true, rest)
  | '+' :: rest => (false, rest)
  | s => (false, s)

/-- The part before the point: a zero alone or digits that do not begin with one. -/
def wholePart : List Char → Read (List Char)
  | '0' :: rest => some (['0'], rest)
  | s => digits Char.isDigit s

/-- The digits after a point, if they follow. -/
def fraction : List Char → Read (List Char)
  | '.' :: rest => digits Char.isDigit rest
  | _ => none

/-- The exponent, if it follows. -/
def exponent : List Char → Read Int
  | e :: rest =>
    if e == 'e' || e == 'E' then
      let (negative, rest) := sign rest
      (digits Char.isDigit rest).map fun p =>
        (if negative then -(valueOf 10 p.1 : Int) else valueOf 10 p.1, p.2)
    else none
  | [] => none

/-- A number in decimal digits: whole, or with a fraction or exponent. -/
def decimalNumber (s : List Char) : Except Flaw (Option (Value × List Char)) :=
  let (negative, unsigned) := sign s
  match wholePart unsigned with
  | none => .ok none
  | some (whole, afterWhole) =>
    let point := fraction afterWhole
    let (frac, afterFraction) := point.getD ([], afterWhole)
    let power := exponent afterFraction
    let (exp, rest) := power.getD (0, afterFraction)
    if point.isSome ∨ power.isSome then
      let x := Double.ofDecimal negative (valueOf 10 (whole ++ frac)) (exp - frac.length)
      .ok (some (.float x, rest))
    else if Value.digitLimit < whole.length then .error (.numeralTooLong whole.length)
    else
      let n := valueOf 10 whole
      .ok (some (.int (if negative then -(n : Int) else n), rest))

/-- The numbers that are written as words. -/
def wordNumber (s : List Char) : Read Double :=
  let (negative, rest) := sign s
  match rest with
  | 'i' :: 'n' :: 'f' :: rest => some (.infinite negative, rest)
  | 'n' :: 'a' :: 'n' :: rest => some (.notANumber, rest)
  | _ => none

/-! ## Dates and times -/

/-- A number of exactly two digits between bounds. -/
def twoDigits (lo hi : Nat) : List Char → Read Nat
  | a :: b :: rest =>
    if a.isDigit && b.isDigit && lo ≤ valueOf 10 [a, b] && valueOf 10 [a, b] ≤ hi then
      some (valueOf 10 [a, b], rest)
    else none
  | _ => none

/-- The text after a character that has to stand there. -/
def expect (c : Char) : List Char → Option (List Char)
  | d :: rest => if d == c then some rest else none
  | [] => none

def year : List Char → Read Nat
  | a :: b :: c :: d :: rest =>
    if [a, b, c, d].all Char.isDigit then some (valueOf 10 [a, b, c, d], rest) else none
  | _ => none

def date (s : List Char) : Option (Date × List Char) := do
  let (y, s) ← year s
  let (m, s) ← twoDigits 1 12 (← expect '-' s)
  let (d, s) ← twoDigits 1 31 (← expect '-' s)
  return (⟨y, m, d⟩, s)

/-- The fraction of a second in microseconds; further digits are dropped. -/
def micros (s : List Char) : Nat × List Char :=
  match s with
  | '.' :: c :: rest =>
    if c.isDigit then
      let ds := (c :: rest).takeWhile Char.isDigit
      (valueOf 10 ((ds ++ List.replicate 6 '0').take 6), (c :: rest).dropWhile Char.isDigit)
    else (0, s)
  | _ => (0, s)

def clock (s : List Char) : Option (Clock × List Char) := do
  let (h, s) ← twoDigits 0 23 s
  let (m, s) ← twoDigits 0 59 (← expect ':' s)
  let (sec, s) ← twoDigits 0 59 (← expect ':' s)
  let (us, s) := micros s
  return (⟨h, m, sec, us⟩, s)

/-- The offset from universal time, in minutes. -/
def offset : List Char → Option (Int × List Char)
  | c :: rest =>
    if c == 'Z' || c == 'z' then some (0, rest)
    else if c == '+' || c == '-' then do
      let (h, s) ← twoDigits 0 23 rest
      let (m, s) ← twoDigits 0 59 (← expect ':' s)
      let minutes : Int := h * 60 + m
      return (if c == '-' then -minutes else minutes, s)
    else none
  | [] => none

/-- The time that may follow a date. -/
def timeAfterDate : List Char → Read Clock
  | c :: rest => if c == 'T' || c == 't' || c == ' ' then clock rest else none
  | [] => none

/-- A date, alone or with a time. Days that the calendar does not have are malformed. -/
def moment (s : List Char) : Except Flaw (Option (Moment × List Char)) :=
  match date s with
  | none => .ok ((clock s).map fun p => (.time p.1, p.2))
  | some (d, s) =>
    if !d.isValid then .error .malformed
    else
      match timeAfterDate s with
      | none => .ok (some (.date d, s))
      | some (c, s) =>
        match offset s with
        | none => .ok (some (.dateTime d c none, s))
        | some (o, s) => .ok (some (.dateTime d c (some o), s))

/-- A value that contains no others, strings apart. -/
def scalar (s : List Char) : Except Flaw (Value × List Char) :=
  match s with
  | 't' :: 'r' :: 'u' :: 'e' :: rest => .ok (.bool true, rest)
  | 'f' :: 'a' :: 'l' :: 's' :: 'e' :: rest => .ok (.bool false, rest)
  | _ => do
    match ← moment s with
    | some (m, rest) => return (.moment m, rest)
    | none =>
      match radixNumber s with
      | some (n, rest) => return (.int n, rest)
      | none =>
        match ← decimalNumber s with
        | some r => return r
        | none =>
          match wordNumber s with
          | some (x, rest) => return (.float x, rest)
          | none => throw .malformed

end UnsafeCensus.Toml
