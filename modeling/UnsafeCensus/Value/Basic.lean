import UnsafeCensus.Text.Quoted
import UnsafeCensus.Value.Double
import UnsafeCensus.Value.Moment
import UnsafeCensus.Value.Table

/-!
# Values

What a settings file or a caller may write for a setting: any value, whether or not it suits the
setting. `display` is the text by which messages show a value. A text that stands alone is shown as
it is; inside a list or table it is quoted. Not every value can be shown: numbers have a limit to
their digits, and values lie inside one another only as deep as there are levels.
-/

namespace UnsafeCensus

inductive Value where
  | null
  | bool (b : Bool)
  | int (n : Int)
  | float (x : Double)
  | str (s : Text.Str)
  | moment (m : Moment)
  | list (items : List Value)
  | table (entries : List (String × Value))
deriving Repr, Inhabited

namespace Value

/-- Why a value has no text. -/
inductive Unshowable
  | tooManyDigits
  | tooDeep
deriving DecidableEq, Repr

/-- The number of digits up to which whole numbers are written and read in decimal. -/
def digitLimit : Nat := 4300

def displayInt (n : Int) : Except Unshowable Text.Str :=
  if n.natAbs < Nat.pow 10 digitLimit then .ok (.ofString (toString n)) else .error .tooManyDigits

/-- Parts one after another, with commas between them. -/
def commas (parts : List Text.Str) : Text.Str :=
  .join (.ofString ", ") parts

/-- The text of a string inside a value, where there are so many levels left. -/
def quotedString : Nat → Text.Str → Except Unshowable Text.Str
  | 0, _ => .error .tooDeep
  | _ + 1, s => .ok (Text.quote s)

mutual

/-- The text of a value inside another, where there are so many levels left. -/
def quoted : Nat → Value → Except Unshowable Text.Str
  | 0, _ => .error .tooDeep
  | _ + 1, null => .ok (.ofString "None")
  | _ + 1, bool b => .ok (.ofString (if b then "True" else "False"))
  | _ + 1, int n => displayInt n
  | _ + 1, float x => .ok (.ofString x.render)
  | _ + 1, str s => .ok (Text.quote s)
  | levels + 1, moment m =>
    if m.depth ≤ levels then .ok (.ofString m.spelled) else .error .tooDeep
  | levels + 1, list items =>
    (quotedItems levels items).map fun parts => .ofString "[" ++ commas parts ++ .ofString "]"
  | levels + 1, table entries =>
    (quotedEntries levels entries).map fun parts =>
      .ofString "\x7b" ++ commas parts ++ .ofString "\x7d"

def quotedItems (levels : Nat) : List Value → Except Unshowable (List Text.Str)
  | [] => .ok []
  | v :: vs => do
    let text ← quoted levels v
    let texts ← quotedItems levels vs
    return text :: texts

def quotedEntries (levels : Nat) : List (String × Value) → Except Unshowable (List Text.Str)
  | [] => .ok []
  | (k, v) :: rest => do
    let name ← quotedString levels (.ofString k)
    let text ← quoted levels v
    let texts ← quotedEntries levels rest
    return (name ++ .ofString ": " ++ text) :: texts

end

/-- The text of a value that stands alone, where values inside it have so many levels. -/
def display (levels : Nat) : Value → Except Unshowable Text.Str
  | str s => .ok s
  | moment m => .ok (.ofString m.display)
  | v => v.quoted (levels + 1)

/-- The name of the type of a value. -/
def typeName : Value → String
  | null => "NoneType"
  | bool _ => "bool"
  | int _ => "int"
  | float _ => "float"
  | str _ => "str"
  | moment m => m.typeName
  | list _ => "list"
  | table _ => "dict"

/-- Counts as yes where a yes or no is wanted: all but the null, zeros and what is empty. -/
def isTruthy : Value → Bool
  | null => false
  | bool b => b
  | int n => n != 0
  | float x => !x.isZero
  | str s => !s.isEmpty
  | moment _ => true
  | list items => !items.isEmpty
  | table entries => !entries.isEmpty

end Value

end UnsafeCensus
