import UnsafeCensus.Files.Path
import UnsafeCensus.Text.Codec
import UnsafeCensus.Text.Position

/-!
# Failures

Why a source has no census, and where: the offset of the offending bytes with their line and
column, both counted from one, and the file if there is one. A source that was cut at the front
before it was read has its failure `shifted` back to where it lies in the whole.
-/

namespace UnsafeCensus

inductive Cause
  /-- Bytes that do not fit the encoding. -/
  | undecodable (encoding reason : String)
  /-- A token that is not there. -/
  | missing (kind : String)
  /-- Text that fits no rule. -/
  | unexpected (snippet : List Char)
  /-- Nothing where something had to follow. -/
  | unexpectedEnd
  /-- An error that is reported and cannot be found. -/
  | unlocated
  /-- A cause given in words. -/
  | stated (message : String)
deriving DecidableEq, Repr

/-- Something in the backquotes that messages use. -/
def backquoted (s : String) : String := "\x60" ++ s ++ "\x60"

def Cause.message : Cause → String
  | undecodable encoding reason => "invalid " ++ encoding ++ " byte sequence: " ++ reason
  | missing kind => "expected " ++ backquoted kind
  | unexpected snippet => "unexpected " ++ backquoted (String.ofList snippet)
  | unexpectedEnd => "unexpected end of input"
  | unlocated => "syntax error"
  | stated message => message

structure Failure where
  cause : Cause
  offset : Int
  line : Int
  column : Int
  path : Option Files.Path
deriving DecidableEq, Repr

namespace Failure

def message (f : Failure) : String := f.cause.message

/-- A failure at an offset of some bytes. -/
def ofOffset (cause : Cause) (bytes : List UInt8) (offset : Nat) : Failure :=
  ⟨cause, offset, Text.lineAt bytes offset, Text.columnAt bytes offset, none⟩

/-- The failure to decode bytes. -/
def ofDecodeFault (bytes : List UInt8) (f : Text.DecodeFault) : Failure :=
  ofOffset (.undecodable f.encoding f.reason) bytes f.offset

def withPath (f : Failure) (path : Files.Path) : Failure :=
  { f with path := some path }

/-- The same failure after a number of bytes without a newline. Only the first line begins later. -/
def shifted (f : Failure) (n : Int) : Failure :=
  { f with
    offset := f.offset + n
    column := if f.line = 1 then f.column + n else f.column }

/-- The place and the message on one line. -/
def text (f : Failure) : String :=
  (match f.path with
    | some p => p.toString ++ ":"
    | none => "") ++ s!"{f.line}:{f.column}: " ++ f.message

theorem shifted_zero (f : Failure) : f.shifted 0 = f := by
  simp [shifted]

end Failure

end UnsafeCensus
