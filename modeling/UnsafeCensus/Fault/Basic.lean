import UnsafeCensus.Failure.Basic
import UnsafeCensus.Fault.Report
import UnsafeCensus.Files.Access
import UnsafeCensus.Value.Basic

/-!
# Faults

Everything that can keep an operation from giving a result, by cause. `kind` says what sort of
fault it is and `message` puts it into words.
-/

namespace UnsafeCensus

open Text (Str)

/-- A call that does not fit what is called. -/
inductive Misfit
  | unknownArgument (callee name : String)
  | repeatedArgument (callee name : String)
  | tooManyArguments (callee : String) (least most given : Nat)
  | notText (callee typeName : String)
  | operands (left right : String)
deriving DecidableEq, Repr

def Misfit.message : Misfit → String
  | unknownArgument callee name =>
    callee ++ " got an unexpected keyword argument '" ++ name ++ "'"
  | repeatedArgument callee name =>
    callee ++ " got multiple values for argument '" ++ name ++ "'"
  | tooManyArguments callee least most given =>
    callee ++ s!" takes from {least} to {most} positional arguments but {given} were given"
  | notText callee typeName => callee ++ " argument must be str, not " ++ typeName
  | operands left right =>
    "unsupported operand type(s) for +: '" ++ left ++ "' and '" ++ right ++ "'"

/-- What is wrong with a settings file. -/
inductive FileFlaw
  | unreadable (fault : Files.AccessFault)
  | malformed (detail : String)
  | notATable
deriving DecidableEq, Repr

def FileFlaw.message : FileFlaw → Str
  | unreadable f => f.message
  | malformed detail => Str.ofString detail
  | notATable => Str.ofString "[rustgeiger] must be a table"

inductive Fault
  /-- A source that has no census, where one is required. -/
  | unparsable (error : ParsingError)
  | invalidSetting (error : SettingError)
  /-- A value that a setting cannot have, and that cannot be shown. -/
  | unshowable (why : Value.Unshowable)
  | missingSettingsFile (path : Files.Path)
  | badSettingsFile (path : Files.Path) (flaw : FileFlaw)
  /-- Settings that do not fit together with what they are for. -/
  | badSettings (misfit : Misfit)
  | misfit (misfit : Misfit)
  | access (fault : Files.AccessFault)
  /-- The name of an encoding contains the character that ends texts. -/
  | nulInName
  | numeralTooLong (digits : Nat)
  /-- A settings file that nests values deeper than it can be read. -/
  | documentTooDeep
  /-- Bytes of a settings file that are no text. -/
  | notUnicode (bytes : List UInt8) (fault : Text.Utf8.Fault)
  /-- A string that has no encoding. -/
  | unencodable (fault : Str.EncodeFault)
  /-- A codec that is not for text. -/
  | notTextEncoding (name : String)
  /-- What a codec raises of its own. -/
  | codec (error : Text.Raised)
deriving Repr

inductive FaultKind
  | report (kind : ReportKind)
  | misfit
  | value
  | lookup
  | undecodable
  | unencodable
  | recursion
  | absentFile
  | notDirectory
  | isDirectory
  | system
  /-- A class of a codec's own. -/
  | named (className : String)
deriving DecidableEq, Repr

namespace Fault

def accessKind : Files.AccessFault → FaultKind
  | .nulByte => .value
  | .system .noEntry _ => .absentFile
  | .system .notDirectory _ => .notDirectory
  | .system .isDirectory _ => .isDirectory
  | .system .nameTooLong _ => .system
  | .system .tooManyLinks _ => .system

def kind : Fault → FaultKind
  | unparsable _ => .report .parsing
  | invalidSetting _ => .report .invalidSetting
  | unshowable .tooManyDigits => .value
  | unshowable .tooDeep => .recursion
  | missingSettingsFile _ => .report .configuration
  | badSettingsFile .. => .report .configuration
  | badSettings _ => .report .configuration
  | misfit _ => .misfit
  | access f => accessKind f
  | nulInName => .value
  | numeralTooLong _ => .value
  | documentTooDeep => .recursion
  | notUnicode .. => .undecodable
  | unencodable _ => .unencodable
  | notTextEncoding _ => .lookup
  | codec e => .named e.className

/-- The fault of a value that a setting cannot have. The report on it shows the value, where there
are so many levels for what lies inside. -/
def ofValue (levels : Nat) (key : String) (v : Value) (reason : Str) : Fault :=
  match v.display levels with
  | .ok shown => .invalidSetting ⟨key, v, shown, reason⟩
  | .error why => .unshowable why

/-- Which bytes a fault lies in, the single one by its value. -/
def positionText (bytes : List UInt8) (f : Text.Utf8.Fault) : String :=
  if f.stop = f.offset + 1 then
    "byte 0x" ++ String.ofList (Text.hexDigits 2 ((bytes[f.offset]?.getD 0).toNat)) ++
      s!" in position {f.offset}"
  else s!"bytes in position {f.offset}-" ++ toString (f.stop - 1)

/-- Which surrogates a fault lies in, the single one by its value. -/
def surrogateText (f : Str.EncodeFault) : String :=
  match f.run with
  | [r] =>
    "character '\\u" ++ String.ofList (Text.hexDigits 4 r.code) ++ s!"' in position {f.offset}"
  | run => s!"characters in position {f.offset}-" ++ toString (f.offset + run.length - 1)

def digitsText : String := "Exceeds the limit (4300 digits) for integer string conversion"

def digitsRemedy : String := "; use sys.set_int_max_str_digits() to increase the limit"

def recursionText : String := "maximum recursion depth exceeded"

def unshowableText : Value.Unshowable → String
  | .tooManyDigits => digitsText ++ digitsRemedy
  | .tooDeep => recursionText ++ " while getting the repr of an object"

def message : Fault → Str
  | unparsable e => e.report.text
  | invalidSetting e => e.report.text
  | unshowable why => Str.ofString (unshowableText why)
  | missingSettingsFile path => Str.ofString ("Config file not found: " ++ path.toString)
  | badSettingsFile path flaw =>
    Str.ofString ("Invalid config file '" ++ path.toString ++ "': ") ++ flaw.message
  | badSettings m => Str.ofString ("Invalid configuration: " ++ m.message)
  | misfit m => Str.ofString m.message
  | access f => f.message
  | nulInName => Str.ofString "embedded null character"
  | numeralTooLong digits =>
    Str.ofString (digitsText ++ s!": value has {digits} digits" ++ digitsRemedy)
  | documentTooDeep => Str.ofString recursionText
  | notUnicode bytes f =>
    Str.ofString ("'utf-8' codec can't decode " ++ positionText bytes f ++ ": " ++ f.flaw.message)
  | unencodable f =>
    Str.ofString ("'utf-8' codec can't encode " ++ surrogateText f ++ ": surrogates not allowed")
  | notTextEncoding name =>
    Str.ofString ("'" ++ name ++
      "' is not a text encoding; use codecs.decode() to handle arbitrary codecs")
  | codec e => e.message

end Fault

/-- The error that a failure is raised as. -/
def Failure.toError (f : Failure) : ParsingError :=
  ⟨f.path, "rust", f.message, f.offset, f.line, f.column⟩

end UnsafeCensus
