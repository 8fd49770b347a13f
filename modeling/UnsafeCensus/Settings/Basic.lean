import UnsafeCensus.Fault.Basic
import UnsafeCensus.Settings.Host

/-!
# Settings

What a scan can be told: whether tests count, how much is logged, and how files are encoded.
`Settings.ofTable?` reads settings from values under their names and reports the first thing wrong:
first an unknown name, then the first setting, in the order of the fields, whose value does not
suit it.
-/

namespace UnsafeCensus

open Text (Str)

inductive Verbosity
  | quiet
  | normal
  | verbose
deriving DecidableEq, Repr

namespace Verbosity

def all : List Verbosity := [quiet, normal, verbose]

def name : Verbosity → String
  | quiet => "quiet"
  | normal => "normal"
  | verbose => "verbose"

def ofName? (s : Str) : Option Verbosity :=
  all.find? fun v => Str.ofString v.name == s

theorem ofName?_name (v : Verbosity) : ofName? (.ofString v.name) = some v := by
  cases v <;> rfl

end Verbosity

/-- The name of an encoding, as it was written; a codec is found under it. -/
structure Encoding (codecs : Text.Registry) where
  name : String
  known : (codecs.find? name).isSome
deriving DecidableEq, Repr

namespace Encoding

variable {codecs : Text.Registry}

def codec (e : Encoding codecs) : Text.Codec :=
  (codecs.find? e.name).get e.known

def ofName? (name : String) : Option (Encoding codecs) :=
  if h : (codecs.find? name).isSome then some ⟨name, h⟩ else none

def utf8 : Encoding codecs := ⟨"utf-8", by rw [codecs.find?_utf8]; rfl⟩

theorem codec_utf8 : (utf8 : Encoding codecs).codec = .utf8 :=
  Option.get_of_eq_some _ codecs.find?_utf8

end Encoding

structure Settings (codecs : Text.Registry) where
  includeTests : Bool
  verbosity : Verbosity
  encoding : Encoding codecs
deriving DecidableEq, Repr

namespace Settings

def default {codecs : Text.Registry} : Settings codecs := ⟨true, .normal, .utf8⟩

/-! ## Reading -/

def includeTestsKey : String := "include_tests"
def verbosityKey : String := "verbosity"
def encodingKey : String := "encoding"

def keys : List String := [includeTestsKey, verbosityKey, encodingKey]

/-- What messages call the constructor of settings. -/
def callee : String := "ScanConfig.__init__()"

/-- What messages call the argument that stands for the settings under construction. -/
def receiver : String := "self"

/-- The first name that is no setting. -/
def firstMisfit? (names : List String) : Option Misfit :=
  (names.find? fun n => !keys.contains n).map fun n =>
    if n = receiver then .repeatedArgument callee n else .unknownArgument callee n

def readIncludeTests (levels : Nat) (v : Value) : Except Fault Bool :=
  match v with
  | .bool b => .ok b
  | v => .error (.ofValue levels includeTestsKey v (.ofString "must be a boolean"))

def readVerbosity (levels : Nat) (v : Value) : Except Fault Verbosity :=
  let known? := match v with
    | .str s => Verbosity.ofName? s
    | _ => none
  match known? with
  | some verbosity => .ok verbosity
  | none =>
    .error (.ofValue levels verbosityKey v
      (.ofString ("must be one of " ++ ", ".intercalate (Verbosity.all.map Verbosity.name))))

/-- What the search for a codec calls a value that is no text. -/
def nontextName : Value → String
  | .null => "None"
  | v => v.typeName

/-- The name that the search for a codec is given: a text that can be handed on. -/
def searchedName (v : Value) : Except Fault String :=
  match v with
  | .str s => do
    let chars ← s.toChars.mapError .unencodable
    if chars.contains '\x00' then .error .nulInName else .ok (String.ofList chars)
  | v => .error (.misfit (.notText "lookup()" (nontextName v)))

def readEncoding (host : Host) (v : Value) : Except Fault (Encoding host.codecs) := do
  let name ← searchedName v
  match Encoding.ofName? name with
  | some e => return e
  | none => throw (.ofValue host.levels encodingKey v (.ofString "unknown codec"))

/-- A setting that may be left out. -/
def readOr {α : Type} (t : Table Value) (key : String) (read : Value → Except Fault α)
    (absent : α) : Except Fault α :=
  match t.get? key with
  | some v => read v
  | none => .ok absent

/-- The settings that values under their names give. -/
def ofTable? (host : Host) (t : Table Value) : Except Fault (Settings host.codecs) :=
  match firstMisfit? (t.map (·.1)) with
  | some m => .error (.misfit m)
  | none => do
    let includeTests ← readOr t includeTestsKey (readIncludeTests host.levels) given.includeTests
    let verbosity ← readOr t verbosityKey (readVerbosity host.levels) given.verbosity
    let encoding ← readOr t encodingKey (readEncoding host) given.encoding
    return { includeTests, verbosity, encoding }
where
  given : Settings host.codecs := default

end Settings

end UnsafeCensus
