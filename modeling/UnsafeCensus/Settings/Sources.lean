import UnsafeCensus.Files.System
import UnsafeCensus.Settings.Basic

/-!
# Where settings come from

Settings are gathered from several sources, of which later ones win: the file in the home directory,
the file of the project, a file that is named explicitly, the environment, and what the caller
passes. Only what wins is validated.
-/

namespace UnsafeCensus

open Text (Str)

/-- Everything that settings may be gathered from. -/
structure Sources where
  files : Files.FileSystem
  home : Files.Path
  explicitFile : Option Files.Path
  environment : Table Str
  overrides : Table Value

namespace Sources

/-! ## Files -/

def fileName : String := "rustgeiger.toml"

/-- The table of a document that holds the settings, where it is not the whole document. -/
def sectionName : String := "rustgeiger"

def homeFile (s : Sources) : Files.Path := s.home.child ("." ++ fileName)

def projectFile (s : Sources) : Files.Path := s.files.workingPath.child fileName

/-- The settings in a document. -/
def settingsSection (document : Table Value) : Except FileFlaw (Table Value) :=
  match document.get? sectionName with
  | none => .ok document
  | some (.table t) => .ok t
  | some _ => .error .notATable

/-- The settings that a text describes. -/
def readText (room : Toml.Room) (path : Files.Path) (text : List Char) :
    Except Fault (Table Value) :=
  match Toml.read room text with
  | .error .malformed => .error (.badSettingsFile path (.malformed "malformed document"))
  | .error (.numeralTooLong n) => .error (.numeralTooLong n)
  | .error .tooDeep => .error .documentTooDeep
  | .ok document => (settingsSection document).mapError (.badSettingsFile path)

/-- The settings in a file that is there. -/
def readFile (room : Toml.Room) (files : Files.FileSystem) (path : Files.Path) :
    Except Fault (Table Value) :=
  match files.read path with
  | .error f =>
    match f with
    | .nulByte => .error (.access f)
    | .system .. => .error (.badSettingsFile path (.unreadable f))
  | .ok bytes =>
    match Text.Utf8.decode? bytes with
    | .error f => .error (.notUnicode bytes f)
    | .ok text => readText room path text

/-- Something lies at a path. -/
def present (files : Files.FileSystem) (path : Files.Path) : Except Fault Bool :=
  (files.item? path).mapError .access |>.map Option.isSome

/-- The settings in a file that need not be there. -/
def readIfPresent (room : Toml.Room) (files : Files.FileSystem) (path : Files.Path) :
    Except Fault (Table Value) := do
  if ← present files path then readFile room files path else return []

/-- The settings in a file that has to be there. -/
def readRequired (room : Toml.Room) (files : Files.FileSystem) (path : Files.Path) :
    Except Fault (Table Value) := do
  if ← present files path then readFile room files path else throw (.missingSettingsFile path)

/-! ## Environment -/

def variablePrefix : String := "RUSTGEIGER_"

/-- The variable that gives a setting. -/
def variableOf (key : String) : String :=
  variablePrefix ++ String.ofList (key.toList.map Char.toUpper)

def trueWords : List String := ["true", "1", "yes", "on"]
def falseWords : List String := ["false", "0", "no", "off"]

/-- A yes or no in words, in any case and with blanks around it. Only letters of ASCII occur in the
words, and no other letter has one of theirs as its lower case. -/
def readWord? (raw : Str) : Option Bool :=
  match raw.trim.chars? with
  | none => none
  | some chars =>
    let word := String.ofList (chars.map Char.toLower)
    if trueWords.contains word then some true
    else if falseWords.contains word then some false
    else none

/-- The value that a variable gives to a setting. -/
def readVariable (levels : Nat) (key : String) (raw : Str) : Except Fault Value :=
  if key = Settings.includeTestsKey then
    match readWord? raw with
    | some b => .ok (.bool b)
    | none =>
      .error (.ofValue levels (variableOf key) (.str raw)
        (Str.ofString "expected true/false, got '" ++ raw ++ Str.ofString "'"))
  else .ok (.str raw.trim)

/-- The settings in the environment, in the order of the fields. -/
def readEnvironment (levels : Nat) (environment : Table Str) : Except Fault (Table Value) :=
  go Settings.keys
where
  go : List String → Except Fault (Table Value)
    | [] => .ok []
    | key :: rest =>
      match environment.get? (variableOf key) with
      | none => go rest
      | some raw => do
        let v ← readVariable levels key raw
        let t ← go rest
        return (key, v) :: t

/-! ## Overrides -/

def verboseFlag : String := "verbose"
def quietFlag : String := "quiet"

/-- A flag is given, and not as a no. -/
def flagged (t : Table Value) (flag : String) : Bool :=
  match t.get? flag with
  | some v => v.isTruthy
  | none => false

/-- What the caller passes, with the two flags turned into a verbosity. -/
def effectiveOverrides (t : Table Value) : Table Value :=
  let plain := (t.erase verboseFlag).erase quietFlag
  let louder :=
    if flagged t verboseFlag then plain.put Settings.verbosityKey (.str (.ofString "verbose"))
    else plain
  if flagged t quietFlag then louder.put Settings.verbosityKey (.str (.ofString "quiet")) else louder

/-! ## Together -/

/-- The values that win, under their names. -/
def merged (host : Host) (s : Sources) : Except Fault (Table Value) := do
  let home ← readIfPresent host.room s.files s.homeFile
  let project ← readIfPresent host.room s.files s.projectFile
  let explicit ← match s.explicitFile with
    | some path => readRequired host.room s.files path
    | none => pure []
  let environment ← readEnvironment host.levels s.environment
  return [home, project, explicit, environment, effectiveOverrides s.overrides].foldl
    Table.update []

/-- The name of the operation in messages, and the argument of it that is no setting. -/
def callee : String := "load_config()"
def fileArgument : String := "config_file"

/-- The settings that the sources give. -/
def load (host : Host) (s : Sources) : Except Fault (Settings host.codecs) :=
  if s.overrides.has fileArgument then
    .error (.misfit (.repeatedArgument callee fileArgument))
  else do
    match Settings.ofTable? host (← s.merged host) with
    | .error (.misfit m) => throw (.badSettings m)
    | r => r

end Sources

end UnsafeCensus
