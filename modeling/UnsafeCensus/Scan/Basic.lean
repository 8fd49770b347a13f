import UnsafeCensus.Census.Walk
import UnsafeCensus.Failure.Diagnosis
import UnsafeCensus.Fault.Basic
import UnsafeCensus.Files.System
import UnsafeCensus.Journal.Basic
import UnsafeCensus.Settings.Basic

/-!
# Scans

A scan reads one source, parses it and takes its census. Sources are texts, bytes or files; what
does not decode or does not parse gives a failure. Each operation gives its result together with
the records it logs on the way. The parser is a parameter: any function from bytes to trees.
-/

namespace UnsafeCensus

abbrev Parser := List UInt8 → Tree

/-- The census of a source, or why there is none. -/
abbrev Outcome := Except Failure Metrics

/-- A result and the records that were logged on the way to it. -/
structure Logged (α : Type) where
  value : α
  records : List Journal.Record

namespace Scan

def scanLogger : String := "rustgeiger.api"
def parseLogger : String := "rustgeiger.scanning.treesitter_parser"

def parseRecord (f : Failure) : Journal.Record :=
  ⟨parseLogger, .debug, .ofString (s!"Syntax error at {f.line}:{f.column}: " ++ f.message)⟩

/-- The parse of bytes as UTF-8: a tree without errors, or the first failure, which is logged. -/
def parse (parser : Parser) (bytes : List UInt8) : Logged (Except Failure Tree) :=
  let r := (parser bytes).diagnose bytes
  match r with
  | .ok _ => ⟨r, []⟩
  | .error f => ⟨r, [parseRecord f]⟩

/-- The outcome for a text, given as the bytes of its UTF-8. -/
def encoded (parser : Parser) (includeTests : Bool) (bytes : List UInt8) : Logged Outcome :=
  let parsed := parse parser bytes
  ⟨parsed.value.map (Metrics.ofTree bytes includeTests), parsed.records⟩

/-- The outcome for a text. -/
def text (parser : Parser) (includeTests : Bool) (s : List Char) : Logged Outcome :=
  encoded parser includeTests (Text.Utf8.encode s)

/-- The outcome for a string, which has to be all characters. -/
def string (parser : Parser) (includeTests : Bool) (s : Text.Str) :
    Except Fault (Logged Outcome) :=
  (s.toChars.mapError .unencodable).map (text parser includeTests)

/-- The outcome for bytes, which have to be UTF-8. -/
def bytes (parser : Parser) (includeTests : Bool) (bs : List UInt8) : Logged Outcome :=
  match Text.decodeUtf8 bs with
  | .error f => ⟨.error (.ofDecodeFault bs f), []⟩
  | .ok _ => encoded parser includeTests bs

/-! ## Files -/

def undecodableRecord (path : Files.Path) (f : Failure) : Journal.Record :=
  ⟨scanLogger, .debug, .ofString ("Cannot decode " ++ path.toString ++ ": " ++ f.text)⟩

def unparsableRecord (f : Failure) : Journal.Record :=
  ⟨scanLogger, .debug, .ofString ("Cannot parse " ++ f.text)⟩

def flagText (b : Bool) : String := if b then "True" else "False"

def scannedRecord (path : Files.Path) (m : Metrics) : Journal.Record :=
  ⟨scanLogger, .debug, .ofString ("Scanned " ++ path.toString ++ ": unsafe=" ++
    flagText m.counters.hasUnsafe ++ " forbids_unsafe=" ++ flagText m.forbidsUnsafe)⟩

/-- The length of the byte order mark at the beginning of some bytes, if there is one. -/
def markLength (data : List UInt8) : Nat :=
  if Text.Utf8.byteOrderMark.isPrefixOf data then Text.Utf8.byteOrderMark.length else 0

/-- A failure in what follows the first `skipped` bytes of a file, as one of the file. -/
def relocate (path : Files.Path) (skipped : Nat) (f : Failure) : Failure :=
  (f.shifted skipped).withPath path

/-- The outcome for the text of a file. -/
def decoded (path : Files.Path) (skipped : Nat) (scanned : Logged Outcome) : Logged Outcome :=
  match scanned.value with
  | .error f =>
    let f := relocate path skipped f
    ⟨.error f, scanned.records ++ [unparsableRecord f]⟩
  | .ok m => ⟨.ok m, scanned.records ++ [scannedRecord path m]⟩

section

variable {codecs : Text.Registry}

/-- The outcome for the content of a file. A byte order mark is left out whatever the encoding.
A codec that is not for text refuses. -/
def content (parser : Parser) (settings : Settings codecs) (path : Files.Path)
    (data : List UInt8) : Except Fault (Logged Outcome) :=
  let skipped := markLength data
  let body := data.drop skipped
  match settings.encoding.codec.decode? body with
  | none => .error (.notTextEncoding settings.encoding.name)
  | some (.raised e) => .error (.codec e)
  | some (.undecodable fault) =>
    let f := relocate path skipped (.ofDecodeFault body fault)
    .ok ⟨.error f, [undecodableRecord path f]⟩
  | some (.text s) => (string parser settings.includeTests s).map (decoded path skipped)

/-- The outcome for a file. -/
def file (parser : Parser) (settings : Settings codecs) (files : Files.FileSystem)
    (path : Files.Path) : Except Fault (Logged Outcome) :=
  match files.read path with
  | .error f => .error (.access f)
  | .ok data => content parser settings path data

end

/-! ## Requiring a census -/

/-- The census, with a failure as a fault. -/
def require (outcome : Outcome) : Except Fault Metrics :=
  outcome.mapError fun f => .unparsable f.toError

/-- The census that a scan gives, where it has to give one. -/
def required (scanned : Except Fault (Logged Outcome)) : Except Fault Metrics :=
  scanned.bind fun logged => require logged.value

@[simp] theorem required_fault (e : Fault) : required (.error e) = .error e := rfl

@[simp] theorem required_failure (f : Failure) (records : List Journal.Record) :
    required (.ok ⟨.error f, records⟩) = .error (.unparsable f.toError) := rfl

@[simp] theorem required_census (m : Metrics) (records : List Journal.Record) :
    required (.ok ⟨.ok m, records⟩) = .ok m := rfl

end Scan

end UnsafeCensus
