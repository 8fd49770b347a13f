import UnsafeCensus.Journal.Logger
import UnsafeCensus.Settings.Basic

/-!
# Logging

The journal together with the files it writes to. `setUp` routes the tree of loggers to the console
and to a file; handlers that were there before are closed. It can fail, where the file cannot be
opened or where a handler cannot be closed. `Session.log` logs one record: it goes to every handler
on its way whose level it reaches.
-/

namespace UnsafeCensus.Journal

open Text (Str)

structure Session where
  journal : State
  files : Files.FileSystem
  /-- The bytes of a text in a log file, if it can be encoded. -/
  encode : Str → Option (List UInt8)
  /-- The files that take no more bytes. -/
  full : List Files.Location
  /-- The handlers that hold what they could not write. -/
  stuck : List Nat

/-- What may keep the tree from being routed. -/
inductive Trouble
  /-- The file cannot be opened. -/
  | access (fault : Files.AccessFault)
  /-- What a handler held could not be written when it was closed. -/
  | noSpace
deriving DecidableEq, Repr

def Trouble.message : Trouble → Str
  | access f => f.message
  | noSpace => Str.ofString "[Errno 28] No space left on device"

/-- What may fail in the middle, and leaves behind what it has done until then. -/
abbrev Action := EStateM Trouble Session

/-! ## Setting up -/

/-- The least level that is logged at a verbosity. -/
def Level.ofVerbosity : Verbosity → Level
  | .quiet => error
  | .normal => warning
  | .verbose => debug

/-- Make a handler, which belongs to no logger yet. -/
def make (sink : Sink) : Action Nat := fun s =>
  .ok s.journal.pool.length { s with journal := s.journal.withHandler ⟨sink, .unset, true⟩ }

/-- Open a file for writing at its end. It is made if it is not there. -/
def openLog (name : String) : Action Files.Location := fun s =>
  match s.files.openForAppend (s.files.absolute (.ofString name)) with
  | .ok (files, target) => .ok target { s with files }
  | .error e => .error (.access e) s

/-- Make a handler for the console, and one for a file if a file is named. -/
def makeHandlers (logFile : Option String) : Action (List Nat) := do
  let console ← make .console
  match logFile.filter fun name => !name.isEmpty with
  | none => return [console]
  | some name =>
    let target ← openLog name
    let file ← make (.file target)
    return [console, file]

/-- Take a handler from the top of the tree and close it. It is gone and closed even if what it
holds cannot be written. -/
def discard (number : Nat) : Action Unit := fun s =>
  let after := { s with
    journal := s.journal.discard number
    stuck := s.stuck.filter (· != number) }
  if s.stuck.contains number then .error .noSpace after else .ok () after

/-- Route the tree to the console and, if a file is named, to that file. -/
def setUp (verbosity : Verbosity) (logFile : Option String) : Action Unit := do
  let made ← makeHandlers logFile
  (← get).journal.top.handlers.forM discard
  modify fun s => { s with journal := s.journal.route (.ofVerbosity verbosity) made }

/-! ## Logging -/

namespace Session

/-- A handler writes a line to the end of its file. One that cannot be encoded is lost, and one that
the file does not take stays with the handler. -/
def write (number : Nat) (target : Files.Location) (line : Str) (s : Session) : Session :=
  match s.encode line with
  | none => s
  | some bytes =>
    if s.full.contains target then { s with stuck := number :: s.stuck }
    else { s with files := s.files.append target bytes }

/-- The handler of a number takes a record. -/
def emit (r : Record) (s : Session) (number : Nat) : Session :=
  match s.journal.pool[number]? with
  | some ⟨.file target, level, _⟩ =>
    if r.level.reaches level then s.write number target r.line else s
  | _ => s

/-- The numbers of the handlers that a record is offered to, once its logger is there. -/
def recipients (s : Session) (r : Record) : List Nat :=
  let journal := s.journal.register r.logger
  if journal.enabled r.logger r.level then State.offered (journal.passed r.logger) else []

/-- A record is logged through the logger of its name, which is made if it does not exist. -/
def log (s : Session) (r : Record) : Session :=
  (s.recipients r).foldl (emit r) { s with journal := s.journal.register r.logger }

end Session

end UnsafeCensus.Journal
