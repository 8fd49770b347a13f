import UnsafeCensus.Proofs.Scan.Placement
import UnsafeCensus.Settings.Basic

/-!
# How the scan of a file may end

The scan of a file gives a census or a failure, or it passes on why the file cannot be read. There
are other ways: settings are accepted when their encoding can be looked up, and what can be looked
up may be no encoding of text, may raise an error of its own, or may read what no text is. They are
taken exactly where such a codec meets a file of that kind.
-/

namespace UnsafeCensus

namespace Files.FileSystem

variable {fs : FileSystem} {p : Path} {e : AccessFault}

end Files.FileSystem

namespace Scan

-- ---------------------------------------------------------------------------
-- Ends
-- ---------------------------------------------------------------------------

/-- How the scan of a file may end: it has an outcome, or the file cannot be read. -/
inductive EndsWell (files : Files.FileSystem) (path : Files.Path) :
    Except Fault (Logged Outcome) → Prop
  | scanned (logged : Logged Outcome) : EndsWell files path (.ok logged)
  | unread {error : Files.SystemError} {text : String}
      (h : files.read path = .error (.system error text)) :
      EndsWell files path (.error (.access (.system error text)))

/-- How a request for the census of a file may end: it is there, or the file cannot be parsed or
read. -/
inductive GivesWell (files : Files.FileSystem) (path : Files.Path) : Except Fault Metrics → Prop
  | census (m : Metrics) : GivesWell files path (.ok m)
  | unparsable (error : ParsingError) : GivesWell files path (.error (.unparsable error))
  | unread {error : Files.SystemError} {text : String}
      (h : files.read path = .error (.system error text)) :
      GivesWell files path (.error (.access (.system error text)))

variable {codecs : Text.Registry}

variable {settings : Settings codecs} {files : Files.FileSystem} {path : Files.Path}

theorem EndsWell.required {scanned : Except Fault (Logged Outcome)}
    (h : EndsWell files path scanned) : GivesWell files path (required scanned) := by
  cases h with
  | scanned logged =>
    obtain ⟨outcome, records⟩ := logged
    cases outcome with
    | error f => exact .unparsable f.toError
    | ok m => exact .census m
  | unread h => exact .unread h

variable (parser : Parser)

end Scan

end UnsafeCensus
