import UnsafeCensus.Files.Path
import UnsafeCensus.Value.Basic

/-!
# Error reports

What a caller is told about an error: what went wrong, details as pairs, and the file concerned.
The kinds of reports form a hierarchy with one root.
-/

namespace UnsafeCensus

open Text (Str)

inductive ReportKind
  | general
  | analysis
  | parsing
  | configuration
  | invalidSetting
deriving DecidableEq, Repr

/-- The kind that contains a kind. -/
def ReportKind.parent? : ReportKind → Option ReportKind
  | general => none
  | analysis | configuration => some general
  | parsing => some analysis
  | invalidSetting => some configuration

/-- A kind and the kinds that contain it, nearest first. -/
def ReportKind.lineage : ReportKind → List ReportKind
  | general => [general]
  | analysis => [analysis, general]
  | configuration => [configuration, general]
  | parsing => [parsing, analysis, general]
  | invalidSetting => [invalidSetting, configuration, general]

theorem ReportKind.lineage_eq (k : ReportKind) :
    k.lineage = k :: match k.parent? with
      | some p => p.lineage
      | none => [] := by
  cases k <;> rfl

structure Report where
  message : Str
  details : Table Str
  path : Option Files.Path
deriving DecidableEq, Repr

namespace Report

def detailText (e : String × Str) : Str :=
  .ofString (e.1 ++ "=") ++ e.2

/-- The file, the message and the details on one line. -/
def text (r : Report) : Str :=
  (match r.path with
    | some p => Str.ofString (p.toString ++ ": ")
    | none => []) ++ r.message ++
    if r.details.isEmpty then []
    else Str.ofString " (" ++ Str.join (Str.ofString ", ") (r.details.map detailText) ++
      Str.ofString ")"

end Report

/-- The error that stands for a source that cannot be parsed. -/
structure ParsingError where
  path : Option Files.Path
  language : String
  reason : String
  offset : Int
  line : Int
  column : Int
deriving DecidableEq, Repr

def ParsingError.report (e : ParsingError) : Report where
  message := .ofString ("Failed to parse " ++ e.language ++ s!" source at {e.line}:{e.column}")
  details := [("reason", .ofString e.reason), ("offset", .ofString (toString e.offset))]
  path := e.path

/-- The error that stands for a setting with a value that it cannot have, and the text of that
value. -/
structure SettingError where
  key : String
  value : Value
  shown : Str
  reason : Str
deriving Repr

def SettingError.report (e : SettingError) : Report where
  message := .ofString ("Invalid configuration for " ++ e.key ++ ": ") ++ e.shown
  details := [("key", .ofString e.key), ("value", e.shown), ("reason", e.reason)]
  path := none

end UnsafeCensus
