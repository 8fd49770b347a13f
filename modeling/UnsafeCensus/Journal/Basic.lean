import UnsafeCensus.Text.Str

/-!
# Records of the journal

Messages with a level, logged under names that form a tree. A name stands below the names that end
at one of its dots; the tree that this library logs to has one name at its top.
-/

namespace UnsafeCensus.Journal

/-! ## Levels -/

/-- How much a message matters, or how much one has to matter. -/
structure Level where
  weight : Int
deriving DecidableEq, Repr

namespace Level

def debug : Level := ⟨10⟩
def info : Level := ⟨20⟩
def warning : Level := ⟨30⟩
def error : Level := ⟨40⟩
def critical : Level := ⟨50⟩

/-- The levels that messages usually have. -/
def all : List Level := [debug, info, warning, error, critical]

/-- The level of what has not been given one. -/
def unset : Level := ⟨0⟩

/-- The levels that have a name of their own. -/
def named : List (Level × String) :=
  [(unset, "NOTSET"), (debug, "DEBUG"), (info, "INFO"), (warning, "WARNING"), (error, "ERROR"),
    (critical, "CRITICAL")]

def name (l : Level) : String :=
  match named.find? fun e => e.1 == l with
  | some e => e.2
  | none => s!"Level {l.weight}"

/-- A message of one level reaches a handler or logger of another. -/
def reaches (message threshold : Level) : Bool :=
  threshold.weight ≤ message.weight

end Level

/-! ## Records -/

structure Record where
  logger : String
  level : Level
  message : Text.Str
deriving DecidableEq, Repr

/-- What stands for the time of a message. -/
def timeMark : String := "<time>"

/-- The line, or lines, that a record takes in a file. -/
def Record.line (r : Record) : Text.Str :=
  Text.Str.ofString (timeMark ++ " - " ++ r.logger ++ " - " ++ r.level.name ++ " - ") ++ r.message ++
    Text.Str.ofString "\n"

/-! ## Names -/

/-- The name at the top of the tree. -/
def rootName : String := "rustgeiger"

/-- The name of a logger in full: names that do not begin like the top are put below it. -/
def fullName : Option String → String
  | none => rootName
  | some name =>
    if rootName.toList.isPrefixOf name.toList then name else rootName ++ "." ++ name

/-- The beginnings of a name that end before a dot, longest first, with name and beginnings written
backwards. The character before the dot is not looked at again, so of two dots in a row only the
second ends a beginning. -/
def cuts : List Char → List (List Char)
  | '.' :: c :: rest => (c :: rest) :: cuts rest
  | _ :: rest => cuts rest
  | [] => []

theorem length_lt_of_mem_cuts {l m : List Char} (h : m ∈ cuts l) : m.length < l.length := by
  induction l using cuts.induct with
  | case1 c rest ih =>
    rw [cuts] at h
    rcases List.mem_cons.mp h with rfl | h
    · simp
    · have := ih h
      simp only [List.length_cons]
      omega
  | case2 c rest hdot ih =>
    rw [cuts] at h
    · have := ih h
      simp only [List.length_cons]
      omega
    · exact hdot
  | case3 => cases h

/-- The names that may stand directly above a name, nearest first. -/
def namesAbove (name : String) : List String :=
  (cuts name.toList.reverse).map fun c => String.ofList c.reverse

theorem length_lt_of_mem_namesAbove {name above : String} (h : above ∈ namesAbove name) :
    above.toList.length < name.toList.length := by
  obtain ⟨c, hc, rfl⟩ := List.mem_map.mp h
  simpa using length_lt_of_mem_cuts hc

end UnsafeCensus.Journal
