import UnsafeCensus.Files.System
import UnsafeCensus.Journal.Basic
import UnsafeCensus.Value.Table

/-!
# Loggers and handlers

A logger has handlers, a level once it is given one, and lets messages through to the logger above
it or not. Handlers are known by numbers: the same one may belong to several loggers, and it remains
when it belongs to none.
-/

namespace UnsafeCensus.Journal

/-- Where a handler writes. -/
inductive Sink
  | console
  | file (target : Files.Location)
deriving DecidableEq, Repr

structure Handler where
  sink : Sink
  level : Level
  isOpen : Bool
deriving DecidableEq, Repr

structure Logger where
  handlers : List Nat
  level : Option Level
  propagates : Bool
deriving DecidableEq, Repr

/-- A logger as it is made. -/
def Logger.plain : Logger := ⟨[], none, true⟩

structure State where
  /-- Every handler that was made, in the order of their numbers. -/
  pool : List Handler
  /-- The loggers that exist, under their names. -/
  loggers : Table Logger
  /-- The logger above all others. -/
  outer : Logger
deriving DecidableEq, Repr

namespace State

def initial : State := ⟨[], [], ⟨[], some .warning, true⟩⟩

/-- The logger of a name. One that does not exist is as it would be made. -/
def logger (s : State) (name : String) : Logger :=
  (s.loggers.get? name).getD .plain

/-- The logger at the top of the tree. -/
def top (s : State) : Logger := s.logger rootName

/-- The handlers of the top of the tree. -/
def handlers (s : State) : List Handler :=
  s.top.handlers.filterMap (s.pool[·]?)

/-! ## What a message passes -/

/-- The name of the logger directly above, if it is not the outer one. -/
def above? (s : State) (name : String) : Option String :=
  (namesAbove name).find? s.loggers.has

/-- The names of the loggers that a message passes on its way out of the tree. -/
def lineage (s : State) (name : String) : List String :=
  name :: match _h : s.above? name with
    | some above => s.lineage above
    | none => []
termination_by name.toList.length
decreasing_by exact length_lt_of_mem_namesAbove (List.mem_of_find?_eq_some _h)

/-- The loggers on the way, the outer one last. -/
def passed (s : State) (name : String) : List Logger :=
  (s.lineage name).map s.logger ++ [s.outer]

/-- The handlers of loggers on the way, up to the first that lets nothing through. -/
def offered : List Logger → List Nat
  | [] => []
  | l :: rest => l.handlers ++ if l.propagates then offered rest else []

/-- The least level at which a logger is enabled: that of the nearest one that has a level. -/
def effectiveLevel (s : State) (name : String) : Level :=
  ((s.passed name).findSome? (·.level)).getD .unset

/-- A logger takes messages of a level. None takes those that do not matter at all. -/
def enabled (s : State) (name : String) (level : Level) : Bool :=
  0 < level.weight && level.reaches (s.effectiveLevel name)

/-! ## Changes -/

def withHandler (h : Handler) (s : State) : State :=
  { s with pool := s.pool ++ [h] }

def changeHandler (number : Nat) (change : Handler → Handler) (s : State) : State :=
  { s with pool := s.pool.modify number change }

/-- Change the logger of a name, which is made if it does not exist. -/
def changeLogger (name : String) (change : Logger → Logger) (s : State) : State :=
  { s with loggers := s.loggers.put name (change (s.logger name)) }

/-- Have a logger of a name. -/
def register (name : String) (s : State) : State :=
  s.changeLogger name id

/-- Take a handler from the top of the tree and close it. -/
def discard (s : State) (number : Nat) : State :=
  s.changeLogger rootName (fun l => { l with handlers := l.handlers.erase number })
    |>.changeHandler number fun h => { h with isOpen := false }

/-- Give a handler its level and give it to the top of the tree, unless it is there. -/
def install (level : Level) (s : State) (number : Nat) : State :=
  s.changeHandler number (fun h => { h with level })
    |>.changeLogger rootName fun l =>
      if number ∈ l.handlers then l else { l with handlers := l.handlers ++ [number] }

/-- Route the tree to handlers as well, at a level. -/
def route (level : Level) (made : List Nat) (s : State) : State :=
  made.foldl (install level) s
    |>.changeLogger rootName fun l => { l with level := some level, propagates := false }

end State

end UnsafeCensus.Journal
