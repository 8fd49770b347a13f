import UnsafeCensus.Toml.Scalar

/-!
# TOML documents

A document is a table. Statements set keys of the current table or open another table, and no
statement may change what another one has closed: a table is opened once by its own header, what a
dotted key has made is not opened by a header later, and an inline table or list is never extended.
How deep values may lie inside one another depends on the room that the reader has.
-/

namespace UnsafeCensus.Toml

abbrev Entries := List (String × Value)

/-! ## Places in a table -/

/-- Change the table at a path, making the tables on the way. A path may lead into the last element
of a list if `intoLists`. -/
def changeAt (intoLists : Bool) (change : Entries → Option Entries) :
    List String → Entries → Option Entries
  | [], t => change t
  | k :: path, t =>
    match Table.get? t k with
    | none => (changeAt intoLists change path []).map fun s => Table.put k (.table s) t
    | some (.table sub) =>
      (changeAt intoLists change path sub).map fun s => Table.put k (.table s) t
    | some (.list items) =>
      match intoLists, items.reverse with
      | true, .table sub :: before =>
        (changeAt intoLists change path sub).map fun s =>
          Table.put k (.list (before.reverse ++ [.table s])) t
      | _, _ => none
    | some _ => none

/-- Set a key that is not set yet. -/
def addNew (key : String) (v : Value) (t : Entries) : Option Entries :=
  if Table.has t key then none else some (Table.put key v t)

/-- Add an empty table to the list of a key. -/
def addElement (key : String) (t : Entries) : Option Entries :=
  match Table.get? t key with
  | none => some (Table.put key (.list [.table []]) t)
  | some (.list items) => some (Table.put key (.list (items ++ [.table []])) t)
  | some _ => none

/-- The parts of a key before the last one, and the last one. -/
def splitKey (key : List String) : List String × String :=
  (key.dropLast, key.getLastD "")

/-! ## What has been closed -/

/-- Which paths may no longer be opened by a header, and below which paths nothing may change. -/
structure Closed where
  opened : List (List String)
  frozen : List (List String)

namespace Closed

def isOpened (c : Closed) (path : List String) : Bool :=
  c.opened.contains path

def isFrozen (c : Closed) (path : List String) : Bool :=
  c.frozen.any fun f => f.isPrefixOf path

def addOpened (c : Closed) (path : List String) : Closed :=
  { c with opened := path :: c.opened }

def addFrozen (c : Closed) (path : List String) : Closed :=
  { c with frozen := path :: c.frozen }

/-- Forget all that was said at or below a path. -/
def release (c : Closed) (path : List String) : Closed :=
  { opened := c.opened.filter fun p => !path.isPrefixOf p
    frozen := c.frozen.filter fun p => !path.isPrefixOf p }

end Closed

/-- A list or table, which is closed when it is written as a value. -/
def isNest : Value → Bool
  | .list _ | .table _ => true
  | _ => false

/-! ## Values -/

def require {α : Type} (r : Option α) : Except Flaw α :=
  match r with
  | some x => .ok x
  | none => .error .malformed

/-- What values lie in. -/
inductive Bracket
  | list
  | table
deriving DecidableEq, Repr

/-- Whether the value at the front of a text can be read inside open brackets, innermost first. What
lies inside that value is not meant. -/
abbrev Room := List Bracket → List Char → Bool

mutual

/-- One value. Lists and inline tables contain others. -/
def value (room : Room) (inside : List Bracket) (fuel : Nat) (s : List Char) :
    Except Flaw (Value × List Char) :=
  match fuel with
  | 0 => .error .malformed
  | fuel + 1 =>
    if !room inside s then .error .tooDeep
    else
      match s with
      | '"' :: _ | '\'' :: _ => do
        let (text, rest) ← require (string s)
        return (.str (.ofString text), rest)
      | '[' :: rest => do
        let (items, rest) ← listItems room (.list :: inside) fuel rest
        return (.list items, rest)
      | '\x7b' :: rest =>
        match skipBlanks rest with
        | '\x7d' :: rest => .ok (.table [], rest)
        | rest => do
          let (entries, rest) ← inlineEntries room (.table :: inside) fuel [] [] rest
          return (.table entries, rest)
      | _ => scalar s

/-- The elements of a list up to its closing bracket. -/
def listItems (room : Room) (inside : List Bracket) (fuel : Nat) (s : List Char) :
    Except Flaw (List Value × List Char) :=
  match fuel with
  | 0 => .error .malformed
  | fuel + 1 => do
    match ← require (skipLines? (s.length + 1) s) with
    | ']' :: rest => return ([], rest)
    | s =>
      let (v, rest) ← value room inside fuel s
      match ← require (skipLines? (rest.length + 1) rest) with
      | ']' :: rest => return ([v], rest)
      | ',' :: rest =>
        let (vs, rest) ← listItems room inside fuel rest
        return (v :: vs, rest)
      | _ => throw .malformed

/-- The entries of an inline table up to its closing brace, on one line. -/
def inlineEntries (room : Room) (inside : List Bracket) (fuel : Nat) (t : Entries)
    (frozen : List (List String)) (s : List Char) : Except Flaw (Entries × List Char) :=
  match fuel with
  | 0 => .error .malformed
  | fuel + 1 => do
    let (path, rest) ← require (key (s.length + 1) s)
    let (v, rest) ← value room inside fuel (skipBlanks (← require (expect '=' rest)))
    if (Closed.mk [] frozen).isFrozen path then throw .malformed
    let (parents, last) := splitKey path
    let t ← require (changeAt false (addNew last v) parents t)
    match skipBlanks rest with
    | '\x7d' :: rest => return (t, rest)
    | ',' :: rest =>
      inlineEntries room inside fuel t (if isNest v then path :: frozen else frozen)
        (skipBlanks rest)
    | _ => throw .malformed

end

/-! ## Statements -/

/-- A document as far as it has been read: its table, the header that keys are read under, what is
closed, and what will be closed at the next header. -/
structure Draft where
  table : Entries
  header : List String
  closed : Closed
  pending : List (List String)

namespace Draft

def empty : Draft := ⟨[], [], ⟨[], []⟩, []⟩

/-- Tables that a dotted key passes through, from the current one inwards. -/
def passedTables (header : List String) : List String → List (List String)
  | [] => []
  | [_] => []
  | k :: path => (header ++ [k]) :: passedTables (header ++ [k]) path

/-- `key = value` -/
def setKey (room : Room) (d : Draft) (s : List Char) : Except Flaw (Draft × List Char) := do
  let (path, rest) ← require (key (s.length + 1) s)
  let rest := skipBlanks (← require (expect '=' rest))
  let (v, rest) ← value room [] (2 * rest.length + 2) rest
  let (parents, last) := splitKey path
  let passed := passedTables d.header path
  if passed.any d.closed.isOpened then throw .malformed
  if d.closed.isFrozen (d.header ++ parents) then throw .malformed
  let table ← require (changeAt true (addNew last v) (d.header ++ parents) d.table)
  let closed := if isNest v then d.closed.addFrozen (d.header ++ path) else d.closed
  return ({ d with table, closed, pending := passed ++ d.pending }, rest)

/-- Close what was waiting for a header. -/
def settle (d : Draft) : Draft :=
  { d with closed := { d.closed with opened := d.pending ++ d.closed.opened }, pending := [] }

/-- `[header]`, from behind the bracket. -/
def openTable (d : Draft) (s : List Char) : Except Flaw (Draft × List Char) := do
  let s := skipBlanks s
  let (path, rest) ← require (key (s.length + 1) s)
  if d.closed.isOpened path || d.closed.isFrozen path then throw .malformed
  let table ← require (changeAt true some path d.table)
  let rest ← require (expect ']' rest)
  return ({ d with table, header := path, closed := d.closed.addOpened path }, rest)

/-- `[[header]]`, from behind the brackets. -/
def openElement (d : Draft) (s : List Char) : Except Flaw (Draft × List Char) := do
  let s := skipBlanks s
  let (path, rest) ← require (key (s.length + 1) s)
  if d.closed.isFrozen path then throw .malformed
  let (parents, last) := splitKey path
  let table ← require (changeAt true (addElement last) parents d.table)
  let rest ← require (expect ']' (← require (expect ']' rest)))
  return ({ d with table, header := path, closed := (d.closed.release path).addOpened path }, rest)

/-- One statement, which begins with the first character of the text. -/
def statement (room : Room) (d : Draft) (s : List Char) : Except Flaw (Draft × List Char) :=
  match s with
  | '[' :: '[' :: rest => d.settle.openElement rest
  | '[' :: rest => d.settle.openTable rest
  | '#' :: _ => .ok (d, s)
  | _ => d.setKey room s

/-- All statements, one to a line. -/
def statements (room : Room) (fuel : Nat) (d : Draft) (s : List Char) : Except Flaw Draft :=
  match fuel with
  | 0 => .error .malformed
  | fuel + 1 =>
    match skipBlanks s with
    | [] => .ok d
    | '\n' :: rest => statements room fuel d rest
    | s => do
      let (d, rest) ← d.statement room s
      match ← require (skipComment? (skipBlanks rest)) with
      | [] => return d
      | '\n' :: rest => statements room fuel d rest
      | _ => throw .malformed

end Draft

/-- Lines may end in a carriage return and a newline. -/
def plainNewlines : List Char → List Char
  | '\r' :: '\n' :: rest => '\n' :: plainNewlines rest
  | c :: rest => c :: plainNewlines rest
  | [] => []

/-- The table that a document describes. -/
def read (room : Room) (text : List Char) : Except Flaw (Table Value) :=
  let s := plainNewlines text
  (Draft.statements room (s.length + 1) .empty s).map (·.table)

end UnsafeCensus.Toml
