/-!
# Paths

A path in normal form: which root it starts at, and the names it leads through. Repeated and
trailing slashes and the component `.` do not survive reading; `..` does, because what it means
depends on links.
-/

namespace UnsafeCensus.Files

/-- Where a path starts. Two slashes at its beginning, and no more, are a root of their own. -/
inductive Start
  | here
  | root
  | doubleRoot
deriving DecidableEq, Repr

structure Path where
  start : Start
  parts : List String
deriving DecidableEq, Repr

/-- The texts between the slashes. -/
def splitSlashes : List Char → List (List Char)
  | [] => [[]]
  | c :: rest =>
    if c == '/' then [] :: splitSlashes rest
    else
      match splitSlashes rest with
      | piece :: pieces => (c :: piece) :: pieces
      | [] => [[c]]

/-- The components a text names. -/
def components (text : List Char) : List String :=
  ((splitSlashes text).filter fun p => !p.isEmpty && p != ['.']).map String.ofList

namespace Start

def ofText : List Char → Start
  | '/' :: '/' :: '/' :: _ => .root
  | '/' :: '/' :: _ => .doubleRoot
  | '/' :: _ => .root
  | _ => .here

def text : Start → String
  | here => ""
  | root => "/"
  | doubleRoot => "//"

end Start

namespace Path

def ofString (s : String) : Path :=
  ⟨.ofText s.toList, components s.toList⟩

/-- The path that leads nowhere is written as a dot. -/
def toString (p : Path) : String :=
  if p.start = .here ∧ p.parts = [] then "."
  else p.start.text ++ "/".intercalate p.parts

/-- The path of a name in the directory of a path. -/
def child (p : Path) (name : String) : Path :=
  ⟨p.start, p.parts ++ [name]⟩

def isAbsolute (p : Path) : Bool :=
  p.start != .here

/-- One path from the end of another. An absolute path does not care where it is read. -/
def join (base p : Path) : Path :=
  if p.isAbsolute then p else ⟨base.start, base.parts ++ p.parts⟩

/-- The order of sequences of names, by code point. -/
def partsLt : List String → List String → Bool
  | _, [] => false
  | [], _ :: _ => true
  | a :: as, b :: bs => decide (a < b) || (a == b && partsLt as bs)

end Path

end UnsafeCensus.Files
