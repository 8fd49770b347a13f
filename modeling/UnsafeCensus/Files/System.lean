import UnsafeCensus.Files.Access
import UnsafeCensus.Files.Path

/-!
# The file system

Directories, files and symbolic links, held as a value. A location is the sequence of names that
leads from the top to an item without passing a link; `locate` follows a path, and the links on its
way, to a location.
-/

namespace UnsafeCensus.Files

inductive Item where
  | file (content : List UInt8)
  | directory (entries : List (String × Item))
  | link (target : String)
deriving Repr

abbrev Location := List String

namespace Item

def entries : Item → List (String × Item)
  | directory es => es
  | _ => []

def isDirectory : Item → Bool
  | directory _ => true
  | _ => false

def child? (item : Item) (name : String) : Option Item :=
  (item.entries.find? fun e => e.1 == name).map (·.2)

/-- What lies at a location. -/
def at? : Item → Location → Option Item
  | item, [] => some item
  | item, name :: rest =>
    match item.child? name with
    | some c => at? c rest
    | none => none

/-- The entries of a directory with one of them replaced or added at the end. -/
def putEntry (name : String) (item : Item) : List (String × Item) → List (String × Item)
  | [] => [(name, item)]
  | e :: rest => if e.1 == name then (name, item) :: rest else e :: putEntry name item rest

/-- The tree with an item put at a location. Directories on the way are made as needed. -/
def put (new : Item) : Location → Item → Item
  | [], _ => new
  | name :: rest, item =>
    directory (putEntry name (put new rest ((item.child? name).getD (directory []))) item.entries)

end Item

structure FileSystem where
  top : Item
  /-- Where paths that are not absolute start. -/
  working : Location
deriving Repr

/-! ## Following paths -/

/-- How many links one path may pass. -/
def linkLimit : Nat := 40

/-- The most bytes a name may have, and a whole path. -/
def nameLimit : Nat := 255
def pathLimit : Nat := 4095

/-- The components of the target of a link. A slash at the end asks for a directory. -/
def linkComponents (target : String) : List String :=
  components target.toList ++ if target.toList.getLast? = some '/' then ["."] else []

/-- What one step of following a path comes to. -/
inductive Step
  | reached (here : Location)
  | passed (here : Location)
  | detour (here : Location) (target : List String)
  | refused (error : SystemError)

/-- Enter a component from a location; `ends` tells that it is the last one, `making` that the last
one need not exist. -/
def enter (top : Item) (making ends : Bool) (here : Location) (name : String) : Step :=
  match top.at? here with
  | some (.directory es) =>
    if name = "." then .passed here
    else if name = ".." then .passed here.dropLast
    else if nameLimit < name.utf8ByteSize then .refused .nameTooLong
    else
      match (Item.directory es).child? name with
      | some (.link target) =>
        .detour (if target.toList.head? = some '/' then [] else here) (linkComponents target)
      | some _ => .passed (here ++ [name])
      | none => if making && ends then .reached (here ++ [name]) else .refused .noEntry
  | _ => .refused .notDirectory

/-- Follow components from a location. -/
def walk (top : Item) (making : Bool) (links : Nat) (here : Location) :
    List String → Except SystemError Location
  | [] => .ok here
  | name :: rest =>
    match enter top making rest.isEmpty here name with
    | .reached there => .ok there
    | .passed there => walk top making links there rest
    | .refused e => .error e
    | .detour there target =>
      match links with
      | 0 => .error .tooManyLinks
      | links + 1 => walk top making links there (target ++ rest)
termination_by names => (links, names.length)

namespace FileSystem

def startOf (fs : FileSystem) (p : Path) : Location :=
  if p.isAbsolute then [] else fs.working

/-- The location a path leads to; with `making`, it need not be occupied yet. -/
def locate (fs : FileSystem) (making : Bool) (p : Path) : Except AccessFault Location :=
  if p.toString.toList.contains '\x00' then .error .nulByte
  else if pathLimit < p.toString.utf8ByteSize then .error (.system .nameTooLong p.toString)
  else (walk fs.top making linkLimit (fs.startOf p) p.parts).mapError (.system · p.toString)

/-- What a path leads to, or that it leads to nothing. A path that cannot name anything leads to
nothing; one that cannot be asked about is a fault. -/
def item? (fs : FileSystem) (p : Path) : Except AccessFault (Option Item) :=
  match fs.locate false p with
  | .ok here => .ok (fs.top.at? here)
  | .error .nulByte => .ok none
  | .error (.system e path) => if e.meansAbsent then .ok none else .error (.system e path)

/-- The content of the file that a path leads to. -/
def read (fs : FileSystem) (p : Path) : Except AccessFault (List UInt8) :=
  match fs.locate false p with
  | .error f => .error f
  | .ok here =>
    match fs.top.at? here with
    | some (.file content) => .ok content
    | some (.directory _) => .error (.system .isDirectory p.toString)
    | _ => .error (.system .noEntry p.toString)

/-! ## Changes -/

def put (fs : FileSystem) (here : Location) (item : Item) : FileSystem :=
  { fs with top := Item.put item here fs.top }

/-- Have a file at a path, empty if it is new, and give its location. -/
def openForAppend (fs : FileSystem) (p : Path) : Except AccessFault (FileSystem × Location) :=
  match fs.locate true p with
  | .error f => .error f
  | .ok here =>
    match fs.top.at? here with
    | some (.directory _) => .error (.system .isDirectory p.toString)
    | some _ => .ok (fs, here)
    | none => .ok (fs.put here (.file []), here)

/-- Write at the end of the file at a location. -/
def append (fs : FileSystem) (here : Location) (bytes : List UInt8) : FileSystem :=
  match fs.top.at? here with
  | some (.file content) => fs.put here (.file (content ++ bytes))
  | _ => fs

/-- The path of the working directory. -/
def workingPath (fs : FileSystem) : Path :=
  ⟨.root, fs.working⟩

/-- Names without the detours through `..`, as far as the names alone tell. -/
def plainNames (seen : List String) : List String → List String
  | [] => seen.reverse
  | ".." :: rest => plainNames seen.tail rest
  | name :: rest => plainNames (name :: seen) rest

/-- The absolute form of a path, from its text alone. -/
def absolute (fs : FileSystem) (p : Path) : Path :=
  let full := fs.workingPath.join p
  ⟨full.start, plainNames [] full.parts⟩

end FileSystem

end UnsafeCensus.Files
