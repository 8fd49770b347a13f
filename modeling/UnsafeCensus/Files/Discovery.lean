import UnsafeCensus.Files.System

/-!
# Discovery of source files

The source files below a directory: the search goes into directories, hidden ones too, but not
through links to directories. To know a link it asks where it leads, whatever its name. Candidates
are sorted by the names that lead to them, those that are no files are dropped, and of the others
the locations are given one by one, with links followed. A path that is too long to be asked about
breaks the search off.
-/

namespace UnsafeCensus.Files

def sourceSuffix : String := ".rs"

def isSourceName (name : String) : Bool :=
  sourceSuffix.toList.reverse.isPrefixOf name.toList.reverse

/-- What is listed, or looked through. -/
inductive PlaceKind
  | directory
  | link
deriving DecidableEq, Repr

/-- A place where a search asks, by the names that lead there. -/
structure Place where
  names : Location
  kind : PlaceKind
deriving DecidableEq, Repr

def Place.inside (name : String) (place : Place) : Place :=
  { place with names := name :: place.names }

namespace Item

mutual

/-- The names that lead to candidates in an item. -/
def candidates : Item → List Location
  | directory es => candidatesOf es
  | file _ => []
  | link _ => []

def candidatesOf : List (String × Item) → List Location
  | [] => []
  | (name, item) :: rest =>
    (if isSourceName name then [[name]] else []) ++ (candidates item).map (name :: ·) ++
      candidatesOf rest

end

mutual

/-- What is asked about while directories are listed: an item itself, and what lies below it. -/
def places : Item → List Place
  | directory es => ⟨[], .directory⟩ :: placesOf es
  | file _ => []
  | link _ => [⟨[], .link⟩]

def placesOf : List (String × Item) → List Place
  | [] => []
  | (name, item) :: rest => (places item).map (·.inside name) ++ placesOf rest

end

end Item

def sortedLocations (ls : List Location) : List Location :=
  ls.mergeSort fun a b => !Path.partsLt b a

/-- The path of what names lead to from a path. -/
def Path.below (p : Path) (names : Location) : Path :=
  ⟨p.start, p.parts ++ names⟩

/-- The path under which a place is asked about. An entry of the directory that is written as a dot
has the dot in front of it. -/
def Path.to (p : Path) (place : Place) : Path :=
  match place with
  | ⟨[name], .link⟩ =>
    if p.start = .here ∧ p.parts = [] then ⟨.here, [".", name]⟩ else p.below [name]
  | place => p.below place.names

/-- What a search gives, one location after the other, and why it breaks off if it does. -/
structure Search where
  found : List Location
  fault : Option AccessFault
deriving DecidableEq, Repr

namespace FileSystem

/-- Why a path cannot be asked about. -/
def refusal? (fs : FileSystem) (p : Path) : Option AccessFault :=
  match fs.item? p with
  | .ok _ => none
  | .error f => some f

/-- The location of a candidate, if it is a file. -/
def fileAt? (fs : FileSystem) (p : Path) : Except AccessFault (Option Location) :=
  match fs.item? p with
  | .ok (some (.file _)) => .ok (fs.locate false p).toOption
  | .ok _ => .ok none
  | .error f => .error f

/-- Go through candidates below a directory. -/
def visit (fs : FileSystem) (directory : Path) : List Location → Search
  | [] => ⟨[], none⟩
  | names :: rest =>
    match fs.fileAt? (directory.below names) with
    | .ok found =>
      let later := fs.visit directory rest
      { later with found := found.toList ++ later.found }
    | .error f => ⟨[], some f⟩

/-- Search below a directory. All directories are listed, and all links in them asked about, before
the first location is given. -/
def search (fs : FileSystem) (directory : Path) : Search :=
  match fs.item? directory with
  | .error f => ⟨[], some f⟩
  | .ok none => ⟨[], none⟩
  | .ok (some item) =>
    match item.places.findSome? fun place => fs.refusal? (directory.to place) with
    | some f => ⟨[], some f⟩
    | none => fs.visit directory (sortedLocations item.candidates)

/-- The locations of the source files below a directory. What is no directory has none. -/
def sourceFiles (fs : FileSystem) (directory : Path) : Except AccessFault (List Location) :=
  match fs.search directory with
  | ⟨found, none⟩ => .ok found
  | ⟨_, some f⟩ => .error f

end FileSystem

end UnsafeCensus.Files
