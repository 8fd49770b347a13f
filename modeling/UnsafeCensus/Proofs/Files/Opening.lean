import UnsafeCensus.Proofs.Files.Content

/-!
# Opening files and writing to them

Where a path leads that is opened for writing does not depend on the files that there are, as long
as the directories and the links are the same. So neither opening nor writing has an influence on
what can be opened later.
-/

namespace UnsafeCensus.Files

namespace Item

variable {top : Item} {here there : Location} {name : String} {names : List String} {links : Nat}
  {ends : Bool}

-- ---------------------------------------------------------------------------
-- One step
-- ---------------------------------------------------------------------------

/-- A component that is looked up, and not too long for that. -/
def IsName (name : String) : Prop :=
  name ≠ "." ∧ name ≠ ".." ∧ name.utf8ByteSize ≤ nameLimit

/-- Where the search goes on when a link is met. -/
def linkStart (here : Location) (target : String) : Location :=
  if target.toList.head? = some '/' then [] else here

theorem enter_self (h : top.branchAt? here = some .directory) :
    enter top true ends here "." = .passed here := by
  obtain ⟨es, hes⟩ := branchAt?_eq_directory.mp h
  rw [enter, hes]
  rfl

theorem enter_up (h : top.branchAt? here = some .directory) :
    enter top true ends here ".." = .passed here.dropLast := by
  obtain ⟨es, hes⟩ := branchAt?_eq_directory.mp h
  rw [enter, hes]
  rfl

/-- That a file is there matters only where there need not be anything. -/
theorem enter_name (h : top.branchAt? here = some .directory) (hname : IsName name) :
    enter top true ends here name =
      match top.branchAt? (here ++ [name]), top.at? (here ++ [name]) with
      | some (.link target), _ => .detour (linkStart here target) (linkComponents target)
      | some .directory, _ => .passed (here ++ [name])
      | none, some _ => .passed (here ++ [name])
      | none, none => if ends then .reached (here ++ [name]) else .refused .noEntry := by
  obtain ⟨es, hes⟩ := branchAt?_eq_directory.mp h
  obtain ⟨hdot, hdots, hshort⟩ := hname
  rw [enter, hes, branchAt?, at?_child, hes, Option.bind_some]
  simp only [if_neg hdot, if_neg hdots, if_neg (Nat.not_lt.mpr hshort), Bool.true_and]
  rcases (directory es).child? name with _ | ⟨_⟩ | ⟨_⟩ | ⟨_⟩ <;> rfl

theorem enter_of_ne_directory (h : top.branchAt? here ≠ some .directory) :
    enter top true ends here name = .refused .notDirectory := by
  unfold enter
  split
  · next hes => exact absurd (branchAt?_eq_directory.mpr ⟨_, hes⟩) h
  · rfl

/-- All that entering a component of a directory can come to. -/
inductive Entry (branch? : Location → Option Branch) (ends : Bool) (here : Location) :
    String → Step → Prop
  | self : Entry branch? ends here "." (.passed here)
  | up : Entry branch? ends here ".." (.passed here.dropLast)
  | down {name : String} (hname : IsName name)
      (hbranch : branch? (here ++ [name]) = some .directory) :
      Entry branch? ends here name (.passed (here ++ [name]))
  | file {name : String} (hname : IsName name) (hbranch : branch? (here ++ [name]) = none) :
      Entry branch? ends here name (.passed (here ++ [name]))
  | absent {name : String} (hname : IsName name) (hbranch : branch? (here ++ [name]) = none)
      (hends : ends = true) : Entry branch? ends here name (.reached (here ++ [name]))
  | link {name target : String} (hname : IsName name)
      (hbranch : branch? (here ++ [name]) = some (.link target)) :
      Entry branch? ends here name (.detour (linkStart here target) (linkComponents target))
  | refused {name : String} (e : SystemError) : Entry branch? ends here name (.refused e)

theorem entry_enter (h : top.branchAt? here = some .directory) (ends : Bool) (name : String) :
    Entry top.branchAt? ends here name (enter top true ends here name) := by
  by_cases hdot : name = "."
  · rw [hdot, enter_self h]
    exact .self
  by_cases hdots : name = ".."
  · rw [hdots, enter_up h]
    exact .up
  by_cases hlong : nameLimit < name.utf8ByteSize
  · obtain ⟨es, hes⟩ := branchAt?_eq_directory.mp h
    simp only [enter, hes, if_neg hdot, if_neg hdots, if_pos hlong]
    exact .refused _
  have hname : IsName name := ⟨hdot, hdots, Nat.not_lt.mp hlong⟩
  rw [enter_name h hname]
  split
  · next hbranch => exact .link hname hbranch
  · next hbranch => exact .down hname hbranch
  · next hbranch _ => exact .file hname hbranch
  · next hbranch _ =>
    cases ends with
    | false => exact .refused _
    | true => exact .absent hname hbranch rfl

-- ---------------------------------------------------------------------------
-- Where a path leads
-- ---------------------------------------------------------------------------

/-- Where components lead for writing, from what paths lead through. Where there is neither a
directory nor a link, there is a file or there will be one. -/
inductive Leads (branch? : Location → Option Branch) :
    Nat → Location → List String → Location → Prop
  | arrived {links : Nat} {here : Location} : Leads branch? links here [] here
  | self {links : Nat} {here there : Location} {names : List String}
      (h : Leads branch? links here names there) : Leads branch? links here ("." :: names) there
  | up {links : Nat} {here there : Location} {names : List String}
      (h : Leads branch? links here.dropLast names there) :
      Leads branch? links here (".." :: names) there
  | down {links : Nat} {here there : Location} {name : String} {names : List String}
      (hname : IsName name) (hbranch : branch? (here ++ [name]) = some .directory)
      (h : Leads branch? links (here ++ [name]) names there) :
      Leads branch? links here (name :: names) there
  | file {links : Nat} {here : Location} {name : String} (hname : IsName name)
      (hbranch : branch? (here ++ [name]) = none) :
      Leads branch? links here [name] (here ++ [name])
  | link {links : Nat} {here there : Location} {name target : String} {names : List String}
      (hname : IsName name) (hbranch : branch? (here ++ [name]) = some (.link target))
      (h : Leads branch? links (linkStart here target) (linkComponents target ++ names) there) :
      Leads branch? (links + 1) here (name :: names) there

theorem branchAt?_linkStart (htop : top.branchAt? [] = some .directory)
    (hhere : top.branchAt? here = some .directory) (target : String) :
    top.branchAt? (linkStart here target) = some .directory := by
  unfold linkStart
  split
  · exact htop
  · exact hhere

theorem leads_of_walk_eq_ok (htop : top.branchAt? [] = some .directory)
    (hhere : top.branchAt? here = some .directory)
    (h : walk top true links here names = .ok there) :
    Leads top.branchAt? links here names there := by
  induction links, here, names using walk.induct top true with
  | case1 links here =>
    rw [walk] at h
    cases h
    exact .arrived
  | case2 links here name rest reached henter =>
    have hentry := entry_enter hhere rest.isEmpty name
    rw [walk, henter] at h
    rw [henter] at hentry
    cases h
    cases hentry with
    | absent hname hbranch hends =>
      rw [List.isEmpty_iff.mp hends]
      exact .file hname hbranch
  | case3 links here name rest passed henter ih =>
    have hentry := entry_enter hhere rest.isEmpty name
    rw [walk, henter] at h
    rw [henter] at hentry
    cases hentry with
    | self => exact .self (ih hhere h)
    | up => exact .up (ih (branchAt?_dropLast hhere) h)
    | down hname hbranch => exact .down hname hbranch (ih hbranch h)
    | file hname hbranch =>
      -- Nothing can be entered from a file, so this is the last component.
      cases rest with
      | nil =>
        simp only [walk] at h
        cases h
        exact .file hname hbranch
      | cons next rest =>
        simp only [walk] at h
        rw [enter_of_ne_directory (by rw [hbranch]; nofun)] at h
        cases h
  | case4 links here name rest e henter =>
    rw [walk, henter] at h
    cases h
  | case5 here name rest start target henter =>
    rw [walk, henter] at h
    cases h
  | case6 here name rest start target henter links ih =>
    have hentry := entry_enter hhere rest.isEmpty name
    rw [walk, henter] at h
    rw [henter] at hentry
    cases hentry with
    | link hname hbranch => exact .link hname hbranch (ih (branchAt?_linkStart htop hhere _) h)

theorem walk_of_leads (htop : top.branchAt? [] = some .directory)
    (hhere : top.branchAt? here = some .directory)
    (h : Leads top.branchAt? links here names there) :
    walk top true links here names = .ok there := by
  induction h with
  | arrived => rw [walk]
  | self _ ih =>
    rw [walk, enter_self hhere]
    exact ih hhere
  | up _ ih =>
    rw [walk, enter_up hhere]
    exact ih (branchAt?_dropLast hhere)
  | down hname hbranch _ ih =>
    rw [walk, enter_name hhere hname, hbranch]
    exact ih hbranch
  | @file links here name hname hbranch =>
    rw [walk, enter_name hhere hname, hbranch]
    cases top.at? (here ++ [name]) with
    | none => rfl
    | some item =>
      show walk top true links (here ++ [name]) [] = _
      rw [walk]
  | link hname hbranch _ ih =>
    rw [walk, enter_name hhere hname, hbranch]
    exact ih (branchAt?_linkStart htop hhere _)

/-- A path for writing leads to a directory, or to where a file is or can be put. -/
theorem directory_or_admits_of_leads (htop : top.branchAt? [] = some .directory)
    (hhere : top.branchAt? here = some .directory)
    (h : Leads top.branchAt? links here names there) :
    top.branchAt? there = some .directory ∨ top.Admits there := by
  induction h with
  | arrived => exact Or.inl hhere
  | self _ ih => exact ih hhere
  | up _ ih => exact ih (branchAt?_dropLast hhere)
  | down _ hbranch _ ih => exact ih hbranch
  | @file _ here name _ hbranch =>
    right
    cases hat : top.at? (here ++ [name]) with
    | none => exact admits_of_absent hhere hat
    | some item =>
      rw [branchAt?, hat] at hbranch
      cases item with
      | file bytes => exact admits_of_at?_file hat
      | directory es => cases hbranch
      | link target => cases hbranch
  | link _ _ _ ih => exact ih (branchAt?_linkStart htop hhere _)

end Item

namespace FileSystem

variable {fs fs' fs'' : FileSystem} {p : Path} {location other : Location} {bytes : List UInt8}

-- ---------------------------------------------------------------------------
-- What a file system is
-- ---------------------------------------------------------------------------

/-- The content of the file at a location. -/
def file? (fs : FileSystem) (location : Location) : Option (List UInt8) :=
  (fs.top.at? location).bind Item.content?

/-- The second file system has other files at most. -/
structure SameBranches (fs fs' : FileSystem) : Prop where
  working : fs'.working = fs.working
  branch (location : Location) : fs'.top.branchAt? location = fs.top.branchAt? location

namespace SameBranches

theorem refl (fs : FileSystem) : SameBranches fs fs := ⟨rfl, fun _ => rfl⟩

theorem trans (h : SameBranches fs fs') (h' : SameBranches fs' fs'') : SameBranches fs fs'' :=
  ⟨h'.working.trans h.working, fun l => (h'.branch l).trans (h.branch l)⟩

theorem put (h : fs.top.Admits location) (bytes : List UInt8) :
    SameBranches fs (fs.put location (.file bytes)) :=
  ⟨rfl, Item.branchAt?_put h⟩

end SameBranches

theorem file?_put (h : fs.top.Admits location) (bytes : List UInt8) (other : Location) :
    (fs.put location (.file bytes)).file? other =
      if other = location then some bytes else fs.file? other :=
  Item.at?_put_bind Item.content? (fun _ _ => rfl) h other

-- ---------------------------------------------------------------------------
-- Writing
-- ---------------------------------------------------------------------------

theorem append_cases (fs : FileSystem) (location : Location) (bytes : List UInt8) :
    (∃ content, fs.file? location = some content ∧ fs.top.Admits location ∧
      fs.append location bytes = fs.put location (.file (content ++ bytes))) ∨
    fs.file? location = none ∧ fs.append location bytes = fs := by
  unfold append
  split
  · next content hat =>
    refine Or.inl ⟨content, ?_, Item.admits_of_at?_file hat, rfl⟩
    rw [file?, hat]
    rfl
  · next hat =>
    refine Or.inr ⟨?_, rfl⟩
    unfold file?
    rcases h : fs.top.at? location with _ | ⟨_⟩ | _ | _
    · rfl
    · exact absurd h (hat _)
    · rfl
    · rfl

theorem file?_append (fs : FileSystem) (location : Location) (bytes : List UInt8)
    (other : Location) :
    (fs.append location bytes).file? other =
      if other = location then (fs.file? location).map (· ++ bytes) else fs.file? other := by
  rcases append_cases fs location bytes with ⟨content, hfile, hadmits, happend⟩ | ⟨hfile, happend⟩
  · rw [happend, file?_put hadmits, hfile]
    rfl
  · rw [happend, hfile]
    split
    · next heq => rw [heq, hfile]; rfl
    · rfl

theorem sameBranches_append (fs : FileSystem) (location : Location) (bytes : List UInt8) :
    SameBranches fs (fs.append location bytes) := by
  rcases append_cases fs location bytes with ⟨content, -, hadmits, happend⟩ | ⟨-, happend⟩
  · rw [happend]
    exact .put hadmits _
  · rw [happend]
    exact .refl fs

-- ---------------------------------------------------------------------------
-- Opening
-- ---------------------------------------------------------------------------

theorem isAbsolute_absolute (fs : FileSystem) (p : Path) : (fs.absolute p).isAbsolute = true := by
  show ((fs.workingPath.join p).start != .here) = true
  unfold Path.join
  split
  · next h => exact h
  · rfl

theorem absolute_eq (h : SameBranches fs fs') (p : Path) : fs'.absolute p = fs.absolute p := by
  unfold absolute workingPath
  rw [h.working]

/-- An absolute path leads, for writing, to a location. -/
theorem locate_eq_ok (htop : fs.top.branchAt? [] = some .directory) (hp : p.isAbsolute = true) :
    fs.locate true p = .ok location ↔
      '\x00' ∉ p.toString.toList ∧ p.toString.utf8ByteSize ≤ pathLimit ∧
        Item.Leads fs.top.branchAt? linkLimit [] p.parts location := by
  unfold locate startOf
  rw [if_pos hp]
  by_cases hnul : '\x00' ∈ p.toString.toList
  · simp [hnul]
  by_cases hlong : pathLimit < p.toString.utf8ByteSize
  · simp [hnul, hlong, Nat.not_le.mpr hlong]
  rw [if_neg (by simpa using hnul), if_neg hlong, mapError_eq_ok]
  simp only [hnul, not_false_eq_true, Nat.not_lt.mp hlong, true_and]
  exact ⟨Item.leads_of_walk_eq_ok htop htop, Item.walk_of_leads htop htop⟩

/-- A file can be opened at a location, through a path. -/
def Opens (fs : FileSystem) (p : Path) (location : Location) : Prop :=
  fs.locate true p = .ok location ∧ fs.top.branchAt? location ≠ some .directory

theorem Opens.admits (htop : fs.top.branchAt? [] = some .directory) (hp : p.isAbsolute = true)
    (h : fs.Opens p location) : fs.top.Admits location := by
  obtain ⟨-, -, hleads⟩ := (locate_eq_ok htop hp).mp h.1
  exact (Item.directory_or_admits_of_leads htop htop hleads).resolve_left h.2

/-- What can be opened does not depend on the files. -/
theorem SameBranches.opens_iff (h : SameBranches fs fs')
    (htop : fs.top.branchAt? [] = some .directory) (hp : p.isAbsolute = true) :
    fs'.Opens p location ↔ fs.Opens p location := by
  have htop' : fs'.top.branchAt? [] = some .directory := (h.branch []).trans htop
  have hbranch : fs'.top.branchAt? = fs.top.branchAt? := funext h.branch
  rw [Opens, Opens, locate_eq_ok htop' hp, locate_eq_ok htop hp, hbranch]

/-- The file system once there is a file at a location. -/
def withFile (fs : FileSystem) (location : Location) : FileSystem :=
  if (fs.top.at? location).isNone then fs.put location (.file []) else fs

theorem openForAppend_eq (fs : FileSystem) (p : Path) :
    fs.openForAppend p = (do
      let here ← fs.locate true p
      if fs.top.branchAt? here = some .directory then
        .error (.system .isDirectory p.toString)
      else .ok (fs.withFile here, here)) := by
  unfold openForAppend
  cases fs.locate true p with
  | error f => rfl
  | ok here =>
    show _ = if fs.top.branchAt? here = some .directory then _ else _
    dsimp only
    unfold withFile Item.branchAt?
    rcases fs.top.at? here with _ | ⟨_⟩ | ⟨_⟩ | ⟨_⟩ <;> rfl

theorem openForAppend_eq_ok :
    fs.openForAppend p = .ok (fs', location) ↔
      fs.Opens p location ∧ fs.withFile location = fs' := by
  rw [openForAppend_eq, bind_eq_ok]
  constructor
  · rintro ⟨here, hlocate, h⟩
    split at h
    · cases h
    · next hbranch =>
      cases h
      exact ⟨⟨hlocate, hbranch⟩, rfl⟩
  · rintro ⟨⟨hlocate, hbranch⟩, rfl⟩
    exact ⟨location, hlocate, by rw [if_neg hbranch]⟩

/-- Opening a file makes it if it is not there, and does not touch it otherwise. -/
theorem file?_withFile (h : fs.top.Admits location) (other : Location) :
    (fs.withFile location).file? other =
      if other = location then some ((fs.file? location).getD []) else fs.file? other := by
  unfold withFile
  cases hat : fs.top.at? location with
  | none =>
    rw [Option.isNone_none, if_pos rfl, file?_put h]
    simp [file?, hat]
  | some item =>
    rw [Option.isNone_some, if_neg Bool.false_ne_true]
    obtain ⟨bytes, hfile⟩ : ∃ bytes, fs.file? location = some bytes := by
      have hnone := h.branchAt?_eq_none
      rw [Item.branchAt?, hat] at hnone
      rw [file?, hat]
      cases item with
      | file bytes => exact ⟨bytes, rfl⟩
      | directory es => cases hnone
      | link target => cases hnone
    rw [hfile]
    split
    · next heq => rw [heq, hfile]; rfl
    · rfl

theorem sameBranches_withFile (h : fs.top.Admits location) :
    SameBranches fs (fs.withFile location) := by
  unfold withFile
  split
  · exact .put h []
  · exact .refl fs

end FileSystem

end UnsafeCensus.Files
