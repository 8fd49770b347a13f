import UnsafeCensus.Files.System
import UnsafeCensus.Proofs.Fault.Sequence
import UnsafeCensus.Proofs.Value.Table

/-!
# Contents of files

A file system is what its files contain, by location, and what its paths lead through: directories
and links. Writing changes the content of one file. It changes nothing that paths lead through, and
so a path that could be opened for writing leads to the same location after any writing.
-/

namespace UnsafeCensus.Files

namespace Item

variable {item top top' : Item} {here there location other : Location} {name : String}
  {bytes : List UInt8} {entries : List (String × Item)}

-- ---------------------------------------------------------------------------
-- Views of an item
-- ---------------------------------------------------------------------------

def content? : Item → Option (List UInt8)
  | file content => some content
  | _ => none

/-- What paths lead through. -/
inductive Branch
  | directory
  | link (target : String)
deriving DecidableEq

def branch? : Item → Option Branch
  | file _ => none
  | directory _ => some .directory
  | link target => some (.link target)

/-- What paths lead through at a location. -/
def branchAt? (item : Item) (here : Location) : Option Branch :=
  (item.at? here).bind branch?

/-- A file can be put at a location: one is there, or a directory has nothing of its name. -/
def Admits : Item → Location → Prop
  | item, [] => ∃ bytes, item = file bytes
  | item, name :: rest =>
    match item.child? name with
    | some c => Admits c rest
    | none => item.branch? = some .directory ∧ rest = []

theorem branch?_eq_directory : item.branch? = some .directory ↔ ∃ es, item = directory es := by
  cases item <;> simp [branch?]

theorem branch?_of_child? {c : Item} (h : item.child? name = some c) :
    item.branch? = some .directory := by
  cases item with
  | directory es => rfl
  | file bytes => cases h
  | link target => cases h

theorem branchAt?_eq_directory :
    item.branchAt? here = some .directory ↔ ∃ es, item.at? here = some (directory es) := by
  simp [branchAt?, Option.bind_eq_some_iff, branch?_eq_directory]

theorem branchAt?_of_isDirectory (h : item.isDirectory = true) :
    item.branchAt? [] = some .directory := by
  cases item with
  | directory es => rfl
  | file bytes => cases h
  | link target => cases h

theorem Admits.branch?_of_cons {rest : Location} (h : item.Admits (name :: rest)) :
    item.branch? = some .directory := by
  rw [Admits] at h
  split at h
  · next hchild => exact branch?_of_child? hchild
  · exact h.1

-- ---------------------------------------------------------------------------
-- Going down
-- ---------------------------------------------------------------------------

theorem at?_append (item : Item) (here there : Location) :
    item.at? (here ++ there) = (item.at? here).bind (·.at? there) := by
  induction here generalizing item with
  | nil => rfl
  | cons name rest ih =>
    rw [List.cons_append, at?, at?]
    cases item.child? name with
    | none => rfl
    | some c => exact ih c

theorem at?_child (item : Item) (here : Location) (name : String) :
    item.at? (here ++ [name]) = (item.at? here).bind (·.child? name) := by
  rw [at?_append]
  congr 1
  funext c
  rw [at?]
  cases c.child? name <;> rfl

theorem branchAt?_dropLast (h : item.branchAt? here = some .directory) :
    item.branchAt? here.dropLast = some .directory := by
  rcases List.eq_nil_or_concat here with rfl | ⟨above, name, rfl⟩
  · exact h
  · rw [List.concat_eq_append, List.dropLast_concat]
    rw [List.concat_eq_append, branchAt?, at?_child, Option.bind_assoc,
      Option.bind_eq_some_iff] at h
    obtain ⟨d, hd, h⟩ := h
    obtain ⟨c, hc, -⟩ := Option.bind_eq_some_iff.mp h
    rw [branchAt?, hd]
    exact branch?_of_child? hc

theorem admits_of_at?_file (h : item.at? location = some (file bytes)) : item.Admits location := by
  induction location generalizing item with
  | nil => exact ⟨bytes, Option.some.inj h⟩
  | cons name rest ih =>
    rw [at?] at h
    rw [Admits]
    cases hchild : item.child? name with
    | none =>
      rw [hchild] at h
      cases h
    | some c =>
      rw [hchild] at h
      exact ih h

/-- A directory admits a file of a name that it does not have. -/
theorem admits_of_absent (hhere : item.branchAt? here = some .directory)
    (habsent : item.at? (here ++ [name]) = none) : item.Admits (here ++ [name]) := by
  induction here generalizing item with
  | nil =>
    have hchild : item.child? name = none := by
      rw [at?_child] at habsent
      exact habsent
    rw [List.nil_append, Admits, hchild]
    exact ⟨hhere, rfl⟩
  | cons first rest ih =>
    rw [List.cons_append, at?] at habsent
    rw [branchAt?, at?] at hhere
    rw [List.cons_append, Admits]
    cases hchild : item.child? first with
    | none =>
      rw [hchild] at hhere
      cases hhere
    | some c =>
      rw [hchild] at hhere habsent
      exact ih hhere habsent

theorem Admits.branchAt?_eq_none (h : item.Admits location) : item.branchAt? location = none := by
  induction location generalizing item with
  | nil =>
    obtain ⟨bytes, rfl⟩ := h
    rfl
  | cons name rest ih =>
    rw [Admits] at h
    rw [branchAt?, at?]
    cases hchild : item.child? name with
    | none => rfl
    | some c =>
      rw [hchild] at h
      exact ih h

-- ---------------------------------------------------------------------------
-- Putting a file
-- ---------------------------------------------------------------------------

theorem putEntry_eq_put (name : String) (item : Item) (es : List (String × Item)) :
    putEntry name item es = Table.put name item es := by
  induction es with
  | nil => rfl
  | cons e es ih => rw [putEntry, Table.put, ih]

theorem child?_putEntry (name : String) (new : Item) (es : List (String × Item)) (other : String) :
    (directory (putEntry name new es)).child? other =
      if name = other then some new else (directory es).child? other := by
  rw [putEntry_eq_put]
  exact Table.get?_put name new es other

/-- No view of items changes elsewhere when a file is put, as far as it sees all directories as the
same. -/
theorem at?_put_bind {α : Type} (view : Item → Option α)
    (hview : ∀ es es', view (directory es) = view (directory es')) (h : item.Admits location)
    (other : Location) :
    ((put (file bytes) location item).at? other).bind view =
      if other = location then view (file bytes) else (item.at? other).bind view := by
  induction location generalizing item other with
  | nil =>
    obtain ⟨old, rfl⟩ := h
    cases other with
    | nil => rfl
    | cons name rest => rfl
  | cons name rest ih =>
    obtain ⟨es, rfl⟩ := branch?_eq_directory.mp h.branch?_of_cons
    cases other with
    | nil => exact hview _ _
    | cons first below =>
      rw [put, at?, at?, child?_putEntry]
      by_cases hname : name = first
      · subst hname
        simp only [if_true, List.cons.injEq, true_and]
        rw [Admits] at h
        cases hchild : (directory es).child? name with
        | some c =>
          rw [hchild] at h
          exact ih h below
        | none =>
          rw [hchild] at h
          obtain ⟨-, rfl⟩ := h
          cases below <;> rfl
      · rw [if_neg hname, if_neg fun heq => hname (List.cons.inj heq).1.symm]
        rfl

theorem branchAt?_put (h : item.Admits location) (other : Location) :
    (put (file bytes) location item).branchAt? other = item.branchAt? other := by
  rw [branchAt?, at?_put_bind branch? (fun _ _ => rfl) h]
  split
  · next heq => rw [heq, h.branchAt?_eq_none]; rfl
  · rfl

end Item

end UnsafeCensus.Files
