import UnsafeCensus.Journal.Session
import UnsafeCensus.Proofs.Files.Opening

/-!
# What a record writes

A handler that takes a record writes its line to the end of one file. So a file gets nothing from
handlers that write elsewhere, and no handler makes a file or takes one away. A line that cannot be
encoded comes nowhere, and one that a full file does not take stays with its handler.
-/

namespace UnsafeCensus.Journal

open Files (FileSystem Location)

/-- What a handler writes to the file at a location of a record that takes these bytes. -/
def Handler.written (h : Handler) (r : Record) (bytes : List UInt8) (location : Location) :
    List UInt8 :=
  if h.sink = .file location ∧ r.level.reaches h.level = true then bytes else []

namespace Session

variable {s s' s'' : Session} {location target : Location} {number : Nat} {numbers : List Nat}
  {line : Text.Str} {r : Record}

/-- The bytes that a record takes in a file, none if it cannot be encoded. -/
def bytes (s : Session) (r : Record) : List UInt8 :=
  (s.encode r.line).getD []

/-- The handler of a number writes to a full file. -/
def Clogged (s : Session) (number : Nat) : Prop :=
  ∃ h target, s.journal.pool[number]? = some h ∧ h.sink = .file target ∧ target ∈ s.full

/-- The handlers go on to write where they did, and files to be full. -/
theorem Clogged.mono (h : s.Clogged number)
    (hsinks : s.journal.pool.map (·.sink) <+: s'.journal.pool.map (·.sink))
    (hfull : ∀ location ∈ s.full, location ∈ s'.full) : s'.Clogged number := by
  obtain ⟨handler, target, hhandler, hsink, htarget⟩ := h
  obtain ⟨more, hmore⟩ := hsinks
  have hold : (s.journal.pool.map (·.sink))[number]? = some (.file target) := by
    rw [List.getElem?_map, hhandler, Option.map_some, hsink]
  have hnew : (s'.journal.pool.map (·.sink))[number]? = some (.file target) := by
    obtain ⟨hlt, -⟩ := List.getElem?_eq_some_iff.mp hold
    rw [← hmore, List.getElem?_append_left hlt, hold]
  rw [List.getElem?_map] at hnew
  obtain ⟨handler', hhandler', hsink'⟩ := Option.map_eq_some_iff.mp hnew
  exact ⟨handler', target, hhandler', hsink', hfull target htarget⟩

-- ---------------------------------------------------------------------------
-- One line
-- ---------------------------------------------------------------------------

/-- Nothing but what files contain has changed, and what handlers could not write. -/
structure SameButWritten (s s' : Session) : Prop where
  journal : s'.journal = s.journal
  encode : s'.encode = s.encode
  full : s'.full = s.full
  branches : FileSystem.SameBranches s.files s'.files
  isSome_file? (location : Location) :
    (s'.files.file? location).isSome = (s.files.file? location).isSome

namespace SameButWritten

theorem refl (s : Session) : SameButWritten s s :=
  ⟨rfl, rfl, rfl, .refl s.files, fun _ => rfl⟩

theorem trans (h : SameButWritten s s') (h' : SameButWritten s' s'') : SameButWritten s s'' where
  journal := h'.journal.trans h.journal
  encode := h'.encode.trans h.encode
  full := h'.full.trans h.full
  branches := h.branches.trans h'.branches
  isSome_file? location := (h'.isSome_file? location).trans (h.isSome_file? location)

end SameButWritten

theorem sameButWritten_write (number : Nat) (target : Location) (line : Text.Str) (s : Session) :
    SameButWritten s (s.write number target line) := by
  unfold write
  split
  · exact .refl s
  · split
    · exact ⟨rfl, rfl, rfl, .refl s.files, fun _ => rfl⟩
    · refine ⟨rfl, rfl, rfl, FileSystem.sameBranches_append s.files target _, fun location => ?_⟩
      rw [FileSystem.file?_append]
      split
      · next h => rw [Option.isSome_map, h]
      · rfl

/-- A file that is not full gets the line, if it is the handler's own. -/
theorem file?_write (hroom : location ∉ s.full) (number : Nat) (target : Location)
    (line : Text.Str) :
    (s.write number target line).files.file? location =
      (s.files.file? location).map
        (· ++ if target = location then (s.encode line).getD [] else []) := by
  unfold write
  cases hencode : s.encode line with
  | none => simp
  | some bytes =>
    dsimp only
    by_cases htarget : target = location
    · subst htarget
      have hfull : s.full.contains target = false := by simpa using hroom
      rw [hfull, if_neg Bool.false_ne_true, FileSystem.file?_append, if_pos rfl, if_pos rfl]
      rfl
    · simp only [if_neg htarget, List.append_nil, Option.map_id']
      split
      · rfl
      · rw [FileSystem.file?_append, if_neg (Ne.symm htarget)]

/-- Only a handler of a full file keeps what it could not write. -/
theorem stuck_write {n : Nat} (h : n ∈ (s.write number target line).stuck) :
    n ∈ s.stuck ∨ n = number ∧ target ∈ s.full := by
  unfold write at h
  split at h
  · exact Or.inl h
  · split at h
    · next hfull =>
      rcases List.mem_cons.mp h with rfl | h
      · exact Or.inr ⟨rfl, by simpa using hfull⟩
      · exact Or.inl h
    · exact Or.inl h

-- ---------------------------------------------------------------------------
-- One handler
-- ---------------------------------------------------------------------------

theorem sameButWritten_emit (r : Record) (s : Session) (number : Nat) :
    SameButWritten s (s.emit r number) := by
  unfold emit
  split
  · split
    · exact sameButWritten_write number _ r.line s
    · exact .refl s
  · exact .refl s

theorem file?_emit (hroom : location ∉ s.full) (r : Record) (number : Nat) :
    (s.emit r number).files.file? location =
      (s.files.file? location).map
        (· ++ (s.journal.pool[number]?.toList).flatMap (·.written r (s.bytes r) location)) := by
  unfold emit
  rcases s.journal.pool[number]? with _ | ⟨_ | target, level, isOpen⟩
  · simp
  · simp [Handler.written]
  · dsimp only
    split
    · next hlevel =>
      rw [file?_write hroom]
      simp [Handler.written, hlevel, bytes]
    · next hlevel => simp [Handler.written, hlevel]

theorem stuck_emit {n : Nat} (h : n ∈ (s.emit r number).stuck) :
    n ∈ s.stuck ∨ n = number ∧ s.Clogged n := by
  unfold emit at h
  split at h
  · next target level isOpen hhandler =>
    split at h
    · refine (stuck_write h).imp_right ?_
      rintro ⟨rfl, hfull⟩
      exact ⟨rfl, _, target, hhandler, rfl, hfull⟩
    · exact Or.inl h
  · exact Or.inl h

-- ---------------------------------------------------------------------------
-- All handlers on the way
-- ---------------------------------------------------------------------------

theorem sameButWritten_foldl_emit (r : Record) (numbers : List Nat) (s : Session) :
    SameButWritten s (numbers.foldl (emit r) s) := by
  induction numbers generalizing s with
  | nil => exact .refl s
  | cons number numbers ih => exact (sameButWritten_emit r s number).trans (ih (s.emit r number))

/-- The handlers write one after the other. -/
theorem file?_foldl_emit (hroom : location ∉ s.full) (r : Record) (numbers : List Nat) :
    (numbers.foldl (emit r) s).files.file? location =
      (s.files.file? location).map
        (· ++ (numbers.filterMap (s.journal.pool[·]?)).flatMap
          (·.written r (s.bytes r) location)) := by
  induction numbers generalizing s with
  | nil => simp
  | cons number numbers ih =>
    have hsame := sameButWritten_emit r s number
    have hbytes : (s.emit r number).bytes r = s.bytes r := by rw [bytes, hsame.encode, bytes]
    rw [List.foldl_cons, ih (hsame.full ▸ hroom), file?_emit hroom, hsame.journal, hbytes,
      Option.map_map, List.filterMap_cons]
    congr 1
    funext content
    cases s.journal.pool[number]? <;> simp

theorem stuck_foldl_emit {n : Nat} (h : n ∈ (numbers.foldl (emit r) s).stuck) :
    n ∈ s.stuck ∨ s.Clogged n := by
  induction numbers generalizing s with
  | nil => exact Or.inl h
  | cons number numbers ih =>
    have hsame := sameButWritten_emit r s number
    rcases ih h with h | ⟨handler, target, hhandler, hsink, hfull⟩
    · exact (stuck_emit h).imp_right (·.2)
    · exact Or.inr ⟨handler, target, hsame.journal ▸ hhandler, hsink, hsame.full ▸ hfull⟩

-- ---------------------------------------------------------------------------
-- Logging
-- ---------------------------------------------------------------------------

/-- The session once there is a logger of a name. -/
def registered (s : Session) (name : String) : Session :=
  { s with journal := s.journal.register name }

/-- The handlers that a record is offered to. -/
def audience (s : Session) (r : Record) : List Handler :=
  (s.recipients r).filterMap (s.journal.pool[·]?)

/-- Besides what is written, a message leaves its logger behind. -/
theorem sameButWritten_log (s : Session) (r : Record) :
    SameButWritten (s.registered r.logger) (s.log r) :=
  sameButWritten_foldl_emit r (s.recipients r) _

theorem file?_log (hroom : location ∉ s.full) (r : Record) :
    (s.log r).files.file? location =
      (s.files.file? location).map
        (· ++ (s.audience r).flatMap (·.written r (s.bytes r) location)) :=
  file?_foldl_emit (s := s.registered r.logger) hroom r (s.recipients r)

theorem stuck_log {n : Nat} (h : n ∈ (s.log r).stuck) : n ∈ s.stuck ∨ s.Clogged n :=
  stuck_foldl_emit (s := s.registered r.logger) h

end Session

end UnsafeCensus.Journal
