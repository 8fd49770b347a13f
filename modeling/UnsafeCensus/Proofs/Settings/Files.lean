import UnsafeCensus.Proofs.Fault.Sequence
import UnsafeCensus.Proofs.Toml.Names
import UnsafeCensus.Settings.Sources

/-!
# Settings files

What a settings file holds, and how reading it can end otherwise: with a report on the
configuration, or by breaking off. A file breaks off where its path is too long to be asked about,
where its bytes are no text, where it writes a whole number with more digits than are read, and
where it nests values deeper than there is room to read them; in all other cases what is wrong with
it is reported.
-/

namespace UnsafeCensus

/-- What is reported on the configuration, or on a setting in it. -/
def Fault.ConcernsConfiguration (e : Fault) : Prop :=
  ∃ k, e.kind = .report k ∧ .configuration ∈ k.lineage

namespace Files.FileSystem

variable {fs : FileSystem} {p : Path} {bytes : List UInt8} {item : Item}

theorem item?_of_read_eq_ok (h : fs.read p = .ok bytes) :
    fs.item? p = .ok (some (.file bytes)) := by
  unfold read at h
  split at h
  · cases h
  · next here hlocate =>
    split at h
    · next hat =>
      cases h
      simp only [item?, hlocate, hat]
    · cases h
    · cases h

/-- A path at which something lies is one that can be asked about. -/
theorem read_ne_nulByte (h : fs.item? p = .ok (some item)) : fs.read p ≠ .error .nulByte := by
  intro hread
  unfold read at hread
  split at hread
  · next hlocate =>
    cases hread
    rw [item?, hlocate] at h
    cases h
  · split at hread <;> cases hread

/-- A file that lies in a directory at the top is read by its path. -/
theorem read_below_top {dir name : String} {entries top : List (String × Item)}
    {working : Location} (hdir : (Item.directory top).child? dir = some (.directory entries))
    (hname : (Item.directory entries).child? name = some (.file bytes))
    (hplain : ∀ n ∈ [dir, name], n ≠ "." ∧ n ≠ ".." ∧ n.utf8ByteSize ≤ nameLimit)
    (hnul : '\x00' ∉ (Path.mk .root [dir, name]).toString.toList)
    (hsize : (Path.mk .root [dir, name]).toString.utf8ByteSize ≤ pathLimit) :
    (FileSystem.mk (.directory top) working).read ⟨.root, [dir, name]⟩ = .ok bytes := by
  obtain ⟨⟨hdot, hdots, hshort⟩, ⟨hdot', hdots', hshort'⟩⟩ :
      (dir ≠ "." ∧ dir ≠ ".." ∧ dir.utf8ByteSize ≤ nameLimit) ∧
      (name ≠ "." ∧ name ≠ ".." ∧ name.utf8ByteSize ≤ nameLimit) := by
    simpa using hplain
  simp [read, locate, startOf, Path.isAbsolute, walk, enter, Item.at?, hdir, hname, hdot, hdots,
    hshort, hdot', hdots', hshort', hnul, hsize, mapError_ok, Nat.not_lt.mpr]

end Files.FileSystem

namespace Sources

variable {room : Toml.Room} {files : Files.FileSystem} {path : Files.Path} {t : Table Value}
  {e : Fault}

-- ---------------------------------------------------------------------------
-- Ends
-- ---------------------------------------------------------------------------

/-- The settings that a file holds: its section for them, or all of it if it has none. -/
inductive Holds (room : Toml.Room) (files : Files.FileSystem) (path : Files.Path) :
    Table Value → Prop
  | whole {bytes : List UInt8} {text : List Char} {document : Table Value}
      (hread : files.read path = .ok bytes) (htext : Text.Utf8.decode? bytes = .ok text)
      (hdocument : Toml.read room text = .ok document) (h : document.get? sectionName = none) :
      Holds room files path document
  | inSection {bytes : List UInt8} {text : List Char} {document t : Table Value}
      (hread : files.read path = .ok bytes) (htext : Text.Utf8.decode? bytes = .ok text)
      (hdocument : Toml.read room text = .ok document)
      (h : document.get? sectionName = some (.table t)) :
      Holds room files path t

/-- The settings of a file that may be missing. -/
inductive MayHold (room : Toml.Room) (files : Files.FileSystem) (path : Files.Path) :
    Table Value → Prop
  | absent (h : files.item? path = .ok none) : MayHold room files path []
  | present {t : Table Value} (h : Holds room files path t) : MayHold room files path t

/-- How the reading of a file breaks off. -/
inductive BreaksOff (room : Toml.Room) (files : Files.FileSystem) (path : Files.Path) : Fault → Prop
  | unaskable {f : Files.AccessFault} (h : files.item? path = .error f) :
      BreaksOff room files path (.access f)
  | notUnicode {bytes : List UInt8} {f : Text.Utf8.Fault} (hread : files.read path = .ok bytes)
      (h : Text.Utf8.decode? bytes = .error f) : BreaksOff room files path (.notUnicode bytes f)
  | numeralTooLong {bytes : List UInt8} {text : List Char} {digits : Nat}
      (hread : files.read path = .ok bytes) (htext : Text.Utf8.decode? bytes = .ok text)
      (h : Toml.read room text = .error (.numeralTooLong digits)) :
      BreaksOff room files path (.numeralTooLong digits)
  | tooDeep {bytes : List UInt8} {text : List Char} (hread : files.read path = .ok bytes)
      (htext : Text.Utf8.decode? bytes = .ok text) (h : Toml.read room text = .error .tooDeep) :
      BreaksOff room files path .documentTooDeep

theorem Holds.namesDistinct (h : Holds room files path t) : t.NamesDistinct := by
  cases h with
  | whole _ _ hdocument _ => exact (Toml.orderly_of_read hdocument).names
  | inSection _ _ hdocument hsection =>
    exact (Value.orderly_table.mp ((Toml.orderly_of_read hdocument).get? hsection)).names

theorem MayHold.namesDistinct (h : MayHold room files path t) : t.NamesDistinct := by
  cases h with
  | absent => exact Table.namesDistinct_nil
  | present h => exact h.namesDistinct

theorem BreaksOff.not_concernsConfiguration (h : BreaksOff room files path e) :
    ¬ e.ConcernsConfiguration := by
  rintro ⟨k, hkind, -⟩
  cases h with
  | @unaskable f _ =>
    cases f with
    | nulByte => cases hkind
    | system error _ => cases error <;> cases hkind
  | notUnicode _ _ => cases hkind
  | numeralTooLong _ _ _ => cases hkind
  | tooDeep _ _ _ => cases hkind

theorem concernsConfiguration_badSettingsFile (path : Files.Path) (flaw : FileFlaw) :
    (Fault.badSettingsFile path flaw).ConcernsConfiguration :=
  ⟨.configuration, rfl, by decide⟩

-- ---------------------------------------------------------------------------
-- Reading
-- ---------------------------------------------------------------------------

theorem readFile_eq_ok : readFile room files path = .ok t ↔ Holds room files path t := by
  constructor
  · intro h
    unfold readFile at h
    split at h
    · split at h <;> cases h
    · next bytes hread =>
      split at h
      · cases h
      · next text htext =>
        unfold readText at h
        split at h
        · cases h
        · cases h
        · cases h
        · next document hdocument =>
          replace h := mapError_eq_ok.mp h
          unfold settingsSection at h
          split at h
          · next hsection =>
            cases h
            exact .whole hread htext hdocument hsection
          · next hsection =>
            cases h
            exact .inSection hread htext hdocument hsection
          · cases h
  · intro h
    cases h with
    | whole hread htext hdocument hsection =>
      simp [readFile, readText, hread, htext, hdocument, settingsSection, hsection, mapError_ok]
    | inSection hread htext hdocument hsection =>
      simp [readFile, readText, hread, htext, hdocument, settingsSection, hsection, mapError_ok]

/-- A file that is there and holds no settings is reported, or breaks off. -/
theorem of_readFile_eq_error {item : Files.Item} (hitem : files.item? path = .ok (some item))
    (h : readFile room files path = .error e) :
    e.ConcernsConfiguration ∨ BreaksOff room files path e := by
  unfold readFile at h
  split at h
  · next f hread =>
    split at h
    · exact absurd hread (Files.FileSystem.read_ne_nulByte hitem)
    · cases h
      exact Or.inl (concernsConfiguration_badSettingsFile _ _)
  · next bytes hread =>
    split at h
    · next htext =>
      cases h
      exact Or.inr (.notUnicode hread htext)
    · next text htext =>
      unfold readText at h
      split at h
      · cases h
        exact Or.inl (concernsConfiguration_badSettingsFile _ _)
      · next hdocument =>
        cases h
        exact Or.inr (.numeralTooLong hread htext hdocument)
      · next hdocument =>
        cases h
        exact Or.inr (.tooDeep hread htext hdocument)
      · obtain ⟨flaw, -, rfl⟩ := mapError_eq_error.mp h
        exact Or.inl (concernsConfiguration_badSettingsFile _ _)

theorem readFile_of_breaksOff {item : Files.Item} (hitem : files.item? path = .ok (some item))
    (h : BreaksOff room files path e) : readFile room files path = .error e := by
  cases h with
  | unaskable h =>
    rw [hitem] at h
    cases h
  | notUnicode hread h => simp [readFile, hread, h]
  | numeralTooLong hread htext h => simp [readFile, readText, hread, htext, h]
  | tooDeep hread htext h => simp [readFile, readText, hread, htext, h]

-- ---------------------------------------------------------------------------
-- Files that may be missing, and files that may not
-- ---------------------------------------------------------------------------

theorem readIfPresent_eq (room : Toml.Room) (files : Files.FileSystem) (path : Files.Path) :
    readIfPresent room files path =
      match files.item? path with
      | .error f => .error (.access f)
      | .ok none => .ok []
      | .ok (some _) => readFile room files path := by
  unfold readIfPresent present
  rcases files.item? path with f | _ | item <;> rfl

theorem readRequired_eq (room : Toml.Room) (files : Files.FileSystem) (path : Files.Path) :
    readRequired room files path =
      match files.item? path with
      | .error f => .error (.access f)
      | .ok none => .error (.missingSettingsFile path)
      | .ok (some _) => readFile room files path := by
  unfold readRequired present
  rcases files.item? path with f | _ | item <;> rfl

theorem Holds.exists_item? (h : Holds room files path t) :
    ∃ item, files.item? path = .ok (some item) := by
  cases h with
  | whole hread => exact ⟨_, Files.FileSystem.item?_of_read_eq_ok hread⟩
  | inSection hread => exact ⟨_, Files.FileSystem.item?_of_read_eq_ok hread⟩

theorem readIfPresent_eq_ok :
    readIfPresent room files path = .ok t ↔ MayHold room files path t := by
  rw [readIfPresent_eq]
  constructor
  · intro h
    split at h
    · cases h
    · next hitem =>
      cases h
      exact .absent hitem
    · exact .present (readFile_eq_ok.mp h)
  · intro h
    cases h with
    | absent hitem => rw [hitem]
    | present h =>
      obtain ⟨item, hitem⟩ := h.exists_item?
      rw [hitem]
      exact readFile_eq_ok.mpr h

theorem readRequired_eq_ok : readRequired room files path = .ok t ↔ Holds room files path t := by
  rw [readRequired_eq]
  constructor
  · intro h
    split at h
    · cases h
    · cases h
    · exact readFile_eq_ok.mp h
  · intro h
    obtain ⟨item, hitem⟩ := h.exists_item?
    rw [hitem]
    exact readFile_eq_ok.mpr h

theorem BreaksOff.item? (h : BreaksOff room files path e) :
    (∃ f, files.item? path = .error f ∧ e = .access f) ∨
      ∃ item, files.item? path = .ok (some item) := by
  cases h with
  | unaskable h => exact Or.inl ⟨_, h, rfl⟩
  | notUnicode hread => exact Or.inr ⟨_, Files.FileSystem.item?_of_read_eq_ok hread⟩
  | numeralTooLong hread => exact Or.inr ⟨_, Files.FileSystem.item?_of_read_eq_ok hread⟩
  | tooDeep hread => exact Or.inr ⟨_, Files.FileSystem.item?_of_read_eq_ok hread⟩

theorem of_readIfPresent_eq_error (h : readIfPresent room files path = .error e) :
    e.ConcernsConfiguration ∨ BreaksOff room files path e := by
  rw [readIfPresent_eq] at h
  split at h
  · next hitem =>
    cases h
    exact Or.inr (.unaskable hitem)
  · cases h
  · next hitem => exact of_readFile_eq_error hitem h

theorem of_readRequired_eq_error (h : readRequired room files path = .error e) :
    e.ConcernsConfiguration ∨ BreaksOff room files path e := by
  rw [readRequired_eq] at h
  split at h
  · next hitem =>
    cases h
    exact Or.inr (.unaskable hitem)
  · cases h
    exact Or.inl ⟨.configuration, rfl, by decide⟩
  · next hitem => exact of_readFile_eq_error hitem h

theorem readIfPresent_of_breaksOff (h : BreaksOff room files path e) :
    readIfPresent room files path = .error e := by
  rw [readIfPresent_eq]
  obtain ⟨f, hitem, rfl⟩ | ⟨item, hitem⟩ := h.item?
  · rw [hitem]
  · rw [hitem]
    exact readFile_of_breaksOff hitem h

theorem readRequired_of_breaksOff (h : BreaksOff room files path e) :
    readRequired room files path = .error e := by
  rw [readRequired_eq]
  obtain ⟨f, hitem, rfl⟩ | ⟨item, hitem⟩ := h.item?
  · rw [hitem]
  · rw [hitem]
    exact readFile_of_breaksOff hitem h

end Sources

end UnsafeCensus
