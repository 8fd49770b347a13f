import UnsafeCensus.Files.Discovery
import UnsafeCensus.Proofs.Fault.Sequence
import UnsafeCensus.Proofs.Files.Content

/-!
# What lies below a directory

The names that a search collects in an item are those that lead somewhere in it without passing a
link. And where names lead in a directory, a path leads that goes on from the directory with these
names, unless it is too long.
-/

namespace UnsafeCensus.Files

-- ---------------------------------------------------------------------------
-- Items of a file system
-- ---------------------------------------------------------------------------

/-- A name that an entry of a directory can have. -/
structure IsEntryName (name : String) : Prop where
  ne_self : name ≠ "."
  ne_parent : name ≠ ".."
  noSlash : '/' ∉ name.toList
  noNul : '\x00' ∉ name.toList
  short : name.utf8ByteSize ≤ nameLimit

instance (name : String) : Decidable (IsEntryName name) :=
  decidable_of_iff
    (name ≠ "." ∧ name ≠ ".." ∧ '/' ∉ name.toList ∧ '\x00' ∉ name.toList ∧
      name.utf8ByteSize ≤ nameLimit)
    ⟨fun ⟨hself, hparent, hslash, hnul, hshort⟩ => ⟨hself, hparent, hslash, hnul, hshort⟩,
      fun h => ⟨h.ne_self, h.ne_parent, h.noSlash, h.noNul, h.short⟩⟩

namespace Item

/-- The entries of all directories have names of their own. -/
inductive IsProper : Item → Prop
  | file (content : List UInt8) : IsProper (file content)
  | link (target : String) : IsProper (link target)
  | directory {entries : List (String × Item)} (hdistinct : Table.NamesDistinct entries)
      (hnames : ∀ e ∈ entries, IsEntryName e.1) (hitems : ∀ e ∈ entries, IsProper e.2) :
      IsProper (directory entries)

variable {item c top : Item} {entries : List (String × Item)} {name : String}
  {names here rest : Location} {links : Nat}

theorem isProper_directory_nil : (directory []).IsProper :=
  .directory Table.namesDistinct_nil nofun nofun

theorem isProper_directory_cons (hname : IsEntryName name) (hfresh : name ∉ entries.map (·.1))
    (hc : c.IsProper) (h : (directory entries).IsProper) :
    (directory ((name, c) :: entries)).IsProper := by
  cases h with
  | directory hdistinct hnames hitems =>
    exact .directory (Table.namesDistinct_cons.mpr ⟨hfresh, hdistinct⟩)
      (List.forall_mem_cons.mpr ⟨hname, hnames⟩) (List.forall_mem_cons.mpr ⟨hc, hitems⟩)

theorem mem_of_child? (h : (directory entries).child? name = some c) : (name, c) ∈ entries :=
  Table.mem_of_get?_eq_some h

theorem child?_of_mem (hdistinct : Table.NamesDistinct entries) {e : String × Item}
    (he : e ∈ entries) : (directory entries).child? e.1 = some e.2 := by
  show Table.get? entries e.1 = some e.2
  induction entries with
  | nil => cases he
  | cons first entries ih =>
    obtain ⟨hfirst, hrest⟩ := Table.namesDistinct_cons.mp hdistinct
    rw [Table.get?_cons]
    rcases List.mem_cons.mp he with rfl | he
    · rw [if_pos rfl]
    · have hne : first.1 ≠ e.1 := fun heq => hfirst (List.mem_map.mpr ⟨e, he, heq.symm⟩)
      rw [if_neg hne]
      exact ih hrest he

theorem eq_directory_of_child? (h : item.child? name = some c) :
    ∃ entries, item = directory entries :=
  branch?_eq_directory.mp (branch?_of_child? h)

theorem at?_cons_of_child? (h : item.child? name = some c) (names : Location) :
    item.at? (name :: names) = c.at? names := by
  rw [at?, h]

theorem exists_child?_of_at?_cons (h : (item.at? (name :: names)).isSome) :
    ∃ c, item.child? name = some c ∧ (c.at? names).isSome := by
  rw [at?] at h
  split at h
  · next c hchild => exact ⟨c, hchild, h⟩
  · cases h

namespace IsProper

theorem child (h : item.IsProper) (hc : item.child? name = some c) :
    IsEntryName name ∧ c.IsProper := by
  obtain ⟨entries, rfl⟩ := eq_directory_of_child? hc
  cases h with
  | directory _ hnames hitems =>
    exact ⟨hnames _ (mem_of_child? hc), hitems _ (mem_of_child? hc)⟩

theorem at? (h : item.IsProper) (hc : item.at? names = some c) : c.IsProper := by
  induction names generalizing item with
  | nil => exact Option.some.inj hc ▸ h
  | cons name names ih =>
    obtain ⟨d, hd, -⟩ := exists_child?_of_at?_cons (by rw [hc]; rfl)
    rw [at?_cons_of_child? hd] at hc
    exact ih (h.child hd).2 hc

theorem noNul (h : item.IsProper) (hc : (item.at? names).isSome) :
    ∀ name ∈ names, '\x00' ∉ name.toList := by
  induction names generalizing item with
  | nil => exact nofun
  | cons name names ih =>
    obtain ⟨c, hchild, hc⟩ := exists_child?_of_at?_cons hc
    obtain ⟨hname, hproper⟩ := h.child hchild
    exact List.forall_mem_cons.mpr ⟨hname.noNul, ih hproper hc⟩

end IsProper

-- ---------------------------------------------------------------------------
-- What a search collects
-- ---------------------------------------------------------------------------

/-- What is asked about where paths lead through. -/
def Branch.kind : Branch → PlaceKind
  | .directory => .directory
  | .link _ => .link

theorem branchAt?_eq_link {target : String} :
    item.branchAt? names = some (.link target) ↔ item.at? names = some (link target) := by
  rw [branchAt?, Option.bind_eq_some_iff]
  constructor
  · rintro ⟨c, hc, hbranch⟩
    cases c <;> simp_all [branch?]
  · exact fun hat => ⟨_, hat, rfl⟩

/-- The last of some names is that of a source file. -/
def EndsLikeSource (names : Location) : Prop :=
  ∃ name, names.getLast? = some name ∧ isSourceName name = true

theorem mem_candidatesOf : names ∈ candidatesOf entries ↔
    ∃ e ∈ entries, isSourceName e.1 = true ∧ names = [e.1] ∨
      ∃ rest ∈ e.2.candidates, names = e.1 :: rest := by
  induction entries with
  | nil => simp [candidatesOf]
  | cons e entries ih =>
    obtain ⟨name, item⟩ := e
    have hbelow : names ∈ item.candidates.map (name :: ·) ↔
        ∃ rest ∈ item.candidates, names = name :: rest := by simp only [List.mem_map, eq_comm]
    have hself : names ∈ (if isSourceName name then [[name]] else []) ↔
        isSourceName name = true ∧ names = [name] := by split <;> simp_all
    simp only [candidatesOf, List.mem_append, hself, hbelow, ih, List.exists_mem_cons_iff]

theorem mem_placesOf {place : Place} : place ∈ placesOf entries ↔
    ∃ e ∈ entries, ∃ below ∈ e.2.places, place = below.inside e.1 := by
  induction entries with
  | nil => simp [placesOf]
  | cons e entries ih =>
    obtain ⟨name, item⟩ := e
    have hbelow : place ∈ item.places.map (·.inside name) ↔
        ∃ below ∈ item.places, place = below.inside name := by simp only [List.mem_map, eq_comm]
    simp only [placesOf, List.mem_append, hbelow, ih, List.exists_mem_cons_iff]

/-- Candidates are what is named like a source file and lies in an item behind no link. -/
theorem mem_candidates (h : item.IsProper) :
    names ∈ item.candidates ↔ (item.at? names).isSome ∧ EndsLikeSource names := by
  induction names generalizing item with
  | nil =>
    have hnil : ¬ EndsLikeSource [] := fun ⟨_, hlast, _⟩ => by cases hlast
    cases item <;> simp [candidates, mem_candidatesOf, hnil]
  | cons name rest ih =>
    cases h with
    | file => simp [candidates, Item.at?, child?, Item.entries]
    | link => simp [candidates, Item.at?, child?, Item.entries]
    | @directory entries hdistinct _ hitems =>
      rw [candidates, mem_candidatesOf]
      constructor
      · rintro ⟨e, he, ⟨hsource, hnames⟩ | ⟨rest', hrest, hnames⟩⟩
        · obtain ⟨rfl, rfl⟩ := List.cons.inj hnames
          rw [at?_cons_of_child? (child?_of_mem hdistinct he)]
          exact ⟨rfl, e.1, rfl, hsource⟩
        · obtain ⟨rfl, rfl⟩ := List.cons.inj hnames
          obtain ⟨hat, last, hlast, hsource⟩ := (ih (hitems e he)).mp hrest
          rw [at?_cons_of_child? (child?_of_mem hdistinct he)]
          refine ⟨hat, last, ?_, hsource⟩
          rw [List.getLast?_cons, hlast]
          rfl
      · rintro ⟨hat, last, hlast, hsource⟩
        obtain ⟨c, hchild, hat⟩ := exists_child?_of_at?_cons hat
        have hmem := mem_of_child? hchild
        refine ⟨(name, c), hmem, ?_⟩
        cases rest with
        | nil =>
          cases hlast
          exact Or.inl ⟨hsource, rfl⟩
        | cons next rest =>
          rw [List.getLast?_cons_cons] at hlast
          exact Or.inr ⟨next :: rest, (ih (hitems _ hmem)).mpr ⟨hat, last, hlast, hsource⟩, rfl⟩

/-- Places are what paths lead through in an item, behind no link. -/
theorem mem_places (h : item.IsProper) {kind : PlaceKind} :
    ⟨names, kind⟩ ∈ item.places ↔ ∃ b, item.branchAt? names = some b ∧ b.kind = kind := by
  induction names generalizing item with
  | nil =>
    have hinside (name : String) (below : Place) : ⟨[], kind⟩ ≠ below.inside name := nofun
    cases item <;>
      simp [places, mem_placesOf, hinside, branchAt?, Item.at?, branch?, Branch.kind, eq_comm]
  | cons name rest ih =>
    cases h with
    | file => simp [places, branchAt?, Item.at?, child?, Item.entries]
    | link => simp [places, branchAt?, Item.at?, child?, Item.entries]
    | @directory entries hdistinct _ hitems =>
      have hcons : ⟨name :: rest, kind⟩ ∈ (directory entries).places ↔
          ⟨name :: rest, kind⟩ ∈ placesOf entries := by simp [places]
      rw [hcons, mem_placesOf]
      constructor
      · rintro ⟨e, he, ⟨rest', kind'⟩, hrest, hplace⟩
        obtain ⟨hnames, rfl⟩ := Place.mk.inj hplace
        obtain ⟨rfl, rfl⟩ := List.cons.inj hnames
        rw [branchAt?, at?_cons_of_child? (child?_of_mem hdistinct he)]
        exact (ih (hitems e he)).mp hrest
      · rintro ⟨b, hbranch, hkind⟩
        obtain ⟨c, hchild, -⟩ := exists_child?_of_at?_cons
          (Option.isSome_of_isSome_bind (by rw [← branchAt?, hbranch]; rfl))
        rw [branchAt?, at?_cons_of_child? hchild] at hbranch
        have hmem := mem_of_child? hchild
        exact ⟨(name, c), hmem, _, (ih (hitems _ hmem)).mpr ⟨b, hbranch, hkind⟩, rfl⟩

theorem mem_places_directory (h : item.IsProper) :
    ⟨names, .directory⟩ ∈ item.places ↔ ∃ entries, item.at? names = some (directory entries) := by
  rw [mem_places h, ← branchAt?_eq_directory]
  constructor
  · rintro ⟨_ | _, hbranch, hkind⟩
    · exact hbranch
    · cases hkind
  · exact fun hbranch => ⟨.directory, hbranch, rfl⟩

theorem mem_places_link (h : item.IsProper) :
    ⟨names, .link⟩ ∈ item.places ↔ ∃ target, item.at? names = some (link target) := by
  rw [mem_places h]
  constructor
  · rintro ⟨_ | target, hbranch, hkind⟩
    · cases hkind
    · exact ⟨target, branchAt?_eq_link.mp hbranch⟩
  · rintro ⟨target, hat⟩
    exact ⟨.link target, branchAt?_eq_link.mpr hat, rfl⟩

theorem nodup_candidatesOf (hdistinct : Table.NamesDistinct entries)
    (hitems : ∀ e ∈ entries, e.2.candidates.Nodup ∧ [] ∉ e.2.candidates) :
    (candidatesOf entries).Nodup := by
  induction entries with
  | nil => simp [candidatesOf]
  | cons e entries ih =>
    obtain ⟨name, item⟩ := e
    obtain ⟨hfresh, hdistinct⟩ := Table.namesDistinct_cons.mp hdistinct
    obtain ⟨⟨hnodup, hnil⟩, hitems⟩ := List.forall_mem_cons.mp hitems
    have hcons : (item.candidates.map (name :: ·)).Nodup :=
      hnodup.map fun _ _ h => (List.cons.inj h).2
    -- What comes from the entries behind begins with another name.
    have hrest : ∀ names ∈ candidatesOf entries, ∀ rest, names ≠ name :: rest := by
      rintro names hnames rest rfl
      obtain ⟨e, he, hcase⟩ := mem_candidatesOf.mp hnames
      have hname : name = e.1 := by
        obtain ⟨-, heq⟩ | ⟨_, -, heq⟩ := hcase
        · exact (List.cons.inj heq).1
        · exact (List.cons.inj heq).1
      exact hfresh (List.mem_map.mpr ⟨e, he, hname.symm⟩)
    rw [candidatesOf]
    refine List.nodup_append.mpr ⟨List.nodup_append.mpr ⟨?_, hcons, ?_⟩, ih hdistinct hitems, ?_⟩
    · split <;> simp
    · rintro names hnames _ hbelow rfl
      obtain ⟨rest, hmem, rfl⟩ := List.mem_map.mp hbelow
      split at hnames
      · rw [List.mem_singleton, List.cons.injEq] at hnames
        exact hnil (hnames.2 ▸ hmem)
      · cases hnames
    · rintro names hnames _ hlater rfl
      rcases List.mem_append.mp hnames with hnames | hnames
      · split at hnames
        · exact hrest names hlater [] (List.mem_singleton.mp hnames)
        · cases hnames
      · obtain ⟨rest, -, rfl⟩ := List.mem_map.mp hnames
        exact hrest _ hlater rest rfl

theorem nodup_candidates (h : item.IsProper) : item.candidates.Nodup := by
  induction h with
  | file => exact List.nodup_nil
  | link => exact List.nodup_nil
  | @directory entries hdistinct _ hitems ih =>
    refine nodup_candidatesOf hdistinct fun e he => ⟨ih e he, fun hmem => ?_⟩
    obtain ⟨-, last, hlast, -⟩ := (mem_candidates (hitems e he)).mp hmem
    cases hlast

-- ---------------------------------------------------------------------------
-- Where names lead
-- ---------------------------------------------------------------------------

section Walk

variable {there : Location} {ends : Bool}

theorem enter_ends (top : Item) (ends ends' : Bool) (here : Location) (name : String) :
    enter top false ends here name = enter top false ends' here name := by
  simp only [enter, Bool.false_and]

/-- Where a path has to lead to something, no step ends it. -/
theorem enter_ne_reached : enter top false ends here name ≠ .reached there := by
  intro h
  simp only [enter, Bool.false_and] at h
  grind

/-- A path that leads somewhere can be gone on from there, with the links that are left. -/
theorem exists_walk_append {names : List String} (h : walk top false links here names = .ok there) :
    ∃ links', ∀ rest,
      walk top false links here (names ++ rest) = walk top false links' there rest := by
  induction links, here, names using walk.induct top false with
  | case1 links here =>
    rw [walk] at h
    cases h
    exact ⟨links, fun _ => rfl⟩
  | case2 links here name rest reached henter => exact absurd henter enter_ne_reached
  | case3 links here name rest passed henter ih =>
    rw [walk, henter] at h
    obtain ⟨links', hwalk⟩ := ih h
    refine ⟨links', fun ys => ?_⟩
    rw [List.cons_append, walk, enter_ends top _ rest.isEmpty, henter]
    exact hwalk ys
  | case4 links here name rest e henter =>
    rw [walk, henter] at h
    cases h
  | case5 here name rest passed target henter =>
    rw [walk, henter] at h
    cases h
  | case6 here name rest passed target henter links ih =>
    rw [walk, henter] at h
    obtain ⟨links', hwalk⟩ := ih h
    refine ⟨links', fun ys => ?_⟩
    rw [List.cons_append, walk, enter_ends top _ rest.isEmpty, henter]
    simp only [← List.append_assoc]
    exact hwalk ys

theorem enter_entry (h : top.at? here = some item) (hname : IsEntryName name)
    (hchild : item.child? name = some c) (hlink : ∀ target, c ≠ link target) :
    enter top false ends here name = .passed (here ++ [name]) := by
  obtain ⟨entries, rfl⟩ := eq_directory_of_child? hchild
  simp only [enter, h, if_neg hname.ne_self, if_neg hname.ne_parent,
    if_neg (Nat.not_lt.mpr hname.short), hchild]

/-- Names that lead to an item behind no link, and that is no link itself, lead to its place. -/
theorem walk_below (hproper : item.IsProper) (h : top.at? here = some item)
    (hc : item.at? names = some c) (hlink : ∀ target, c ≠ link target) :
    walk top false links here names = .ok (here ++ names) := by
  induction names generalizing here item with
  | nil => rw [walk, List.append_nil]
  | cons name names ih =>
    obtain ⟨d, hchild, -⟩ := exists_child?_of_at?_cons (by rw [hc]; rfl)
    obtain ⟨hname, hd⟩ := hproper.child hchild
    rw [at?_cons_of_child? hchild] at hc
    -- A link on the way would have nothing behind it.
    have hdlink (target : String) : d ≠ link target := by
      rintro rfl
      cases names with
      | nil => exact hlink target (Option.some.inj hc).symm
      | cons => cases hc
    have hthere : top.at? (here ++ [name]) = some d := by
      rw [at?_child, h]
      exact hchild
    rw [walk, enter_entry h hname hchild hdlink]
    simp only [ih hd hthere hc, List.append_assoc, List.singleton_append]

end Walk

end Item

namespace Path

theorem nul_mem_intercalate {names : List String} :
    '\x00' ∈ ("/".intercalate names).toList ↔ ∃ name ∈ names, '\x00' ∈ name.toList := by
  induction names with
  | nil => simp
  | cons name names ih =>
    cases names with
    | nil => simp
    | cons next names =>
      have hslash : '\x00' ∉ "/".toList := by decide
      rw [List.exists_mem_cons_iff, String.intercalate_cons_cons, String.toList_append,
        String.toList_append, List.mem_append, List.mem_append, ih, or_iff_left hslash]

theorem nul_mem_toString {p : Path} :
    '\x00' ∈ p.toString.toList ↔ ∃ name ∈ p.parts, '\x00' ∈ name.toList := by
  have hstart : '\x00' ∉ p.start.text.toList := by cases p.start <;> decide
  unfold toString
  split
  · next h => simp [h.2]
  · rw [String.toList_append, List.mem_append, nul_mem_intercalate, or_iff_right hstart]

end Path

namespace FileSystem

variable {fs : FileSystem} {p directory : Path} {item c : Item} {base here names : Location}

theorem locate_eq_ok_iff {making : Bool} : fs.locate making p = .ok here ↔
    '\x00' ∉ p.toString.toList ∧ p.toString.utf8ByteSize ≤ pathLimit ∧
      walk fs.top making linkLimit (fs.startOf p) p.parts = .ok here := by
  unfold locate
  split
  · next h => simp_all
  · split
    · next h => simp [Nat.not_le.mpr h]
    · simp_all [mapError_eq_ok]

theorem item?_eq_some : fs.item? p = .ok (some item) ↔
    ∃ here, fs.locate false p = .ok here ∧ fs.top.at? here = some item := by
  unfold item?
  rcases fs.locate false p with (_ | ⟨e, path⟩) | here
  · simp
  · cases e <;> simp [SystemError.meansAbsent]
  · simp

/-- An item below a directory, behind no link and no link itself, is found in its place, unless the
path is too long. -/
theorem locate_below (hproper : fs.top.IsProper) (hbase : fs.locate false directory = .ok base)
    (hitem : fs.top.at? base = some item) (hc : item.at? names = some c)
    (hlink : ∀ target, c ≠ .link target) :
    fs.locate false (directory.below names) =
      if pathLimit < (directory.below names).toString.utf8ByteSize then
        .error (.system .nameTooLong (directory.below names).toString)
      else .ok (base ++ names) := by
  obtain ⟨hnul, -, hwalk⟩ := locate_eq_ok_iff.mp hbase
  have hbelow : '\x00' ∉ (directory.below names).toString.toList := by
    rw [Path.nul_mem_toString] at hnul ⊢
    rintro ⟨name, hname, hmem⟩
    rcases List.mem_append.mp hname with hname | hname
    · exact hnul ⟨name, hname, hmem⟩
    · exact (hproper.at? hitem).noNul (by rw [hc]; rfl) name hname hmem
  have hthere : walk fs.top false linkLimit (fs.startOf directory) (directory.parts ++ names) =
      .ok (base ++ names) := by
    obtain ⟨links, hrest⟩ := Item.exists_walk_append hwalk
    rw [hrest]
    exact Item.walk_below (hproper.at? hitem) hitem hc hlink
  rw [locate, if_neg (by simpa using hbelow)]
  split
  · rfl
  · exact mapError_eq_ok.mpr hthere

end FileSystem

end UnsafeCensus.Files
