import UnsafeCensus.Proofs.Files.Search

/-!
# What a search finds

A search finds the source files that lie below a directory, behind no link to a directory, and
breaks off only at a path that is too long. Files come in the order of the names that lead to them.
One that is no link has its location from its names, so such files are in order and there once; a
link has it from elsewhere, and what it gives is in order only by chance.
-/

namespace UnsafeCensus.Files

namespace FileSystem

variable {fs : FileSystem} {directory p : Path} {names location : Location}

-- ---------------------------------------------------------------------------
-- Which files are found
-- ---------------------------------------------------------------------------

/-- What is no link is in its place below the place of the directory. -/
theorem locate_of_below (hproper : fs.top.IsProper) {base : Location} {c : Item}
    (hbase : fs.locate false directory = .ok base) (h : fs.Below directory names c)
    (hlink : ∀ target, c ≠ .link target)
    (hshort : (directory.below names).toString.utf8ByteSize ≤ pathLimit) :
    fs.locate false (directory.below names) = .ok (base ++ names) ∧
      fs.top.at? (base ++ names) = some c := by
  obtain ⟨item, hitem, hc⟩ := h
  obtain ⟨here, hlocate, hat⟩ := item?_eq_some.mp hitem
  cases hbase.symm.trans hlocate
  rw [locate_below hproper hbase hat hc hlink, if_neg (Nat.not_lt.mpr hshort), Item.at?_append, hat]
  exact ⟨rfl, hc⟩

/-- A link in front of two source files, one of which lies in a directory that is named like one. -/
def linkedTo (target : String) : FileSystem :=
  ⟨.directory [("a.rs", .link target), ("a.txt", .file []),
    ("dir.rs", .directory [("m.rs", .file [])]), ("z.rs", .file [])], []⟩

theorem isProper_linkedTo (target : String) : (linkedTo target).top.IsProper := by
  have hdir : (Item.directory [("m.rs", .file [])]).IsProper :=
    Item.isProper_directory_cons (by decide) (by decide) (.file []) Item.isProper_directory_nil
  apply Item.isProper_directory_cons (by decide) (by decide) (.link target)
  apply Item.isProper_directory_cons (by decide) (by decide) (.file [])
  apply Item.isProper_directory_cons (by decide) (by decide) hdir
  exact Item.isProper_directory_cons (by decide) (by decide) (.file []) Item.isProper_directory_nil

theorem locate_linkedTo (target : String) :
    ∀ names ∈ [[], ["dir.rs"], ["dir.rs", "m.rs"], ["z.rs"]],
      (linkedTo target).locate false ⟨.here, names⟩ = .ok names := by
  simp +decide [linkedTo, locate, startOf, Path.toString, Start.text, walk, enter, Item.at?,
    Item.child?, Item.entries, mapError_ok]

theorem sortedLocations_linkedTo (target : String) :
    sortedLocations (linkedTo target).top.candidates =
      [["a.rs"], ["dir.rs"], ["dir.rs", "m.rs"], ["z.rs"]] := by
  have hcandidates : (linkedTo target).top.candidates =
      [["a.rs"], ["dir.rs"], ["dir.rs", "m.rs"], ["z.rs"]] := by
    simp +decide [linkedTo, Item.candidates, Item.candidatesOf]
  rw [hcandidates]
  apply List.mergeSort_of_pairwise
  decide +kernel

theorem search_linkedTo (target : String) :
    (linkedTo target).search ⟨.here, []⟩ =
      match (linkedTo target).refusal? ⟨.here, [".", "a.rs"]⟩ with
      | some f => ⟨[], some f⟩
      | none =>
        match (linkedTo target).fileAt? ⟨.here, ["a.rs"]⟩ with
        | .ok found => ⟨found.toList ++ [["dir.rs", "m.rs"], ["z.rs"]], none⟩
        | .error f => ⟨[], some f⟩ := by
  have hlocated := locate_linkedTo target
  simp only [List.forall_mem_cons, List.not_mem_nil, false_implies, implies_true,
    and_true] at hlocated
  obtain ⟨htop, hdir, hm, hz⟩ := hlocated
  have hitem : (linkedTo target).item? ⟨.here, []⟩ = .ok (some (linkedTo target).top) :=
    item?_eq_some.mpr ⟨_, htop, rfl⟩
  have hplaces : (linkedTo target).top.places =
      [⟨[], .directory⟩, ⟨["a.rs"], .link⟩, ⟨["dir.rs"], .directory⟩] := rfl
  have htopAnswered : (linkedTo target).refusal? ⟨.here, []⟩ = none := refusal?_of_located htop
  have hdirAnswered : (linkedTo target).refusal? ⟨.here, ["dir.rs"]⟩ = none :=
    refusal?_of_located hdir
  have hdirFile : (linkedTo target).fileAt? ⟨.here, ["dir.rs"]⟩ = .ok none := by
    rw [fileAt?, item?, hdir]
    rfl
  have hmFile : (linkedTo target).fileAt? ⟨.here, ["dir.rs", "m.rs"]⟩ =
      .ok (some ["dir.rs", "m.rs"]) := by
    rw [fileAt?, item?, hm]
    rfl
  have hzFile : (linkedTo target).fileAt? ⟨.here, ["z.rs"]⟩ = .ok (some ["z.rs"]) := by
    rw [fileAt?, item?, hz]
    rfl
  rw [search_of_item? hitem, sortedLocations_linkedTo, hplaces]
  cases hlink : (linkedTo target).refusal? ⟨.here, [".", "a.rs"]⟩ with
  | some f => simp [Path.to, Path.below, htopAnswered, hlink]
  | none =>
    cases h : (linkedTo target).fileAt? ⟨.here, ["a.rs"]⟩ with
    | error f => simp [visit, Path.to, Path.below, htopAnswered, hlink, hdirAnswered, h]
    | ok found =>
      simp [visit, Path.to, Path.below, htopAnswered, hlink, hdirAnswered, h, hdirFile, hmFile,
        hzFile]

/-- A link to a file beside it can be followed. -/
theorem link_linkedTo {target : String} (htarget : target ∈ ["a.txt", "z.rs"]) :
    (linkedTo target).refusal? ⟨.here, [".", "a.rs"]⟩ = none ∧
      (linkedTo target).fileAt? ⟨.here, ["a.rs"]⟩ = .ok (some [target]) := by
  rcases List.mem_pair.mp htarget with rfl | rfl <;>
    simp +decide [linkedTo, refusal?, fileAt?, item?, locate, startOf, Path.toString, Start.text,
      walk, enter, Item.at?, Item.child?, Item.entries, linkComponents, linkLimit, components,
      splitSlashes, mapError_ok, Except.toOption]

theorem search_linkedTo_text : (linkedTo "a.txt").search ⟨.here, []⟩ =
    ⟨[["a.txt"], ["dir.rs", "m.rs"], ["z.rs"]], none⟩ := by
  obtain ⟨hanswered, hfile⟩ := link_linkedTo (List.mem_cons_self : "a.txt" ∈ ["a.txt", "z.rs"])
  rw [search_linkedTo, hanswered, hfile]
  rfl

/-- Names that lead to a link below a directory. -/
def IsLink (fs : FileSystem) (directory : Path) (names : Location) : Prop :=
  ∃ target, fs.Below directory names (.link target)

/-- A file that is no link has its location from its names. -/
theorem Sought.eq_append (hproper : fs.top.IsProper) {base : Location}
    (hbase : fs.locate false directory = .ok base) (h : fs.Sought directory names location)
    (hlink : ¬ fs.IsLink directory names) : location = base ++ names := by
  obtain ⟨c, hbelow⟩ := h.below
  have hc (target : String) : c ≠ .link target := fun hc => hlink ⟨target, hc ▸ hbelow⟩
  have hshort := (locate_eq_ok_iff.mp h.located).2.1
  have hplace := (locate_of_below hproper hbase hbelow hc hshort).1
  exact Except.ok.inj (h.located.symm.trans hplace)

/-- Files in order have their locations in this order, and so only links matter. -/
theorem pairwise_found_iff_of_links (hproper : fs.top.IsProper) {r : Location → Location → Prop}
    (hr : ∀ l l', l < l' → r l l') :
    (fs.search directory).found.Pairwise r ↔
      ∀ m n l l', fs.Given directory m l → fs.Given directory n l' → m < n →
        (fs.IsLink directory m ∨ fs.IsLink directory n) → r l l' := by
  rw [pairwise_found_iff hproper]
  constructor
  · intro h m n l l' hm hn hlt _
    exact h m n l l' hm hn hlt
  · intro h m n l l' hm hn hlt
    by_cases hlink : fs.IsLink directory m ∨ fs.IsLink directory n
    · exact h m n l l' hm hn hlt hlink
    -- Both are in their places, and the places are in the order of the names.
    obtain ⟨hm', hn'⟩ := not_or.mp hlink
    obtain ⟨item, hitem⟩ := item?_of_below hm.below.choose_spec
    obtain ⟨base, hbase, -⟩ := item?_eq_some.mp hitem
    rw [hm.eq_append hproper hbase hm', hn.eq_append hproper hbase hn']
    exact hr _ _ (append_lt_append_iff.mpr hlt)

/-- What is given is in order iff links do not lead out of it, and there once iff links do not lead
to what is given besides. -/
theorem found_in_order_iff (hproper : fs.top.IsProper) (directory : Path) :
    (InOrder (fs.search directory).found ↔
      ∀ m n l l', fs.Given directory m l → fs.Given directory n l' → m < n →
        (fs.IsLink directory m ∨ fs.IsLink directory n) → l < l') ∧
    ((fs.search directory).found.Nodup ↔
      ∀ m n l l', fs.Given directory m l → fs.Given directory n l' → m < n →
        (fs.IsLink directory m ∨ fs.IsLink directory n) → l ≠ l') := by
  rw [inOrder_iff]
  refine ⟨?_, ?_⟩
  · exact pairwise_found_iff_of_links hproper fun l l' hlt => hlt
  · exact pairwise_found_iff_of_links hproper fun l l' hlt => hlt.ne

/-- The link leads between what is in front of it and what is behind it. -/
theorem search_linkedTo_text_in_order : (linkedTo "a.txt").top.IsProper ∧
    InOrder ((linkedTo "a.txt").search ⟨.here, []⟩).found ∧
    ∀ m n l l', (linkedTo "a.txt").Given ⟨.here, []⟩ m l → (linkedTo "a.txt").Given ⟨.here, []⟩ n l' →
      m < n → ((linkedTo "a.txt").IsLink ⟨.here, []⟩ m ∨ (linkedTo "a.txt").IsLink ⟨.here, []⟩ n) →
      l < l' := by
  have horder : InOrder ((linkedTo "a.txt").search ⟨.here, []⟩).found := by
    rw [search_linkedTo_text]
    decide +kernel
  have hiff := (found_in_order_iff (isProper_linkedTo "a.txt") ⟨.here, []⟩).1
  exact ⟨isProper_linkedTo "a.txt", horder, hiff.mp horder⟩

/-- A link to a file that is behind it gives the file too early, and twice. -/
theorem file_behind_link_given_twice : (linkedTo "z.rs").top.IsProper ∧
    ((linkedTo "z.rs").search ⟨.here, []⟩).found = [["z.rs"], ["dir.rs", "m.rs"], ["z.rs"]] ∧
    ¬ InOrder ((linkedTo "z.rs").search ⟨.here, []⟩).found ∧
    ¬ ((linkedTo "z.rs").search ⟨.here, []⟩).found.Nodup := by
  obtain ⟨hanswered, hfile⟩ :=
    link_linkedTo (List.mem_of_mem_tail List.mem_cons_self : "z.rs" ∈ ["a.txt", "z.rs"])
  have hfound : ((linkedTo "z.rs").search ⟨.here, []⟩).found =
      [["z.rs"], ["dir.rs", "m.rs"], ["z.rs"]] := by
    rw [search_linkedTo, hanswered, hfile]
    rfl
  rw [hfound]
  exact ⟨isProper_linkedTo "z.rs", rfl, by decide +kernel, by decide⟩

end FileSystem

end UnsafeCensus.Files
