import UnsafeCensus.Journal.Logger

/-!
# The loggers below the top of the tree

The messages of a logger pass the top of the tree if its name says so, and its name does: all names
that may stand above it are below the top themselves. It is not so for the names that have a second
dot where the top's name ends. Their place depends on which other loggers there are.
-/

namespace UnsafeCensus.Journal

variable {name above : String} {s : State}

-- ---------------------------------------------------------------------------
-- Names
-- ---------------------------------------------------------------------------

/-- The name of the top, a dot, and what does not begin with a dot. -/
def IsBelow (name : String) : Prop :=
  ∃ rest : List Char, name.toList = rootName.toList ++ '.' :: rest ∧ rest.head? ≠ some '.'

theorem getLast?_ne_of_cons {a : Char} {l : List Char} (h : (a :: l).getLast? ≠ some '.') :
    l.getLast? ≠ some '.' := by
  cases l with
  | nil => nofun
  | cons b l => rwa [List.getLast?_cons_cons] at h

theorem cuts_eq_nil {l : List Char} (h : '.' ∉ l) : cuts l = [] := by
  induction l using cuts.induct with
  | case1 c rest ih => exact absurd List.mem_cons_self h
  | case2 c rest hdot ih =>
    rw [cuts]
    · exact ih fun hmem => h (List.mem_cons_of_mem c hmem)
    · exact hdot
  | case3 => rw [cuts]

/-- A dot behind a last name is never the character that is passed over, unless a dot follows. -/
theorem cuts_of_last {top front : List Char} (htop : '.' ∉ top) (hne : top ≠ [])
    (hfront : front.getLast? ≠ some '.') :
    top ∈ cuts (front ++ '.' :: top) ∧
      ∀ c ∈ cuts (front ++ '.' :: top),
        c = top ∨ ∃ front', c = front' ++ '.' :: top ∧ front'.getLast? ≠ some '.' := by
  induction front using cuts.induct with
  | case1 c rest ih =>
    have hc : (c :: rest).getLast? ≠ some '.' := getLast?_ne_of_cons hfront
    obtain ⟨hmem, hall⟩ := ih (getLast?_ne_of_cons hc)
    rw [List.cons_append, List.cons_append, cuts]
    refine ⟨List.mem_cons_of_mem _ hmem, fun d hd => ?_⟩
    rcases List.mem_cons.mp hd with rfl | hd
    · exact Or.inr ⟨c :: rest, rfl, hc⟩
    · exact hall d hd
  | case2 c rest hdot ih =>
    have hrest := getLast?_ne_of_cons hfront
    have hc : c ≠ '.' := by
      rintro rfl
      cases rest with
      | nil => exact hfront rfl
      | cons d rest => exact hdot d rest rfl rfl
    rw [List.cons_append, cuts]
    · exact ih hrest
    · exact fun _ _ hdot => absurd hdot hc
  | case3 =>
    obtain ⟨d, rest, rfl⟩ := List.exists_cons_of_ne_nil hne
    rw [List.nil_append, cuts, cuts_eq_nil fun hmem => htop (List.mem_cons_of_mem d hmem)]
    refine ⟨List.mem_singleton_self _, fun c hc => Or.inl (List.mem_singleton.mp hc)⟩

theorem namesAbove_of_isBelow (h : IsBelow name) :
    rootName ∈ namesAbove name ∧
      ∀ above ∈ namesAbove name, above = rootName ∨ IsBelow above := by
  obtain ⟨rest, hname, hrest⟩ := h
  have hreverse : name.toList.reverse = rest.reverse ++ '.' :: rootName.toList.reverse := by
    simp [hname]
  have hlast : rest.reverse.getLast? ≠ some '.' := by
    rwa [List.getLast?_reverse]
  have hdot : '.' ∉ rootName.toList.reverse := by decide +kernel
  obtain ⟨hmem, hall⟩ := cuts_of_last hdot (by decide +kernel) hlast
  rw [namesAbove, hreverse]
  constructor
  · refine List.mem_map.mpr ⟨_, hmem, ?_⟩
    rw [List.reverse_reverse, String.ofList_toList]
  · intro above habove
    obtain ⟨c, hc, rfl⟩ := List.mem_map.mp habove
    rcases hall c hc with rfl | ⟨front, rfl, hfront⟩
    · exact Or.inl (by rw [List.reverse_reverse, String.ofList_toList])
    · refine Or.inr ⟨front.reverse, ?_, ?_⟩
      · simp
      · rwa [List.head?_reverse]

theorem ne_rootName_of_isBelow (h : IsBelow name) : name ≠ rootName := by
  rintro rfl
  obtain ⟨rest, hname, -⟩ := h
  have hlength := congrArg List.length hname
  simp at hlength

-- ---------------------------------------------------------------------------
-- The way to the top
-- ---------------------------------------------------------------------------

namespace State

theorem lineage_of_above (h : s.above? name = some above) :
    s.lineage name = name :: s.lineage above := by
  rw [lineage]
  split
  · next hfound => rw [Option.some.inj (h.symm.trans hfound)]
  · next hfound => rw [h] at hfound; cases hfound

theorem lineage_of_not_above (h : s.above? name = none) : s.lineage name = [name] := by
  rw [lineage]
  split
  · next hfound => rw [h] at hfound; cases hfound
  · rfl

theorem lineage_rootName (s : State) : s.lineage rootName = [rootName] := by
  have hnone : namesAbove rootName = [] := by decide +kernel
  apply lineage_of_not_above
  rw [above?, hnone, List.find?_nil]

/-- Once there is a logger at the top, the messages of all that are below come to it, and pass
nothing but what is below it on their way. -/
theorem lineage_of_isBelow (hroot : s.loggers.has rootName = true) (h : IsBelow name) :
    ∃ below, s.lineage name = below ++ [rootName] ∧ ∀ n ∈ below, IsBelow n := by
  induction hn : name.toList.length using Nat.strongRecOn generalizing name with
  | ind n ih =>
    subst hn
    obtain ⟨hmem, hall⟩ := namesAbove_of_isBelow h
    obtain ⟨above, habove⟩ : ∃ above, s.above? name = some above :=
      Option.isSome_iff_exists.mp (List.find?_isSome.mpr ⟨rootName, hmem, hroot⟩)
    have hin : above ∈ namesAbove name := List.mem_of_find?_eq_some habove
    rw [lineage_of_above habove]
    rcases hall above hin with rfl | hbelow
    · refine ⟨[name], ?_, ?_⟩
      · rw [lineage_rootName]
        rfl
      · rintro n hn
        rw [List.mem_singleton.mp hn]
        exact h
    · obtain ⟨below, hlineage, hbelows⟩ := ih _ (length_lt_of_mem_namesAbove hin) hbelow rfl
      refine ⟨name :: below, ?_, ?_⟩
      · rw [hlineage]
        rfl
      · rintro n hn
        rcases List.mem_cons.mp hn with rfl | hn
        · exact h
        · exact hbelows n hn

end State

end UnsafeCensus.Journal
