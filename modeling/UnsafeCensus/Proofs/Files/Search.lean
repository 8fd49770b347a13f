import UnsafeCensus.Proofs.Files.Below
import UnsafeCensus.Proofs.Files.Order

/-!
# The course of a search

A search asks about the directory, the directories and links below it and the candidates, and breaks
off at the first of them that is refused. Up to there, it gives the locations of the candidates that
lead to files, one for each of them, in the order of the names.
-/

namespace UnsafeCensus.Files

namespace FileSystem

variable {fs : FileSystem} {directory p : Path} {item : Item} {f : AccessFault}
  {names location : Location}

-- ---------------------------------------------------------------------------
-- Paths that cannot be asked about
-- ---------------------------------------------------------------------------

theorem refusal?_eq_some : fs.refusal? p = some f ↔ fs.item? p = .error f := by
  unfold refusal?
  split <;> simp_all

theorem refusal?_eq_none : fs.refusal? p = none ↔ ∃ found, fs.item? p = .ok found := by
  unfold refusal?
  split <;> simp_all

/-- The location of the file that a path leads to. -/
def target? (fs : FileSystem) (p : Path) : Option Location :=
  match fs.item? p with
  | .ok (some (.file _)) => (fs.locate false p).toOption
  | _ => none

theorem target?_eq_some : fs.target? p = some location ↔
    fs.locate false p = .ok location ∧ ∃ content, fs.top.at? location = some (.file content) := by
  unfold target?
  constructor
  · intro h
    split at h
    · next content hitem =>
      obtain ⟨here, hlocate, hat⟩ := item?_eq_some.mp hitem
      rw [hlocate] at h
      cases h
      exact ⟨hlocate, content, hat⟩
    · cases h
  · rintro ⟨hlocate, content, hat⟩
    rw [item?_eq_some.mpr ⟨location, hlocate, hat⟩, hlocate]
    rfl

theorem fileAt?_of_refused (h : fs.refusal? p = some f) : fs.fileAt? p = .error f := by
  rw [fileAt?, refusal?_eq_some.mp h]

theorem fileAt?_of_answered (h : fs.refusal? p = none) : fs.fileAt? p = .ok (fs.target? p) := by
  obtain ⟨found, hitem⟩ := refusal?_eq_none.mp h
  rw [fileAt?, target?, hitem]
  rcases found with _ | ⟨_⟩ | ⟨_⟩ | ⟨_⟩ <;> rfl

/-- What is given is what is found in front of the first candidate that is refused. -/
theorem found_visit (fs : FileSystem) (directory : Path) (candidates : List Location) :
    (fs.visit directory candidates).found =
      (candidates.takeWhile fun names => (fs.refusal? (directory.below names)).isNone).filterMap
        fun names => fs.target? (directory.below names) := by
  induction candidates with
  | nil => rfl
  | cons names rest ih =>
    rw [visit, List.takeWhile_cons]
    cases h : fs.refusal? (directory.below names) with
    | none =>
      rw [fileAt?_of_answered h, Option.isNone_none, if_pos rfl, List.filterMap_cons]
      cases fs.target? (directory.below names) with
      | none => exact ih
      | some location => exact congrArg (location :: ·) ih
    | some f =>
      rw [fileAt?_of_refused h]
      rfl

-- ---------------------------------------------------------------------------
-- What is sought, and what is given
-- ---------------------------------------------------------------------------

/-- Names lead to something in what a path leads to, behind no link. -/
def Below (fs : FileSystem) (directory : Path) (names : Location) (c : Item) : Prop :=
  ∃ item, fs.item? directory = .ok (some item) ∧ item.at? names = some c

/-- Names that lead to a source file below a directory, maybe through a link at their end, and the
location of the file. -/
structure Sought (fs : FileSystem) (directory : Path) (names location : Location) : Prop where
  below : ∃ c, fs.Below directory names c
  named : Item.EndsLikeSource names
  located : fs.locate false (directory.below names) = .ok location
  file : ∃ content, fs.top.at? location = some (.file content)

/-- The paths that a search asks about while it lists directories: these, and the links in them. -/
inductive Listed (fs : FileSystem) (directory : Path) : Path → Prop
  | directory {names : Location} {entries : List (String × Item)}
      (h : fs.Below directory names (.directory entries)) :
      Listed fs directory (directory.below names)
  | link {names : Location} {target : String} (h : fs.Below directory names (.link target)) :
      Listed fs directory (directory.to ⟨names, .link⟩)

/-- Names that are looked at once the directories are listed. -/
def Candidate (fs : FileSystem) (directory : Path) (names : Location) : Prop :=
  (∃ c, fs.Below directory names c) ∧ Item.EndsLikeSource names

/-- Names whose location a search gives: nothing that is asked about before is refused. -/
structure Given (fs : FileSystem) (directory : Path) (names location : Location) : Prop extends
    Sought fs directory names location where
  listed : ∀ p, fs.Listed directory p → fs.refusal? p = none
  before : ∀ earlier, fs.Candidate directory earlier → earlier < names →
    fs.refusal? (directory.below earlier) = none

theorem item?_of_below {c : Item} (h : fs.Below directory names c) :
    ∃ item, fs.item? directory = .ok (some item) :=
  ⟨h.choose, h.choose_spec.1⟩

theorem below_iff (h : fs.item? directory = .ok (some item)) {c : Item} :
    fs.Below directory names c ↔ item.at? names = some c := by
  simp [Below, h]

theorem isProper_of_item? (hproper : fs.top.IsProper) (h : fs.item? p = .ok (some item)) :
    item.IsProper := by
  obtain ⟨here, -, hat⟩ := item?_eq_some.mp h
  exact hproper.at? hat

theorem candidate_iff (hitem : item.IsProper) (h : fs.item? directory = .ok (some item)) :
    fs.Candidate directory names ↔ names ∈ item.candidates := by
  simp only [Candidate, below_iff h, Item.mem_candidates hitem, Option.isSome_iff_exists]

theorem to_directory (p : Path) (names : Location) : p.to ⟨names, .directory⟩ = p.below names := by
  rcases names with _ | ⟨_, _ | _⟩ <;> rfl

theorem listed_iff (hitem : item.IsProper) (h : fs.item? directory = .ok (some item)) :
    fs.Listed directory p ↔ ∃ place ∈ item.places, p = directory.to place := by
  constructor
  · intro hlisted
    cases hlisted with
    | directory hbelow =>
      have hat := (below_iff h).mp hbelow
      exact ⟨_, (Item.mem_places_directory hitem).mpr ⟨_, hat⟩, (to_directory directory _).symm⟩
    | link hbelow =>
      have hat := (below_iff h).mp hbelow
      exact ⟨_, (Item.mem_places_link hitem).mpr ⟨_, hat⟩, rfl⟩
  · rintro ⟨⟨names, _ | _⟩, hplace, rfl⟩
    · obtain ⟨entries, hat⟩ := (Item.mem_places_directory hitem).mp hplace
      rw [to_directory]
      exact .directory ((below_iff h).mpr hat)
    · obtain ⟨target, hat⟩ := (Item.mem_places_link hitem).mp hplace
      exact .link ((below_iff h).mpr hat)

theorem refusal?_of_located (h : fs.locate false p = .ok location) : fs.refusal? p = none := by
  rw [refusal?, item?, h]

theorem given_iff (hitem : item.IsProper) (h : fs.item? directory = .ok (some item)) :
    fs.Given directory names location ↔
      names ∈ item.candidates ∧ fs.target? (directory.below names) = some location ∧
      (∀ place ∈ item.places, fs.refusal? (directory.to place) = none) ∧
      ∀ earlier ∈ item.candidates, earlier < names →
        fs.refusal? (directory.below earlier) = none := by
  simp only [← candidate_iff hitem h, target?_eq_some]
  constructor
  · rintro ⟨hsought, hlisted, hbefore⟩
    refine ⟨⟨hsought.below, hsought.named⟩, ⟨hsought.located, hsought.file⟩, ?_, hbefore⟩
    exact fun place hplace => hlisted _ ((listed_iff hitem h).mpr ⟨place, hplace, rfl⟩)
  · rintro ⟨⟨hbelow, hnamed⟩, ⟨hlocated, hfile⟩, hlisted, hbefore⟩
    refine ⟨⟨hbelow, hnamed, hlocated, hfile⟩, fun p hp => ?_, hbefore⟩
    obtain ⟨place, hplace, rfl⟩ := (listed_iff hitem h).mp hp
    exact hlisted place hplace

theorem search_of_item? (h : fs.item? directory = .ok (some item)) :
    fs.search directory =
      match item.places.findSome? fun place => fs.refusal? (directory.to place) with
      | some f => ⟨[], some f⟩
      | none => fs.visit directory (sortedLocations item.candidates) := by
  unfold search
  split
  · next hfault => cases h.symm.trans hfault
  · next hnone => cases h.symm.trans hnone
  · next found hfound =>
    cases h.symm.trans hfound
    rfl

theorem search_of_nothing (h : ∀ item, fs.item? directory ≠ .ok (some item)) :
    fs.search directory = ⟨[], fs.refusal? directory⟩ := by
  rw [search, refusal?]
  split
  · next f hf => rw [hf]
  · next hnone => rw [hnone]
  · next item hitem => exact absurd hitem (h item)

/-- What is given comes from names in order. -/
theorem exists_found_eq (hproper : fs.top.IsProper) (directory : Path) :
    ∃ route : List Location, route.Pairwise (· < ·) ∧
      (fs.search directory).found =
        route.filterMap (fun names => fs.target? (directory.below names)) ∧
      ∀ names location, names ∈ route ∧ fs.target? (directory.below names) = some location ↔
        fs.Given directory names location := by
  by_cases hnothing : ∀ item, fs.item? directory ≠ .ok (some item)
  · rw [search_of_nothing hnothing]
    refine ⟨[], .nil, rfl, fun names location => ⟨nofun, fun h => ?_⟩⟩
    obtain ⟨item, hitem⟩ := item?_of_below h.below.choose_spec
    exact absurd hitem (hnothing item)
  obtain ⟨item, hdirectory⟩ := not_forall_not.mp hnothing
  have hitem := isProper_of_item? hproper hdirectory
  have hsorted := pairwise_sortedLocations (Item.nodup_candidates hitem)
  rw [search_of_item? hdirectory]
  split
  · next f hrefused =>
    -- Nothing is given if the directories cannot be listed, whatever the candidates are.
    refine ⟨[], .nil, rfl, fun names location => ⟨nofun, fun h => ?_⟩⟩
    obtain ⟨place, hplace, hf⟩ := List.exists_of_findSome?_eq_some hrefused
    obtain ⟨-, -, hlisted, -⟩ := (given_iff hitem hdirectory).mp h
    exact nomatch (hlisted place hplace).symm.trans hf
  · next hanswered =>
    refine ⟨_, hsorted.sublist (List.takeWhile_sublist _), found_visit fs directory _, ?_⟩
    intro names location
    simp only [given_iff hitem hdirectory, mem_takeWhile_iff_of_pairwise hsorted,
      mem_sortedLocations, Option.isNone_iff_eq_none]
    constructor
    · rintro ⟨⟨hcandidate, -, hbefore⟩, htarget⟩
      exact ⟨hcandidate, htarget, List.findSome?_eq_none_iff.mp hanswered, hbefore⟩
    · rintro ⟨hcandidate, htarget, -, hbefore⟩
      have hlocated := (target?_eq_some.mp htarget).1
      exact ⟨⟨hcandidate, refusal?_of_located hlocated, hbefore⟩, htarget⟩

theorem pairwise_found_iff (hproper : fs.top.IsProper) {r : Location → Location → Prop} :
    (fs.search directory).found.Pairwise r ↔
      ∀ m n l l', fs.Given directory m l → fs.Given directory n l' → m < n → r l l' := by
  obtain ⟨route, hsorted, hfound, hroute⟩ := exists_found_eq hproper directory
  rw [hfound, List.pairwise_filterMap, pairwise_iff_of_pairwise hsorted]
  simp only [← hroute]
  constructor
  · rintro h m n l l' ⟨hm, hl⟩ ⟨hn, hl'⟩ hlt
    exact h m hm n hn hlt l hl l' hl'
  · intro h m hm n hn hlt l hl l' hl'
    exact h m n l l' ⟨hm, hl⟩ ⟨hn, hl'⟩ hlt

end FileSystem

end UnsafeCensus.Files
