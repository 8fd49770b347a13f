import UnsafeCensus.Proofs.Settings.Files
import UnsafeCensus.Proofs.Settings.Values

/-!
# What the sources say

The values that each source gives, and the table in which all of them are stacked: the home file,
the file of the project, the file that is named, the environment and the caller, each written over
those before it.
-/

namespace UnsafeCensus.Sources

-- ---------------------------------------------------------------------------
-- The environment
-- ---------------------------------------------------------------------------

/-- What a variable says on a setting. -/
def saidValue? (key : String) (raw : Text.Str) : Option Value :=
  if key = Settings.includeTestsKey then (readWord? raw).map .bool else some (.str raw.trim)

/-- The value that the environment gives to a setting. -/
def variableValue? (environment : Table Text.Str) (key : String) : Option Value :=
  (environment.get? (variableOf key)).bind (saidValue? key)

/-- The one variable that has to be a yes or a no is one, if it is set. -/
def WordReads (environment : Table Text.Str) : Prop :=
  ∀ raw, environment.get? (variableOf Settings.includeTestsKey) = some raw →
    (readWord? raw).isSome

variable {levels : Nat} {environment : Table Text.Str} {key : String} {raw : Text.Str} {e : Fault}

theorem readVariable_eq_ok {v : Value} :
    readVariable levels key raw = .ok v ↔ saidValue? key raw = some v := by
  unfold readVariable saidValue?
  split
  · cases readWord? raw <;> simp
  · simp

theorem concernsConfiguration_invalidSetting (error : SettingError) :
    (Fault.invalidSetting error).ConcernsConfiguration :=
  ⟨.invalidSetting, rfl, by decide⟩

/-- A text can always be shown, so a variable that is no yes or no is reported. -/
theorem concernsConfiguration_of_readVariable (h : readVariable levels key raw = .error e) :
    e.ConcernsConfiguration := by
  unfold readVariable at h
  split at h
  · split at h
    · cases h
    · cases h
      exact concernsConfiguration_invalidSetting _
  · cases h

/-- What is read from the variables of some settings. -/
structure Reads (environment : Table Text.Str) (keys : List String) (t : Table Value) : Prop where
  distinct : t.NamesDistinct
  names : ∀ name ∈ t.map (·.1), name ∈ keys
  get? : ∀ key ∈ keys, t.get? key = variableValue? environment key
  readable : ∀ key ∈ keys, ∀ raw, environment.get? (variableOf key) = some raw →
    (saidValue? key raw).isSome

theorem reads_of_go {keys : List String} (hkeys : keys.Nodup) {t : Table Value}
    (h : readEnvironment.go levels environment keys = .ok t) : Reads environment keys t := by
  induction keys generalizing t with
  | nil =>
    cases h
    exact ⟨Table.namesDistinct_nil, nofun, nofun, nofun⟩
  | cons key rest ih =>
    obtain ⟨hfresh, hrest⟩ := List.nodup_cons.mp hkeys
    unfold readEnvironment.go at h
    split at h
    · next hunset =>
      have hreads := ih hrest h
      refine ⟨hreads.distinct, fun name hname => List.mem_cons_of_mem _ (hreads.names name hname),
        List.forall_mem_cons.mpr ⟨?_, hreads.get?⟩, List.forall_mem_cons.mpr ⟨?_, hreads.readable⟩⟩
      · rw [variableValue?, hunset,
          Table.get?_eq_none.mpr fun hname => hfresh (hreads.names key hname)]
        rfl
      · intro raw hraw
        exact nomatch hunset.symm.trans hraw
    · next raw hraw =>
      obtain ⟨v, hv, h⟩ := bind_eq_ok.mp h
      obtain ⟨others, hothers, h⟩ := bind_eq_ok.mp h
      cases h
      rw [readVariable_eq_ok] at hv
      have hreads := ih hrest hothers
      refine ⟨?_, ?_, List.forall_mem_cons.mpr ⟨?_, ?_⟩, List.forall_mem_cons.mpr
        ⟨?_, hreads.readable⟩⟩
      · exact Table.namesDistinct_cons.mpr ⟨fun hname => hfresh (hreads.names key hname),
          hreads.distinct⟩
      · exact List.forall_mem_cons.mpr ⟨List.mem_cons_self,
          fun name hname => List.mem_cons_of_mem _ (hreads.names name hname)⟩
      · rw [Table.get?_cons, if_pos rfl, variableValue?, hraw, Option.bind_some, hv]
      · intro other hother
        have hne : key ≠ other := by rintro rfl; exact hfresh hother
        rw [Table.get?_cons, if_neg hne, hreads.get? other hother]
      · intro raw' hraw'
        cases hraw.symm.trans hraw'
        rw [hv]
        rfl

theorem reads_of_readEnvironment {t : Table Value}
    (h : readEnvironment levels environment = .ok t) : Reads environment Settings.keys t :=
  reads_of_go (by decide) h

theorem wordReads_of_readEnvironment {t : Table Value}
    (h : readEnvironment levels environment = .ok t) : WordReads environment := by
  intro raw hraw
  have hread :=
    (reads_of_readEnvironment h).readable Settings.includeTestsKey (by decide) raw hraw
  simpa [saidValue?] using hread

theorem exists_readEnvironment (levels : Nat) (h : WordReads environment) :
    ∃ t, readEnvironment levels environment = .ok t := by
  unfold readEnvironment
  induction Settings.keys with
  | nil => exact ⟨_, rfl⟩
  | cons key rest ih =>
    obtain ⟨t, ht⟩ := ih
    unfold readEnvironment.go
    split
    · exact ⟨t, ht⟩
    · next raw hraw =>
      obtain ⟨v, hv⟩ : ∃ v, saidValue? key raw = some v := by
        unfold saidValue?
        split
        · next hkey =>
          subst hkey
          exact Option.isSome_iff_exists.mp (by simpa using h raw hraw)
        · exact ⟨_, rfl⟩
      rw [readVariable_eq_ok.mpr hv, ht]
      exact ⟨_, rfl⟩

theorem concernsConfiguration_of_readEnvironment
    (h : readEnvironment levels environment = .error e) : e.ConcernsConfiguration := by
  unfold readEnvironment at h
  generalize Settings.keys = keys at h
  induction keys with
  | nil => cases h
  | cons key rest ih =>
    unfold readEnvironment.go at h
    split at h
    · exact ih h
    · rcases bind_eq_error.mp h with hv | ⟨v, -, h⟩
      · exact concernsConfiguration_of_readVariable hv
      · rcases bind_eq_error.mp h with hrest | ⟨t, -, h⟩
        · exact ih hrest
        · cases h

-- ---------------------------------------------------------------------------
-- What the caller passes
-- ---------------------------------------------------------------------------

/-- The value that the caller passes for a setting. A flag that is given comes before a verbosity
that is passed as such. -/
def passedValue? (overrides : Table Value) (key : String) : Option Value :=
  if key = Settings.verbosityKey then
    if flagged overrides quietFlag then some (.str Verbosity.quiet.name)
    else if flagged overrides verboseFlag then some (.str Verbosity.verbose.name)
    else overrides.get? key
  else overrides.get? key

variable {overrides : Table Value}

theorem get?_effectiveOverrides {key : String} (hkey : key ∈ Settings.keys) :
    (effectiveOverrides overrides).get? key = passedValue? overrides key := by
  have hverbose : verboseFlag ≠ key := by rintro rfl; exact absurd hkey (by decide)
  have hquiet : quietFlag ≠ key := by rintro rfl; exact absurd hkey (by decide)
  have hplain : ((overrides.erase verboseFlag).erase quietFlag).get? key = overrides.get? key := by
    rw [Table.get?_erase, if_neg hquiet, Table.get?_erase, if_neg hverbose]
  unfold effectiveOverrides passedValue?
  by_cases hverbosity : key = Settings.verbosityKey
  · subst hverbosity
    by_cases hq : flagged overrides quietFlag
    · simp [hq, Table.get?_put_self, Verbosity.name]
    · by_cases hv : flagged overrides verboseFlag
      · simp [hq, hv, Table.get?_put_self, Verbosity.name]
      · simp [hq, hv, hplain]
  · simp only [if_neg hverbosity]
    split <;> split <;> simp [Table.get?_put, Ne.symm hverbosity, hplain]

theorem namesDistinct_effectiveOverrides (h : overrides.NamesDistinct) :
    (effectiveOverrides overrides).NamesDistinct := by
  have hplain := (h.erase verboseFlag).erase quietFlag
  unfold effectiveOverrides
  dsimp only
  split <;> split
  · exact (hplain.put _ _).put _ _
  · exact hplain.put _ _
  · exact hplain.put _ _
  · exact hplain

/-- A name that is no setting stays as it is, the two flags apart. -/
theorem mem_names_effectiveOverrides {name : String} (hname : name ∉ Settings.keys) :
    name ∈ (effectiveOverrides overrides).map (·.1) ↔
      name ∈ overrides.map (·.1) ∧ name ≠ verboseFlag ∧ name ≠ quietFlag := by
  have hverbosity : Settings.verbosityKey ≠ name := by rintro rfl; exact hname (by decide)
  have hplain : (∃ v, ((overrides.erase verboseFlag).erase quietFlag).get? name = some v) ↔
      (∃ v, overrides.get? name = some v) ∧ name ≠ verboseFlag ∧ name ≠ quietFlag := by
    rw [Table.get?_erase, Table.get?_erase]
    by_cases hquiet : quietFlag = name
    · simp [hquiet]
    · by_cases hverbose : verboseFlag = name
      · simp [hquiet, hverbose]
      · simp [hquiet, hverbose, Ne.symm hquiet, Ne.symm hverbose]
  simp only [Table.mem_names]
  rw [← hplain]
  unfold effectiveOverrides
  dsimp only
  split <;> split <;> simp [Table.get?_put, hverbosity]

-- ---------------------------------------------------------------------------
-- All sources together
-- ---------------------------------------------------------------------------

/-- What the files hold. The one that is named has to be there. -/
structure FilesHold (room : Toml.Room) (s : Sources) (home project explicit : Table Value) :
    Prop where
  home : MayHold room s.files s.homeFile home
  project : MayHold room s.files s.projectFile project
  explicit : match s.explicitFile with
    | some path => Holds room s.files path explicit
    | none => explicit = []

/-- The value that wins for a setting. -/
def winner? (s : Sources) (home project explicit : Table Value) (key : String) : Option Value :=
  (passedValue? s.overrides key).or <| (variableValue? s.environment key).or <|
    (explicit.get? key).or <| (project.get? key).or (home.get? key)

/-- A name is written in a file, or passed and no flag. -/
def Written (s : Sources) (home project explicit : Table Value) (name : String) : Prop :=
  name ∈ home.map (·.1) ∨ name ∈ project.map (·.1) ∨ name ∈ explicit.map (·.1) ∨
    name ∈ s.overrides.map (·.1) ∧ name ≠ verboseFlag ∧ name ≠ quietFlag

variable {host : Host} {room : Toml.Room} {s : Sources} {home project explicit t : Table Value}

/-- The values of all sources, each written over those of the sources below it. -/
def stacked (s : Sources) (home project explicit environment : Table Value) : Table Value :=
  [home, project, explicit, environment, effectiveOverrides s.overrides].foldl Table.update []

/-- The settings in the file that is named, if one is. -/
def readExplicit (room : Toml.Room) (s : Sources) : Except Fault (Table Value) :=
  match s.explicitFile with
  | some path => readRequired room s.files path
  | none => .ok []

theorem merged_eq (host : Host) (s : Sources) :
    s.merged host = do
      let home ← readIfPresent host.room s.files s.homeFile
      let project ← readIfPresent host.room s.files s.projectFile
      let explicit ← s.readExplicit host.room
      let environment ← readEnvironment host.levels s.environment
      return s.stacked home project explicit environment := by
  unfold merged readExplicit
  cases s.explicitFile <;> rfl

theorem readExplicit_eq_ok :
    s.readExplicit room = .ok t ↔ match s.explicitFile with
      | some path => Holds room s.files path t
      | none => t = [] := by
  unfold readExplicit
  cases s.explicitFile with
  | none => exact ⟨fun h => (Except.ok.inj h).symm, fun h => h ▸ rfl⟩
  | some path => exact readRequired_eq_ok

theorem merged_eq_ok :
    s.merged host = .ok t ↔ ∃ home project explicit environment,
      s.FilesHold host.room home project explicit ∧
      readEnvironment host.levels s.environment = .ok environment ∧
      s.stacked home project explicit environment = t := by
  rw [merged_eq]
  constructor
  · intro h
    obtain ⟨home, hhome, h⟩ := bind_eq_ok.mp h
    obtain ⟨project, hproject, h⟩ := bind_eq_ok.mp h
    obtain ⟨explicit, hexplicit, h⟩ := bind_eq_ok.mp h
    obtain ⟨environment, henvironment, h⟩ := bind_eq_ok.mp h
    cases h
    exact ⟨home, project, explicit, environment, ⟨readIfPresent_eq_ok.mp hhome,
      readIfPresent_eq_ok.mp hproject, readExplicit_eq_ok.mp hexplicit⟩, henvironment, rfl⟩
  · rintro ⟨home, project, explicit, environment, hfiles, henvironment, rfl⟩
    rw [readIfPresent_eq_ok.mpr hfiles.home, readIfPresent_eq_ok.mpr hfiles.project,
      readExplicit_eq_ok.mpr hfiles.explicit, henvironment]
    rfl

/-- Each value of the stack is the one that wins. -/
theorem get?_stacked (hfiles : s.FilesHold room home project explicit)
    (hpassed : s.overrides.NamesDistinct) {environment : Table Value}
    (henvironment : readEnvironment levels s.environment = .ok environment) {key : String}
    (hkey : key ∈ Settings.keys) :
    (s.stacked home project explicit environment).get? key =
      s.winner? home project explicit key := by
  have hreads := reads_of_readEnvironment henvironment
  have hexplicit : explicit.NamesDistinct := by
    have h := hfiles.explicit
    split at h
    · exact h.namesDistinct
    · exact h ▸ Table.namesDistinct_nil
  simp only [stacked, List.foldl_cons, List.foldl_nil]
  rw [Table.get?_update (namesDistinct_effectiveOverrides hpassed),
    Table.get?_update hreads.distinct, Table.get?_update hexplicit,
    Table.get?_update hfiles.project.namesDistinct, Table.get?_update hfiles.home.namesDistinct,
    get?_effectiveOverrides hkey, hreads.get? key hkey, Table.get?_nil, Option.or_none]
  rfl

theorem mem_names_stacked {environment : Table Value}
    (henvironment : readEnvironment levels s.environment = .ok environment) {name : String}
    (hname : name ∉ Settings.keys) :
    name ∈ (s.stacked home project explicit environment).map (·.1) ↔
      s.Written home project explicit name := by
  have hreads := reads_of_readEnvironment henvironment
  have hunread : name ∉ environment.map (·.1) := fun h => hname (hreads.names name h)
  simp only [stacked, List.foldl_cons, List.foldl_nil, Table.mem_names_update,
    mem_names_effectiveOverrides hname, hunread, false_or, List.map_nil, List.not_mem_nil, or_false]
  unfold Written
  tauto

/-- The stack has names of settings only iff nothing else is written. -/
theorem names_stacked_iff {environment : Table Value}
    (henvironment : readEnvironment levels s.environment = .ok environment) :
    (∀ name ∈ (s.stacked home project explicit environment).map (·.1), name ∈ Settings.keys) ↔
      ∀ name, s.Written home project explicit name → name ∈ Settings.keys := by
  constructor
  · intro h name hname
    by_contra hstranger
    exact hstranger (h name ((mem_names_stacked henvironment hstranger).mpr hname))
  · intro h name hname
    by_contra hstranger
    exact hstranger (h name ((mem_names_stacked henvironment hstranger).mp hname))

-- ---------------------------------------------------------------------------
-- Loading
-- ---------------------------------------------------------------------------

/-- The files that settings are read from, in their order. -/
def settingsFiles (s : Sources) : List Files.Path :=
  s.homeFile :: s.projectFile :: s.explicitFile.toList

/-- A file breaks off, and those before it could be read. -/
inductive Interrupted (room : Toml.Room) (s : Sources) : Fault → Prop
  | home {e : Fault} (h : BreaksOff room s.files s.homeFile e) : Interrupted room s e
  | project {e : Fault} {home : Table Value} (hhome : MayHold room s.files s.homeFile home)
      (h : BreaksOff room s.files s.projectFile e) : Interrupted room s e
  | explicit {e : Fault} {home project : Table Value} {path : Files.Path}
      (hhome : MayHold room s.files s.homeFile home)
      (hproject : MayHold room s.files s.projectFile project)
      (hnamed : s.explicitFile = some path) (h : BreaksOff room s.files path e) :
      Interrupted room s e

theorem Interrupted.exists_breaksOff (h : s.Interrupted room e) :
    ∃ path ∈ s.settingsFiles, BreaksOff room s.files path e := by
  cases h with
  | home h => exact ⟨_, by simp [settingsFiles], h⟩
  | project _ h => exact ⟨_, by simp [settingsFiles], h⟩
  | explicit _ _ hnamed h => exact ⟨_, by simp [settingsFiles, hnamed], h⟩

theorem merged_of_interrupted (h : s.Interrupted host.room e) : s.merged host = .error e := by
  rw [merged_eq]
  refine bind_eq_error.mpr ?_
  cases h with
  | home h => exact Or.inl (readIfPresent_of_breaksOff h)
  | project hhome h =>
    refine Or.inr ⟨_, readIfPresent_eq_ok.mpr hhome, bind_eq_error.mpr ?_⟩
    exact Or.inl (readIfPresent_of_breaksOff h)
  | explicit hhome hproject hnamed h =>
    refine Or.inr ⟨_, readIfPresent_eq_ok.mpr hhome, bind_eq_error.mpr ?_⟩
    refine Or.inr ⟨_, readIfPresent_eq_ok.mpr hproject, bind_eq_error.mpr (Or.inl ?_)⟩
    rw [readExplicit, hnamed]
    exact readRequired_of_breaksOff h

/-- Values that are not put together are reported, or a file breaks off. -/
theorem of_merged_eq_error (h : s.merged host = .error e) :
    e.ConcernsConfiguration ∨ s.Interrupted host.room e := by
  rw [merged_eq] at h
  rcases bind_eq_error.mp h with hhome | ⟨home, hhome, h⟩
  · exact (of_readIfPresent_eq_error hhome).imp_right .home
  replace hhome := readIfPresent_eq_ok.mp hhome
  rcases bind_eq_error.mp h with hproject | ⟨project, hproject, h⟩
  · exact (of_readIfPresent_eq_error hproject).imp_right (.project hhome)
  replace hproject := readIfPresent_eq_ok.mp hproject
  rcases bind_eq_error.mp h with hexplicit | ⟨explicit, -, h⟩
  · unfold readExplicit at hexplicit
    split at hexplicit
    · next hnamed =>
      exact (of_readRequired_eq_error hexplicit).imp_right (.explicit hhome hproject hnamed)
    · cases hexplicit
  rcases bind_eq_error.mp h with henvironment | ⟨environment, -, h⟩
  · exact Or.inl (concernsConfiguration_of_readEnvironment henvironment)
  · cases h

/-- How a refusal of the values is raised. -/
def raised : Fault → Fault
  | .misfit m => .badSettings m
  | e => e

theorem load_eq (hfile : s.overrides.has fileArgument = false) :
    s.load host = s.merged host >>= fun t => (Settings.ofTable? host t).mapError raised := by
  unfold load
  rw [if_neg (by simp [hfile])]
  rcases s.merged host with e | t
  · rfl
  · simp only [bind, Except.bind]
    rcases Settings.ofTable? host t with e | settings
    · cases e <;> rfl
    · rfl

theorem load_eq_ok (hfile : s.overrides.has fileArgument = false)
    {settings : Settings host.codecs} :
    s.load host = .ok settings ↔
      ∃ t, s.merged host = .ok t ∧ Settings.ofTable? host t = .ok settings := by
  rw [load_eq hfile, bind_eq_ok]
  simp only [mapError_eq_ok]

end UnsafeCensus.Sources
