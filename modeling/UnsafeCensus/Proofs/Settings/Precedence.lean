import UnsafeCensus.Proofs.Settings.Layers
import UnsafeCensus.Proofs.Text.Utf8

/-!
# Which source wins

Each setting is decided on its own, by the highest source that gives it a value: the caller, the
environment, the file that is named, the file of the project, the file in the home directory. What a
lower source says on it does not matter, not even if it suits no setting. Names are another matter:
one that is no setting is refused wherever it stands.
-/

namespace UnsafeCensus.Sources

variable {host : Host} {room : Toml.Room} {s : Sources} {home project explicit : Table Value}

-- ---------------------------------------------------------------------------
-- Values
-- ---------------------------------------------------------------------------

/-- What comes of sources that can be read: the settings of the values that win. -/
theorem load_eq_ok_iff_givenBy (hfile : s.overrides.has fileArgument = false)
    (hpassed : s.overrides.NamesDistinct) (hfiles : s.FilesHold host.room home project explicit)
    (hword : WordReads s.environment)
    (hnames : ∀ name, s.Written home project explicit name → name ∈ Settings.keys)
    {settings : Settings host.codecs} :
    s.load host = .ok settings ↔ settings.GivenBy (s.winner? home project explicit) := by
  obtain ⟨environment, henvironment⟩ := exists_readEnvironment host.levels hword
  have hmerged : s.merged host = .ok (s.stacked home project explicit environment) :=
    merged_eq_ok.mpr ⟨_, _, _, _, hfiles, henvironment, rfl⟩
  have hknown := (names_stacked_iff henvironment).mpr hnames
  calc s.load host = .ok settings
      ↔ Settings.ofTable? host (s.stacked home project explicit environment) = .ok settings := by
        rw [load_eq_ok hfile, hmerged]
        simp
    _ ↔ settings.GivenBy (s.stacked home project explicit environment).get? := by
        rw [Settings.ofTable?_eq_ok, and_iff_right hknown]
    _ ↔ settings.GivenBy (s.winner? home project explicit) :=
        Settings.GivenBy.congr fun _ => get?_stacked hfiles hpassed henvironment

-- ---------------------------------------------------------------------------
-- Names
-- ---------------------------------------------------------------------------

/-- A name stands in a file that holds settings, or it is passed and no flag. -/
inductive Gives (room : Toml.Room) (s : Sources) (name : String) : Prop
  | home {t : Table Value} (h : MayHold room s.files s.homeFile t) (hname : name ∈ t.map (·.1))
  | project {t : Table Value} (h : MayHold room s.files s.projectFile t)
      (hname : name ∈ t.map (·.1))
  | explicit {path : Files.Path} {t : Table Value} (hnamed : s.explicitFile = some path)
      (h : Holds room s.files path t) (hname : name ∈ t.map (·.1))
  | passed (hname : name ∈ s.overrides.map (·.1)) (hverbose : name ≠ verboseFlag)
      (hquiet : name ≠ quietFlag)

theorem MayHold.eq {files : Files.FileSystem} {path : Files.Path} {t t' : Table Value}
    (h : MayHold room files path t) (h' : MayHold room files path t') : t = t' :=
  Except.ok.inj ((readIfPresent_eq_ok.mpr h).symm.trans (readIfPresent_eq_ok.mpr h'))

theorem Gives.written {name : String} (h : s.Gives room name)
    (hfiles : s.FilesHold room home project explicit) : s.Written home project explicit name := by
  cases h with
  | home h hname =>
    rw [h.eq hfiles.home] at hname
    exact Or.inl hname
  | project h hname =>
    rw [h.eq hfiles.project] at hname
    exact Or.inr (Or.inl hname)
  | explicit hnamed h hname =>
    have hexplicit := hfiles.explicit
    rw [hnamed] at hexplicit
    rw [(MayHold.present h).eq (.present hexplicit)] at hname
    exact Or.inr (Or.inr (Or.inl hname))
  | passed hname hverbose hquiet => exact Or.inr (Or.inr (Or.inr ⟨hname, hverbose, hquiet⟩))

/-- Files that hold settings do not break off. -/
theorem FilesHold.not_breaksOff (hfiles : s.FilesHold room home project explicit)
    {path : Files.Path} (hpath : path ∈ s.settingsFiles) (e : Fault) :
    ¬ BreaksOff room s.files path e := by
  have hread : ∃ t, MayHold room s.files path t := by
    simp only [settingsFiles, List.mem_cons, Option.mem_toList] at hpath
    rcases hpath with rfl | rfl | hnamed
    · exact ⟨_, hfiles.home⟩
    · exact ⟨_, hfiles.project⟩
    · have hexplicit := hfiles.explicit
      rw [hnamed] at hexplicit
      exact ⟨_, .present hexplicit⟩
  obtain ⟨t, ht⟩ := hread
  intro hbreaks
  have hread := readIfPresent_eq_ok.mpr ht
  rw [readIfPresent_of_breaksOff hbreaks] at hread
  cases hread

/-- A name that is no setting is reported, whatever is wrong with the other sources, unless one of
the files breaks off. -/
theorem exists_load_eq_error_of_gives (hfile : s.overrides.has fileArgument = false)
    (hbreaks : ∀ path ∈ s.settingsFiles, ∀ e, ¬ BreaksOff host.room s.files path e) {name : String}
    (hname : name ∉ Settings.keys) (hgives : s.Gives host.room name) :
    ∃ e, s.load host = .error e ∧ e.ConcernsConfiguration := by
  cases hmerged : s.merged host with
  | error e =>
    refine ⟨e, ?_, ?_⟩
    · rw [load_eq hfile, hmerged]
      rfl
    · rcases of_merged_eq_error hmerged with h | h
      · exact h
      · obtain ⟨path, hpath, h⟩ := h.exists_breaksOff
        exact absurd h (hbreaks path hpath e)
  | ok t =>
    obtain ⟨home, project, explicit, environment, hfiles, henvironment, ht⟩ :=
      merged_eq_ok.mp hmerged
    have hmem : name ∈ t.map (·.1) := by
      rw [← ht]
      exact (mem_names_stacked henvironment hname).mpr (hgives.written hfiles)
    obtain ⟨m, -, hrefused⟩ := Settings.exists_misfit_of_not_mem_keys host hmem hname
    refine ⟨.badSettings m, ?_, .configuration, rfl, by decide⟩
    rw [load_eq hfile, hmerged]
    show (Settings.ofTable? host t).mapError raised = _
    rw [hrefused]
    rfl

-- ---------------------------------------------------------------------------
-- Precedence
-- ---------------------------------------------------------------------------

/-- The settings that are loaded are those of the values that win, and they are loaded iff these
values suit; a name that is no setting is reported wherever it stands. -/
theorem highest_source_wins (host : Host) (hfile : s.overrides.has fileArgument = false)
    (hpassed : s.overrides.NamesDistinct) :
    (∀ home project explicit, s.FilesHold host.room home project explicit →
      WordReads s.environment →
      (∀ name, s.Written home project explicit name → name ∈ Settings.keys) →
        (∀ settings, s.load host = .ok settings ↔
          settings.GivenBy (s.winner? home project explicit)) ∧
        ((∃ settings, s.load host = .ok settings) ↔
          (∀ v, s.winner? home project explicit Settings.includeTestsKey = some v →
            Settings.SuitsIncludeTests v) ∧
          (∀ v, s.winner? home project explicit Settings.verbosityKey = some v →
            Settings.SuitsVerbosity v) ∧
          ∀ v, s.winner? home project explicit Settings.encodingKey = some v →
            Settings.SuitsEncoding host.codecs v)) ∧
    ((∀ path ∈ s.settingsFiles, ∀ e, ¬ BreaksOff host.room s.files path e) →
      ∀ name, name ∉ Settings.keys → s.Gives host.room name →
        ∃ e, s.load host = .error e ∧ e.ConcernsConfiguration) := by
  refine ⟨?_, fun hbreaks _ => exists_load_eq_error_of_gives hfile hbreaks⟩
  intro home project explicit hfiles hword hnames
  have hload (settings : Settings host.codecs) :
      s.load host = .ok settings ↔ settings.GivenBy (s.winner? home project explicit) :=
    load_eq_ok_iff_givenBy hfile hpassed hfiles hword hnames
  refine ⟨hload, ?_⟩
  rw [← Settings.exists_givenBy]
  exact exists_congr hload

-- ---------------------------------------------------------------------------
-- Two files below the environment and the caller
-- ---------------------------------------------------------------------------

def homeText : List Char := "verbosity = 3\n".toList

def projectText : List Char := "[rustgeiger]\ninclude_tests = 'x'\nencoding = 'ascii'\n".toList

/-- Neither of the values that suit no setting is one that wins. -/
def layered : Sources where
  files := ⟨.directory [
    ("home", .directory [(".rustgeiger.toml", .file (Text.Utf8.encode homeText))]),
    ("work", .directory [("rustgeiger.toml", .file (Text.Utf8.encode projectText))])], ["work"]⟩
  home := ⟨.root, ["home"]⟩
  explicitFile := none
  environment := [("RUSTGEIGER_INCLUDE_TESTS", " Off ")]
  overrides := [("verbose", .int 1), ("verbosity", .str "loud")]

def homeTable : Table Value := [("verbosity", .int 3)]

def projectTable : Table Value := [("include_tests", .str "x"), ("encoding", .str "ascii")]

/-- Values have no decidable equality; a table of one known shape is recognised. -/
def isHomeTable : Except Toml.Flaw (Table Value) → Bool
  | .ok [(key, .int n)] => key = "verbosity" ∧ n = 3
  | _ => false

theorem eq_homeTable : ∀ {r}, isHomeTable r = true → r = .ok homeTable
  | .ok [(key, .int n)], h => by
    obtain ⟨rfl, rfl⟩ := of_decide_eq_true h
    rfl

def isProjectTable : Except Toml.Flaw (Table Value) → Bool
  | .ok [(name, .table [(key, .str v), (key', .str v')])] =>
    name = "rustgeiger" ∧ key = "include_tests" ∧ v = "x" ∧ key' = "encoding" ∧ v' = "ascii"
  | _ => false

theorem eq_projectTable :
    ∀ {r}, isProjectTable r = true → r = .ok [("rustgeiger", .table projectTable)]
  | .ok [(name, .table [(key, .str v), (key', .str v')])], h => by
    obtain ⟨rfl, rfl, rfl, rfl, rfl⟩ := of_decide_eq_true h
    rfl

theorem filesHold_layered :
    layered.FilesHold Host.standard.room homeTable projectTable [] where
  home := by
    have hpath : layered.homeFile = ⟨.root, ["home", ".rustgeiger.toml"]⟩ := by decide +kernel
    have hread : layered.files.read layered.homeFile = .ok (Text.Utf8.encode homeText) := by
      rw [hpath]
      exact Files.FileSystem.read_below_top rfl rfl (by decide +kernel) (by decide +kernel)
        (by decide +kernel)
    have hdocument : Toml.read Host.standard.room homeText = .ok homeTable :=
      eq_homeTable (by decide +kernel)
    exact .present (.whole hread (Text.Utf8.decode?_eq_ok.mpr rfl) hdocument rfl)
  project := by
    have hpath : layered.projectFile = ⟨.root, ["work", "rustgeiger.toml"]⟩ := by decide +kernel
    have hread : layered.files.read layered.projectFile = .ok (Text.Utf8.encode projectText) := by
      rw [hpath]
      exact Files.FileSystem.read_below_top rfl rfl (by decide +kernel) (by decide +kernel)
        (by decide +kernel)
    have hdocument : Toml.read Host.standard.room projectText =
        .ok [("rustgeiger", .table projectTable)] := eq_projectTable (by decide +kernel)
    exact .present (.inSection hread (Text.Utf8.decode?_eq_ok.mpr rfl) hdocument rfl)
  explicit := rfl

def ascii : Encoding Host.standard.codecs := ⟨"ascii", by decide +kernel⟩

theorem variableValue?_layered :
    variableValue? layered.environment Settings.includeTestsKey = some (.bool false) := by
  have hword : readWord? (Text.Str.ofString " Off ") = some false := by decide +kernel
  show saidValue? Settings.includeTestsKey (Text.Str.ofString " Off ") = _
  rw [saidValue?, if_pos rfl, hword]
  rfl

theorem wordReads_layered : WordReads layered.environment := by
  intro raw hraw
  cases hraw
  decide +kernel

theorem givenBy_layered :
    Settings.GivenBy (layered.winner? homeTable projectTable []) ⟨false, .verbose, ascii⟩ where
  includeTests := by
    have hpassed : passedValue? layered.overrides Settings.includeTestsKey = none := rfl
    rw [winner?, hpassed, variableValue?_layered]
    rfl
  verbosity := rfl
  encoding := rfl
  nulFree := by decide +kernel

theorem written_layered {name : String} (h : layered.Written homeTable projectTable [] name) :
    name ∈ Settings.keys := by
  simp only [Written, homeTable, projectTable, layered, List.map_cons, List.map_nil, List.mem_cons,
    List.not_mem_nil, or_false, false_or] at h
  rcases h with rfl | (rfl | rfl) | ⟨rfl | rfl, hverbose, -⟩
  · decide
  · decide
  · decide
  · exact absurd rfl hverbose
  · decide

/-- The values that win are loaded, and one name more that is no setting is reported. -/
theorem layered_loaded_until_a_stray_name :
    layered.overrides.has fileArgument = false ∧ layered.overrides.NamesDistinct ∧
    layered.FilesHold Host.standard.room homeTable projectTable [] ∧
    WordReads layered.environment ∧
    layered.load .standard = .ok ⟨false, .verbose, ascii⟩ ∧
    let stray := { layered with overrides := [("colour", .bool true)] }
    stray.overrides.has fileArgument = false ∧ stray.overrides.NamesDistinct ∧
    (∀ path ∈ stray.settingsFiles, ∀ e, ¬ BreaksOff Host.standard.room stray.files path e) ∧
    stray.Gives Host.standard.room "colour" ∧
    ∃ e, stray.load .standard = .error e ∧ e.ConcernsConfiguration := by
  have hfile : layered.overrides.has fileArgument = false := by decide
  have hpassed : layered.overrides.NamesDistinct := by unfold Table.NamesDistinct; decide
  have hload := ((highest_source_wins .standard hfile hpassed).1 _ _ _ filesHold_layered
    wordReads_layered fun _ => written_layered).1 ⟨false, .verbose, ascii⟩
  refine ⟨hfile, hpassed, filesHold_layered, wordReads_layered, hload.mpr givenBy_layered, ?_⟩
  intro stray
  have hstray : stray.FilesHold Host.standard.room homeTable projectTable [] :=
    ⟨filesHold_layered.home, filesHold_layered.project, rfl⟩
  have hgives : stray.Gives Host.standard.room "colour" :=
    .passed (by decide) (by decide) (by decide)
  have hdistinct : stray.overrides.NamesDistinct := by unfold Table.NamesDistinct; decide
  refine ⟨by decide, hdistinct, fun _ => hstray.not_breaksOff, hgives, ?_⟩
  exact (highest_source_wins .standard (by decide) hdistinct).2 (fun _ => hstray.not_breaksOff)
    "colour" (by decide) hgives

end UnsafeCensus.Sources
