import UnsafeCensus.Proofs.Settings.Precedence

/-!
# Which setting is to blame

Values that do not all suit their settings are refused, and the refusal names the first setting, in
the order of the fields, whose value does not suit it, together with that value. For that the value
has to be shown, and an encoding has to be one that can be searched for at all. A value that cannot
be shown is refused for that reason, and an encoding that cannot be searched for is refused by the
search itself; neither refusal names a setting.
-/

namespace UnsafeCensus

namespace Settings

variable {host : Host} {codecs : Text.Registry} {value? : String → Option Value} {t : Table Value}
  {key : String} {v : Value} {e : Fault}

-- ---------------------------------------------------------------------------
-- Blame
-- ---------------------------------------------------------------------------

/-- Every value that is given suits its setting. -/
structure AllSuit (codecs : Text.Registry) (value? : String → Option Value) : Prop where
  includeTests : ∀ v, value? includeTestsKey = some v → SuitsIncludeTests v
  verbosity : ∀ v, value? verbosityKey = some v → SuitsVerbosity v
  encoding : ∀ v, value? encodingKey = some v → SuitsEncoding codecs v

/-- The first setting, in the order of the fields, whose value does not suit it, and the value. -/
inductive Culprit (codecs : Text.Registry) (value? : String → Option Value) :
    String → Value → Prop
  | includeTests {v : Value} (hv : value? includeTestsKey = some v) (h : ¬ SuitsIncludeTests v) :
      Culprit codecs value? includeTestsKey v
  | verbosity {v : Value} (htests : ∀ v, value? includeTestsKey = some v → SuitsIncludeTests v)
      (hv : value? verbosityKey = some v) (h : ¬ SuitsVerbosity v) :
      Culprit codecs value? verbosityKey v
  | encoding {v : Value} (htests : ∀ v, value? includeTestsKey = some v → SuitsIncludeTests v)
      (hverbosity : ∀ v, value? verbosityKey = some v → SuitsVerbosity v)
      (hv : value? encodingKey = some v) (h : ¬ SuitsEncoding codecs v) :
      Culprit codecs value? encodingKey v

/-- What can be looked up among the names of codecs: a text without the character that ends
texts. -/
def CanBeLookedUp (v : Value) : Prop := ∃ name : String, v = .str name ∧ '\x00' ∉ name.toList

/-- What has a text to be shown by, where values may lie so many levels deep. -/
def CanBeShown (levels : Nat) (v : Value) : Prop := ∃ shown, v.display levels = .ok shown

/-- An outcome is the report that a setting cannot have a value, and shows the value. -/
def Names (host : Host) (outcome : Except Fault (Settings codecs)) (key : String) (v : Value) :
    Prop :=
  ∃ shown reason, v.display host.levels = .ok shown ∧
    outcome = .error (.invalidSetting ⟨key, v, shown, reason⟩)

/-- What comes of values: settings, if all of them suit, and else a refusal, which names the culprit
and its value unless that cannot be shown, or is an encoding that cannot be looked up. `raise` says
how refusals of the search are handed on. -/
structure Judged (host : Host) (raise : Fault → Fault) (value? : String → Option Value)
    (outcome : Except Fault (Settings host.codecs)) : Prop where
  accepted_iff : (∃ settings, outcome = .ok settings) ↔ AllSuit host.codecs value?
  total : AllSuit host.codecs value? ∨ ∃ key v, Culprit host.codecs value? key v
  names_iff : ∀ key v, Culprit host.codecs value? key v →
    (Names host outcome key v ↔
      CanBeShown host.levels v ∧ (key = encodingKey → CanBeLookedUp v))
  unsearchable : ∀ v e, Culprit host.codecs value? encodingKey v → Unsearchable v e →
    outcome = .error (raise e)
  unshowable : ∀ key v why, Culprit host.codecs value? key v →
    (key = encodingKey → CanBeLookedUp v) → v.display host.levels = .error why →
    outcome = .error (.unshowable why)

theorem allSuit_or_exists_culprit (codecs : Text.Registry) (value? : String → Option Value) :
    AllSuit codecs value? ∨ ∃ key v, Culprit codecs value? key v := by
  by_cases htests : ∀ v, value? includeTestsKey = some v → SuitsIncludeTests v
  · by_cases hverbosity : ∀ v, value? verbosityKey = some v → SuitsVerbosity v
    · by_cases hencoding : ∀ v, value? encodingKey = some v → SuitsEncoding codecs v
      · exact Or.inl ⟨htests, hverbosity, hencoding⟩
      · push Not at hencoding
        obtain ⟨v, hv, h⟩ := hencoding
        exact Or.inr ⟨_, v, .encoding htests hverbosity hv h⟩
    · push Not at hverbosity
      obtain ⟨v, hv, h⟩ := hverbosity
      exact Or.inr ⟨_, v, .verbosity htests hv h⟩
  · push Not at htests
    obtain ⟨v, hv, h⟩ := htests
    exact Or.inr ⟨_, v, .includeTests hv h⟩

-- ---------------------------------------------------------------------------
-- One value
-- ---------------------------------------------------------------------------

theorem Unsearchable.not_canBeLookedUp (h : Unsearchable v e) : ¬ CanBeLookedUp v := by
  rintro ⟨name, hname⟩
  exact nomatch (searchedName_eq_error.mpr h).symm.trans (searchedName_eq_ok.mpr hname)

theorem exists_unsearchable (h : ¬ CanBeLookedUp v) : ∃ e, Unsearchable v e := by
  cases hsearch : searchedName v with
  | ok name => exact absurd ⟨name, searchedName_eq_ok.mp hsearch⟩ h
  | error e => exact ⟨e, searchedName_eq_error.mp hsearch⟩

theorem Unsearchable.unique {e' : Fault} (h : Unsearchable v e) (h' : Unsearchable v e') :
    e = e' :=
  Except.error.inj ((searchedName_eq_error.mpr h).symm.trans (searchedName_eq_error.mpr h'))

theorem Unsearchable.ne_invalidSetting (h : Unsearchable v e) (error : SettingError) :
    e ≠ .invalidSetting error := by
  cases h <;> exact nofun

theorem exists_readIncludeTests_eq_error (levels : Nat) (h : ¬ SuitsIncludeTests v) :
    ∃ reason, readIncludeTests levels v = .error (.ofValue levels includeTestsKey v reason) := by
  cases v with
  | bool b => exact absurd ⟨b, rfl⟩ h
  | _ => exact ⟨_, rfl⟩

theorem exists_readVerbosity_eq_error (levels : Nat) (h : ¬ SuitsVerbosity v) :
    ∃ reason, readVerbosity levels v = .error (.ofValue levels verbosityKey v reason) := by
  cases hread : readVerbosity levels v with
  | ok verbosity => exact absurd ⟨verbosity, readVerbosity_eq_ok.mp hread⟩ h
  | error e =>
    unfold readVerbosity at hread
    dsimp only at hread
    split at hread
    · cases hread
    · cases hread
      exact ⟨_, rfl⟩

theorem readEncoding_of_not_suits (h : ¬ SuitsEncoding host.codecs v) :
    (∃ e, Unsearchable v e ∧ readEncoding host v = .error e) ∨
      CanBeLookedUp v ∧
        ∃ reason, readEncoding host v = .error (.ofValue host.levels encodingKey v reason) := by
  cases hread : readEncoding host v with
  | ok encoding => exact absurd ⟨encoding, readEncoding_eq_ok.mp hread⟩ h
  | error e =>
    rcases readEncoding_eq_error.mp hread with hsearch | ⟨name, rfl, hnul, -, rfl⟩
    · exact Or.inl ⟨e, hsearch, rfl⟩
    · exact Or.inr ⟨⟨name, rfl, hnul⟩, _, rfl⟩

-- ---------------------------------------------------------------------------
-- All values
-- ---------------------------------------------------------------------------

theorem exists_ofTable?_eq_ok (hnames : ∀ name ∈ t.map (·.1), name ∈ keys) :
    (∃ settings, ofTable? host t = .ok settings) ↔ AllSuit host.codecs t.get? := by
  simp only [ofTable?_eq_ok, and_iff_right hnames, exists_givenBy]
  exact ⟨fun ⟨htests, hverbosity, hencoding⟩ => ⟨htests, hverbosity, hencoding⟩,
    fun h => ⟨h.includeTests, h.verbosity, h.encoding⟩⟩

theorem exists_readOr_includeTests (host : Host)
    (htests : ∀ v, t.get? includeTestsKey = some v → SuitsIncludeTests v) :
    ∃ b, readOr t includeTestsKey (readIncludeTests host.levels)
      (ofTable?.given host).includeTests = .ok b :=
  exists_readOr_eq_ok _ fun v hget => (htests v hget).imp fun _ => readIncludeTests_eq_ok.mpr

theorem exists_readOr_verbosity (host : Host)
    (hverbosity : ∀ v, t.get? verbosityKey = some v → SuitsVerbosity v) :
    ∃ level, readOr t verbosityKey (readVerbosity host.levels) (ofTable?.given host).verbosity =
      .ok level :=
  exists_readOr_eq_ok _ fun v hget => (hverbosity v hget).imp fun _ => readVerbosity_eq_ok.mpr

/-- What is said of an encoding is said of the whole, if all else suits. -/
theorem ofTable?_of_readEncoding_eq_error (hnames : ∀ name ∈ t.map (·.1), name ∈ keys)
    (htests : ∀ v, t.get? includeTestsKey = some v → SuitsIncludeTests v)
    (hverbosity : ∀ v, t.get? verbosityKey = some v → SuitsVerbosity v)
    (hv : t.get? encodingKey = some v) (h : readEncoding host v = .error e) :
    ofTable? host t = .error e := by
  obtain ⟨includeTests, hincludeTests⟩ := exists_readOr_includeTests host htests
  obtain ⟨level, hlevel⟩ := exists_readOr_verbosity host hverbosity
  rw [ofTable?, firstMisfit?_eq_none.mpr hnames]
  refine bind_eq_error.mpr (Or.inr ⟨includeTests, hincludeTests, ?_⟩)
  refine bind_eq_error.mpr (Or.inr ⟨level, hlevel, ?_⟩)
  exact bind_eq_error.mpr (Or.inl (readOr_eq_error.mpr ⟨v, hv, h⟩))

/-- What is said of the first value that does not suit is said of the whole. -/
theorem ofTable?_of_culprit (hnames : ∀ name ∈ t.map (·.1), name ∈ keys)
    (h : Culprit host.codecs t.get? key v) :
    (key = encodingKey ∧ ∃ e, Unsearchable v e ∧ ofTable? host t = .error e) ∨
      (key = encodingKey → CanBeLookedUp v) ∧
        ∃ reason, ofTable? host t = .error (.ofValue host.levels key v reason) := by
  have hknown := firstMisfit?_eq_none.mpr hnames
  cases h with
  | includeTests hv h =>
    obtain ⟨reason, hread⟩ := exists_readIncludeTests_eq_error host.levels h
    refine Or.inr ⟨fun hkey => absurd hkey (by decide), reason, ?_⟩
    rw [ofTable?, hknown]
    exact bind_eq_error.mpr (Or.inl (readOr_eq_error.mpr ⟨v, hv, hread⟩))
  | verbosity htests hv h =>
    obtain ⟨reason, hread⟩ := exists_readVerbosity_eq_error host.levels h
    obtain ⟨b, hb⟩ := exists_readOr_includeTests host htests
    refine Or.inr ⟨fun hkey => absurd hkey (by decide), reason, ?_⟩
    rw [ofTable?, hknown]
    refine bind_eq_error.mpr (Or.inr ⟨b, hb, ?_⟩)
    exact bind_eq_error.mpr (Or.inl (readOr_eq_error.mpr ⟨v, hv, hread⟩))
  | encoding htests hverbosity hv h =>
    have hof {e : Fault} (hread : readEncoding host v = .error e) : ofTable? host t = .error e :=
      ofTable?_of_readEncoding_eq_error hnames htests hverbosity hv hread
    rcases readEncoding_of_not_suits h with ⟨e, hsearch, hread⟩ | ⟨hlookup, reason, hread⟩
    · exact Or.inl ⟨rfl, e, hsearch, hof hread⟩
    · exact Or.inr ⟨fun _ => hlookup, reason, hof hread⟩

theorem judged_ofTable? (host : Host) (hnames : ∀ name ∈ t.map (·.1), name ∈ keys) :
    Judged host id t.get? (ofTable? host t) where
  accepted_iff := exists_ofTable?_eq_ok hnames
  total := allSuit_or_exists_culprit _ _
  names_iff key v h := by
    rcases ofTable?_of_culprit hnames h with ⟨hkey, e, hsearch, hof⟩ | ⟨hlookup, reason, hof⟩
    · refine iff_of_false ?_ fun hall => hsearch.not_canBeLookedUp (hall.2 hkey)
      rintro ⟨_, _, -, hnamed⟩
      exact hsearch.ne_invalidSetting _ (Except.error.inj (hof.symm.trans hnamed))
    · rw [Names, hof]
      rcases Fault.ofValue_eq host.levels key v reason with
        ⟨shown, hshown, hvalue⟩ | ⟨why, hwhy, hvalue⟩
      · exact iff_of_true ⟨shown, reason, hshown, hvalue ▸ rfl⟩ ⟨⟨shown, hshown⟩, hlookup⟩
      · refine iff_of_false ?_ ?_
        · rintro ⟨shown, _, hshown, -⟩
          exact nomatch hwhy.symm.trans hshown
        · rintro ⟨⟨shown, hshown⟩, -⟩
          exact nomatch hwhy.symm.trans hshown
  unsearchable v e h hsearch := by
    rcases ofTable?_of_culprit hnames h with ⟨-, e', hsearch', hof⟩ | ⟨hlookup, -⟩
    · rw [hof, hsearch.unique hsearch']
      rfl
    · exact absurd (hlookup rfl) hsearch.not_canBeLookedUp
  unshowable key v why h hlookup hwhy := by
    rcases ofTable?_of_culprit hnames h with ⟨hkey, e, hsearch, -⟩ | ⟨-, reason, hof⟩
    · exact absurd (hlookup hkey) hsearch.not_canBeLookedUp
    · rw [hof, Fault.ofValue, hwhy]

theorem AllSuit.congr {value?' : String → Option Value}
    (h : ∀ key ∈ keys, value? key = value?' key) :
    AllSuit codecs value? ↔ AllSuit codecs value?' := by
  have htests := h includeTestsKey (by decide)
  have hverbosity := h verbosityKey (by decide)
  have hencoding := h encodingKey (by decide)
  constructor <;> intro hall
  · exact ⟨htests ▸ hall.includeTests, hverbosity ▸ hall.verbosity, hencoding ▸ hall.encoding⟩
  · exact ⟨htests ▸ hall.includeTests, hverbosity ▸ hall.verbosity, hencoding ▸ hall.encoding⟩

theorem Culprit.congr {value?' : String → Option Value}
    (hget : ∀ key ∈ keys, value? key = value?' key) (h : Culprit codecs value? key v) :
    Culprit codecs value?' key v := by
  have htests := hget includeTestsKey (by decide)
  have hverbosity := hget verbosityKey (by decide)
  have hencoding := hget encodingKey (by decide)
  cases h with
  | includeTests hv h => exact .includeTests (htests ▸ hv) h
  | verbosity hsuits hv h => exact .verbosity (htests ▸ hsuits) (hverbosity ▸ hv) h
  | encoding hsuits hsuits' hv h =>
    exact .encoding (htests ▸ hsuits) (hverbosity ▸ hsuits') (hencoding ▸ hv) h

end Settings

namespace Sources

open Settings

variable {host : Host} {s : Sources} {home project explicit : Table Value}

-- ---------------------------------------------------------------------------
-- The values that win
-- ---------------------------------------------------------------------------

theorem names_mapError_raised {codecs : Text.Registry} {outcome : Except Fault (Settings codecs)}
    {key : String} {v : Value} :
    Names host (outcome.mapError raised) key v ↔ Names host outcome key v := by
  unfold Names
  constructor
  · rintro ⟨shown, reason, hshown, h⟩
    obtain ⟨e, rfl, he⟩ := mapError_eq_error.mp h
    cases e <;> cases he
    exact ⟨shown, reason, hshown, rfl⟩
  · rintro ⟨shown, reason, hshown, rfl⟩
    exact ⟨shown, reason, hshown, rfl⟩

/-- Loading judges the values that win as settings judge a table of them. -/
theorem judged_load (hfile : s.overrides.has fileArgument = false)
    (hpassed : s.overrides.NamesDistinct) (hfiles : s.FilesHold host.room home project explicit)
    (hword : WordReads s.environment)
    (hnames : ∀ name, s.Written home project explicit name → name ∈ Settings.keys) :
    Judged host raised (s.winner? home project explicit) (s.load host) := by
  obtain ⟨environment, henvironment⟩ := exists_readEnvironment host.levels hword
  have hmerged : s.merged host = .ok (s.stacked home project explicit environment) :=
    merged_eq_ok.mpr ⟨_, _, _, _, hfiles, henvironment, rfl⟩
  have hload : s.load host =
      (ofTable? host (s.stacked home project explicit environment)).mapError raised := by
    rw [load_eq hfile, hmerged]
    rfl
  have hget : ∀ key ∈ Settings.keys, (s.stacked home project explicit environment).get? key =
      s.winner? home project explicit key :=
    fun _ => get?_stacked hfiles hpassed henvironment
  have hjudged := judged_ofTable? host ((names_stacked_iff henvironment).mpr hnames)
  have hculprit {key : String} {v : Value}
      (h : Culprit host.codecs (s.winner? home project explicit) key v) :=
    h.congr fun key hkey => (hget key hkey).symm
  refine ⟨?_, allSuit_or_exists_culprit _ _, ?_, ?_, ?_⟩
  · rw [hload, ← AllSuit.congr hget, ← hjudged.accepted_iff]
    simp only [mapError_eq_ok]
  · intro key v h
    rw [hload, names_mapError_raised]
    exact hjudged.names_iff key v (hculprit h)
  · intro v e h hsearch
    rw [hload, hjudged.unsearchable v e (hculprit h) hsearch]
    rfl
  · intro key v why h hlookup hwhy
    rw [hload, hjudged.unshowable key v why (hculprit h) hlookup hwhy]
    rfl

/-- Values under the names of settings are judged as they should be, and so are those that win among
all sources, wherever they come from: the first one that does not suit is named. The exceptions are
a value that cannot be shown and an encoding that cannot be looked up. Then no setting is named,
neither here nor there. -/
theorem culprit_is_named_iff (host : Host) (t : Table Value) (s : Sources)
    (home project explicit : Table Value) :
    ((∀ name ∈ t.map (·.1), name ∈ Settings.keys) → Judged host id t.get? (ofTable? host t)) ∧
    (s.overrides.has fileArgument = false → s.overrides.NamesDistinct →
      s.FilesHold host.room home project explicit → WordReads s.environment →
      (∀ name, s.Written home project explicit name → name ∈ Settings.keys) →
      Judged host raised (s.winner? home project explicit) (s.load host)) :=
  ⟨judged_ofTable? host, judged_load⟩

-- ---------------------------------------------------------------------------
-- A loud verbosity, and a number for an encoding
-- ---------------------------------------------------------------------------

/-- Three values of which two do not suit. -/
def loudTable : Table Value :=
  [(includeTestsKey, .bool false), (verbosityKey, .str "loud"), (encodingKey, .null)]

/-- The files and the environment of `layered`, with something else passed. -/
def passing (overrides : Table Value) : Sources := { layered with overrides := overrides }

theorem filesHold_passing (overrides : Table Value) :
    (passing overrides).FilesHold Host.standard.room homeTable projectTable [] :=
  ⟨filesHold_layered.home, filesHold_layered.project, rfl⟩

theorem written_passing {overrides : Table Value}
    (hkeys : ∀ name ∈ overrides.map (·.1), name ∈ Settings.keys) {name : String}
    (h : (passing overrides).Written homeTable projectTable [] name) : name ∈ Settings.keys := by
  rcases h with h | h | h | h
  · exact written_layered (Or.inl h)
  · exact written_layered (Or.inr (Or.inl h))
  · cases h
  · exact hkeys name h.1

theorem suitsIncludeTests_passing {overrides : Table Value}
    (hpassed : overrides.get? includeTestsKey = none) {v : Value}
    (h : (passing overrides).winner? homeTable projectTable [] includeTestsKey = some v) :
    SuitsIncludeTests v := by
  have hplain : passedValue? overrides includeTestsKey = none := by
    rw [passedValue?, if_neg (by decide), hpassed]
  have hwinner : (passing overrides).winner? homeTable projectTable [] includeTestsKey =
      some (.bool false) := by
    show (passedValue? overrides includeTestsKey).or
      ((variableValue? layered.environment includeTestsKey).or _) = _
    rw [hplain, variableValue?_layered]
    rfl
  exact ⟨false, (Option.some.inj (hwinner.symm.trans h)).symm⟩

theorem not_suitsVerbosity_loud : ¬ SuitsVerbosity (.str "loud") := by
  rintro ⟨verbosity, h⟩
  have hname := Text.Str.ofString_injective (Value.str.inj h)
  cases verbosity <;> exact absurd hname (by decide)

theorem loud_is_named :
    (∀ name ∈ loudTable.map (·.1), name ∈ Settings.keys) ∧
    Names .standard (ofTable? .standard loudTable) verbosityKey (.str "loud") ∧
    let s := passing [(verbosityKey, .str "loud")]
    s.overrides.has fileArgument = false ∧ s.overrides.NamesDistinct ∧
    s.FilesHold Host.standard.room homeTable projectTable [] ∧ WordReads s.environment ∧
    (∀ name, s.Written homeTable projectTable [] name → name ∈ Settings.keys) ∧
    Names .standard (s.load .standard) verbosityKey (.str "loud") := by
  have hnames : ∀ name ∈ loudTable.map (·.1), name ∈ Settings.keys := by decide
  have hshown : CanBeShown Host.standard.levels (.str "loud") := ⟨_, rfl⟩
  have htable : Culprit Host.standard.codecs loudTable.get? verbosityKey (.str "loud") :=
    .verbosity (fun v hv => ⟨false, (Option.some.inj hv).symm⟩) rfl not_suitsVerbosity_loud
  obtain ⟨hmade, hloaded⟩ := culprit_is_named_iff .standard loudTable
    (passing [(verbosityKey, .str "loud")]) homeTable projectTable []
  refine ⟨hnames, ((hmade hnames).names_iff _ _ htable).mpr ⟨hshown, nofun⟩, ?_⟩
  intro s
  have hfile : s.overrides.has fileArgument = false := by decide
  have hpassed : s.overrides.NamesDistinct := by unfold Table.NamesDistinct; decide
  have hfiles : s.FilesHold Host.standard.room homeTable projectTable [] := filesHold_passing _
  have hwritten : ∀ name, s.Written homeTable projectTable [] name → name ∈ Settings.keys :=
    fun _ => written_passing (by decide)
  have hwinner : Culprit Host.standard.codecs (s.winner? homeTable projectTable []) verbosityKey
      (.str "loud") :=
    .verbosity (fun _ => suitsIncludeTests_passing rfl) rfl not_suitsVerbosity_loud
  have hjudged := hloaded hfile hpassed hfiles wordReads_layered hwritten
  exact ⟨hfile, hpassed, hfiles, wordReads_layered, hwritten,
    (hjudged.names_iff _ _ hwinner).mpr ⟨hshown, nofun⟩⟩

theorem unsearchable_five : Unsearchable (.int 5) (.misfit (.notText "lookup()" "int")) :=
  .nontext nofun

/-- A number for an encoding is to blame and is not named: neither where it stands among three
values, nor where it wins over an encoding in a file. -/
theorem number_is_not_named :
    (let t : Table Value :=
      [(includeTestsKey, .bool true), (verbosityKey, .str "normal"), (encodingKey, .int 5)]
     Culprit Host.standard.codecs t.get? encodingKey (.int 5) ∧
      ofTable? .standard t = .error (.misfit (.notText "lookup()" "int")) ∧
      ¬ Names .standard (ofTable? .standard t) encodingKey (.int 5)) ∧
    let s := passing [(verbosityKey, .str "normal"), (encodingKey, .int 5)]
    Culprit Host.standard.codecs (s.winner? homeTable projectTable []) encodingKey (.int 5) ∧
      s.load .standard = .error (.badSettings (.notText "lookup()" "int")) ∧
      ¬ Names .standard (s.load .standard) encodingKey (.int 5) := by
  have hunfit : ¬ SuitsEncoding Host.standard.codecs (.int 5) := nofun
  have hnormal {v : Value} (hv : some (.str "normal") = some v) : SuitsVerbosity v :=
    ⟨.normal, (Option.some.inj hv).symm⟩
  constructor
  · intro t
    have hculprit : Culprit Host.standard.codecs t.get? encodingKey (.int 5) :=
      .encoding (fun v hv => ⟨true, (Option.some.inj hv).symm⟩) (fun _ => hnormal) rfl hunfit
    have hjudged := judged_ofTable? (t := t) .standard (by decide)
    refine ⟨hculprit, hjudged.unsearchable _ _ hculprit unsearchable_five, fun hnamed => ?_⟩
    have hlookup := ((hjudged.names_iff _ _ hculprit).mp hnamed).2 rfl
    exact unsearchable_five.not_canBeLookedUp hlookup
  · intro s
    have hculprit : Culprit Host.standard.codecs (s.winner? homeTable projectTable []) encodingKey
        (.int 5) :=
      .encoding (fun _ => suitsIncludeTests_passing rfl) (fun _ => hnormal) rfl hunfit
    have hjudged := judged_load (s := s) (by decide) (by unfold Table.NamesDistinct; decide)
      (filesHold_passing _) wordReads_layered fun _ => written_passing (by decide)
    refine ⟨hculprit, hjudged.unsearchable _ _ hculprit unsearchable_five, fun hnamed => ?_⟩
    have hlookup := ((hjudged.names_iff _ _ hculprit).mp hnamed).2 rfl
    exact unsearchable_five.not_canBeLookedUp hlookup

end Sources

end UnsafeCensus
