import UnsafeCensus.Proofs.Settings.Culprit

/-!
# How loading may end

Loading gives settings that can be used, or it reports what is wrong with the configuration. There
are three more ways, and then it ends with neither: a file breaks off in the middle of being read,
the encoding that wins is a text that cannot even be looked up, or the value to blame cannot be
shown.
-/

namespace UnsafeCensus.Sources

open Settings

variable {host : Host} {s : Sources} {e : Fault}

/-- How loading may end: with settings whose encoding is the name of a codec, or with a report on
the configuration. -/
inductive EndsWell (host : Host) : Except Fault (Settings host.codecs) → Prop
  | loaded {settings : Settings host.codecs}
      (hcodec : host.codecs.find? settings.encoding.name = some settings.encoding.codec)
      (hnul : '\x00' ∉ settings.encoding.name.toList) : EndsWell host (.ok settings)
  | reported {e : Fault} (h : e.ConcernsConfiguration) : EndsWell host (.error e)

/-- The sources can be put together: the files hold settings and the environment can be read, and no
name is written but those of settings. -/
structure Gathers (host : Host) (s : Sources) (home project explicit : Table Value) : Prop where
  files : s.FilesHold host.room home project explicit
  word : WordReads s.environment
  names : ∀ name, s.Written home project explicit name → name ∈ Settings.keys

/-- The ways in which loading ends without either. -/
inductive Escapes (host : Host) (s : Sources) : Fault → Prop
  | interrupted {e : Fault} (h : s.Interrupted host.room e) : Escapes host s e
  | unsearchable {home project explicit : Table Value} {text : Text.Str} {e : Fault}
      (hgathers : s.Gathers host home project explicit)
      (hculprit : Culprit host.codecs (s.winner? home project explicit) encodingKey (.str text))
      (h : Unsearchable (.str text) e) : Escapes host s e
  | unshowable {home project explicit : Table Value} {key : String} {v : Value}
      {why : Value.Unshowable} (hgathers : s.Gathers host home project explicit)
      (hculprit : Culprit host.codecs (s.winner? home project explicit) key v)
      (hlookup : key = encodingKey → CanBeLookedUp v) (h : v.display host.levels = .error why) :
      Escapes host s (.unshowable why)

theorem Escapes.not_concernsConfiguration (h : s.Escapes host e) : ¬ e.ConcernsConfiguration := by
  cases h with
  | interrupted h =>
    obtain ⟨_, -, h⟩ := h.exists_breaksOff
    exact h.not_concernsConfiguration
  | unsearchable _ _ h =>
    rintro ⟨k, hkind, -⟩
    cases h with
    | nontext h => exact h _ rfl
    | nul _ => cases hkind
    | surrogates _ => cases hkind
  | @unshowable _ _ _ _ _ why =>
    rintro ⟨k, hkind, -⟩
    cases why <;> cases hkind

/-- A refusal of the search is raised as it is, if it was a text that was searched for. -/
theorem raised_of_unsearchable {text : Text.Str} (h : Unsearchable (.str text) e) : raised e = e := by
  cases h with
  | nontext h => exact absurd rfl (h text)
  | nul _ => rfl
  | surrogates _ => rfl

theorem Gathers.judged {home project explicit : Table Value}
    (h : s.Gathers host home project explicit) (hfile : s.overrides.has fileArgument = false)
    (hpassed : s.overrides.NamesDistinct) :
    Judged host raised (s.winner? home project explicit) (s.load host) :=
  judged_load hfile hpassed h.files h.word h.names

theorem load_of_escapes (hfile : s.overrides.has fileArgument = false)
    (hpassed : s.overrides.NamesDistinct) (h : s.Escapes host e) : s.load host = .error e := by
  cases h with
  | interrupted h =>
    rw [load_eq hfile, bind_eq_error]
    exact Or.inl (merged_of_interrupted h)
  | unsearchable hgathers hculprit h =>
    have hload := (hgathers.judged hfile hpassed).unsearchable _ _ hculprit h
    rwa [raised_of_unsearchable h] at hload
  | unshowable hgathers hculprit hlookup h =>
    exact (hgathers.judged hfile hpassed).unshowable _ _ _ hculprit hlookup h

/-- What is said of the value to blame concerns the configuration, or loading ends without saying
it. -/
theorem of_culprit (hfile : s.overrides.has fileArgument = false)
    (hpassed : s.overrides.NamesDistinct) {home project explicit : Table Value}
    (hgathers : s.Gathers host home project explicit) {key : String} {v : Value}
    (hculprit : Culprit host.codecs (s.winner? home project explicit) key v)
    (h : s.load host = .error e) : e.ConcernsConfiguration ∨ s.Escapes host e := by
  have hjudged := hgathers.judged hfile hpassed
  by_cases hlookup : key = encodingKey → CanBeLookedUp v
  · cases hshown : v.display host.levels with
    | ok shown =>
      obtain ⟨_, _, -, hnamed⟩ :=
        (hjudged.names_iff key v hculprit).mpr ⟨⟨shown, hshown⟩, hlookup⟩
      rw [← Except.error.inj (hnamed.symm.trans h)]
      exact Or.inl (concernsConfiguration_invalidSetting _)
    | error why =>
      have hload := hjudged.unshowable key v why hculprit hlookup hshown
      rw [← Except.error.inj (hload.symm.trans h)]
      exact Or.inr (.unshowable hgathers hculprit hlookup hshown)
  · obtain ⟨rfl, hunknown⟩ := Classical.not_imp.mp hlookup
    obtain ⟨e', hsearch⟩ := exists_unsearchable hunknown
    have hload := hjudged.unsearchable v e' hculprit hsearch
    rw [← Except.error.inj (hload.symm.trans h)]
    cases v with
    | str text =>
      rw [raised_of_unsearchable hsearch]
      exact Or.inr (.unsearchable hgathers hculprit hsearch)
    | _ =>
      cases hsearch
      exact Or.inl ⟨.configuration, rfl, by decide⟩

theorem of_load_eq_error (hfile : s.overrides.has fileArgument = false)
    (hpassed : s.overrides.NamesDistinct) (h : s.load host = .error e) :
    e.ConcernsConfiguration ∨ s.Escapes host e := by
  have hload := h
  rw [load_eq hfile] at hload
  rcases bind_eq_error.mp hload with hmerged | ⟨t, hmerged, hrefused⟩
  · exact (of_merged_eq_error hmerged).imp_right .interrupted
  obtain ⟨home, project, explicit, environment, hfiles, henvironment, rfl⟩ :=
    merged_eq_ok.mp hmerged
  by_cases hnames : ∀ name, s.Written home project explicit name → name ∈ Settings.keys
  · have hgathers : s.Gathers host home project explicit :=
      ⟨hfiles, wordReads_of_readEnvironment henvironment, hnames⟩
    have hjudged := hgathers.judged hfile hpassed
    rcases hjudged.total with hsuit | ⟨key, v, hculprit⟩
    · obtain ⟨settings, hsettings⟩ := hjudged.accepted_iff.mpr hsuit
      exact nomatch hsettings.symm.trans h
    · exact of_culprit hfile hpassed hgathers hculprit h
  · push Not at hnames
    obtain ⟨name, hwritten, hname⟩ := hnames
    have hmem := (mem_names_stacked henvironment hname).mpr hwritten
    obtain ⟨m, -, hmisfit⟩ := exists_misfit_of_not_mem_keys host hmem hname
    rw [hmisfit] at hrefused
    cases hrefused
    exact Or.inl ⟨.configuration, rfl, by decide⟩

theorem endsWell_load (hfile : s.overrides.has fileArgument = false)
    (hpassed : s.overrides.NamesDistinct) (h : ∀ e, ¬ s.Escapes host e) :
    EndsWell host (s.load host) := by
  cases hload : s.load host with
  | ok settings =>
    obtain ⟨t, -, ht⟩ := (load_eq_ok hfile).mp hload
    exact .loaded settings.encoding.find?_name (ofTable?_eq_ok.mp ht).2.nulFree
  | error e =>
    rcases of_load_eq_error hfile hpassed hload with he | he
    · exact .reported he
    · exact absurd he (h e)

/-- Loading ends with settings or with a report, unless a file breaks off while the files before it
could be read, or the value to blame is an encoding that cannot be looked up or cannot be shown.
Then it ends with that fault, which is no report on the configuration. -/
theorem load_ends_well_iff (host : Host) (hfile : s.overrides.has fileArgument = false)
    (hpassed : s.overrides.NamesDistinct) :
    (EndsWell host (s.load host) ↔ ∀ e, ¬ s.Escapes host e) ∧
      ∀ e, s.Escapes host e → s.load host = .error e ∧ ¬ e.ConcernsConfiguration := by
  refine ⟨⟨?_, endsWell_load hfile hpassed⟩, ?_⟩
  · intro hends e hescapes
    rw [load_of_escapes hfile hpassed hescapes] at hends
    cases hends with
    | reported h => exact hescapes.not_concernsConfiguration h
  · intro e hescapes
    exact ⟨load_of_escapes hfile hpassed hescapes, hescapes.not_concernsConfiguration⟩

/-- Neither do the two files break off, nor is any of the values that win to blame. -/
theorem layered_ends_well : layered.overrides.has fileArgument = false ∧
    layered.overrides.NamesDistinct ∧ EndsWell .standard (layered.load .standard) := by
  have hfile : layered.overrides.has fileArgument = false := by decide
  have hpassed : layered.overrides.NamesDistinct := by unfold Table.NamesDistinct; decide
  refine ⟨hfile, hpassed, (load_ends_well_iff .standard hfile hpassed).1.mpr ?_⟩
  have hloaded : ∃ settings, layered.load .standard = .ok settings :=
    ⟨_, (load_eq_ok_iff_givenBy hfile hpassed filesHold_layered wordReads_layered
      fun _ => written_layered).mpr givenBy_layered⟩
  intro e hescapes
  obtain ⟨settings, hsettings⟩ := hloaded
  exact nomatch hsettings.symm.trans (load_of_escapes hfile hpassed hescapes)

-- ---------------------------------------------------------------------------
-- A file that is no text
-- ---------------------------------------------------------------------------

/-- A home file that is the byte 0xFF. -/
def undecodable : Sources where
  files := ⟨.directory [("home", .directory [(".rustgeiger.toml", .file [0xFF])]),
    ("work", .directory [])], ["work"]⟩
  home := ⟨.root, ["home"]⟩
  explicitFile := none
  environment := []
  overrides := []

/-- The file cannot be read as a text, and that is not reported on the configuration. -/
theorem undecodable_is_not_reported :
    undecodable.load .standard = .error (.notUnicode [0xFF] ⟨0, 1, .start⟩) ∧
      ¬ EndsWell .standard (undecodable.load .standard) := by
  have hpath : undecodable.homeFile = ⟨.root, ["home", ".rustgeiger.toml"]⟩ := by decide +kernel
  have hread : undecodable.files.read undecodable.homeFile = .ok [0xFF] := by
    rw [hpath]
    exact Files.FileSystem.read_below_top rfl rfl (by decide +kernel) (by decide +kernel)
      (by decide +kernel)
  have hescapes : undecodable.Escapes .standard (.notUnicode [0xFF] ⟨0, 1, .start⟩) :=
    .interrupted (.home (.notUnicode hread rfl))
  have hload := load_of_escapes (by decide) Table.namesDistinct_nil hescapes
  refine ⟨hload, ?_⟩
  rw [hload]
  intro hends
  cases hends with
  | reported h => exact hescapes.not_concernsConfiguration h

end UnsafeCensus.Sources
