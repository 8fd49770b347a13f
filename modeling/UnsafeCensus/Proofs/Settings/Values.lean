import UnsafeCensus.Proofs.Fault.Sequence
import UnsafeCensus.Proofs.Value.Table
import UnsafeCensus.Settings.Basic

/-!
# Settings and the values that give them

Which values suit a setting, which settings a table of values gives, and how a table can fail to
give any. Settings are given by their values alone: neither the order of the table nor what stands
beside the settings matters, as long as every name in it is one of theirs.
-/

namespace UnsafeCensus

namespace Text.Str

theorem ofString_ofList (cs : List Char) : ofString (String.ofList cs) = ofChars cs := by
  rw [ofString, String.toList_ofList]

theorem ofString_injective {a b : String} (h : ofString a = ofString b) : a = b :=
  String.toList_injective (ofChars_injective h)

end Text.Str

theorem Verbosity.ofName?_eq_some {s : Text.Str} {v : Verbosity} :
    ofName? s = some v ↔ s = v.name := by
  constructor
  · intro h
    have hname := List.find?_some (p := fun v : Verbosity => Text.Str.ofString v.name == s) h
    exact (beq_iff_eq.mp hname).symm
  · rintro rfl
    exact ofName?_name v

namespace Encoding

variable {codecs : Text.Registry}

theorem find?_name (e : Encoding codecs) : codecs.find? e.name = some e.codec :=
  (Option.some_get e.known).symm

theorem ofName?_eq_some {name : String} {e : Encoding codecs} :
    ofName? name = some e ↔ name = e.name := by
  constructor
  · intro h
    unfold ofName? at h
    split at h
    · cases h
      rfl
    · cases h
  · rintro rfl
    exact dif_pos e.known

end Encoding

/-- A value that cannot be set is reported with its text, or cannot even be shown. -/
theorem Fault.ofValue_eq (levels : Nat) (key : String) (v : Value) (reason : Text.Str) :
    (∃ shown, v.display levels = .ok shown ∧
      ofValue levels key v reason = .invalidSetting ⟨key, v, shown, reason⟩) ∨
    ∃ why, v.display levels = .error why ∧ ofValue levels key v reason = .unshowable why := by
  unfold ofValue
  cases v.display levels with
  | ok shown => exact Or.inl ⟨shown, rfl, rfl⟩
  | error why => exact Or.inr ⟨why, rfl, rfl⟩

namespace Settings

-- ---------------------------------------------------------------------------
-- Names of encodings
-- ---------------------------------------------------------------------------

/-- How the search for a codec refuses a value that it cannot take: one that is no text, a text with
the character that ends texts, and a text that is not all characters. -/
inductive Unsearchable : Value → Fault → Prop
  | nontext {v : Value} (h : ∀ s, v ≠ .str s) :
      Unsearchable v (.misfit (.notText "lookup()" (nontextName v)))
  | nul {name : String} (h : '\x00' ∈ name.toList) : Unsearchable (.str name) .nulInName
  | surrogates {s : Text.Str} (h : s.chars? = none) :
      Unsearchable (.str s) (.unencodable s.encodeFault)

variable {v : Value} {e : Fault}

theorem searchedName_ofChars (cs : List Char) :
    searchedName (.str (.ofChars cs)) =
      if '\x00' ∈ cs then .error .nulInName else .ok (String.ofList cs) := by
  simp [searchedName, mapError_ok, bind, Except.bind]

theorem searchedName_of_chars?_eq_none {s : Text.Str} (h : s.chars? = none) :
    searchedName (.str s) = .error (.unencodable s.encodeFault) := by
  simp [searchedName, Text.Str.toChars, h, mapError_error, bind, Except.bind]

theorem searchedName_eq_error : searchedName v = .error e ↔ Unsearchable v e := by
  constructor
  · intro h
    cases v with
    | str s =>
      cases hchars : s.chars? with
      | none =>
        rw [searchedName_of_chars?_eq_none hchars] at h
        cases h
        exact .surrogates hchars
      | some cs =>
        obtain rfl := Text.Str.chars?_eq_some.mp hchars
        rw [searchedName_ofChars] at h
        split at h
        · next hnul =>
          cases h
          rw [← Text.Str.ofString_ofList]
          exact .nul (by simpa using hnul)
        · cases h
    | _ =>
      cases h
      exact .nontext nofun
  · intro h
    cases h with
    | nontext h =>
      cases v with
      | str s => exact absurd rfl (h s)
      | _ => rfl
    | @nul name h => exact (searchedName_ofChars name.toList).trans (if_pos h)
    | surrogates h => exact searchedName_of_chars?_eq_none h

theorem searchedName_eq_ok {name : String} :
    searchedName v = .ok name ↔ v = .str name ∧ '\x00' ∉ name.toList := by
  constructor
  · intro h
    cases v with
    | str s =>
      cases hchars : s.chars? with
      | none =>
        rw [searchedName_of_chars?_eq_none hchars] at h
        cases h
      | some cs =>
        obtain rfl := Text.Str.chars?_eq_some.mp hchars
        rw [searchedName_ofChars] at h
        split at h
        · cases h
        · next hnul =>
          cases h
          rw [Text.Str.ofString_ofList]
          exact ⟨rfl, by simpa using hnul⟩
    | _ => cases h
  · rintro ⟨rfl, hnul⟩
    rw [Text.Str.ofString, searchedName_ofChars, if_neg hnul, String.ofList_toList]

-- ---------------------------------------------------------------------------
-- One value
-- ---------------------------------------------------------------------------

def SuitsIncludeTests (v : Value) : Prop := ∃ b, v = .bool b

def SuitsVerbosity (v : Value) : Prop := ∃ verbosity : Verbosity, v = .str verbosity.name

/-- The name of a codec, without the character that ends texts. -/
def SuitsEncoding (codecs : Text.Registry) (v : Value) : Prop :=
  ∃ encoding : Encoding codecs, v = .str encoding.name ∧ '\x00' ∉ encoding.name.toList

variable {levels : Nat} {host : Host}

theorem readIncludeTests_eq_ok {b : Bool} : readIncludeTests levels v = .ok b ↔ v = .bool b := by
  cases v <;> simp [readIncludeTests]

theorem readVerbosity_eq_ok {verbosity : Verbosity} :
    readVerbosity levels v = .ok verbosity ↔ v = .str verbosity.name := by
  cases v with
  | str s =>
    rw [Value.str.injEq, ← Verbosity.ofName?_eq_some]
    cases h : Verbosity.ofName? s <;> simp [readVerbosity, h]
  | _ => simp [readVerbosity]

theorem readEncoding_eq_ok {encoding : Encoding host.codecs} :
    readEncoding host v = .ok encoding ↔
      v = .str encoding.name ∧ '\x00' ∉ encoding.name.toList := by
  constructor
  · intro h
    obtain ⟨name, hname, h⟩ := bind_eq_ok.mp h
    split at h
    · next found hfound =>
      cases h
      rw [← Encoding.ofName?_eq_some.mp hfound]
      exact searchedName_eq_ok.mp hname
    · cases h
  · intro h
    refine bind_eq_ok.mpr ⟨_, searchedName_eq_ok.mpr h, ?_⟩
    rw [Encoding.ofName?_eq_some.mpr rfl]
    rfl

/-- A value that the search cannot take is refused by it, and a name that it does not find is
reported. -/
theorem readEncoding_eq_error :
    readEncoding host v = .error e ↔ Unsearchable v e ∨
      ∃ name : String, v = .str name ∧ '\x00' ∉ name.toList ∧ host.codecs.find? name = none ∧
        e = .ofValue host.levels encodingKey v (.ofString "unknown codec") := by
  rw [readEncoding, bind_eq_error, searchedName_eq_error]
  apply or_congr_right
  constructor
  · rintro ⟨name, hname, h⟩
    obtain ⟨rfl, hnul⟩ := searchedName_eq_ok.mp hname
    split at h
    · cases h
    · next hunknown =>
      cases h
      refine ⟨name, rfl, hnul, ?_, rfl⟩
      unfold Encoding.ofName? at hunknown
      split at hunknown
      · cases hunknown
      · next hnone => exact Option.not_isSome_iff_eq_none.mp hnone
  · rintro ⟨name, rfl, hnul, hnone, rfl⟩
    refine ⟨name, searchedName_eq_ok.mpr ⟨rfl, hnul⟩, ?_⟩
    rw [Encoding.ofName?, dif_neg (by simp [hnone])]
    rfl

-- ---------------------------------------------------------------------------
-- All values
-- ---------------------------------------------------------------------------

variable {codecs : Text.Registry}

/-- Values under their names give these settings. What no value is given for is as by default. -/
structure GivenBy (value? : String → Option Value) (settings : Settings codecs) : Prop where
  includeTests : (value? includeTestsKey).getD (.bool (default : Settings codecs).includeTests) =
    .bool settings.includeTests
  verbosity : (value? verbosityKey).getD (.str (default : Settings codecs).verbosity.name) =
    .str settings.verbosity.name
  encoding : (value? encodingKey).getD (.str (default : Settings codecs).encoding.name) =
    .str settings.encoding.name
  nulFree : '\x00' ∉ settings.encoding.name.toList

/-- Settings are given by the values of their own names alone. -/
theorem GivenBy.congr {value? value?' : String → Option Value}
    (h : ∀ key ∈ keys, value? key = value?' key) {settings : Settings codecs} :
    GivenBy value? settings ↔ GivenBy value?' settings := by
  have htests := h includeTestsKey (by decide)
  have hverbosity := h verbosityKey (by decide)
  have hencoding := h encodingKey (by decide)
  constructor <;> intro hgiven
  · exact ⟨htests ▸ hgiven.includeTests, hverbosity ▸ hgiven.verbosity,
      hencoding ▸ hgiven.encoding, hgiven.nulFree⟩
  · exact ⟨htests ▸ hgiven.includeTests, hverbosity ▸ hgiven.verbosity,
      hencoding ▸ hgiven.encoding, hgiven.nulFree⟩

/-- A setting that may be left out is read from the value that stands for it then. -/
theorem readOr_eq_ok {α : Type} {read : Value → Except Fault α} {absentValue : Value} {absent : α}
    (habsent : read absentValue = .ok absent) {t : Table Value} {key : String} {a : α} :
    readOr t key read absent = .ok a ↔ read ((t.get? key).getD absentValue) = .ok a := by
  unfold readOr
  split
  · next v h => rw [h, Option.getD_some]
  · next h => rw [h, Option.getD_none, habsent]

theorem readOr_eq_error {α : Type} {read : Value → Except Fault α} {absent : α} {t : Table Value}
    {key : String} :
    readOr t key read absent = .error e ↔ ∃ v, t.get? key = some v ∧ read v = .error e := by
  unfold readOr
  split
  · next v h => simp [h]
  · next h => simp [h]

theorem exists_readOr_eq_ok {α : Type} {read : Value → Except Fault α} (absent : α)
    {t : Table Value} {key : String} (h : ∀ v, t.get? key = some v → ∃ a, read v = .ok a) :
    ∃ a, readOr t key read absent = .ok a := by
  unfold readOr
  split
  · next v hget => exact h v hget
  · exact ⟨absent, rfl⟩

variable {t : Table Value}

theorem firstMisfit?_eq_none {names : List String} :
    firstMisfit? names = none ↔ ∀ name ∈ names, name ∈ keys := by
  simp [firstMisfit?]

theorem nul_not_mem_utf8 : '\x00' ∉ (Encoding.utf8 : Encoding codecs).name.toList := by
  simp [Encoding.utf8]

theorem readDefault (host : Host) :
    readIncludeTests host.levels (.bool (default : Settings host.codecs).includeTests) =
      .ok (ofTable?.given host).includeTests ∧
    readVerbosity host.levels (.str (default : Settings host.codecs).verbosity.name) =
      .ok (ofTable?.given host).verbosity ∧
    readEncoding host (.str (default : Settings host.codecs).encoding.name) =
      .ok (ofTable?.given host).encoding :=
  ⟨rfl, readVerbosity_eq_ok.mpr rfl, readEncoding_eq_ok.mpr ⟨rfl, nul_not_mem_utf8⟩⟩

/-- A table gives settings iff all its names are theirs and its values are those of the settings. -/
theorem ofTable?_eq_ok {settings : Settings host.codecs} :
    ofTable? host t = .ok settings ↔
      (∀ name ∈ t.map (·.1), name ∈ keys) ∧ GivenBy t.get? settings := by
  obtain ⟨hdefaultTests, hdefaultVerbosity, hdefaultEncoding⟩ := readDefault host
  unfold ofTable?
  cases hmisfit : firstMisfit? (t.map (·.1)) with
  | some m =>
    simp only [reduceCtorEq, false_iff, not_and]
    intro hnames
    rw [firstMisfit?_eq_none.mpr hnames] at hmisfit
    cases hmisfit
  | none =>
    have hnames := firstMisfit?_eq_none.mp hmisfit
    constructor
    · intro h
      obtain ⟨includeTests, htests, h⟩ := bind_eq_ok.mp h
      obtain ⟨verbosity, hverbosity, h⟩ := bind_eq_ok.mp h
      obtain ⟨encoding, hencoding, h⟩ := bind_eq_ok.mp h
      cases h
      obtain ⟨hname, hfree⟩ := readEncoding_eq_ok.mp ((readOr_eq_ok hdefaultEncoding).mp hencoding)
      exact ⟨hnames, readIncludeTests_eq_ok.mp ((readOr_eq_ok hdefaultTests).mp htests),
        readVerbosity_eq_ok.mp ((readOr_eq_ok hdefaultVerbosity).mp hverbosity), hname, hfree⟩
    · rintro ⟨-, hgiven⟩
      have htests :=
        (readOr_eq_ok hdefaultTests).mpr (readIncludeTests_eq_ok.mpr hgiven.includeTests)
      have hverbosity :=
        (readOr_eq_ok hdefaultVerbosity).mpr (readVerbosity_eq_ok.mpr hgiven.verbosity)
      have hencoding := (readOr_eq_ok hdefaultEncoding).mpr
        (readEncoding_eq_ok.mpr ⟨hgiven.encoding, hgiven.nulFree⟩)
      refine bind_eq_ok.mpr ⟨_, htests, bind_eq_ok.mpr ⟨_, hverbosity, ?_⟩⟩
      refine bind_eq_ok.mpr ⟨_, hencoding, ?_⟩
      rfl

/-- A value that may be left out suits, if the one that stands for it then does. -/
theorem suits_getD {P : Value → Prop} {value : Option Value} {absent : Value} (habsent : P absent)
    (h : ∀ v, value = some v → P v) : P (value.getD absent) := by
  cases value with
  | none => exact habsent
  | some v => exact h v rfl

theorem suitsEncoding_default (codecs : Text.Registry) :
    SuitsEncoding codecs (.str (default : Settings codecs).encoding.name) :=
  ⟨.utf8, rfl, nul_not_mem_utf8⟩

/-- Settings are given iff every value that is given suits its setting. -/
theorem exists_givenBy {value? : String → Option Value} :
    (∃ settings : Settings codecs, GivenBy value? settings) ↔
      (∀ v, value? includeTestsKey = some v → SuitsIncludeTests v) ∧
      (∀ v, value? verbosityKey = some v → SuitsVerbosity v) ∧
      ∀ v, value? encodingKey = some v → SuitsEncoding codecs v := by
  constructor
  · rintro ⟨settings, h⟩
    refine ⟨?_, ?_, ?_⟩ <;> intro v hv
    · exact ⟨_, by simpa [hv] using h.includeTests⟩
    · exact ⟨_, by simpa [hv] using h.verbosity⟩
    · exact ⟨_, by simpa [hv] using h.encoding, h.nulFree⟩
  · rintro ⟨htests, hverbosity, hencoding⟩
    obtain ⟨b, hb⟩ := suits_getD (P := SuitsIncludeTests) ⟨_, rfl⟩ htests
    obtain ⟨verbosity, hv⟩ := suits_getD (P := SuitsVerbosity) ⟨_, rfl⟩ hverbosity
    obtain ⟨encoding, he, hfree⟩ := suits_getD (suitsEncoding_default codecs) hencoding
    exact ⟨⟨b, verbosity, encoding⟩, hb, hv, he, hfree⟩

/-- A name that is no setting is refused whatever the values are. -/
theorem exists_misfit_of_not_mem_keys (host : Host) {name : String} (hmem : name ∈ t.map (·.1))
    (hname : name ∉ keys) :
    ∃ m, firstMisfit? (t.map (·.1)) = some m ∧ ofTable? host t = .error (.misfit m) := by
  cases hmisfit : firstMisfit? (t.map (·.1)) with
  | none => exact absurd (firstMisfit?_eq_none.mp hmisfit name hmem) hname
  | some m => exact ⟨m, rfl, by rw [ofTable?, hmisfit]⟩

end Settings

end UnsafeCensus
