import UnsafeCensus.Proofs.Scan.Agreement
import UnsafeCensus.Proofs.Text.WellFormed

/-!
# Sources that are no text

Bytes that are not well-formed UTF-8 are refused before they are parsed, at the end of their longest
well-formed beginning; all other bytes are read as a text, whatever is wrong with that. The same
holds of what a file in UTF-8 has behind its byte order mark, only that the place is one of the
file.
-/

namespace UnsafeCensus

open Text.Utf8 (WellFormed WellFormedUpTo)

-- ---------------------------------------------------------------------------
-- Failures to decode
-- ---------------------------------------------------------------------------

/-- Bytes did not fit the encoding, as opposed to a text that did not fit the grammar. -/
def Cause.IsUndecodable (c : Cause) : Prop :=
  ∃ encoding reason, c = .undecodable encoding reason

theorem Diagnosis.not_isUndecodable_failure (source : List UInt8) (root : Tree) :
    ¬ (failure source root).cause.IsUndecodable := by
  rintro ⟨encoding, reason, h⟩
  unfold failure at h
  split at h
  · simp only [failureAt] at h
    unfold cause at h
    split at h
    · cases h
    · split at h <;> cases h
  · cases h

theorem Text.decodeUtf8_eq_error {bytes : List UInt8} {fault : DecodeFault} :
    decodeUtf8 bytes = .error fault ↔
      ∃ e, Utf8.decode? bytes = .error e ∧ ⟨"utf-8", e.flaw.message, e.offset⟩ = fault :=
  mapError_eq_error

/-- The outcome tells whether bytes are UTF-8: there is a failure to decode iff they are not, and it
stands behind their longest well-formed beginning. It is `placed` where the bytes come from. -/
structure ChecksUtf8 (outcome : Outcome) (bytes : List UInt8) (placed : Failure → Failure) :
    Prop where
  caught : (∃ f, outcome = .error f ∧ f.cause.IsUndecodable) ↔ ¬ WellFormed bytes
  located : ¬ WellFormed bytes → ∃ n reason, WellFormedUpTo bytes n ∧
    outcome = .error (placed (.ofOffset (.undecodable "utf-8" reason) bytes n))

theorem ChecksUtf8.mapError {outcome : Outcome} {bytes : List UInt8} {move : Failure → Failure}
    (h : ChecksUtf8 outcome bytes id) (hcause : ∀ f, (move f).cause = f.cause) :
    ChecksUtf8 (outcome.mapError move) bytes move := by
  refine ⟨?_, ?_⟩
  · rw [← h.caught]
    constructor
    · rintro ⟨_, houtcome, hundecodable⟩
      obtain ⟨f, hf, rfl⟩ := mapError_eq_error.mp houtcome
      exact ⟨f, hf, hcause f ▸ hundecodable⟩
    · rintro ⟨f, hf, hundecodable⟩
      exact ⟨move f, mapError_eq_error.mpr ⟨f, hf, rfl⟩, (hcause f).symm ▸ hundecodable⟩
  · intro hbytes
    obtain ⟨n, reason, hn, houtcome⟩ := h.located hbytes
    exact ⟨n, reason, hn, mapError_eq_error.mpr ⟨_, houtcome, rfl⟩⟩

theorem ChecksUtf8.located_at {outcome : Outcome} {bytes : List UInt8} {placed : Failure → Failure}
    {n : Nat} (h : ChecksUtf8 outcome bytes placed) (hbytes : ¬ WellFormed bytes)
    (hn : WellFormedUpTo bytes n) :
    ∃ reason, outcome = .error (placed (.ofOffset (.undecodable "utf-8" reason) bytes n)) := by
  obtain ⟨m, reason, hm, houtcome⟩ := h.located hbytes
  obtain rfl := hm.unique hn
  exact ⟨reason, houtcome⟩

namespace Scan

theorem not_isUndecodable_of_text {parser : Parser} {includeTests : Bool} {s : List Char}
    {f : Failure} (h : (text parser includeTests s).value = .error f) :
    ¬ f.cause.IsUndecodable := by
  rw [text, value_encoded] at h
  split at h
  · rw [← Except.error.inj h]
    exact Diagnosis.not_isUndecodable_failure _ _
  · cases h

theorem checksUtf8_bytes (parser : Parser) (includeTests : Bool) (d : List UInt8) :
    ChecksUtf8 (bytes parser includeTests d).value d id := by
  cases hread : Text.Utf8.decode? d with
  | ok s =>
    have hd : WellFormed d := Text.Utf8.wellFormed_iff_decode?.mpr ⟨s, hread⟩
    have hdecode := Text.decodeUtf8_eq_ok.mpr (Text.Utf8.decode?_eq_ok.mp hread)
    rw [bytes_of_decodeUtf8_eq_ok hdecode]
    refine ⟨⟨?_, fun hnot => absurd hd hnot⟩, fun hnot => absurd hd hnot⟩
    rintro ⟨f, hf, hundecodable⟩
    exact absurd hundecodable (not_isUndecodable_of_text hf)
  | error e =>
    have hupTo := Text.Utf8.wellFormedUpTo_offset hread
    have hd : ¬ WellFormed d := by
      rw [Text.Utf8.wellFormed_iff_decode?, hread]
      rintro ⟨s, hs⟩
      cases hs
    rw [bytes_of_decodeUtf8_eq_error (Text.decodeUtf8_eq_error.mpr ⟨e, hread, rfl⟩)]
    exact ⟨⟨fun _ => hd, fun _ => ⟨_, rfl, _, _, rfl⟩⟩, fun _ => ⟨_, _, hupTo, rfl⟩⟩

/-- A scan of bytes fails to decode iff they are not well-formed UTF-8, whatever the parser would
make of them, and then stands behind the longest beginning that is. So does the scan of a file in
UTF-8, for what is behind its byte order mark: the failure names the file, and a mark moves it by
three bytes. -/
theorem undecodable_bytes_are_located (parser : Parser) :
    (∀ includeTests d, ChecksUtf8 (bytes parser includeTests d).value d id) ∧
    ∀ codecs (settings : Settings codecs) (files : Files.FileSystem) path d,
      settings.encoding.codec = .utf8 →
      (files.read path = .ok d → ¬ Text.Utf8.byteOrderMark <+: d →
        ∃ logged, file parser settings files path = .ok logged ∧
          ChecksUtf8 logged.value d fun f => ⟨f.cause, f.offset, f.line, f.column, some path⟩) ∧
      (files.read path = .ok (Text.Utf8.byteOrderMark ++ d) →
        ∃ logged, file parser settings files path = .ok logged ∧
          ChecksUtf8 logged.value d fun f =>
            ⟨f.cause, f.offset + 3, f.line, if f.line = 1 then f.column + 3 else f.column,
              some path⟩) := by
  refine ⟨checksUtf8_bytes parser, ?_⟩
  intro codecs settings files path d hutf8
  have hbytes := checksUtf8_bytes parser settings.includeTests d
  constructor
  · intro hread hmark
    obtain ⟨records, hfile⟩ := exists_file_eq parser hutf8 hread
    rw [markLength_of_not_isPrefix hmark, List.drop_zero, funext relocate_zero] at hfile
    exact ⟨_, hfile, hbytes.mapError fun _ => rfl⟩
  · intro hread
    obtain ⟨records, hfile⟩ := exists_file_eq parser hutf8 hread
    rw [markLength_append, List.drop_left, funext relocate_mark] at hfile
    exact ⟨_, hfile, hbytes.mapError fun _ => rfl⟩

/-- A surrogate behind a letter, in bytes, in a file and in a file with a mark. -/
theorem surrogate_is_located :
    let d : List UInt8 := [0x61, 0xED, 0xA0, 0x80]
    let marked := Text.Utf8.byteOrderMark ++ d
    let parser : Parser := fun _ => strayBrace
    ¬ WellFormed d ∧ WellFormedUpTo d 1 ∧ plainSettings.encoding.codec = .utf8 ∧
    (∃ reason, (bytes parser true d).value =
      .error ⟨.undecodable "utf-8" reason, 1, 1, 2, none⟩) ∧
    (libHolding d).read libPath = .ok d ∧ ¬ Text.Utf8.byteOrderMark <+: d ∧
    (∃ logged reason, file parser plainSettings (libHolding d) libPath = .ok logged ∧
      logged.value = .error ⟨.undecodable "utf-8" reason, 1, 1, 2, some libPath⟩) ∧
    (libHolding marked).read libPath = .ok marked ∧
    ∃ logged reason, file parser plainSettings (libHolding marked) libPath = .ok logged ∧
      logged.value = .error ⟨.undecodable "utf-8" reason, 4, 1, 5, some libPath⟩ := by
  intro d marked parser
  obtain ⟨hbytes, hfiles⟩ := undecodable_bytes_are_located parser
  have hbad : ¬ WellFormed d := by decide
  have hfault : Text.Utf8.decode? d = .error ⟨1, 2, .continuation⟩ := rfl
  have hupTo : WellFormedUpTo d 1 := Text.Utf8.wellFormedUpTo_offset hfault
  have hunmarked : ¬ Text.Utf8.byteOrderMark <+: d := by decide
  obtain ⟨reason, hvalue⟩ := (hbytes true d).located_at hbad hupTo
  have hutf8 : plainSettings.encoding.codec = .utf8 := Encoding.codec_utf8
  obtain ⟨plain, hplain, hchecks⟩ := (hfiles _ plainSettings (libHolding d) libPath d hutf8).1
    (read_libHolding d) hunmarked
  obtain ⟨reason', hvalue'⟩ := hchecks.located_at hbad hupTo
  obtain ⟨behind, hbehind, hchecks⟩ :=
    (hfiles _ plainSettings (libHolding marked) libPath d hutf8).2 (read_libHolding marked)
  obtain ⟨reason'', hvalue''⟩ := hchecks.located_at hbad hupTo
  exact ⟨hbad, hupTo, hutf8, ⟨reason, hvalue⟩, read_libHolding d, hunmarked,
    ⟨plain, reason', hplain, hvalue'⟩, read_libHolding marked, behind, reason'', hbehind, hvalue''⟩

end Scan

end UnsafeCensus
