import UnsafeCensus.Proofs.Scan.Placement

/-!
# One outcome at all entry points

A text and the bytes of its UTF-8 are the same source. A file in UTF-8 is scanned as the bytes
behind its byte order mark: strict reading accepts exactly what texts are written as, so nothing is
lost between the decoded text and the bytes that are parsed. A failure is moved by the mark and
names the file. Where a census is required, a failure of the scan is the one cause for a parsing
error, and the error says what the failure says.
-/

namespace UnsafeCensus

open Text (decodeUtf8_eq_ok)

-- ---------------------------------------------------------------------------
-- Parsing errors
-- ---------------------------------------------------------------------------

/-- An error says what a failure says, of a source in the language that is scanned. -/
structure ParsingError.Carries (error : ParsingError) (f : Failure) : Prop where
  path : error.path = f.path
  language : error.language = "rust"
  reason : error.reason = f.message
  offset : error.offset = f.offset
  line : error.line = f.line
  column : error.column = f.column

theorem ParsingError.carries_iff {error : ParsingError} {f : Failure} :
    error.Carries f ↔ error = f.toError := by
  constructor
  · rintro ⟨hpath, hlanguage, hreason, hoffset, hline, hcolumn⟩
    obtain ⟨path, language, reason, offset, line, column⟩ := error
    subst hpath hlanguage hreason hoffset hline hcolumn
    rfl
  · rintro rfl
    exact ⟨rfl, rfl, rfl, rfl, rfl, rfl⟩

/-- The text of the error that a failure is raised as: the file, the place, and what is wrong. -/
def Failure.raisedText (f : Failure) : String :=
  (match f.path with
    | some path => path.toString ++ ": "
    | none => "") ++ "Failed to parse rust source at " ++ s!"{f.line}:{f.column}" ++
    " (reason=" ++ f.message ++ ", offset=" ++ toString f.offset ++ ")"

theorem Text.Str.ofString_append (a b : String) :
    ofString (a ++ b) = ofString a ++ ofString b := by
  rw [ofString, ofString, ofString, ofChars, ofChars, ofChars, String.toList_append, List.map_append]

theorem ParsingError.Carries.message {error : ParsingError} {f : Failure} (h : error.Carries f) :
    (Fault.unparsable error).message = .ofString f.raisedText := by
  obtain rfl := carries_iff.mp h
  have hnone : Text.Str.ofString "" = [] := rfl
  have hplace : Text.Str.ofString "Failed to parse rust source at " =
      .ofString "Failed to parse " ++ .ofString "rust" ++ .ofString " source at " := by decide
  have hreason : Text.Str.ofString " (reason=" =
      .ofString " (" ++ .ofString "reason" ++ .ofString "=" := by decide
  have hoffset : Text.Str.ofString ", offset=" =
      .ofString ", " ++ .ofString "offset" ++ .ofString "=" := by decide
  rw [Fault.message, Report.text, Failure.raisedText, Failure.toError]
  cases f.path <;>
    simp only [report, Report.detailText, Text.Str.join, Text.Str.ofString_append, hnone, hplace,
      hreason, hoffset, List.isEmpty_cons, Bool.false_eq_true, if_false, List.map_cons, List.map_nil,
      List.intersperse_cons_cons, List.intersperse_singleton, List.flatten_cons, List.flatten_nil,
      List.append_nil, List.append_assoc, toString]

theorem Fault.kind_eq_parsing {e : Fault} :
    e.kind = .report .parsing ↔ ∃ error, e = .unparsable error := by
  constructor
  · intro h
    cases e with
    | unparsable error => exact ⟨error, rfl⟩
    | access a =>
      cases a with
      | nulByte => cases h
      | system error path => cases error <;> cases h
    | unshowable why => cases why <;> cases h
    | _ => cases h
  · rintro ⟨error, rfl⟩
    rfl

namespace Scan

-- ---------------------------------------------------------------------------
-- Texts and bytes
-- ---------------------------------------------------------------------------

variable {parser : Parser} {includeTests : Bool}

theorem bytes_of_decodeUtf8_eq_ok {bs : List UInt8} {s : List Char}
    (h : Text.decodeUtf8 bs = .ok s) :
    bytes parser includeTests bs = text parser includeTests s := by
  simp only [bytes, h, text, ← decodeUtf8_eq_ok.mp h]

theorem bytes_of_decodeUtf8_eq_error {bs : List UInt8} {fault : Text.DecodeFault}
    (h : Text.decodeUtf8 bs = .error fault) :
    bytes parser includeTests bs = ⟨.error (.ofDecodeFault bs fault), []⟩ := by
  simp only [bytes, h]

variable (parser includeTests) in
theorem bytes_encode (s : List Char) :
    bytes parser includeTests (Text.Utf8.encode s) = text parser includeTests s :=
  bytes_of_decodeUtf8_eq_ok (decodeUtf8_eq_ok.mpr rfl)

-- ---------------------------------------------------------------------------
-- Files
-- ---------------------------------------------------------------------------

variable {codecs : Text.Registry} {settings : Settings codecs} {files : Files.FileSystem}
  {path : Files.Path}

variable (parser) in
/-- A file in UTF-8 is scanned as the bytes behind its mark, and only the place of a failure is
another one. -/
theorem exists_file_eq (hutf8 : settings.encoding.codec = .utf8) {data : List UInt8}
    (hread : files.read path = .ok data) :
    ∃ records, file parser settings files path =
      .ok ⟨(bytes parser settings.includeTests (data.drop (markLength data))).value.mapError
        (relocate path (markLength data)), records⟩ := by
  cases hdecode : Text.decodeUtf8 (data.drop (markLength data)) with
  | error fault =>
    rw [bytes_of_decodeUtf8_eq_error hdecode, file, hread]
    simp only [content, hutf8, Text.Codec.utf8, Text.Scheme.decode?_codec, Text.Scheme.decode, hdecode,
      Text.Decoded.ofExcept]
    exact ⟨_, rfl⟩
  | ok s =>
    rw [bytes_of_decodeUtf8_eq_ok hdecode]
    refine exists_file_eq_of_decode parser settings hread ?_
    rw [hutf8, Text.Codec.utf8, Text.Scheme.decode?_codec_eq_text]
    exact hdecode

theorem markLength_of_not_isPrefix {data : List UInt8}
    (h : ¬ Text.Utf8.byteOrderMark <+: data) : markLength data = 0 := by
  rw [markLength, if_neg]
  simpa using h

theorem markLength_append (data : List UInt8) :
    markLength (Text.Utf8.byteOrderMark ++ data) = Text.Utf8.byteOrderMark.length := by
  rw [markLength, if_pos]
  simp

theorem relocate_zero (f : Failure) : relocate path 0 f = f.withPath path := by
  have h : f.shifted (0 : Nat) = f := f.shifted_zero
  rw [relocate, h]

/-- The mark in front moves the offset by its three bytes, and the column on the first line. -/
theorem relocate_mark (f : Failure) :
    relocate path Text.Utf8.byteOrderMark.length f =
      ⟨f.cause, f.offset + 3, f.line, if f.line = 1 then f.column + 3 else f.column, some path⟩ :=
  rfl

-- ---------------------------------------------------------------------------
-- Required censuses
-- ---------------------------------------------------------------------------

/-- A census that is required of a scan. It is there iff the scan has it, a failure of the scan is
raised as a parsing error that carries it, and every other fault is one of the scan. -/
structure Requires (census : Except Fault Metrics) (scanned : Except Fault (Logged Outcome)) :
    Prop where
  present : ∀ m, census = .ok m ↔ ∃ records, scanned = .ok ⟨.ok m, records⟩
  parsing : ∀ e, census = .error e ∧ e.kind = .report .parsing ↔
    ∃ error f records, scanned = .ok ⟨.error f, records⟩ ∧ error.Carries f ∧ e = .unparsable error
  other : ∀ e, e.kind ≠ .report .parsing → (census = .error e ↔ scanned = .error e)

theorem requires_required {scanned : Except Fault (Logged Outcome)}
    (h : ∀ e, scanned = .error e → e.kind ≠ .report .parsing) :
    Requires (required scanned) scanned := by
  match scanned with
  | .error e₀ =>
    refine ⟨by simp, ?_, by simp⟩
    intro e
    simp only [required_fault, Except.error.injEq, reduceCtorEq, false_and, exists_false, iff_false]
    rintro ⟨rfl, hkind⟩
    exact h e₀ rfl hkind
  | .ok ⟨.ok m₀, records⟩ => exact ⟨by simp, by simp, by simp⟩
  | .ok ⟨.error f₀, records⟩ =>
    refine ⟨by simp, ?_, ?_⟩
    · intro e
      constructor
      · rintro ⟨he, -⟩
        exact ⟨f₀.toError, f₀, records, rfl, ParsingError.carries_iff.mpr rfl,
          (Except.error.inj he).symm⟩
      · rintro ⟨error, f, _, hf, hcarries, rfl⟩
        cases hf
        rw [ParsingError.carries_iff.mp hcarries]
        exact ⟨rfl, rfl⟩
    · intro e hkind
      simp only [required_failure, Except.error.injEq, reduceCtorEq, iff_false]
      rintro rfl
      exact hkind rfl

theorem kind_ne_parsing_of_string {s : Text.Str} {e : Fault}
    (h : string parser includeTests s = .error e) : e.kind ≠ .report .parsing := by
  rw [string] at h
  cases hchars : s.toChars with
  | ok cs =>
    rw [hchars] at h
    cases h
  | error fault =>
    rw [hchars] at h
    cases h
    intro hkind
    cases hkind

theorem kind_ne_parsing_of_content {data : List UInt8} {e : Fault}
    (h : content parser settings path data = .error e) : e.kind ≠ .report .parsing := by
  simp only [content] at h
  split at h
  · cases h
    intro hkind
    cases hkind
  · cases h
    intro hkind
    cases hkind
  · cases h
  · rename_i s _
    cases hstring : string parser settings.includeTests s with
    | ok scanned =>
      rw [hstring] at h
      cases h
    | error e' =>
      rw [hstring] at h
      cases h
      exact kind_ne_parsing_of_string hstring

theorem kind_ne_parsing_of_file {e : Fault} (h : file parser settings files path = .error e) :
    e.kind ≠ .report .parsing := by
  simp only [file] at h
  split at h
  · cases h
    rw [Ne, Fault.kind_eq_parsing]
    rintro ⟨_, hlifted⟩
    cases hlifted
  · exact kind_ne_parsing_of_content h

-- ---------------------------------------------------------------------------
-- Agreement
-- ---------------------------------------------------------------------------

/-- A text is scanned as its bytes in UTF-8. A file in UTF-8 has the outcome of its bytes: a failure
names the file, and stands three bytes further if a mark is in front. What is required of a scan is
what the scan has, and a failure is raised with all that it says. -/
theorem entry_points_agree {codecs : Text.Registry} (parser : Parser) (settings : Settings codecs)
    (files : Files.FileSystem) (path : Files.Path) :
    (∀ s, string parser settings.includeTests (.ofChars s) =
      .ok (bytes parser settings.includeTests (Text.Utf8.encode s))) ∧
    (settings.encoding.codec = .utf8 → ∀ d, files.read path = .ok d →
      ¬ Text.Utf8.byteOrderMark <+: d →
        ∃ records, file parser settings files path =
          .ok ⟨(bytes parser settings.includeTests d).value.mapError fun f =>
            ⟨f.cause, f.offset, f.line, f.column, some path⟩, records⟩) ∧
    (settings.encoding.codec = .utf8 → ∀ d,
      files.read path = .ok (Text.Utf8.byteOrderMark ++ d) →
        ∃ records, file parser settings files path =
          .ok ⟨(bytes parser settings.includeTests d).value.mapError fun f =>
            ⟨f.cause, f.offset + 3, f.line, if f.line = 1 then f.column + 3 else f.column,
              some path⟩, records⟩) ∧
    (∀ s, Requires (required (string parser settings.includeTests s))
      (string parser settings.includeTests s)) ∧
    (∀ d, Requires (required (.ok (bytes parser settings.includeTests d)))
      (.ok (bytes parser settings.includeTests d))) ∧
    Requires (required (file parser settings files path)) (file parser settings files path) ∧
    (∀ error f, error.Carries f → (Fault.unparsable error).message = .ofString f.raisedText) := by
  refine ⟨?_, ?_, ?_, ?_, ?_, ?_, ?_⟩
  · intro s
    rw [string_ofChars, bytes_encode]
  · intro hutf8 d hread hmark
    obtain ⟨records, hfile⟩ := exists_file_eq parser hutf8 hread
    rw [markLength_of_not_isPrefix hmark, List.drop_zero, funext relocate_zero] at hfile
    exact ⟨records, hfile⟩
  · intro hutf8 d hread
    obtain ⟨records, hfile⟩ := exists_file_eq parser hutf8 hread
    rw [markLength_append, List.drop_left, funext relocate_mark] at hfile
    exact ⟨records, hfile⟩
  · intro s
    exact requires_required fun e => kind_ne_parsing_of_string
  · intro d
    exact requires_required nofun
  · exact requires_required fun e => kind_ne_parsing_of_file
  · intro error f hcarries
    exact hcarries.message

/-- A stray brace on the first line, in bytes, in a file and in a file with a mark. -/
theorem strayBrace_agrees :
    let source := Text.Utf8.encode (comment ++ ['}'])
    let marked := Text.Utf8.byteOrderMark ++ source
    let parser : Parser := fun _ => strayBrace
    plainSettings.encoding.codec = .utf8 ∧
    (libHolding source).read libPath = .ok source ∧
    ¬ Text.Utf8.byteOrderMark <+: source ∧
    (libHolding marked).read libPath = .ok marked ∧
    (bytes parser true source).value = .error ⟨.unexpected ['}'], 8, 1, 9, none⟩ ∧
    (∃ records, file parser plainSettings (libHolding source) libPath =
      .ok ⟨.error ⟨.unexpected ['}'], 8, 1, 9, some libPath⟩, records⟩) ∧
    (∃ records, file parser plainSettings (libHolding marked) libPath =
      .ok ⟨.error ⟨.unexpected ['}'], 11, 1, 12, some libPath⟩, records⟩) ∧
    ∃ error : ParsingError,
      error.Carries ⟨.unexpected ['}'], 11, 1, 12, some libPath⟩ ∧
      (Fault.unparsable error).message = .ofString
        "lib.rs: Failed to parse rust source at 1:12 (reason=unexpected \x60\x7d\x60, offset=11)" := by
  intro source marked parser
  have hutf8 : plainSettings.encoding.codec = .utf8 := Encoding.codec_utf8
  have hunmarked : ¬ Text.Utf8.byteOrderMark <+: source := by decide
  have hexact : strayBrace.FlagsExact := by decide
  have hbytes : (bytes parser true source).value = .error ⟨.unexpected ['}'], 8, 1, 9, none⟩ := by
    rw [bytes_encode, text, value_encoded,
      Diagnosis.failure_of_firstFlaw? (hexact.firstFlaw?_eq.trans rfl)]
    rfl
  obtain ⟨plain, hplain⟩ := (entry_points_agree parser plainSettings (libHolding source)
    libPath).2.1 hutf8 source (read_libHolding source) hunmarked
  obtain ⟨-, -, hmarked, -, -, -, hraised⟩ :=
    entry_points_agree parser plainSettings (libHolding marked) libPath
  obtain ⟨behind, hbehind⟩ := hmarked hutf8 source (read_libHolding marked)
  have htests : plainSettings.includeTests = true := rfl
  rw [htests, hbytes] at hplain hbehind
  refine ⟨hutf8, read_libHolding source, hunmarked, read_libHolding marked, hbytes, ⟨plain, hplain⟩,
    ⟨behind, hbehind⟩, ?_⟩
  have hcarries := ParsingError.carries_iff (f := ⟨.unexpected ['}'], 11, 1, 12, some libPath⟩).mpr rfl
  refine ⟨_, hcarries, (hraised _ _ hcarries).trans ?_⟩
  decide +kernel

end Scan

end UnsafeCensus
