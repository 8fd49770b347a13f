import UnsafeCensus.Proofs.Scan.Agreement

/-!
# Failures that name one place

A failure gives its place three times over: as an offset, as a line and as a column. The three agree
with one another wherever the failure comes from: from reading bytes, from the points of a tree, or
from a file with a mark that was cut off before the text was read.
-/

namespace UnsafeCensus

namespace Text

/-- The bytes behind the last newline. -/
def lastLine (bytes : List UInt8) : List UInt8 :=
  (bytes.reverse.takeWhile (· != newline)).reverse

theorem columnAt_eq {bytes : List UInt8} {n : Nat} (h : n ≤ bytes.length) :
    columnAt bytes n = 1 + (lastLine (bytes.take n)).length := by
  have hsplit : (lastLine (bytes.take n)).length + lineStart bytes n = n := by
    rw [lastLine, lineStart, List.length_reverse, ← List.length_append,
      List.takeWhile_append_dropWhile, List.length_reverse, List.length_take, Nat.min_eq_left h]
  rw [columnAt]
  omega

end Text

-- ---------------------------------------------------------------------------
-- Coherent failures
-- ---------------------------------------------------------------------------

namespace Failure

/-- The offset of a failure lies in some bytes, its line counts the newlines before it, and its
column the bytes since the last of them. -/
structure Coherent (f : Failure) (bytes : List UInt8) : Prop where
  positive : 0 ≤ f.offset
  inside : f.offset ≤ bytes.length
  line : f.line = 1 + (bytes.take f.offset.toNat).count Text.newline
  column : f.column = 1 + (Text.lastLine (bytes.take f.offset.toNat)).length

/-- Up to the file it names, a coherent failure is the one at its offset. -/
theorem coherent_iff {f : Failure} {bytes : List UInt8} :
    f.Coherent bytes ↔
      ∃ n ≤ bytes.length, { f with path := none } = ofOffset f.cause bytes n := by
  constructor
  · rintro ⟨hpositive, hinside, hline, hcolumn⟩
    obtain ⟨n, hn⟩ := Int.eq_ofNat_of_zero_le hpositive
    have hlength : n ≤ bytes.length := by omega
    rw [hn, Int.toNat_natCast] at hline hcolumn
    refine ⟨n, hlength, ?_⟩
    rw [ofOffset, Text.columnAt_eq hlength, Text.lineAt, hn, hline, hcolumn, Nat.add_comm]
    rfl
  · rintro ⟨n, hn, heq⟩
    obtain ⟨-, hoffset, hline, hcolumn, -⟩ := Failure.mk.inj heq
    refine ⟨?_, ?_, ?_, ?_⟩
    · omega
    · omega
    · rw [hline, hoffset, Int.toNat_natCast, Text.lineAt, Nat.add_comm]
      rfl
    · rw [hcolumn, hoffset, Int.toNat_natCast, Text.columnAt_eq hn]
      rfl

theorem coherent_ofOffset (cause : Cause) {bytes : List UInt8} {n : Nat} (h : n ≤ bytes.length) :
    (ofOffset cause bytes n).Coherent bytes :=
  coherent_iff.mpr ⟨n, h, rfl⟩

theorem Coherent.shifted {f : Failure} {front bytes : List UInt8} (h : f.Coherent bytes)
    (hfront : Text.newline ∉ front) : (f.shifted front.length).Coherent (front ++ bytes) := by
  obtain ⟨n, hn, heq⟩ := coherent_iff.mp h
  refine coherent_iff.mpr ⟨front.length + n, ?_, ?_⟩
  · rw [List.length_append]
    omega
  · calc ({ f.shifted front.length with path := none } : Failure)
        = ({ f with path := none } : Failure).shifted front.length := rfl
      _ = (ofOffset f.cause bytes n).shifted front.length := by rw [heq]
      _ = ofOffset f.cause (front ++ bytes) (front.length + n) :=
          shifted_ofOffset f.cause hfront bytes n

theorem Coherent.withPath {f : Failure} {bytes : List UInt8} (h : f.Coherent bytes)
    (path : Files.Path) : (f.withPath path).Coherent bytes :=
  ⟨h.positive, h.inside, h.line, h.column⟩

theorem shifted_shifted (f : Failure) (m n : Int) :
    (f.shifted m).shifted n = f.shifted (m + n) := by
  simp only [Failure.shifted, Failure.mk.injEq, true_and, and_true]
  refine ⟨by omega, ?_⟩
  split <;> omega

end Failure

-- ---------------------------------------------------------------------------
-- Where failures begin
-- ---------------------------------------------------------------------------

/-- The nodes that a parser makes lie inside the source. -/
def Parser.StaysInside (parser : Parser) : Prop :=
  ∀ source, ∀ n ∈ (parser source).nodes, n.data.span.Within ⟨0, source.length⟩

/-- The points that a parser reports are the rows and columns at which its nodes start. -/
def Parser.PointsAtStart (parser : Parser) : Prop :=
  ∀ source, (parser source).PointsAtStart source

theorem Parser.StaysInside.flawStart_le {parser : Parser} (h : parser.StaysInside)
    (source : List UInt8) : (parser source).flawStart ≤ source.length := by
  unfold Tree.flawStart
  cases hflaw : Tree.firstFlaw? [parser source] with
  | none => exact Nat.zero_le _
  | some flaw =>
    have hspan := h source flaw (Tree.mem_nodes_of_firstFlaw? hflaw)
    exact Nat.le_trans hspan.proper hspan.stop

theorem Failure.coherent_ofDecodeFault {bytes : List UInt8} {fault : Text.DecodeFault}
    (h : Text.decodeUtf8 bytes = .error fault) :
    (Failure.ofDecodeFault bytes fault).Coherent bytes := by
  unfold Text.decodeUtf8 at h
  cases hread : Text.Utf8.decode? bytes with
  | ok s =>
    rw [hread] at h
    cases h
  | error e =>
    rw [hread] at h
    cases h
    exact coherent_ofOffset _ (Text.Utf8.offset_le_length hread)

namespace Scan

variable {parser : Parser} {includeTests : Bool} {f : Failure}

theorem coherent_of_text (hinside : parser.StaysInside) (hpoints : parser.PointsAtStart)
    {s : List Char}
    (h : (text parser includeTests s).value = .error f) : f.Coherent (Text.Utf8.encode s) := by
  rw [text, value_encoded] at h
  split at h
  · obtain ⟨cause, hcause⟩ := Diagnosis.exists_failure_eq (hpoints (Text.Utf8.encode s))
    rw [← Except.error.inj h, hcause]
    exact Failure.coherent_ofOffset cause (hinside.flawStart_le _)
  · cases h

theorem coherent_of_bytes (hinside : parser.StaysInside) (hpoints : parser.PointsAtStart)
    {d : List UInt8}
    (h : (bytes parser includeTests d).value = .error f) : f.Coherent d := by
  cases hdecode : Text.decodeUtf8 d with
  | error fault =>
    rw [bytes_of_decodeUtf8_eq_error hdecode] at h
    rw [← Except.error.inj h]
    exact Failure.coherent_ofDecodeFault hdecode
  | ok s =>
    rw [bytes_of_decodeUtf8_eq_ok hdecode] at h
    rw [Text.decodeUtf8_eq_ok.mp hdecode]
    exact coherent_of_text hinside hpoints h

theorem coherent_of_file (hinside : parser.StaysInside) (hpoints : parser.PointsAtStart)
    {codecs : Text.Registry} {settings : Settings codecs} {files : Files.FileSystem} {path : Files.Path}
    {records : List Journal.Record} (hutf8 : settings.encoding.codec = .utf8)
    (h : file parser settings files path = .ok ⟨.error f, records⟩) :
    ∃ data, files.read path = .ok data ∧ f.Coherent data := by
  cases hread : files.read path with
  | error e =>
    simp only [file, hread] at h
    cases h
  | ok data =>
    refine ⟨data, rfl, ?_⟩
    obtain ⟨_, hfile⟩ := exists_file_eq parser hutf8 hread
    have hvalue := congrArg Logged.value (Except.ok.inj (hfile.symm.trans h))
    obtain ⟨front, hfront, hlength, hdata⟩ := exists_markLength data
    cases hbytes : (bytes parser settings.includeTests (data.drop (markLength data))).value with
    | ok m =>
      simp only [hbytes] at hvalue
      cases hvalue
    | error g =>
      simp only [hbytes] at hvalue
      have hwhole := (coherent_of_bytes hinside hpoints hbytes).shifted hfront
      rw [hlength, hdata] at hwhole
      rw [← Except.error.inj hvalue]
      exact hwhole.withPath path

/-- Whatever refuses a source, its bytes or its tree, and whether or not a mark was cut off in
front, the failure names one place of what was given. Bytes in front that contain no newline move it
as one place, all at once or in parts. -/
theorem failures_name_one_place (parser : Parser) (hinside : parser.StaysInside)
    (hpoints : parser.PointsAtStart) :
    (∀ includeTests d f, (bytes parser includeTests d).value = .error f → f.Coherent d) ∧
    (∀ includeTests s f, (text parser includeTests s).value = .error f →
      f.Coherent (Text.Utf8.encode s)) ∧
    (∀ codecs (settings : Settings codecs) files path f records,
      settings.encoding.codec = .utf8 →
      file parser settings files path = .ok ⟨.error f, records⟩ →
        ∃ data, files.read path = .ok data ∧ f.Coherent data) ∧
    (∀ (f : Failure) d front, f.Coherent d → Text.newline ∉ front →
      (f.shifted front.length).Coherent (front ++ d)) ∧
    ∀ (f : Failure) m n, (f.shifted m).shifted n = f.shifted (m + n) := by
  refine ⟨?_, ?_, ?_, ?_, ?_⟩
  · intro includeTests d f h
    exact coherent_of_bytes hinside hpoints h
  · intro includeTests s f h
    exact coherent_of_text hinside hpoints h
  · intro codecs settings files path f records hutf8 h
    exact coherent_of_file hinside hpoints hutf8 h
  · intro f d front h hfront
    exact h.shifted hfront
  · exact Failure.shifted_shifted

-- ---------------------------------------------------------------------------
-- A letter on the third line
-- ---------------------------------------------------------------------------

/-- Two empty lines and a letter, which is no item. -/
def loneLetter : List UInt8 := [0x0A, 0x0A, 0xC3, 0xA9]

def loneLetterFlaw : Tree :=
  .node ⟨"ERROR", ⟨2, 4⟩, ⟨2, 0⟩, true, true, false, true, false, none⟩
    [.node ⟨"identifier", ⟨2, 4⟩, ⟨2, 0⟩, true, false, false, false, false, none⟩ []]

def loneLetterTree : Tree :=
  .node ⟨"source_file", ⟨2, 4⟩, ⟨2, 0⟩, true, false, false, true, false, none⟩ [loneLetterFlaw]

/-- A parser that knows one source, and finds nothing in any other. -/
def letterParser : Parser := fun source =>
  Tree.located source <|
    if source = loneLetter then loneLetterTree
    else .node ⟨"source_file", ⟨0, source.length⟩, ⟨0, 0⟩, true, false, false, false, false, none⟩ []

theorem letterParser_loneLetter : letterParser loneLetter = loneLetterTree := rfl

theorem letterParser_staysInside : letterParser.StaysInside := by
  intro source
  by_cases h : source = loneLetter
  · rw [h, letterParser_loneLetter]
    decide
  · rw [letterParser, if_neg h]
    intro n hn
    obtain rfl : n = _ := List.mem_singleton.mp hn
    exact ⟨Nat.le_refl _, Nat.zero_le _, Nat.le_refl _⟩

theorem letterParser_pointsAtStart : letterParser.PointsAtStart :=
  fun source => Tree.pointsAtStart_located source _

theorem failure_loneLetter :
    Diagnosis.failure loneLetter loneLetterTree = ⟨.unexpected ['é'], 2, 3, 1, none⟩ := by
  have hexact : loneLetterTree.FlagsExact := by decide
  have hflaw : Tree.firstFlaw? [loneLetterTree] = some loneLetterFlaw :=
    hexact.firstFlaw?_eq.trans rfl
  have hcause : Diagnosis.cause loneLetter loneLetterFlaw = .unexpected ['é'] := by decide +kernel
  rw [Diagnosis.failure_of_firstFlaw? hflaw, Diagnosis.failureAt, hcause]
  rfl

theorem value_bytes_loneLetter :
    (bytes letterParser true loneLetter).value = .error ⟨.unexpected ['é'], 2, 3, 1, none⟩ := by
  have hsource : Text.Utf8.encode ['\n', '\n', 'é'] = loneLetter := rfl
  rw [← hsource, bytes_encode, text, value_encoded, hsource, letterParser_loneLetter,
    failure_loneLetter]
  rfl

theorem value_bytes_strayByte :
    (bytes letterParser true [0x0A, 0xFF]).value =
      .error ⟨.undecodable "utf-8" "invalid start byte", 1, 2, 1, none⟩ := by
  have hfault : Text.decodeUtf8 [0x0A, 0xFF] = .error ⟨"utf-8", "invalid start byte", 1⟩ := rfl
  rw [bytes_of_decodeUtf8_eq_error hfault]
  rfl

/-- Behind a mark the letter is three bytes further, and at the same column of its line. Bytes that
are no text fail at the first of them. -/
theorem loneLetter_named_in_one_place :
    letterParser.StaysInside ∧ letterParser.PointsAtStart ∧
    (bytes letterParser true [0x0A, 0xFF]).value =
      .error ⟨.undecodable "utf-8" "invalid start byte", 1, 2, 1, none⟩ ∧
    Failure.Coherent ⟨.undecodable "utf-8" "invalid start byte", 1, 2, 1, none⟩ [0x0A, 0xFF] ∧
    ∃ records, file letterParser plainSettings (libHolding (Text.Utf8.byteOrderMark ++ loneLetter))
        libPath = .ok ⟨.error ⟨.unexpected ['é'], 5, 3, 1, some libPath⟩, records⟩ ∧
      Failure.Coherent ⟨.unexpected ['é'], 5, 3, 1, some libPath⟩
        (Text.Utf8.byteOrderMark ++ loneLetter) := by
  have hall :=
    failures_name_one_place letterParser letterParser_staysInside letterParser_pointsAtStart
  have hread := read_libHolding (Text.Utf8.byteOrderMark ++ loneLetter)
  have hutf8 : plainSettings.encoding.codec = .utf8 := Encoding.codec_utf8
  obtain ⟨records, hfile⟩ := exists_file_eq letterParser hutf8 hread
  have htests : plainSettings.includeTests = true := rfl
  rw [markLength_append, List.drop_left, htests, value_bytes_loneLetter] at hfile
  obtain ⟨data, hdata, hcoherent⟩ := hall.2.2.1 _ plainSettings _ _ _ _ hutf8 hfile
  obtain rfl := Except.ok.inj (hread.symm.trans hdata)
  exact ⟨letterParser_staysInside, letterParser_pointsAtStart, value_bytes_strayByte,
    hall.1 true _ _ value_bytes_strayByte, records, hfile, hcoherent⟩

end Scan

end UnsafeCensus
