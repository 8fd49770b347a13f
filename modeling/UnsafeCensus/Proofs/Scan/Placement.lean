import Mathlib.Data.List.Forall2
import UnsafeCensus.Proofs.Failure.FirstFlaw
import UnsafeCensus.Proofs.Text.Position
import UnsafeCensus.Proofs.Text.Stored

/-!
# Where a failure stands in the file

A file is decoded, and its text is parsed in UTF-8, whatever the file was encoded in. The position
of a failure is one in those bytes, moved by the length of the byte order mark. It is a position in
the file too exactly where as many bytes of the file hold the text before it, and end alike.
-/

namespace UnsafeCensus

namespace Text

-- ---------------------------------------------------------------------------
-- Texts that end alike
-- ---------------------------------------------------------------------------

/-- The ends of two runs of bytes are the same position. -/
structure SameEnd (a b : List UInt8) : Prop where
  length : a.length = b.length
  line : lineAt a a.length = lineAt b b.length
  column : columnAt a a.length = columnAt b b.length

theorem SameEnd.refl (a : List UInt8) : SameEnd a a := ⟨rfl, rfl, rfl⟩

/-- Where ASCII stands for itself and everything else is one byte, only ASCII ends where it does in
UTF-8. -/
theorem sameEnd_bytewise {byte? : Char → Option UInt8} {s : List Char}
    (hself : ∀ c, c.toNat < 0x80 → byte? c = some (UInt8.ofNat c.toNat))
    (h : ∀ c ∈ s, (byte? c).isSome) :
    SameEnd ((Layout.bytewise [] byte?).store s) (Utf8.encode s) ↔ ∀ c ∈ s, c.toNat < 0x80 := by
  constructor
  · intro hend
    rw [← Utf8.length_encode_eq, ← length_flatMap_bytewise h]
    exact hend.length.symm
  · intro hascii
    rw [← flatMap_bytewise_eq_encode hself hascii]
    exact SameEnd.refl _

theorem not_sameEnd_of_length_lt {a b : List UInt8} (h : b.length < a.length) : ¬ SameEnd a b :=
  fun hend => Nat.ne_of_gt h hend.length

theorem lineAt_take (bytes : List UInt8) (n : Nat) : lineAt (bytes.take n) n = lineAt bytes n :=
  lineAt_congr (by rw [List.take_take, Nat.min_self])

theorem columnAt_take (bytes : List UInt8) (n : Nat) :
    columnAt (bytes.take n) n = columnAt bytes n :=
  columnAt_congr (by rw [List.take_take, Nat.min_self])

/-- Some bytes end at the same position as a beginning of others iff the others are as long, and
give that position the same line and column. -/
theorem sameEnd_take_iff {bytes part whole : List UInt8} (h : part <+: whole) :
    SameEnd (bytes.take part.length) part ↔
      part.length ≤ bytes.length ∧ lineAt whole part.length = lineAt bytes part.length ∧
        columnAt whole part.length = columnAt bytes part.length := by
  have hlength : (bytes.take part.length).length = part.length ↔ part.length ≤ bytes.length := by
    rw [List.length_take]
    omega
  rw [lineAt_of_isPrefix h, columnAt_of_isPrefix h]
  constructor
  · rintro ⟨htake, hline, hcolumn⟩
    rw [htake, lineAt_take] at hline
    rw [htake, columnAt_take] at hcolumn
    exact ⟨hlength.mp htake, hline.symm, hcolumn.symm⟩
  · rintro ⟨hle, hline, hcolumn⟩
    have htake := hlength.mpr hle
    refine ⟨htake, ?_, ?_⟩
    · rw [htake, lineAt_take, hline]
    · rw [htake, columnAt_take, hcolumn]

-- ---------------------------------------------------------------------------
-- Codecs that keep a place
-- ---------------------------------------------------------------------------

/-- The end of a part of a text is the same position in a file as it is in UTF-8: of the file, the
bytes that the part takes in UTF-8 are the part, and they end on the same line and column. -/
structure Codec.KeepsPlace (codec : Codec) (body : List UInt8) (part : List Char) : Prop where
  before : codec.decode? (body.take (Utf8.encode part).length) = some (.text (.ofChars part))
  sameEnd : SameEnd (body.take (Utf8.encode part).length) (Utf8.encode part)

theorem Codec.keepsPlace_iff {codec : Codec} {body : List UInt8} {part : List Char}
    (rest : List Char) :
    codec.KeepsPlace body part ↔
      (Utf8.encode part).length ≤ body.length ∧
        codec.decode? (body.take (Utf8.encode part).length) = some (.text (.ofChars part)) ∧
        lineAt (Utf8.encode (part ++ rest)) (Utf8.encode part).length =
          lineAt body (Utf8.encode part).length ∧
        columnAt (Utf8.encode (part ++ rest)) (Utf8.encode part).length =
          columnAt body (Utf8.encode part).length := by
  have hpart : Utf8.encode part <+: Utf8.encode (part ++ rest) :=
    ⟨Utf8.encode rest, (Utf8.encode_append part rest).symm⟩
  constructor
  · rintro ⟨hbefore, hend⟩
    obtain ⟨hle, hline, hcolumn⟩ := (sameEnd_take_iff hpart).mp hend
    exact ⟨hle, hbefore, hline, hcolumn⟩
  · rintro ⟨hle, hbefore, hline, hcolumn⟩
    exact ⟨hbefore, (sameEnd_take_iff hpart).mpr ⟨hle, hline, hcolumn⟩⟩

/-- A codec reads byte by byte, and each byte as what a table has for it. -/
def Codec.ReadsBy (codec : Codec) (char? : UInt8 → Option Char) : Prop :=
  ∀ bytes s, codec.decode? bytes = some (.text (.ofChars s)) ↔
    List.Forall₂ (fun b c => char? b = some c) bytes s

/-- The bytes of ASCII, read by a table in which ASCII is written as itself. -/
theorem eq_encode_of_forall₂ {char? : UInt8 → Option Char} {bytes : List UInt8} {s : List Char}
    (hself : ∀ b c, char? b = some c → c.toNat < 0x80 → b.toNat = c.toNat)
    (h : List.Forall₂ (fun b c => char? b = some c) bytes s) (hs : ∀ c ∈ s, c.toNat < 0x80) :
    bytes = Utf8.encode s := by
  induction h with
  | nil => rfl
  | @cons b c bytes s hbc _ ih =>
    obtain ⟨hc, hs⟩ := List.forall_mem_cons.mp hs
    have hb : b = UInt8.ofNat c.toNat := by
      rw [← hself b c hbc hc, UInt8.ofNat_toNat]
    rw [Utf8.encode, List.flatMap_cons, Utf8.encodeChar_eq, if_pos hc, ← Utf8.encode, ← ih hs, hb]
    rfl

/-- A table in which ASCII is written as itself, and as nothing else, keeps places behind ASCII
only. -/
theorem Codec.ReadsBy.keepsPlace_iff {codec : Codec} {char? : UInt8 → Option Char}
    (hreads : codec.ReadsBy char?)
    (hself : ∀ b c, char? b = some c → c.toNat < 0x80 → b.toNat = c.toNat)
    {body : List UInt8} {part rest : List Char}
    (h : codec.decode? body = some (.text (.ofChars (part ++ rest)))) :
    codec.KeepsPlace body part ↔ ∀ c ∈ part, c.toNat < 0x80 := by
  constructor
  · rintro ⟨hbefore, hend⟩
    rw [← Utf8.length_encode_eq, ← hend.length]
    exact ((hreads _ part).mp hbefore).length_eq
  · intro hascii
    have hlength : (Utf8.encode part).length = part.length := Utf8.length_encode_eq.mpr hascii
    have hpart := List.forall₂_take part.length ((hreads _ _).mp h)
    rw [List.take_left] at hpart
    refine ⟨?_, ?_⟩
    · rw [hlength]
      exact (hreads _ _).mpr hpart
    · rw [hlength, eq_encode_of_forall₂ hself hpart hascii]
      exact SameEnd.refl _

-- ---------------------------------------------------------------------------
-- Encodings that keep a place
-- ---------------------------------------------------------------------------

namespace Scheme

/-- When an encoding keeps the end of a part of a text. -/
def KeepsPlace (scheme : Scheme) (body : List UInt8) (part : List Char) : Prop :=
  match scheme with
  | .utf8 => True
  | .ascii => True
  | .utf8Signed => part = [] ∨ ¬ Utf8.byteOrderMark <+: body
  | .latin1 => ∀ c ∈ part, c.toNat < 0x80
  | .windows1252 => ∀ c ∈ part, c.toNat < 0x80
  | .utf16 _ => part = [] ∨ SameEnd ((scheme.layoutOf body).store part) (Utf8.encode part)
  | .utf32 _ => part = [] ∨ SameEnd ((scheme.layoutOf body).store part) (Utf8.encode part)

/-- The conditions of the encodings say that a text ends in the file where it does in UTF-8. -/
theorem keepsPlace_iff {scheme : Scheme} {body : List UInt8} {s t : List Char}
    (h : scheme.decode body = .ok (s ++ t)) :
    scheme.KeepsPlace body s ↔
      s = [] ∨ SameEnd ((scheme.layoutOf body).store s) (Utf8.encode s) := by
  have hholds : ∀ c ∈ s, (scheme.layoutOf body).Holds c :=
    fun c hc => (decode_eq_ok.mp h).2 c (List.mem_append_left t hc)
  have hbytewise : ∀ byte?, scheme.layoutOf body = Layout.bytewise [] byte? →
      (∀ c, c.toNat < 0x80 → byte? c = some (UInt8.ofNat c.toNat)) →
      ((∀ c ∈ s, c.toNat < 0x80) ↔
        s = [] ∨ SameEnd ((scheme.layoutOf body).store s) (Utf8.encode s)) := by
    intro byte? hlayout hself
    rw [hlayout] at hholds ⊢
    rw [sameEnd_bytewise hself hholds]
    refine ⟨Or.inr, ?_⟩
    rintro (rfl | hascii)
    · intro c hc
      exact nomatch hc
    · exact hascii
  cases scheme with
  | utf8 => exact ⟨fun _ => Or.inr (SameEnd.refl _), fun _ => trivial⟩
  | ascii =>
    refine ⟨fun _ => ?_, fun _ => trivial⟩
    apply (hbytewise _ rfl (byteBelow_self (Nat.le_refl _))).mp
    intro c hc
    obtain ⟨b, hb⟩ := Option.isSome_iff_exists.mp (hholds c hc)
    exact ((byteBelow_eq_some (by decide)).mp hb).1
  | utf8Signed =>
    refine or_congr_right ?_
    have hstore : (utf8Signed.layoutOf body).store s = utf8Signed.mark body ++ Utf8.encode s := rfl
    rw [hstore, mark_utf8Signed]
    by_cases hmark : Utf8.byteOrderMark <+: body
    · rw [if_pos hmark]
      refine ⟨fun h => absurd hmark h, fun hend => absurd hend (not_sameEnd_of_length_lt ?_)⟩
      rw [List.length_append]
      exact Nat.lt_add_of_pos_left (by decide)
    · rw [if_neg hmark]
      exact ⟨fun _ => SameEnd.refl _, fun _ => hmark⟩
  | latin1 => exact hbytewise _ rfl (byteBelow_self (by decide))
  | windows1252 => exact hbytewise _ rfl windows1252Byte?_self
  | utf16 order? => exact Iff.rfl
  | utf32 order? => exact Iff.rfl

/-- The codec of an encoding keeps the places that the encoding does. -/
theorem keepsPlace_codec_iff {scheme : Scheme} {body : List UInt8} {s t : List Char}
    (h : scheme.decode body = .ok (s ++ t)) :
    scheme.codec.KeepsPlace body s ↔ scheme.KeepsPlace body s := by
  rw [keepsPlace_iff h]
  by_cases hs : s = []
  · subst hs
    exact iff_of_true ⟨decode?_codec_eq_text.mpr scheme.decode_nil, SameEnd.refl _⟩ (Or.inl rfl)
  · rw [or_iff_right hs]
    constructor
    · rintro ⟨hbefore, hend⟩
      have hin : (Utf8.encode s).length ≤ body.length := by
        rw [← hend.length]
        exact List.length_take_le' _ _
      have hlength := (decode_take_eq_ok h hs hin).mp (decode?_codec_eq_text.mp hbefore)
      rw [take_eq_store h hlength] at hend
      exact hend
    · intro hend
      have hin : (Utf8.encode s).length ≤ body.length := by
        rw [← hend.length]
        exact (store_isPrefix h).length_le
      refine ⟨decode?_codec_eq_text.mpr ((decode_take_eq_ok h hs hin).mpr hend.length.symm), ?_⟩
      rw [take_eq_store h hend.length.symm]
      exact hend

end Scheme

end Text

-- ---------------------------------------------------------------------------
-- Failures of files
-- ---------------------------------------------------------------------------

/-- Where the flaw that is reported begins. -/
def Tree.flawStart (t : Tree) : Nat :=
  match Tree.firstFlaw? [t] with
  | some flaw => flaw.data.span.start
  | none => 0

/-- Where points are exact, a failure is one at an offset. -/
theorem Diagnosis.exists_failure_eq {source : List UInt8} {t : Tree}
    (hpoints : t.PointsAtStart source) :
    ∃ cause, failure source t = .ofOffset cause source t.flawStart := by
  unfold failure Tree.flawStart
  cases hflaw : Tree.firstFlaw? [t] with
  | some flaw =>
    have hpoint := hpoints flaw (Tree.mem_nodes_of_firstFlaw? hflaw)
    exact ⟨_, failureAt_eq_ofOffset hpoint⟩
  | none => exact ⟨.unlocated, rfl⟩

/-- A failure stands in a file behind a part of its text: the bytes before it, after a byte order
mark, are that part, and its line and column are those of its offset. -/
structure Failure.StandsBehind (f : Failure) (codec : Text.Codec) (data : List UInt8)
    (part : List Char) : Prop where
  positive : 0 ≤ f.offset
  inside : f.offset ≤ data.length
  before : codec.decode? ((data.take f.offset.toNat).drop (Scan.markLength data)) =
    some (.text (.ofChars part))
  line : f.line = Text.lineAt data f.offset.toNat
  column : f.column = Text.columnAt data f.offset.toNat

namespace Scan

theorem exists_markLength (data : List UInt8) :
    ∃ front, Text.newline ∉ front ∧ front.length = markLength data ∧
      front ++ data.drop (markLength data) = data := by
  unfold markLength
  split_ifs with hmark
  · refine ⟨Text.Utf8.byteOrderMark, by decide, rfl, ?_⟩
    exact List.prefix_iff_eq_append.mp (List.isPrefixOf_iff_prefix.mp hmark)
  · exact ⟨[], List.not_mem_nil, rfl, rfl⟩

theorem value_encoded {parser : Parser} {includeTests : Bool} (bs : List UInt8) :
    (encoded parser includeTests bs).value =
      if (parser bs).data.hasError then .error (Diagnosis.failure bs (parser bs))
      else .ok (Metrics.ofTree bs includeTests (parser bs)) := by
  simp only [encoded, value_parse, Tree.diagnose]
  split <;> rfl

theorem string_ofChars (parser : Parser) (includeTests : Bool) (s : List Char) :
    string parser includeTests (.ofChars s) = .ok (text parser includeTests s) := by
  rw [string, Text.Str.toChars_ofChars]
  rfl

section

variable {codecs : Text.Registry} (parser : Parser) (settings : Settings codecs)
  {files : Files.FileSystem} {path : Files.Path} {data : List UInt8} {s : List Char}

theorem content_of_decode
    (hdecode : settings.encoding.codec.decode? (data.drop (markLength data)) =
      some (.text (.ofChars s))) :
    content parser settings path data =
      .ok (decoded path (markLength data) (text parser settings.includeTests s)) := by
  simp only [content, hdecode, string_ofChars]
  rfl

/-- A file that decodes is scanned as its text, and only the place of a failure is another one. -/
theorem exists_file_eq_of_decode (hread : files.read path = .ok data)
    (hdecode : settings.encoding.codec.decode? (data.drop (markLength data)) =
      some (.text (.ofChars s))) :
    ∃ records, file parser settings files path =
      .ok ⟨(text parser settings.includeTests s).value.mapError (relocate path (markLength data)),
        records⟩ := by
  simp only [file, hread, content_of_decode parser settings hdecode, decoded]
  cases hvalue : (text parser settings.includeTests s).value with
  | error f => exact ⟨_, rfl⟩
  | ok m => exact ⟨_, rfl⟩

/-- A file whose text has an error in its tree has a failure. -/
theorem file_of_hasError (hread : files.read path = .ok data)
    (hdecode : settings.encoding.codec.decode? (data.drop (markLength data)) =
      some (.text (.ofChars s)))
    (herror : (parser (Text.Utf8.encode s)).data.hasError = true) :
    ∃ records, file parser settings files path =
      .ok ⟨.error (relocate path (markLength data)
        (Diagnosis.failure (Text.Utf8.encode s) (parser (Text.Utf8.encode s)))), records⟩ := by
  obtain ⟨records, hfile⟩ := exists_file_eq_of_decode parser settings hread hdecode
  rw [text, value_encoded, if_pos herror] at hfile
  exact ⟨records, hfile⟩

theorem file_of_not_hasError (hread : files.read path = .ok data)
    (hdecode : settings.encoding.codec.decode? (data.drop (markLength data)) =
      some (.text (.ofChars s)))
    (herror : ¬ (parser (Text.Utf8.encode s)).data.hasError = true) :
    ∃ m records, file parser settings files path = .ok ⟨.ok m, records⟩ := by
  obtain ⟨records, hfile⟩ := exists_file_eq_of_decode parser settings hread hdecode
  rw [text, value_encoded, if_neg herror] at hfile
  exact ⟨_, records, hfile⟩

end

/-- The failure of a file that decodes is that of its text in UTF-8, moved by the mark. -/
theorem failure_of_file {codecs : Text.Registry} {parser : Parser} {settings : Settings codecs}
    {files : Files.FileSystem} {path : Files.Path} {data : List UInt8} {s : List Char} {f : Failure}
    {records : List Journal.Record} (hread : files.read path = .ok data)
    (hpoints : (parser (Text.Utf8.encode s)).PointsAtStart (Text.Utf8.encode s))
    (hdecode : settings.encoding.codec.decode? (data.drop (markLength data)) =
      some (.text (.ofChars s)))
    (hfail : file parser settings files path = .ok ⟨.error f, records⟩) :
    ∃ cause, f = relocate path (markLength data)
      (.ofOffset cause (Text.Utf8.encode s) (parser (Text.Utf8.encode s)).flawStart) := by
  by_cases herror : (parser (Text.Utf8.encode s)).data.hasError = true
  · obtain ⟨records', hfile⟩ := file_of_hasError parser settings hread hdecode herror
    obtain ⟨cause, hcause⟩ := Diagnosis.exists_failure_eq hpoints
    have hvalue := congrArg Logged.value (Except.ok.inj (hfile.symm.trans hfail))
    exact ⟨cause, (Except.error.inj hvalue).symm.trans (hcause ▸ rfl)⟩
  · obtain ⟨m, records', hfile⟩ := file_of_not_hasError parser settings hread hdecode herror
    exact nomatch congrArg Logged.value (Except.ok.inj (hfile.symm.trans hfail))

/-- The part of the file in front of the body moves all positions alike. -/
theorem standsBehind_relocate_iff {codec : Text.Codec} {cause : Cause} {path : Files.Path}
    {front body source : List UInt8} {n : Nat} {part : List Char}
    (hfront : Text.newline ∉ front) (hmark : markLength (front ++ body) = front.length) :
    (relocate path front.length (.ofOffset cause source n)).StandsBehind codec (front ++ body) part ↔
      n ≤ body.length ∧ codec.decode? (body.take n) = some (.text (.ofChars part)) ∧
        Text.lineAt source n = Text.lineAt body n ∧
        Text.columnAt source n = Text.columnAt body n := by
  have hplace : relocate path front.length (.ofOffset cause source n) =
      (Failure.ofOffset cause (front ++ source) (front.length + n)).withPath path := by
    rw [relocate, Failure.shifted_ofOffset cause hfront]
  have hbytes : ((front ++ body).take (front.length + n)).drop (markLength (front ++ body)) =
      body.take n := by
    rw [hmark, List.take_length_add_append, List.drop_left]
  have hline : Text.lineAt (front ++ source) (front.length + n) =
      Text.lineAt (front ++ body) (front.length + n) ↔ Text.lineAt source n = Text.lineAt body n := by
    rw [Text.lineAt_append hfront, Text.lineAt_append hfront]
  have hcolumn (h : Text.lineAt source n = Text.lineAt body n) :
      Text.columnAt (front ++ source) (front.length + n) =
        Text.columnAt (front ++ body) (front.length + n) ↔
      Text.columnAt source n = Text.columnAt body n := by
    rw [Text.columnAt_append hfront, Text.columnAt_append hfront, h]
    split_ifs
    · exact Nat.add_left_cancel_iff
    · exact Iff.rfl
  rw [hplace]
  constructor
  · rintro ⟨-, hin, hbefore, hsameLine, hsameColumn⟩
    have hlines := hline.mp (Int.ofNat_inj.mp hsameLine)
    refine ⟨?_, hbytes ▸ hbefore, hlines, (hcolumn hlines).mp (Int.ofNat_inj.mp hsameColumn)⟩
    have hwhole := Int.ofNat_le.mp hin
    rw [List.length_append] at hwhole
    exact Nat.le_of_add_le_add_left hwhole
  · rintro ⟨hin, hbefore, hsameLine, hsameColumn⟩
    refine ⟨Int.natCast_nonneg _, Int.ofNat_le.mpr ?_, hbytes.symm ▸ hbefore,
      Int.ofNat_inj.mpr (hline.mpr hsameLine),
      Int.ofNat_inj.mpr ((hcolumn hsameLine).mpr hsameColumn)⟩
    rw [List.length_append]
    exact Nat.add_le_add_left hin _

/-- A syntax failure stands in the file where the text before it ends iff the codec of the file
keeps that place. Among the encodings UTF-8 and ASCII always do, those of one byte a character
behind ASCII only, and the others where both forms of the text happen to end alike. Any codec that
reads single bytes by a table in which ASCII is written as itself keeps places behind ASCII only. -/
theorem failure_stands_in_file_iff {codecs : Text.Registry} (parser : Parser)
    (settings : Settings codecs) {files : Files.FileSystem} {path : Files.Path} {data : List UInt8}
    {part rest : List Char} {f : Failure} {records : List Journal.Record}
    (hread : files.read path = .ok data)
    (hdecode : settings.encoding.codec.decode? (data.drop (markLength data)) =
      some (.text (.ofChars (part ++ rest))))
    (hpoints : (parser (Text.Utf8.encode (part ++ rest))).PointsAtStart
      (Text.Utf8.encode (part ++ rest)))
    (hstart : (parser (Text.Utf8.encode (part ++ rest))).flawStart =
      (Text.Utf8.encode part).length)
    (hfail : file parser settings files path = .ok ⟨.error f, records⟩) :
    (f.StandsBehind settings.encoding.codec data part ↔
      settings.encoding.codec.KeepsPlace (data.drop (markLength data)) part) ∧
    (∀ scheme : Text.Scheme, settings.encoding.codec = scheme.codec →
      (f.StandsBehind settings.encoding.codec data part ↔
        scheme.KeepsPlace (data.drop (markLength data)) part)) ∧
    (∀ char?, settings.encoding.codec.ReadsBy char? →
      (∀ b c, char? b = some c → c.toNat < 0x80 → b.toNat = c.toNat) →
      (f.StandsBehind settings.encoding.codec data part ↔ ∀ c ∈ part, c.toNat < 0x80)) := by
  have hkeeps : f.StandsBehind settings.encoding.codec data part ↔
      settings.encoding.codec.KeepsPlace (data.drop (markLength data)) part := by
    obtain ⟨cause, rfl⟩ := failure_of_file hread hpoints hdecode hfail
    obtain ⟨front, hfront, hlength, hdata⟩ := exists_markLength data
    rw [Text.Codec.keepsPlace_iff rest, hstart]
    generalize data.drop (markLength data) = body at hdata
    subst hdata
    rw [← hlength]
    exact standsBehind_relocate_iff hfront hlength.symm
  refine ⟨hkeeps, ?_, ?_⟩
  · intro scheme hscheme
    have hscheme' := hdecode
    rw [hscheme, Text.Scheme.decode?_codec_eq_text] at hscheme'
    rw [hkeeps, hscheme]
    exact Text.Scheme.keepsPlace_codec_iff hscheme'
  · intro char? hreads hself
    rw [hkeeps]
    exact hreads.keepsPlace_iff hself hdecode

-- ---------------------------------------------------------------------------
-- A stray brace behind a comment
-- ---------------------------------------------------------------------------

/-- A comment with two letters beyond ASCII. -/
def comment : List Char := "/*éé*/".toList

def strayBrace : Tree :=
  .node ⟨"source_file", ⟨0, 9⟩, ⟨0, 0⟩, true, false, false, true, false, none⟩
    [.node ⟨"block_comment", ⟨0, 8⟩, ⟨0, 0⟩, true, false, false, false, false, none⟩ [],
      .node ⟨"ERROR", ⟨8, 9⟩, ⟨0, 8⟩, true, true, false, true, false, none⟩
        [.node ⟨"\x7d", ⟨8, 9⟩, ⟨0, 8⟩, false, false, false, false, false, none⟩ []]]

def libPath : Files.Path := ⟨.here, ["lib.rs"]⟩

def libHolding (data : List UInt8) : Files.FileSystem :=
  ⟨.directory [("lib.rs", .file data)], []⟩

theorem read_libHolding (data : List UInt8) : (libHolding data).read libPath = .ok data := by
  have hshort : ¬ Files.nameLimit < "lib.rs".utf8ByteSize := by decide
  have henter : Files.enter (libHolding data).top false true [] "lib.rs" = .passed ["lib.rs"] := by
    simp [Files.enter, libHolding, Files.Item.at?, Files.Item.child?, Files.Item.entries, hshort]
  have hwalk : Files.walk (libHolding data).top false Files.linkLimit [] libPath.parts =
      .ok ["lib.rs"] := by
    rw [libPath, Files.walk, List.isEmpty_nil, henter]
    simp only [Files.walk]
  have hlocate : (libHolding data).locate false libPath = .ok ["lib.rs"] := by
    rw [Files.FileSystem.locate, if_neg (by decide +kernel), if_neg (by decide +kernel)]
    change (Files.walk (libHolding data).top false Files.linkLimit [] libPath.parts).mapError _ = _
    rw [hwalk]
    rfl
  rw [Files.FileSystem.read, hlocate]
  rfl

theorem firstFlaw?_strayBrace : ∃ flaw, Tree.firstFlaw? [strayBrace] = some flaw ∧
    flaw.data.span = ⟨8, 9⟩ ∧ flaw.data.point = ⟨0, 8⟩ := by
  have hexact : strayBrace.FlagsExact := by decide
  exact ⟨_, hexact.firstFlaw?_eq.trans rfl, rfl, rfl⟩

theorem flawStart_strayBrace : strayBrace.flawStart = (Text.Utf8.encode comment).length := by
  obtain ⟨flaw, hflaw, hspan, -⟩ := firstFlaw?_strayBrace
  rw [Tree.flawStart, hflaw]
  exact congrArg Span.start hspan

def latin1 : Encoding .standard := ⟨"latin-1", by decide +kernel⟩

theorem codec_latin1 : latin1.codec = Text.Scheme.latin1.codec := rfl

/-- The settings of a scan where nothing is set, with the common codecs. -/
def plainSettings : Settings .standard := .default

theorem pointsAtStart_strayBrace :
    strayBrace.PointsAtStart (Text.Utf8.encode (comment ++ ['}'])) := by
  decide +kernel

/-- In Latin-1 the comment takes six bytes, in UTF-8 eight: the failure is reported behind the end
of the file. -/
theorem latin1_failure_stands_past_the_file :
    let data : List UInt8 := [0x2F, 0x2A, 0xE9, 0xE9, 0x2A, 0x2F, 0x7D]
    (libHolding data).read libPath = .ok data ∧
    latin1.codec.decode? (data.drop (markLength data)) =
      some (.text (.ofChars (comment ++ ['}']))) ∧
    strayBrace.PointsAtStart (Text.Utf8.encode (comment ++ ['}'])) ∧
    strayBrace.flawStart = (Text.Utf8.encode comment).length ∧
    ∃ f records,
      file (fun _ => strayBrace) { plainSettings with encoding := latin1 } (libHolding data)
        libPath = .ok ⟨.error f, records⟩ ∧
      f.offset = 8 ∧ f.column = 9 ∧ ¬ f.StandsBehind latin1.codec data comment := by
  intro data
  have hread := read_libHolding data
  have hdecode : latin1.codec.decode? (data.drop (markLength data)) =
      some (.text (.ofChars (comment ++ ['}']))) := by
    rw [codec_latin1]
    rfl
  obtain ⟨records, hfile⟩ := file_of_hasError (fun _ => strayBrace)
    { plainSettings with encoding := latin1 } hread hdecode rfl
  obtain ⟨flaw, hflaw, hspan, hpoint⟩ := firstFlaw?_strayBrace
  rw [Diagnosis.failure_of_firstFlaw? hflaw, Diagnosis.failureAt, hspan, hpoint] at hfile
  refine ⟨hread, hdecode, pointsAtStart_strayBrace, flawStart_strayBrace, _, records, hfile, rfl, rfl,
    ?_⟩
  intro h
  have hpast : (8 : Int) ≤ 7 := h.inside
  exact absurd hpast (by decide)

/-- The same text in UTF-8, with a byte order mark. -/
theorem marked_failure_stands_in_file :
    let data := Text.Utf8.byteOrderMark ++ Text.Utf8.encode (comment ++ ['}'])
    (libHolding data).read libPath = .ok data ∧
    plainSettings.encoding.codec.decode? (data.drop (markLength data)) =
      some (.text (.ofChars (comment ++ ['}']))) ∧
    strayBrace.PointsAtStart (Text.Utf8.encode (comment ++ ['}'])) ∧
    strayBrace.flawStart = (Text.Utf8.encode comment).length ∧
    ∃ f records,
      file (fun _ => strayBrace) plainSettings (libHolding data) libPath =
        .ok ⟨.error f, records⟩ ∧
      f.offset = 11 ∧ f.column = 12 ∧
      f.StandsBehind plainSettings.encoding.codec data comment := by
  intro data
  have hread := read_libHolding data
  have hcodec : plainSettings.encoding.codec = Text.Scheme.utf8.codec := Encoding.codec_utf8
  have hdecode : plainSettings.encoding.codec.decode? (data.drop (markLength data)) =
      some (.text (.ofChars (comment ++ ['}']))) := by
    rw [hcodec, Text.Scheme.decode?_codec_eq_text]
    exact Text.decodeUtf8_eq_ok.mpr rfl
  obtain ⟨records, hfile⟩ := file_of_hasError (fun _ => strayBrace) plainSettings hread hdecode rfl
  have hstands := ((failure_stands_in_file_iff (fun _ => strayBrace) plainSettings hread hdecode
    pointsAtStart_strayBrace flawStart_strayBrace hfile).2.1 .utf8 hcodec).mpr trivial
  obtain ⟨flaw, hflaw, hspan, hpoint⟩ := firstFlaw?_strayBrace
  rw [Diagnosis.failure_of_firstFlaw? hflaw, Diagnosis.failureAt, hspan, hpoint] at hfile hstands
  exact ⟨hread, hdecode, pointsAtStart_strayBrace, flawStart_strayBrace, _, records, hfile, rfl, rfl,
    hstands⟩

end Scan

end UnsafeCensus
