import UnsafeCensus.Proofs.Fault.Sequence
import UnsafeCensus.Proofs.Text.Utf8

/-!
# Stored texts

What a text looks like in a file, for each encoding: a mark, which may be missing, and then the
characters one after another. Bytes decode to a text iff they are that text as it is stored, so the
bytes before a part of a text are known: they are what comes before it, stored in the same way.
-/

namespace UnsafeCensus.Text

-- ---------------------------------------------------------------------------
-- Marks
-- ---------------------------------------------------------------------------

def ByteOrder.mark16 : ByteOrder → List UInt8
  | .little => [0xFF, 0xFE]
  | .big => [0xFE, 0xFF]

def ByteOrder.mark32 : ByteOrder → List UInt8
  | .little => [0xFF, 0xFE, 0x00, 0x00]
  | .big => [0x00, 0x00, 0xFE, 0xFF]

/-- The marks that an encoding looks for, in the order in which it does. -/
def Scheme.marks : Scheme → List (List UInt8)
  | .utf8Signed => [Utf8.byteOrderMark]
  | .utf16 none => [ByteOrder.little.mark16, ByteOrder.big.mark16]
  | .utf32 none => [ByteOrder.little.mark32, ByteOrder.big.mark32]
  | _ => []

/-- The mark that some bytes begin with. -/
def Scheme.mark (scheme : Scheme) (bytes : List UInt8) : List UInt8 :=
  (scheme.marks.find? (·.isPrefixOf bytes)).getD []

/-- A part that is long enough to have the mark of the whole has it. -/
theorem Scheme.mark_of_isPrefix {scheme : Scheme} {part whole : List UInt8} (h : part <+: whole)
    (hlen : (scheme.mark whole).length ≤ part.length) : scheme.mark part = scheme.mark whole := by
  unfold mark at hlen ⊢
  -- The part has no marks of its own, so no earlier mark of the list is found in it.
  have hpre : ∀ m : List UInt8, m.isPrefixOf part = true → m.isPrefixOf whole = true := by
    intro m hm
    rw [List.isPrefixOf_iff_prefix] at hm ⊢
    exact hm.trans h
  cases hwhole : scheme.marks.find? (·.isPrefixOf whole) with
  | none =>
    have hpart : scheme.marks.find? (·.isPrefixOf part) = none := by
      rw [List.find?_eq_none] at hwhole ⊢
      intro m hm hp
      exact hwhole m hm (hpre m hp)
    rw [hpart]
  | some m =>
    rw [hwhole] at hlen
    obtain ⟨hm, earlier, later, heq, hearlier⟩ := List.find?_eq_some_iff_append.mp hwhole
    have hpart : scheme.marks.find? (·.isPrefixOf part) = some m := by
      refine List.find?_eq_some_iff_append.mpr ⟨?_, earlier, later, heq, ?_⟩
      · rw [List.isPrefixOf_iff_prefix] at hm ⊢
        exact List.prefix_of_prefix_length_le hm h hlen
      · intro m' hm'
        specialize hearlier m' hm'
        rw [Bool.not_eq_true'] at hearlier ⊢
        exact Bool.eq_false_iff.mpr fun hp => Bool.eq_false_iff.mp hearlier (hpre m' hp)
    rw [hpart]

theorem Scheme.mark_isPrefix (scheme : Scheme) (bytes : List UInt8) : scheme.mark bytes <+: bytes := by
  unfold mark
  cases hfind : scheme.marks.find? (·.isPrefixOf bytes) with
  | none => exact List.nil_prefix
  | some m =>
    have hm := List.find?_some hfind
    exact List.isPrefixOf_iff_prefix.mp hm

theorem Scheme.mark_append_drop (scheme : Scheme) (bytes : List UInt8) :
    scheme.mark bytes ++ bytes.drop (scheme.mark bytes).length = bytes :=
  List.prefix_iff_eq_append.mp (scheme.mark_isPrefix bytes)

/-- Bytes that begin with neither of two marks. -/
theorem Scheme.mark_eq_nil {scheme : Scheme} {bytes m m' : List UInt8}
    (hmarks : scheme.marks = [m, m']) (h : ∀ rest, bytes = m ++ rest → False)
    (h' : ∀ rest, bytes = m' ++ rest → False) :
    scheme.mark bytes = [] := by
  have hnone : scheme.marks.find? (·.isPrefixOf bytes) = none := by
    rw [List.find?_eq_none, hmarks]
    intro n hn hp
    obtain ⟨rest, hrest⟩ := List.isPrefixOf_iff_prefix.mp hp
    rcases List.mem_pair.mp hn with rfl | rfl
    · exact h rest hrest.symm
    · exact h' rest hrest.symm
  rw [mark, hnone]
  rfl

theorem Scheme.mark_utf8Signed (bytes : List UInt8) :
    Scheme.utf8Signed.mark bytes =
      if Utf8.byteOrderMark <+: bytes then Utf8.byteOrderMark else [] := by
  simp only [mark, marks, List.find?_singleton, List.isPrefixOf_iff_prefix]
  split_ifs <;> rfl

-- ---------------------------------------------------------------------------
-- Layouts
-- ---------------------------------------------------------------------------

/-- How the characters of a text are laid out after a mark, and which characters there are. -/
structure Layout where
  mark : List UInt8
  write : Char → List UInt8
  Holds : Char → Prop

/-- A text as it is stored. -/
def Layout.store (l : Layout) (s : List Char) : List UInt8 :=
  l.mark ++ s.flatMap l.write

/-- One byte a character. -/
def Layout.bytewise (mark : List UInt8) (byte? : Char → Option UInt8) : Layout :=
  ⟨mark, fun c => (byte? c).toList, fun c => (byte? c).isSome⟩

/-- The layout of an encoding after a mark. Where the mark gives the order of bytes, the bytes of a
unit come with the lowest first unless it says otherwise. -/
def Scheme.layout (scheme : Scheme) (mark : List UInt8) : Layout :=
  match scheme with
  | .utf8 => ⟨mark, String.utf8EncodeChar, fun _ => True⟩
  | .utf8Signed => ⟨mark, String.utf8EncodeChar, fun _ => True⟩
  | .utf16 (some order) => ⟨mark, order.write16, fun _ => True⟩
  | .utf16 none =>
    ⟨mark, (if mark = ByteOrder.big.mark16 then ByteOrder.big else .little).write16, fun _ => True⟩
  | .utf32 (some order) => ⟨mark, order.write32, fun _ => True⟩
  | .utf32 none =>
    ⟨mark, (if mark = ByteOrder.big.mark32 then ByteOrder.big else .little).write32, fun _ => True⟩
  | .ascii => .bytewise mark (byteBelow 0x80)
  | .latin1 => .bytewise mark (byteBelow 0x100)
  | .windows1252 => .bytewise mark windows1252Byte?

theorem Scheme.layout_mark (scheme : Scheme) (mark : List UInt8) :
    (scheme.layout mark).mark = mark := by
  cases scheme with
  | utf16 order => cases order <;> rfl
  | utf32 order => cases order <;> rfl
  | _ => rfl

/-- The layout of the text that some bytes store. -/
def Scheme.layoutOf (scheme : Scheme) (bytes : List UInt8) : Layout :=
  scheme.layout (scheme.mark bytes)

theorem length_flatMap_bytewise {byte? : Char → Option UInt8} {s : List Char}
    (h : ∀ c ∈ s, (byte? c).isSome) : (s.flatMap fun c => (byte? c).toList).length = s.length := by
  induction s with
  | nil => rfl
  | cons c s ih =>
    obtain ⟨hc, hs⟩ := List.forall_mem_cons.mp h
    obtain ⟨b, hb⟩ := Option.isSome_iff_exists.mp hc
    rw [List.flatMap_cons, List.length_append, ih hs, hb, List.length_cons, Nat.add_comm]
    rfl

theorem flatMap_bytewise_eq_encode {byte? : Char → Option UInt8} {s : List Char}
    (hself : ∀ c, c.toNat < 0x80 → byte? c = some (UInt8.ofNat c.toNat))
    (h : ∀ c ∈ s, c.toNat < 0x80) : (s.flatMap fun c => (byte? c).toList) = Utf8.encode s := by
  apply List.flatMap_congr
  intro c hc
  rw [hself c (h c hc), Utf8.encodeChar_eq, if_pos (h c hc)]
  rfl

-- ---------------------------------------------------------------------------
-- Decoding
-- ---------------------------------------------------------------------------

theorem decodeUtf8_eq_ok {bytes : List UInt8} {s : List Char} :
    decodeUtf8 bytes = .ok s ↔ bytes = Utf8.encode s :=
  mapError_eq_ok.trans Utf8.decode?_eq_ok

namespace Scheme

theorem decode_utf8Signed (bytes : List UInt8) :
    utf8Signed.decode bytes = decodeUtf8 (bytes.drop (utf8Signed.mark bytes).length) := by
  rw [decode, mark, marks, List.find?_singleton]
  split_ifs <;> rfl

theorem decode_utf16 (bytes : List UInt8) :
    (utf16 none).decode bytes =
      decodeUnits16
        (if (utf16 none).mark bytes = ByteOrder.big.mark16 then ByteOrder.big else .little)
        ((utf16 none).mark bytes).length (bytes.drop ((utf16 none).mark bytes).length) := by
  unfold decode
  dsimp only
  split
  · rfl
  · rfl
  · rename_i hlittle hbig
    have hmark : (utf16 none).mark bytes = [] := mark_eq_nil rfl hlittle hbig
    rw [hmark]
    rfl

theorem decode_utf32 (bytes : List UInt8) :
    (utf32 none).decode bytes =
      decodeUnits32
        (if (utf32 none).mark bytes = ByteOrder.big.mark32 then ByteOrder.big else .little)
        ((utf32 none).mark bytes).length (bytes.drop ((utf32 none).mark bytes).length) := by
  unfold decode
  dsimp only
  split
  · rfl
  · rfl
  · rename_i hlittle hbig
    have hmark : (utf32 none).mark bytes = [] := mark_eq_nil rfl hlittle hbig
    rw [hmark]
    rfl

theorem and_forall_true {p : Prop} {s : List Char} : (p ∧ ∀ c ∈ s, (fun _ => True) c) ↔ p :=
  ⟨And.left, fun h => ⟨h, fun _ _ => trivial⟩⟩

/-- What comes after the mark decides. -/
theorem decode_eq_ok_of_rest {scheme : Scheme} {bytes : List UInt8}
    {r : Except DecodeFault (List Char)} {s : List Char} (hdecode : scheme.decode bytes = r)
    (hrest : r = .ok s ↔
      bytes.drop (scheme.mark bytes).length = s.flatMap (scheme.layoutOf bytes).write ∧
        ∀ c ∈ s, (scheme.layoutOf bytes).Holds c) :
    scheme.decode bytes = .ok s ↔
      bytes = (scheme.layoutOf bytes).store s ∧ ∀ c ∈ s, (scheme.layoutOf bytes).Holds c := by
  rw [hdecode, hrest, Layout.store, layoutOf, layout_mark]
  apply and_congr_left
  intro _
  constructor
  · intro h
    rw [← h, mark_append_drop]
  · intro h
    exact List.append_cancel_left ((scheme.mark_append_drop bytes).trans h)

/-- Bytes decode to a text iff they store it. -/
theorem decode_eq_ok {scheme : Scheme} {bytes : List UInt8} {s : List Char} :
    scheme.decode bytes = .ok s ↔
      bytes = (scheme.layoutOf bytes).store s ∧ ∀ c ∈ s, (scheme.layoutOf bytes).Holds c := by
  cases scheme with
  | utf8 =>
    exact decode_eq_ok_of_rest rfl (decodeUtf8_eq_ok.trans and_forall_true.symm)
  | utf8Signed =>
    exact decode_eq_ok_of_rest (decode_utf8Signed bytes)
      (decodeUtf8_eq_ok.trans and_forall_true.symm)
  | utf16 order? =>
    cases order? with
    | some order => exact decode_eq_ok_of_rest rfl (undoes_decodeUnits16 order).eq_ok_iff
    | none => exact decode_eq_ok_of_rest (decode_utf16 bytes) (undoes_decodeUnits16 _).eq_ok_iff
  | utf32 order? =>
    cases order? with
    | some order => exact decode_eq_ok_of_rest rfl (undoes_decodeUnits32 order).eq_ok_iff
    | none => exact decode_eq_ok_of_rest (decode_utf32 bytes) (undoes_decodeUnits32 _).eq_ok_iff
  | ascii =>
    exact decode_eq_ok_of_rest rfl (undoes_decodeBytewise _ _ asciiChar?_eq_some).eq_ok_iff
  | latin1 =>
    refine decode_eq_ok_of_rest rfl ?_
    rw [decode, ← decodeBytewise_some "" "" _ 0]
    exact (undoes_decodeBytewise _ _ latin1Char_eq_some).eq_ok_iff
  | windows1252 =>
    exact decode_eq_ok_of_rest rfl (undoes_decodeBytewise _ _ windows1252Char?_eq_some).eq_ok_iff

-- ---------------------------------------------------------------------------
-- Parts of a file
-- ---------------------------------------------------------------------------

/-- Nothing can be read from a part of a mark. -/
theorem decode_take_mark (scheme : Scheme) : ∀ m ∈ scheme.marks, ∀ n < m.length,
    (scheme.decode (m.take n)).toOption.all List.isEmpty := by
  cases scheme with
  | utf16 order? =>
    cases order? with
    | some order =>
      intro m hm
      exact nomatch hm
    | none => decide
  | utf32 order? =>
    cases order? with
    | some order =>
      intro m hm
      exact nomatch hm
    | none => decide
  | _ => decide

theorem mark_eq_nil_or_mem (scheme : Scheme) (bytes : List UInt8) :
    scheme.mark bytes = [] ∨ scheme.mark bytes ∈ scheme.marks := by
  unfold mark
  cases hfind : scheme.marks.find? (·.isPrefixOf bytes) with
  | none => exact Or.inl rfl
  | some m => exact Or.inr (List.mem_of_find?_eq_some hfind)

/-- A part of the bytes in which a text is read has the whole mark. -/
theorem mark_length_le {scheme : Scheme} {bytes : List UInt8} {n : Nat} {s : List Char}
    (h : scheme.decode (bytes.take n) = .ok s) (hs : s ≠ []) :
    (scheme.mark bytes).length ≤ (bytes.take n).length := by
  rcases scheme.mark_eq_nil_or_mem bytes with hnil | hmem
  · rw [hnil]
    exact Nat.zero_le _
  · by_contra hlt
    -- The part would be a beginning of the mark, and nothing is read from those.
    rw [List.length_take, Nat.le_min, not_and_or, Nat.not_le, Nat.not_le] at hlt
    have hlen := (scheme.mark_isPrefix bytes).length_le
    have hn : n < (scheme.mark bytes).length := by omega
    have htake : bytes.take n = (scheme.mark bytes).take n := by
      conv_lhs => rw [← scheme.mark_append_drop bytes]
      exact List.take_append_of_le_length (Nat.le_of_lt hn)
    have hnothing := scheme.decode_take_mark _ hmem n hn
    rw [← htake, h] at hnothing
    exact hs (List.isEmpty_iff.mp hnothing)

theorem layoutOf_take {scheme : Scheme} {bytes : List UInt8} {n : Nat}
    (h : (scheme.mark bytes).length ≤ (bytes.take n).length) :
    scheme.layoutOf (bytes.take n) = scheme.layoutOf bytes :=
  congrArg scheme.layout (mark_of_isPrefix (List.take_prefix n bytes) h)

theorem decode_nil (scheme : Scheme) : scheme.decode [] = .ok [] := by
  have hmark : scheme.mark [] = [] := List.prefix_nil.mp (scheme.mark_isPrefix [])
  refine decode_eq_ok.mpr ⟨?_, fun c hc => nomatch hc⟩
  rw [Layout.store, layoutOf, layout_mark, hmark]
  rfl

theorem store_isPrefix {scheme : Scheme} {bytes : List UInt8} {s t : List Char}
    (h : scheme.decode bytes = .ok (s ++ t)) :
    (scheme.layoutOf bytes).store s <+: bytes := by
  obtain ⟨hbytes, -⟩ := decode_eq_ok.mp h
  refine ⟨t.flatMap (scheme.layoutOf bytes).write, ?_⟩
  rw [Layout.store, List.append_assoc, ← List.flatMap_append]
  exact hbytes.symm

theorem take_eq_store {scheme : Scheme} {bytes : List UInt8} {s t : List Char} {n : Nat}
    (h : scheme.decode bytes = .ok (s ++ t)) (hn : n = ((scheme.layoutOf bytes).store s).length) :
    bytes.take n = (scheme.layoutOf bytes).store s := by
  rw [hn]
  exact (List.prefix_iff_eq_take.mp (store_isPrefix h)).symm

/-- The bytes that hold the first part of a text are those that store it, and no others. -/
theorem decode_take_eq_ok {scheme : Scheme} {bytes : List UInt8} {s t : List Char} {n : Nat}
    (h : scheme.decode bytes = .ok (s ++ t)) (hs : s ≠ []) (hn : n ≤ bytes.length) :
    scheme.decode (bytes.take n) = .ok s ↔ n = ((scheme.layoutOf bytes).store s).length := by
  constructor
  · intro hpart
    obtain ⟨htake, -⟩ := decode_eq_ok.mp hpart
    rw [layoutOf_take (mark_length_le hpart hs)] at htake
    rw [← htake, List.length_take, Nat.min_eq_left hn]
  · intro hlen
    have htake := take_eq_store h hlen
    have hle : (scheme.mark bytes).length ≤ (bytes.take n).length := by
      rw [htake, Layout.store, layoutOf, layout_mark, List.length_append]
      exact Nat.le_add_right _ _
    rw [decode_eq_ok, layoutOf_take hle]
    exact ⟨htake, fun c hc => (decode_eq_ok.mp h).2 c (List.mem_append_left t hc)⟩

-- ---------------------------------------------------------------------------
-- Codecs of the encodings
-- ---------------------------------------------------------------------------

/-- The codec of an encoding reads what the encoding does, also where there is nothing to read. -/
theorem decode?_codec (scheme : Scheme) (bytes : List UInt8) :
    scheme.codec.decode? bytes = some (.ofExcept (scheme.decode bytes)) := by
  cases bytes with
  | nil =>
    rw [decode_nil]
    rfl
  | cons b bytes => rfl

theorem decode?_codec_eq_text {scheme : Scheme} {bytes : List UInt8} {s : List Char} :
    scheme.codec.decode? bytes = some (.text (.ofChars s)) ↔ scheme.decode bytes = .ok s := by
  rw [decode?_codec, Option.some_inj]
  cases scheme.decode bytes with
  | error fault => exact ⟨nofun, nofun⟩
  | ok t =>
    constructor
    · intro h
      exact congrArg Except.ok (Str.ofChars_injective (Decoded.text.inj h))
    · intro h
      rw [Except.ok.inj h]
      rfl

end Scheme

end UnsafeCensus.Text
