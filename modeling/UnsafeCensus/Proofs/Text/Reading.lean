import Mathlib.Algebra.Group.Nat.Defs
import Mathlib.Data.List.Basic
import UnsafeCensus.Text.Codec

/-!
# Reading as the inverse of writing

A reader that takes one character after another undoes a way to write characters: it reads bytes as
a text iff they are what the characters of the text are written as, in a row. That holds of every
encoding once it holds of one character; here of the encodings of one byte a character and of those
in units of sixteen and thirty-two bits.
-/

namespace UnsafeCensus.Text

theorem toNat_ofNat_of_lt {n : Nat} (h : n < 0x100) : (UInt8.ofNat n).toNat = n := by
  rw [UInt8.toNat_ofNat', Nat.mod_eq_of_lt h]

theorem isValidChar_toNat (c : Char) : c.toNat.isValidChar := c.valid

theorem toNat_charOfNat {n : Nat} (h : n.isValidChar) : (Char.ofNat n).toNat = n := by
  rw [Char.ofNat, dif_pos h]
  rfl

/-- From any offset, the reader takes what a character that `Holds` allows is written as, and what
it takes is always written so. -/
structure Undoes {ε : Type} (read : Nat → List UInt8 → Except ε (List Char))
    (write : Char → List UInt8) (Holds : Char → Prop) : Prop where
  nothing : ∀ pos, read pos [] = .ok []
  written : ∀ pos c rest, Holds c →
    read pos (write c ++ rest) = (read (pos + (write c).length) rest).map (c :: ·)
  taken : ∀ pos b bytes s, read pos (b :: bytes) = .ok s →
    ∃ c rest, Holds c ∧ b :: bytes = write c ++ rest

theorem map_cons_eq_ok {ε : Type} {x : Except ε (List Char)} {c : Char} {s : List Char} :
    x.map (c :: ·) = .ok s ↔ ∃ s', x = .ok s' ∧ s = c :: s' := by
  cases x with
  | error e =>
    constructor
    · intro h
      exact nomatch h
    · rintro ⟨s', h, -⟩
      exact nomatch h
  | ok s' =>
    constructor
    · intro h
      exact ⟨s', rfl, (Except.ok.inj h).symm⟩
    · rintro ⟨s'', h, rfl⟩
      rw [Except.ok.inj h]
      rfl

/-- What holds of one character holds of a text. -/
theorem Undoes.eq_ok_iff {ε : Type} {read : Nat → List UInt8 → Except ε (List Char)}
    {write : Char → List UInt8} {Holds : Char → Prop} (h : Undoes read write Holds) {pos : Nat}
    {bytes : List UInt8} {s : List Char} :
    read pos bytes = .ok s ↔ bytes = s.flatMap write ∧ ∀ c ∈ s, Holds c := by
  induction s generalizing pos bytes with
  | nil =>
    constructor
    · intro hread
      cases bytes with
      | nil => exact ⟨rfl, fun c hc => nomatch hc⟩
      | cons b bytes =>
        obtain ⟨c, rest, hc, heq⟩ := h.taken pos b bytes [] hread
        rw [heq, h.written pos c rest hc, map_cons_eq_ok] at hread
        obtain ⟨s', -, hs⟩ := hread
        exact nomatch hs
    · rintro ⟨rfl, -⟩
      exact h.nothing pos
  | cons c s ih =>
    constructor
    · intro hread
      cases bytes with
      | nil =>
        rw [h.nothing pos] at hread
        exact nomatch Except.ok.inj hread
      | cons b bytes =>
        obtain ⟨c', rest, hc, heq⟩ := h.taken pos b bytes (c :: s) hread
        rw [heq, h.written pos c' rest hc, map_cons_eq_ok] at hread
        obtain ⟨s', hread, hs⟩ := hread
        obtain ⟨rfl, rfl⟩ := List.cons.inj hs
        obtain ⟨hrest, hall⟩ := ih.mp hread
        exact ⟨by rw [heq, List.flatMap_cons, ← hrest], List.forall_mem_cons.mpr ⟨hc, hall⟩⟩
    · rintro ⟨rfl, hall⟩
      obtain ⟨hc, hall⟩ := List.forall_mem_cons.mp hall
      rw [List.flatMap_cons, h.written pos c _ hc, ih.mpr ⟨rfl, hall⟩]
      rfl

-- ---------------------------------------------------------------------------
-- One byte, one character
-- ---------------------------------------------------------------------------

theorem undoes_decodeBytewise (encoding reason : String) {char? : UInt8 → Option Char}
    {byte? : Char → Option UInt8} (h : ∀ b c, char? b = some c ↔ byte? c = some b) :
    Undoes (decodeBytewise encoding reason char?) (fun c => (byte? c).toList)
      (fun c => (byte? c).isSome) where
  nothing _ := rfl
  written pos c rest hc := by
    obtain ⟨b, hb⟩ := Option.isSome_iff_exists.mp hc
    have hchar : char? b = some c := (h b c).mpr hb
    rw [hb, Option.toList_some, List.singleton_append, decodeBytewise, hchar]
    rfl
  taken pos b bytes s hread := by
    cases hchar : char? b with
    | none =>
      rw [decodeBytewise, hchar] at hread
      exact nomatch hread
    | some c =>
      have hb : byte? c = some b := (h b c).mp hchar
      exact ⟨c, bytes, by rw [hb]; rfl, by rw [hb]; rfl⟩

theorem decodeBytewise_some (encoding reason : String) (char : UInt8 → Char) (pos : Nat)
    (bytes : List UInt8) :
    decodeBytewise encoding reason (fun b => some (char b)) pos bytes = .ok (bytes.map char) := by
  induction bytes generalizing pos with
  | nil => rfl
  | cons b bytes ih =>
    rw [decodeBytewise, ih]
    rfl

/-- The byte of a character, where the first characters stand for themselves. -/
def byteBelow (bound : Nat) (c : Char) : Option UInt8 :=
  if c.toNat < bound then some (UInt8.ofNat c.toNat) else none

theorem toNat_charOfByte (b : UInt8) : (Char.ofNat b.toNat).toNat = b.toNat := by
  have hmax := b.toNat_lt
  exact toNat_charOfNat (Or.inl (by omega))

theorem charOfByte_eq_iff {b : UInt8} {c : Char} : Char.ofNat b.toNat = c ↔ b.toNat = c.toNat := by
  rw [← Char.toNat_inj, toNat_charOfByte]

theorem byteBelow_eq_some {bound : Nat} (hbound : bound ≤ 0x100) {b : UInt8} {c : Char} :
    byteBelow bound c = some b ↔ c.toNat < bound ∧ Char.ofNat b.toNat = c := by
  rw [byteBelow, Option.ite_none_right_eq_some, Option.some_inj, charOfByte_eq_iff,
    ← UInt8.toNat_inj]
  apply and_congr_right
  intro h
  rw [toNat_ofNat_of_lt (by omega), eq_comm]

theorem asciiChar?_eq_some (b : UInt8) (c : Char) :
    asciiChar? b = some c ↔ byteBelow 0x80 c = some b := by
  rw [asciiChar?, Option.ite_none_right_eq_some, Option.some_inj, byteBelow_eq_some (by decide),
    UInt8.lt_iff_toNat_lt]
  apply and_congr_left
  intro h
  rw [charOfByte_eq_iff.mp h]
  rfl

theorem latin1Char_eq_some (b : UInt8) (c : Char) :
    some (Char.ofNat b.toNat) = some c ↔ byteBelow 0x100 c = some b := by
  rw [byteBelow_eq_some (Nat.le_refl _), Option.some_inj]
  refine ⟨fun h => ⟨?_, h⟩, And.right⟩
  rw [← charOfByte_eq_iff.mp h]
  exact b.toNat_lt

/-- The byte of a character in code page 1252. -/
def windows1252Byte? (c : Char) : Option UInt8 :=
  if c.toNat < 0x80 ∨ 0xA0 ≤ c.toNat ∧ c.toNat < 0x100 then some (UInt8.ofNat c.toNat)
  else (windows1252High.finIdxOf? (some c.toNat)).map fun i : Fin _ => UInt8.ofNat (0x80 + i.val)

theorem windows1252_high : ∀ i : Fin windows1252High.length, ∀ n ∈ windows1252High.get i,
    windows1252Char? (UInt8.ofNat (0x80 + i)) = some (Char.ofNat n) ∧
      windows1252Byte? (Char.ofNat n) = some (UInt8.ofNat (0x80 + i)) := by
  decide +kernel

theorem windows1252Char?_of_self {b : UInt8} (h : ¬ (0x80 ≤ b ∧ b < 0xA0)) :
    windows1252Char? b = some (Char.ofNat b.toNat) :=
  if_neg h

theorem windows1252Byte?_of_char? {b : UInt8} {c : Char} (h : windows1252Char? b = some c) :
    windows1252Byte? c = some b := by
  by_cases hrange : 0x80 ≤ b ∧ b < 0xA0
  · rw [windows1252Char?, if_pos hrange] at h
    obtain ⟨n, hn, rfl⟩ := Option.map_eq_some_iff.mp h
    obtain ⟨hi, hget⟩ := List.getElem?_eq_some_iff.mp (Option.join_eq_some_iff.mp hn)
    have hlo : 0x80 ≤ b.toNat := UInt8.le_iff_toNat_le.mp hrange.1
    have hbyte : UInt8.ofNat (0x80 + (b.toNat - 0x80)) = b := by
      rw [Nat.add_sub_cancel' hlo, UInt8.ofNat_toNat]
    have hhigh := windows1252_high ⟨b.toNat - 0x80, hi⟩ n hget
    exact hhigh.2.trans (congrArg some hbyte)
  · rw [windows1252Char?_of_self hrange] at h
    have hc := charOfByte_eq_iff.mp (Option.some.inj h)
    have hself : c.toNat < 0x80 ∨ 0xA0 ≤ c.toNat ∧ c.toNat < 0x100 := by
      rw [UInt8.le_iff_toNat_le, UInt8.lt_iff_toNat_lt, hc] at hrange
      change ¬ (0x80 ≤ c.toNat ∧ c.toNat < 0xA0) at hrange
      have hmax := b.toNat_lt
      omega
    rw [windows1252Byte?, if_pos hself, ← hc, UInt8.ofNat_toNat]

theorem windows1252Char?_eq_some (b : UInt8) (c : Char) :
    windows1252Char? b = some c ↔ windows1252Byte? c = some b := by
  constructor
  · intro h
    exact windows1252Byte?_of_char? h
  · intro h
    rw [windows1252Byte?] at h
    split_ifs at h with hself
    · have hb : b.toNat = c.toNat := by
        rw [← Option.some.inj h, toNat_ofNat_of_lt (by omega)]
      have hrange : ¬ (0x80 ≤ b ∧ b < 0xA0) := by
        rw [UInt8.le_iff_toNat_le, UInt8.lt_iff_toNat_lt, hb]
        change ¬ (0x80 ≤ c.toNat ∧ c.toNat < 0xA0)
        omega
      rw [windows1252Char?_of_self hrange, charOfByte_eq_iff.mpr hb]
    · obtain ⟨i, hi, rfl⟩ := Option.map_eq_some_iff.mp h
      have hhigh := windows1252_high i c.toNat (List.finIdxOf?_eq_some_iff.mp hi).1
      rw [hhigh.1, Char.ofNat_toNat]

theorem byteBelow_self {bound : Nat} (hbound : 0x80 ≤ bound) (c : Char) (hc : c.toNat < 0x80) :
    byteBelow bound c = some (UInt8.ofNat c.toNat) :=
  if_pos (Nat.lt_of_lt_of_le hc hbound)

theorem windows1252Byte?_self (c : Char) (hc : c.toNat < 0x80) :
    windows1252Byte? c = some (UInt8.ofNat c.toNat) :=
  if_pos (Or.inl hc)

-- ---------------------------------------------------------------------------
-- Units
-- ---------------------------------------------------------------------------

/-- The lowest bytes of a number, lowest first. -/
def lowBytes : Nat → Nat → List UInt8
  | 0, _ => []
  | width + 1, n => UInt8.ofNat n :: lowBytes width (n / 0x100)

/-- A number as a unit of so many bytes. -/
def ByteOrder.bytes (order : ByteOrder) (width n : Nat) : List UInt8 :=
  match order with
  | .little => lowBytes width n
  | .big => (lowBytes width n).reverse

theorem length_lowBytes (width n : Nat) : (lowBytes width n).length = width := by
  induction width generalizing n with
  | zero => rfl
  | succ width ih => rw [lowBytes, List.length_cons, ih]

theorem foldr_lowBytes {width n : Nat} (h : n < 0x100 ^ width) :
    (lowBytes width n).foldr (fun b m => m * 0x100 + b.toNat) 0 = n := by
  induction width generalizing n with
  | zero =>
    have hzero : n = 0 := by omega
    rw [hzero]
    rfl
  | succ width ih =>
    have hrest : n / 0x100 < 0x100 ^ width := by
      rw [Nat.div_lt_iff_lt_mul (by decide)]
      exact h
    rw [lowBytes, List.foldr_cons, ih hrest, UInt8.toNat_ofNat', Nat.div_add_mod']

theorem lowBytes_foldr (bytes : List UInt8) :
    lowBytes bytes.length (bytes.foldr (fun b m => m * 0x100 + b.toNat) 0) = bytes := by
  induction bytes with
  | nil => rfl
  | cons b bytes ih =>
    have hb := b.toNat_lt
    rw [List.length_cons, lowBytes, List.foldr_cons]
    generalize List.foldr (fun b m => m * 0x100 + b.toNat) 0 bytes = n at ih
    have hlow : UInt8.ofNat (n * 0x100 + b.toNat) = b := by
      rw [← UInt8.toNat_inj, UInt8.toNat_ofNat']
      omega
    have hrest : (n * 0x100 + b.toNat) / 0x100 = n := by omega
    rw [hlow, hrest, ih]

theorem foldr_lt (bytes : List UInt8) :
    bytes.foldr (fun b m => m * 0x100 + b.toNat) 0 < 0x100 ^ bytes.length := by
  induction bytes with
  | nil => exact Nat.one_pos
  | cons b bytes ih =>
    have hb := b.toNat_lt
    rw [List.foldr_cons, List.length_cons, Nat.pow_succ]
    omega

namespace ByteOrder

theorem length_bytes (order : ByteOrder) (width n : Nat) :
    (order.bytes width n).length = width := by
  cases order with
  | little => exact length_lowBytes width n
  | big => rw [bytes, List.length_reverse, length_lowBytes]

theorem value_bytes (order : ByteOrder) {width n : Nat} (h : n < 0x100 ^ width) :
    order.value (order.bytes width n) = n := by
  cases order with
  | little => rw [value, bytes, List.foldl_reverse, foldr_lowBytes h]
  | big => rw [value, bytes, List.foldl_reverse, foldr_lowBytes h]

theorem bytes_value (order : ByteOrder) (bytes : List UInt8) :
    order.bytes bytes.length (order.value bytes) = bytes := by
  cases order with
  | little => rw [value, ByteOrder.bytes, List.foldl_reverse, lowBytes_foldr]
  | big =>
    rw [value, ByteOrder.bytes, ← List.foldr_reverse, ← List.length_reverse, lowBytes_foldr,
      List.reverse_reverse]

theorem value_lt (order : ByteOrder) (bytes : List UInt8) :
    order.value bytes < 0x100 ^ bytes.length := by
  cases order with
  | little =>
    rw [value, List.foldl_reverse]
    exact foldr_lt bytes
  | big =>
    rw [value, ← List.foldr_reverse, ← List.length_reverse]
    exact foldr_lt bytes.reverse

/-- A character in units of sixteen bits. -/
def write16 (order : ByteOrder) (c : Char) : List UInt8 :=
  if c.toNat < 0x10000 then order.bytes 2 c.toNat
  else
    order.bytes 2 (0xD800 + (c.toNat - 0x10000) / 0x400) ++
      order.bytes 2 (0xDC00 + (c.toNat - 0x10000) % 0x400)

/-- A character in a unit of thirty-two bits. -/
def write32 (order : ByteOrder) (c : Char) : List UInt8 :=
  order.bytes 4 c.toNat

theorem exists_bytes_two (order : ByteOrder) {n : Nat} (h : n < 0x10000) :
    ∃ a b, order.bytes 2 n = [a, b] ∧ order.value [a, b] = n := by
  obtain ⟨a, b, heq⟩ := List.length_eq_two.mp (order.length_bytes 2 n)
  exact ⟨a, b, heq, heq ▸ order.value_bytes h⟩

theorem exists_bytes_four (order : ByteOrder) {n : Nat} (h : n < 0x100000000) :
    ∃ a b c d, order.bytes 4 n = [a, b, c, d] ∧ order.value [a, b, c, d] = n := by
  obtain ⟨a, b, c, d, heq⟩ := List.length_eq_four.mp (order.length_bytes 4 n)
  exact ⟨a, b, c, d, heq, heq ▸ order.value_bytes h⟩

end ByteOrder

theorem isHighSurrogate_iff {n : Nat} : isHighSurrogate n = true ↔ 0xD800 ≤ n ∧ n < 0xDC00 := by
  simp [isHighSurrogate]

theorem isLowSurrogate_iff {n : Nat} : isLowSurrogate n = true ↔ 0xDC00 ≤ n ∧ n < 0xE000 := by
  simp [isLowSurrogate]

theorem ByteOrder.write16_single (order : ByteOrder) {n : Nat} (hlt : n < 0x10000)
    (hhigh : ¬ isHighSurrogate n) (hlow : ¬ isLowSurrogate n) :
    order.write16 (Char.ofNat n) = order.bytes 2 n := by
  rw [isHighSurrogate_iff] at hhigh
  rw [isLowSurrogate_iff] at hlow
  have hvalid : n.isValidChar := by
    unfold Nat.isValidChar
    omega
  rw [write16, toNat_charOfNat hvalid, if_pos hlt]

theorem ByteOrder.write16_pair (order : ByteOrder) {n m : Nat} (hhigh : isHighSurrogate n)
    (hlow : isLowSurrogate m) :
    order.write16 (Char.ofNat (0x10000 + (n - 0xD800) * 0x400 + (m - 0xDC00))) =
      order.bytes 2 n ++ order.bytes 2 m := by
  rw [isHighSurrogate_iff] at hhigh
  rw [isLowSurrogate_iff] at hlow
  have hvalid : Nat.isValidChar (0x10000 + (n - 0xD800) * 0x400 + (m - 0xDC00)) := by
    unfold Nat.isValidChar
    omega
  have hfirst : 0xD800 + (0x10000 + (n - 0xD800) * 0x400 + (m - 0xDC00) - 0x10000) / 0x400 = n := by
    omega
  have hsecond :
      0xDC00 + (0x10000 + (n - 0xD800) * 0x400 + (m - 0xDC00) - 0x10000) % 0x400 = m := by
    omega
  rw [write16, toNat_charOfNat hvalid, if_neg (by omega), hfirst, hsecond]

theorem decodeUnits16_single (order : ByteOrder) (pos : Nat) {a b : UInt8} (rest : List UInt8)
    (hhigh : ¬ isHighSurrogate (order.value [a, b])) (hlow : ¬ isLowSurrogate (order.value [a, b])) :
    decodeUnits16 order pos (a :: b :: rest) =
      (decodeUnits16 order (pos + 2) rest).map (Char.ofNat (order.value [a, b]) :: ·) := by
  rw [decodeUnits16.eq_def]
  simp only [if_neg hhigh, if_neg hlow]

theorem decodeUnits16_pair (order : ByteOrder) (pos : Nat) {a b c d : UInt8} (rest : List UInt8)
    (hhigh : isHighSurrogate (order.value [a, b])) (hlow : isLowSurrogate (order.value [c, d])) :
    decodeUnits16 order pos (a :: b :: c :: d :: rest) =
      (decodeUnits16 order (pos + 4) rest).map (Char.ofNat (0x10000 +
        (order.value [a, b] - 0xD800) * 0x400 + (order.value [c, d] - 0xDC00)) :: ·) := by
  rw [decodeUnits16.eq_def]
  simp only [if_pos hhigh, if_pos hlow]

/-- Reading that succeeds takes a unit that is no surrogate or a pair of surrogates. -/
theorem decodeUnits16_eq_ok {order : ByteOrder} {pos : Nat} {a : UInt8} {bytes : List UInt8}
    {s : List Char} (h : decodeUnits16 order pos (a :: bytes) = .ok s) :
    (∃ b rest, bytes = b :: rest ∧ ¬ isHighSurrogate (order.value [a, b]) ∧
      ¬ isLowSurrogate (order.value [a, b])) ∨
    ∃ b c d rest, bytes = b :: c :: d :: rest ∧ isHighSurrogate (order.value [a, b]) ∧
      isLowSurrogate (order.value [c, d]) := by
  rcases bytes with _ | ⟨b, rest⟩
  · exact nomatch h
  rw [decodeUnits16.eq_def] at h
  by_cases hhigh : isHighSurrogate (order.value [a, b])
  · simp only [if_pos hhigh] at h
    rcases rest with _ | ⟨c, _ | ⟨d, rest⟩⟩
    · exact nomatch h
    · exact nomatch h
    · by_cases hlow : isLowSurrogate (order.value [c, d])
      · exact Or.inr ⟨b, c, d, rest, rfl, hhigh, hlow⟩
      · simp only [if_neg hlow] at h
        exact nomatch h
  · by_cases hlow : isLowSurrogate (order.value [a, b])
    · simp only [if_neg hhigh, if_pos hlow] at h
      exact nomatch h
    · exact Or.inl ⟨b, rest, rfl, hhigh, hlow⟩

theorem undoes_decodeUnits16 (order : ByteOrder) :
    Undoes (decodeUnits16 order) order.write16 (fun _ => True) where
  nothing _ := by rw [decodeUnits16]
  written pos c rest _ := by
    have hvalid := isValidChar_toNat c
    unfold ByteOrder.write16
    split_ifs with hplane
    · obtain ⟨a, b, heq, hvalue⟩ := order.exists_bytes_two hplane
      have hhigh : ¬ isHighSurrogate (order.value [a, b]) := by
        rw [isHighSurrogate_iff]
        omega
      have hlow : ¬ isLowSurrogate (order.value [a, b]) := by
        rw [isLowSurrogate_iff]
        omega
      have hchar : Char.ofNat (order.value [a, b]) = c := by rw [hvalue, Char.ofNat_toNat]
      rw [heq]
      exact hchar ▸ decodeUnits16_single order pos rest hhigh hlow
    · obtain ⟨a, b, heq, hvalue⟩ := order.exists_bytes_two
        (n := 0xD800 + (c.toNat - 0x10000) / 0x400) (by omega)
      obtain ⟨a', b', heq', hvalue'⟩ := order.exists_bytes_two
        (n := 0xDC00 + (c.toNat - 0x10000) % 0x400) (by omega)
      have hhigh : isHighSurrogate (order.value [a, b]) := by
        rw [isHighSurrogate_iff]
        omega
      have hlow : isLowSurrogate (order.value [a', b']) := by
        rw [isLowSurrogate_iff]
        omega
      have hbits : 0x10000 + (order.value [a, b] - 0xD800) * 0x400 +
          (order.value [a', b'] - 0xDC00) = c.toNat := by
        omega
      have hchar := (congrArg Char.ofNat hbits).trans (Char.ofNat_toNat c)
      rw [heq, heq']
      exact hchar ▸ decodeUnits16_pair order pos rest hhigh hlow
  taken pos a bytes s hread := by
    rcases decodeUnits16_eq_ok hread with ⟨b, rest, rfl, hhigh, hlow⟩ |
      ⟨b, c, d, rest, rfl, hhigh, hlow⟩
    · have hlt : order.value [a, b] < 0x10000 := by simpa using order.value_lt [a, b]
      refine ⟨Char.ofNat (order.value [a, b]), rest, trivial, ?_⟩
      rw [order.write16_single hlt hhigh hlow]
      exact congrArg (· ++ rest) (order.bytes_value [a, b]).symm
    · refine ⟨Char.ofNat (0x10000 + (order.value [a, b] - 0xD800) * 0x400 +
        (order.value [c, d] - 0xDC00)), rest, trivial, ?_⟩
      rw [order.write16_pair hhigh hlow]
      exact congrArg₂ (· ++ · ++ rest) (order.bytes_value [a, b]).symm
        (order.bytes_value [c, d]).symm

theorem undoes_decodeUnits32 (order : ByteOrder) :
    Undoes (decodeUnits32 order) order.write32 (fun _ => True) where
  nothing _ := rfl
  written pos c rest _ := by
    have hvalid := isValidChar_toNat c
    obtain ⟨b₀, b₁, b₂, b₃, heq, hvalue⟩ := order.exists_bytes_four (n := c.toNat) (by omega)
    have hsurrogate : ¬ (0xD800 ≤ c.toNat ∧ c.toNat < 0xE000) := by omega
    have hbeyond : ¬ 0x110000 ≤ c.toNat := by omega
    rw [ByteOrder.write32, heq]
    change decodeUnits32 order pos (b₀ :: b₁ :: b₂ :: b₃ :: rest) = _
    rw [decodeUnits32, hvalue]
    simp only [if_neg hsurrogate, if_neg hbeyond, Char.ofNat_toNat]
    rfl
  taken pos b₀ bytes s hread := by
    rcases bytes with _ | ⟨b₁, _ | ⟨b₂, _ | ⟨b₃, rest⟩⟩⟩
    · exact nomatch hread
    · exact nomatch hread
    · exact nomatch hread
    · rw [decodeUnits32] at hread
      by_cases hsurrogate : 0xD800 ≤ order.value [b₀, b₁, b₂, b₃] ∧
          order.value [b₀, b₁, b₂, b₃] < 0xE000
      · simp only [if_pos hsurrogate] at hread
        exact nomatch hread
      by_cases hbeyond : 0x110000 ≤ order.value [b₀, b₁, b₂, b₃]
      · simp only [if_neg hsurrogate, if_pos hbeyond] at hread
        exact nomatch hread
      have hvalid : (order.value [b₀, b₁, b₂, b₃]).isValidChar := by
        unfold Nat.isValidChar
        omega
      refine ⟨Char.ofNat (order.value [b₀, b₁, b₂, b₃]), rest, trivial, ?_⟩
      rw [ByteOrder.write32, toNat_charOfNat hvalid]
      exact congrArg (· ++ rest) (order.bytes_value [b₀, b₁, b₂, b₃]).symm

end UnsafeCensus.Text
