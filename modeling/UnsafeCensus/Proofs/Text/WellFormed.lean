import UnsafeCensus.Proofs.Fault.Sequence
import UnsafeCensus.Proofs.Text.Utf8

/-!
# Well-formed UTF-8

What UTF-8 is, said by the numbers that its sequences write and not by how they are read: a sequence
of the right shape stands for a character iff it is the shortest one for its number and that number
is a code point and no surrogate. Strict reading accepts exactly what consists of such sequences,
and otherwise names the end of the longest beginning that does.
-/

namespace UnsafeCensus.Text.Utf8

-- ---------------------------------------------------------------------------
-- Sequences
-- ---------------------------------------------------------------------------

/-- A byte that continues a sequence. -/
abbrev IsTail (b : UInt8) : Prop := 0x80 ≤ b.toNat ∧ b.toNat ≤ 0xBF

/-- The number that a sequence writes: the first byte says how many bytes follow, and each of those
adds six bits. -/
def number? : List UInt8 → Option Nat
  | [a] => if a.toNat < 0x80 then some a.toNat else none
  | [a, b] =>
    if 0xC0 ≤ a.toNat ∧ a.toNat < 0xE0 ∧ IsTail b then
      some ((a.toNat - 0xC0) * 0x40 + (b.toNat - 0x80))
    else none
  | [a, b, c] =>
    if 0xE0 ≤ a.toNat ∧ a.toNat < 0xF0 ∧ IsTail b ∧ IsTail c then
      some (((a.toNat - 0xE0) * 0x40 + (b.toNat - 0x80)) * 0x40 + (c.toNat - 0x80))
    else none
  | [a, b, c, d] =>
    if 0xF0 ≤ a.toNat ∧ a.toNat < 0xF8 ∧ IsTail b ∧ IsTail c ∧ IsTail d then
      some ((((a.toNat - 0xF0) * 0x40 + (b.toNat - 0x80)) * 0x40 + (c.toNat - 0x80)) * 0x40 +
        (d.toNat - 0x80))
    else none
  | _ => none

/-- The least number that takes so many bytes. A sequence for a lower one is overlong. -/
def leastOf : Nat → Nat
  | 0 | 1 => 0
  | 2 => 0x80
  | 3 => 0x800
  | _ => 0x10000

/-- The sequence stands for a character: it is not overlong, and its number is neither a surrogate
nor beyond the last code point. -/
def IsSequence (q : List UInt8) : Prop :=
  ∃ n ∈ number? q, leastOf q.length ≤ n ∧ n.isValidChar

/-- Bytes that consist of sequences for characters. -/
inductive WellFormed : List UInt8 → Prop
  | nil : WellFormed []
  | append {q rest : List UInt8} : IsSequence q → WellFormed rest → WellFormed (q ++ rest)

theorem isTail_tail (n : Nat) : IsTail (tail n) := by
  rw [IsTail, toNat_tail]
  exact ⟨le_tail n, tail_le n⟩

theorem isSequence_encodeChar (c : Char) : IsSequence (String.utf8EncodeChar c) := by
  have hvalid := isValidChar_toNat c
  rw [encodeChar_eq]
  split_ifs with h80 h800 h10000
  · have hbyte := toNat_ofNat_of_lt (show c.toNat < 0x100 by omega)
    have hnumber : number? [UInt8.ofNat c.toNat] = some c.toNat := by
      rw [number?, hbyte, if_pos h80]
    exact ⟨c.toNat, hnumber, Nat.zero_le _, hvalid⟩
  · have hbyte := toNat_ofNat_of_lt (show c.toNat / 0x40 + 0xC0 < 0x100 by omega)
    have hnumber : number? [UInt8.ofNat (c.toNat / 0x40 + 0xC0), tail c.toNat] =
        some c.toNat := by
      rw [number?, hbyte, if_pos ⟨by omega, by omega, isTail_tail _⟩, toNat_tail]
      exact congrArg some (by omega)
    exact ⟨c.toNat, hnumber, Nat.le_of_not_lt h80, hvalid⟩
  · have hbyte := toNat_ofNat_of_lt (show c.toNat / 0x1000 + 0xE0 < 0x100 by omega)
    have hnumber : number? [UInt8.ofNat (c.toNat / 0x1000 + 0xE0), tail (c.toNat / 0x40),
        tail c.toNat] = some c.toNat := by
      rw [number?, hbyte, if_pos ⟨by omega, by omega, isTail_tail _, isTail_tail _⟩, toNat_tail,
        toNat_tail]
      exact congrArg some (by omega)
    exact ⟨c.toNat, hnumber, Nat.le_of_not_lt h800, hvalid⟩
  · have hbyte := toNat_ofNat_of_lt (show c.toNat / 0x40000 + 0xF0 < 0x100 by omega)
    have hnumber : number? [UInt8.ofNat (c.toNat / 0x40000 + 0xF0), tail (c.toNat / 0x1000),
        tail (c.toNat / 0x40), tail c.toNat] = some c.toNat := by
      rw [number?, hbyte, if_pos ⟨by omega, by omega, isTail_tail _, isTail_tail _, isTail_tail _⟩,
        toNat_tail, toNat_tail, toNat_tail]
      exact congrArg some (by omega)
    exact ⟨c.toNat, hnumber, Nat.le_of_not_lt h10000, hvalid⟩

theorem exists_encodeChar_of_isSequence {q : List UInt8} (h : IsSequence q) :
    ∃ c, q = String.utf8EncodeChar c := by
  obtain ⟨n, hn, hleast, hvalid⟩ := h
  match q with
  | [] => exact nomatch hn
  | [a] =>
    obtain ⟨ha, hn⟩ := Option.ite_none_right_eq_some.mp hn
    obtain rfl := Option.some.inj hn
    refine ⟨Char.ofNat a.toNat, ?_⟩
    rw [encodeChar_eq, toNat_charOfNat hvalid, if_pos ha, UInt8.ofNat_toNat]
  | [a, b] =>
    obtain ⟨⟨hlo, hhi, hb⟩, hn⟩ := Option.ite_none_right_eq_some.mp hn
    obtain rfl := Option.some.inj hn
    change 0x80 ≤ _ at hleast
    exact ⟨_, (encodeChar_of_two (by omega) hhi hb.1 hb.2).symm⟩
  | [a, b, c] =>
    obtain ⟨⟨hlo, hhi, hb, hc⟩, hn⟩ := Option.ite_none_right_eq_some.mp hn
    obtain rfl := Option.some.inj hn
    change 0x800 ≤ _ at hleast
    unfold Nat.isValidChar at hvalid
    exact ⟨_, (encodeChar_of_three hlo hhi hb.1 hb.2 (by omega) (by omega) hc.1 hc.2).symm⟩
  | [a, b, c, d] =>
    obtain ⟨⟨hlo, hhi, hb, hc, hd⟩, hn⟩ := Option.ite_none_right_eq_some.mp hn
    obtain rfl := Option.some.inj hn
    change 0x10000 ≤ _ at hleast
    unfold Nat.isValidChar at hvalid
    exact ⟨_, (encodeChar_of_four hlo (by omega) hb.1 hb.2 (by omega) (by omega) hc.1 hc.2 hd.1
      hd.2).symm⟩
  | _ :: _ :: _ :: _ :: _ :: _ => exact nomatch hn

theorem isSequence_iff {q : List UInt8} : IsSequence q ↔ ∃ c, q = String.utf8EncodeChar c := by
  refine ⟨exists_encodeChar_of_isSequence, ?_⟩
  rintro ⟨c, rfl⟩
  exact isSequence_encodeChar c

/-- What texts are written as is well-formed, and nothing else. -/
theorem wellFormed_iff {bytes : List UInt8} : WellFormed bytes ↔ ∃ s, bytes = encode s := by
  constructor
  · intro h
    induction h with
    | nil => exact ⟨[], rfl⟩
    | append hq _ ih =>
      obtain ⟨c, rfl⟩ := isSequence_iff.mp hq
      obtain ⟨s, rfl⟩ := ih
      exact ⟨c :: s, rfl⟩
  · rintro ⟨s, rfl⟩
    induction s with
    | nil => exact .nil
    | cons c s ih => exact .append (isSequence_encodeChar c) ih

theorem wellFormed_iff_decode? {bytes : List UInt8} :
    WellFormed bytes ↔ ∃ s, decode? bytes = .ok s := by
  simp only [wellFormed_iff, decode?_eq_ok]

instance : DecidablePred WellFormed := fun bytes =>
  decidable_of_iff (decode? bytes).isOk (by
    rw [wellFormed_iff_decode?]
    cases decode? bytes <;> simp [Except.isOk, Except.toBool])

/-- An overlong form, a surrogate, a number beyond the last code point, a stray continuation byte
and a missing one. -/
example :
    ¬ WellFormed [0xE0, 0x9F, 0xBF] ∧ ¬ WellFormed [0xED, 0xA0, 0x80] ∧
      ¬ WellFormed [0xF4, 0x90, 0x80, 0x80] ∧ ¬ WellFormed [0x80] ∧ ¬ WellFormed [0xC3, 0x41] := by
  decide

-- ---------------------------------------------------------------------------
-- The longest beginning
-- ---------------------------------------------------------------------------

/-- Some bytes are well-formed up to an offset, and up to no later one. -/
structure WellFormedUpTo (bytes : List UInt8) (n : Nat) : Prop where
  le : n ≤ bytes.length
  wellFormed : WellFormed (bytes.take n)
  longest : ∀ front, front <+: bytes → WellFormed front → front.length ≤ n

theorem WellFormedUpTo.unique {bytes : List UInt8} {m n : Nat} (hm : WellFormedUpTo bytes m)
    (hn : WellFormedUpTo bytes n) : m = n := by
  have hmn := hn.longest _ (List.take_prefix m bytes) hm.wellFormed
  have hnm := hm.longest _ (List.take_prefix n bytes) hn.wellFormed
  rw [List.length_take_of_le hm.le] at hmn
  rw [List.length_take_of_le hn.le] at hnm
  exact Nat.le_antisymm hmn hnm

/-- Reading takes a written text and goes on behind it. -/
theorem decodeFrom_encode_append (s : List Char) (pos : Nat) (rest : List UInt8) :
    decodeFrom none pos pos (encode s ++ rest) =
      (decodeFrom none (pos + (encode s).length) (pos + (encode s).length) rest).map (s ++ ·) := by
  induction s generalizing pos with
  | nil =>
    change decodeFrom none pos pos rest = (decodeFrom none pos pos rest).map id
    cases decodeFrom none pos pos rest <;> rfl
  | cons c s ih =>
    rw [encode, List.flatMap_cons, ← encode, List.append_assoc, decodeFrom_encodeChar, ih,
      List.length_append, Nat.add_assoc]
    cases decodeFrom none _ _ rest <;> rfl

/-- A run that fails blames the sequence that it began in, or a later one, up to which it succeeds.
-/
theorem offset_of_decodeFrom {state : State} {begun pos : Nat} {bytes : List UInt8} {fault : Fault}
    (h : decodeFrom state begun pos bytes = .error fault) :
    fault.offset = begun ∨ pos < fault.offset ∧
      ∃ s, decodeFrom state begun pos (bytes.take (fault.offset - pos)) = .ok s := by
  induction bytes generalizing state begun pos with
  | nil =>
    cases state with
    | none => cases h
    | some p =>
      cases h
      exact Or.inl rfl
  | cons b rest ih =>
    cases hfeed : feed state b with
    | scalar c =>
      rw [decodeFrom_of_scalar hfeed, map_eq_error] at h
      right
      rcases ih h with heq | ⟨hlt, s, hs⟩
      · refine ⟨by omega, [c], ?_⟩
        rw [heq, Nat.add_sub_cancel_left, List.take_succ_cons, decodeFrom_of_scalar hfeed]
        rfl
      · refine ⟨by omega, c :: s, ?_⟩
        rw [show fault.offset - pos = fault.offset - (pos + 1) + 1 by omega, List.take_succ_cons,
          decodeFrom_of_scalar hfeed, hs]
        rfl
    | more p =>
      rw [decodeFrom_of_more hfeed] at h
      refine (ih h).imp_right fun ⟨hlt, s, hs⟩ => ⟨by omega, s, ?_⟩
      rw [show fault.offset - pos = fault.offset - (pos + 1) + 1 by omega, List.take_succ_cons,
        decodeFrom_of_more hfeed, hs]
    | flaw f =>
      simp only [decodeFrom, hfeed] at h
      cases h
      exact Or.inl rfl

theorem begun_le_of_decodeFrom {state : State} {begun pos : Nat} {bytes : List UInt8}
    {fault : Fault} (h : decodeFrom state begun pos bytes = .error fault) (hbegun : begun ≤ pos) :
    begun ≤ fault.offset := by
  rcases offset_of_decodeFrom h with heq | ⟨hlt, -⟩ <;> omega

/-- Strict reading that fails blames what stands behind the longest well-formed beginning. -/
theorem wellFormedUpTo_offset {bytes : List UInt8} {fault : Fault}
    (h : decode? bytes = .error fault) : WellFormedUpTo bytes fault.offset := by
  refine ⟨offset_le_length h, ?_, ?_⟩
  · rcases offset_of_decodeFrom h with heq | ⟨-, s, hs⟩
    · rw [heq]
      exact .nil
    · exact wellFormed_iff_decode?.mpr ⟨s, hs⟩
  · rintro front ⟨rest, rfl⟩ hfront
    obtain ⟨s, rfl⟩ := wellFormed_iff.mp hfront
    rw [decode?, decodeFrom_encode_append, map_eq_error, Nat.zero_add] at h
    exact begun_le_of_decodeFrom h (Nat.le_refl _)

end UnsafeCensus.Text.Utf8
