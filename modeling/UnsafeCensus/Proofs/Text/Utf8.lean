import UnsafeCensus.Proofs.Text.Reading

/-!
# Reading and writing of UTF-8

Strict reading undoes writing and accepts nothing else: the automaton reads bytes as a text iff they
are the bytes of that text. The run is cut into characters: from between two characters, the
automaton either reads the whole sequence of one character or fails.
-/

namespace UnsafeCensus.Text.Utf8

-- ---------------------------------------------------------------------------
-- Steps of the automaton, on numbers
-- ---------------------------------------------------------------------------

theorem lead_eq (b : UInt8) :
    lead b =
      if b.toNat < 0x80 then .scalar (Char.ofNat b.toNat)
      else if b.toNat < 0xC2 then .flaw .start
      else if b.toNat < 0xE0 then .more ⟨1, 0x80, 0xBF, b.toNat - 0xC0⟩
      else if b.toNat < 0xF0 then
        .more ⟨2, if b.toNat = 0xE0 then 0xA0 else 0x80, if b.toNat = 0xED then 0x9F else 0xBF,
          b.toNat - 0xE0⟩
      else if b.toNat < 0xF5 then
        .more ⟨3, if b.toNat = 0xF0 then 0x90 else 0x80, if b.toNat = 0xF4 then 0x8F else 0xBF,
          b.toNat - 0xF0⟩
      else .flaw .start := by
  simp only [lead, UInt8.lt_iff_toNat_lt, beq_iff_eq, ← UInt8.toNat_inj]
  rfl

/-- A byte in the range that is open for it. -/
structure Partial.Admits (p : Partial) (b : UInt8) : Prop where
  lo : p.lo.toNat ≤ b.toNat
  hi : b.toNat ≤ p.hi.toNat

/-- The bits collected once a byte is read. -/
def Partial.taken (p : Partial) (b : UInt8) : Nat :=
  p.bits * 64 + (b.toNat - 0x80)

/-- What is left to read after a byte that was not the last. -/
def Partial.next (p : Partial) (b : UInt8) : Partial :=
  ⟨p.missing - 1, 0x80, 0xBF, p.taken b⟩

theorem feed_some (p : Partial) (b : UInt8) : feed (some p) b = p.feed b := rfl

theorem Partial.feed_of_last {p : Partial} {b : UInt8} (h : p.Admits b) (hlast : p.missing ≤ 1) :
    p.feed b = .scalar (Char.ofNat (p.taken b)) := by
  rw [feed, if_pos ⟨UInt8.le_iff_toNat_le.mpr h.lo, UInt8.le_iff_toNat_le.mpr h.hi⟩, if_pos hlast]
  rfl

theorem Partial.feed_of_more {p : Partial} {b : UInt8} (h : p.Admits b) (hmore : 1 < p.missing) :
    p.feed b = .more (p.next b) := by
  rw [feed, if_pos ⟨UInt8.le_iff_toNat_le.mpr h.lo, UInt8.le_iff_toNat_le.mpr h.hi⟩,
    if_neg (Nat.not_le.mpr hmore)]
  rfl

theorem Partial.feed_of_not_admits {p : Partial} {b : UInt8} (h : ¬ p.Admits b) :
    p.feed b = .flaw .continuation := by
  rw [feed, if_neg]
  rintro ⟨hlo, hhi⟩
  exact h ⟨UInt8.le_iff_toNat_le.mp hlo, UInt8.le_iff_toNat_le.mp hhi⟩

-- ---------------------------------------------------------------------------
-- Written characters
-- ---------------------------------------------------------------------------

/-- A continuation byte with the low bits of a number. -/
def tail (n : Nat) : UInt8 := UInt8.ofNat (n % 0x40 + 0x80)

theorem toNat_tail (n : Nat) : (tail n).toNat = n % 0x40 + 0x80 :=
  toNat_ofNat_of_lt (by omega)

theorem le_tail (n : Nat) : UInt8.toNat 0x80 ≤ n % 0x40 + 0x80 :=
  Nat.le_add_left _ _

theorem tail_le (n : Nat) : n % 0x40 + 0x80 ≤ UInt8.toNat 0xBF := by
  have h : n % 0x40 < 0x40 := Nat.mod_lt _ (by decide)
  exact Nat.add_le_add_right (Nat.le_of_lt_succ h) 0x80

theorem tail_eq {b : UInt8} {n : Nat} (hlo : 0x80 ≤ b.toNat) (hhi : b.toNat ≤ 0xBF)
    (h : n % 0x40 = b.toNat - 0x80) : tail n = b := by
  rw [← UInt8.toNat_inj, toNat_tail]
  omega

theorem encodeChar_eq (c : Char) :
    String.utf8EncodeChar c =
      if c.toNat < 0x80 then [UInt8.ofNat c.toNat]
      else if c.toNat < 0x800 then [UInt8.ofNat (c.toNat / 0x40 + 0xC0), tail c.toNat]
      else if c.toNat < 0x10000 then
        [UInt8.ofNat (c.toNat / 0x1000 + 0xE0), tail (c.toNat / 0x40), tail c.toNat]
      else
        [UInt8.ofNat (c.toNat / 0x40000 + 0xF0), tail (c.toNat / 0x1000), tail (c.toNat / 0x40),
          tail c.toNat] := by
  have hvalid := isValidChar_toNat c
  unfold String.utf8EncodeChar
  simp only [Char.toNat_val, ← Nat.lt_succ_iff]
  split_ifs with h80 h800 h10000
  · rfl
  · rw [Nat.mod_eq_of_lt (show c.toNat / 0x40 < 0x20 by omega)]
    rfl
  · rw [Nat.mod_eq_of_lt (show c.toNat / 0x1000 < 0x10 by omega)]
    rfl
  · rw [Nat.mod_eq_of_lt (show c.toNat / 0x40000 < 0x08 by omega)]
    rfl

-- ---------------------------------------------------------------------------
-- Writing, then reading
-- ---------------------------------------------------------------------------

theorem decodeFrom_of_scalar {state : State} {b : UInt8} {c : Char} (h : feed state b = .scalar c)
    (begun pos : Nat) (rest : List UInt8) :
    decodeFrom state begun pos (b :: rest) =
      (decodeFrom none (pos + 1) (pos + 1) rest).map (c :: ·) := by
  rw [decodeFrom, h]

theorem decodeFrom_of_more {state : State} {b : UInt8} {p : Partial} (h : feed state b = .more p)
    (begun pos : Nat) (rest : List UInt8) :
    decodeFrom state begun pos (b :: rest) = decodeFrom (some p) begun (pos + 1) rest := by
  rw [decodeFrom, h]

theorem Partial.taken_tail (p : Partial) (n : Nat) :
    p.taken (tail n) = p.bits * 0x40 + n % 0x40 := by
  have h := toNat_tail n
  unfold taken
  omega

theorem decodeFrom_tail_of_more {missing bits n : Nat} {lo hi : UInt8} (hmore : 1 < missing)
    (hlo : lo.toNat ≤ n % 0x40 + 0x80) (hhi : n % 0x40 + 0x80 ≤ hi.toNat)
    (begun pos : Nat) (rest : List UInt8) :
    decodeFrom (some ⟨missing, lo, hi, bits⟩) begun pos (tail n :: rest) =
      decodeFrom (some ⟨missing - 1, 0x80, 0xBF, bits * 0x40 + n % 0x40⟩) begun (pos + 1) rest := by
  have hadmits : Partial.Admits ⟨missing, lo, hi, bits⟩ (tail n) :=
    ⟨by rwa [toNat_tail], by rwa [toNat_tail]⟩
  have hfeed := (feed_some _ _).trans (Partial.feed_of_more hadmits hmore)
  rw [decodeFrom_of_more hfeed, Partial.next, Partial.taken_tail]

theorem decodeFrom_tail_of_last {bits n : Nat} {lo hi : UInt8} {c : Char}
    (hlo : lo.toNat ≤ n % 0x40 + 0x80) (hhi : n % 0x40 + 0x80 ≤ hi.toNat)
    (hc : bits * 0x40 + n % 0x40 = c.toNat) (begun pos : Nat) (rest : List UInt8) :
    decodeFrom (some ⟨1, lo, hi, bits⟩) begun pos (tail n :: rest) =
      (decodeFrom none (pos + 1) (pos + 1) rest).map (c :: ·) := by
  have hadmits : Partial.Admits ⟨1, lo, hi, bits⟩ (tail n) :=
    ⟨by rwa [toNat_tail], by rwa [toNat_tail]⟩
  have hfeed := (feed_some _ _).trans (Partial.feed_of_last hadmits (Nat.le_refl 1))
  rw [decodeFrom_of_scalar hfeed, Partial.taken_tail, hc, Char.ofNat_toNat]

/-- Reading takes a written character and goes on behind it. -/
theorem decodeFrom_encodeChar (c : Char) (pos : Nat) (rest : List UInt8) :
    decodeFrom none pos pos (String.utf8EncodeChar c ++ rest) =
      (decodeFrom none (pos + (String.utf8EncodeChar c).length)
        (pos + (String.utf8EncodeChar c).length) rest).map (c :: ·) := by
  have hvalid := isValidChar_toNat c
  rw [encodeChar_eq]
  split_ifs with h80 h800 h10000
  · have hbyte := toNat_ofNat_of_lt (show c.toNat < 0x100 by omega)
    have hlead : feed none (UInt8.ofNat c.toNat) = .scalar c := by
      rw [feed, lead_eq, hbyte, if_pos h80, Char.ofNat_toNat]
    exact decodeFrom_of_scalar hlead pos pos rest
  · have hbyte := toNat_ofNat_of_lt (show c.toNat / 0x40 + 0xC0 < 0x100 by omega)
    have hlead : feed none (UInt8.ofNat (c.toNat / 0x40 + 0xC0)) =
        .more ⟨1, 0x80, 0xBF, c.toNat / 0x40⟩ := by
      rw [feed, lead_eq, hbyte, if_neg (by omega), if_neg (by omega), if_pos (by omega),
        Nat.add_sub_cancel]
    rw [List.cons_append, decodeFrom_of_more hlead, List.cons_append]
    exact decodeFrom_tail_of_last (le_tail _) (tail_le _)
      (Nat.div_add_mod' _ _) pos (pos + 1) rest
  · have hbyte := toNat_ofNat_of_lt (show c.toNat / 0x1000 + 0xE0 < 0x100 by omega)
    have hlead : feed none (UInt8.ofNat (c.toNat / 0x1000 + 0xE0)) =
        .more ⟨2, if c.toNat / 0x1000 + 0xE0 = 0xE0 then 0xA0 else 0x80,
          if c.toNat / 0x1000 + 0xE0 = 0xED then 0x9F else 0xBF, c.toNat / 0x1000⟩ := by
      rw [feed, lead_eq, hbyte, if_neg (by omega), if_neg (by omega), if_neg (by omega),
        if_pos (by omega), Nat.add_sub_cancel]
    rw [List.cons_append, decodeFrom_of_more hlead, List.cons_append,
      decodeFrom_tail_of_more (Nat.lt_succ_self 1), List.cons_append]
    · exact decodeFrom_tail_of_last (le_tail _) (tail_le _) (by omega) pos
        (pos + 1 + 1) rest
    · split_ifs
      · change 0xA0 ≤ c.toNat / 0x40 % 0x40 + 0x80
        omega
      · exact le_tail _
    · split_ifs
      · change c.toNat / 0x40 % 0x40 + 0x80 ≤ 0x9F
        omega
      · exact tail_le _
  · have hbyte := toNat_ofNat_of_lt (show c.toNat / 0x40000 + 0xF0 < 0x100 by omega)
    have hlead : feed none (UInt8.ofNat (c.toNat / 0x40000 + 0xF0)) =
        .more ⟨3, if c.toNat / 0x40000 + 0xF0 = 0xF0 then 0x90 else 0x80,
          if c.toNat / 0x40000 + 0xF0 = 0xF4 then 0x8F else 0xBF, c.toNat / 0x40000⟩ := by
      rw [feed, lead_eq, hbyte, if_neg (by omega), if_neg (by omega), if_neg (by omega),
        if_neg (by omega), if_pos (by omega), Nat.add_sub_cancel]
    rw [List.cons_append, decodeFrom_of_more hlead, List.cons_append,
      decodeFrom_tail_of_more (by decide : 1 < 3), List.cons_append,
      decodeFrom_tail_of_more (Nat.lt_succ_self 1) (le_tail _) (tail_le _), List.cons_append]
    · exact decodeFrom_tail_of_last (le_tail _) (tail_le _) (by omega) pos
        (pos + 1 + 1 + 1) rest
    · split_ifs
      · change 0x90 ≤ c.toNat / 0x1000 % 0x40 + 0x80
        omega
      · exact le_tail _
    · split_ifs
      · change c.toNat / 0x1000 % 0x40 + 0x80 ≤ 0x8F
        omega
      · exact tail_le _

-- ---------------------------------------------------------------------------
-- Reading, then writing
-- ---------------------------------------------------------------------------

theorem encodeChar_of_two {b₀ b₁ : UInt8} (hlo₀ : 0xC2 ≤ b₀.toNat) (hhi₀ : b₀.toNat < 0xE0)
    (hlo₁ : 0x80 ≤ b₁.toNat) (hhi₁ : b₁.toNat ≤ 0xBF) :
    String.utf8EncodeChar (Char.ofNat ((b₀.toNat - 0xC0) * 0x40 + (b₁.toNat - 0x80))) =
      [b₀, b₁] := by
  rw [encodeChar_eq, toNat_charOfNat (Or.inl (by omega)), if_neg (by omega), if_pos (by omega),
    tail_eq hlo₁ hhi₁ (by omega), List.cons.injEq]
  refine ⟨?_, rfl⟩
  rw [← UInt8.toNat_inj, toNat_ofNat_of_lt (by omega)]
  omega

/-- The second byte excludes overlong forms and surrogates. -/
theorem encodeChar_of_three {b₀ b₁ b₂ : UInt8} (hlo₀ : 0xE0 ≤ b₀.toNat) (hhi₀ : b₀.toNat < 0xF0)
    (hlo₁ : 0x80 ≤ b₁.toNat) (hhi₁ : b₁.toNat ≤ 0xBF)
    (hoverlong : b₀.toNat = 0xE0 → 0xA0 ≤ b₁.toNat)
    (hsurrogate : b₀.toNat = 0xED → b₁.toNat ≤ 0x9F)
    (hlo₂ : 0x80 ≤ b₂.toNat) (hhi₂ : b₂.toNat ≤ 0xBF) :
    String.utf8EncodeChar (Char.ofNat
      (((b₀.toNat - 0xE0) * 0x40 + (b₁.toNat - 0x80)) * 0x40 + (b₂.toNat - 0x80))) =
      [b₀, b₁, b₂] := by
  have hvalid : Nat.isValidChar
      (((b₀.toNat - 0xE0) * 0x40 + (b₁.toNat - 0x80)) * 0x40 + (b₂.toNat - 0x80)) := by
    unfold Nat.isValidChar
    omega
  rw [encodeChar_eq, toNat_charOfNat hvalid, if_neg (by omega), if_neg (by omega),
    if_pos (by omega), tail_eq hlo₁ hhi₁ (by omega), tail_eq hlo₂ hhi₂ (by omega), List.cons.injEq]
  refine ⟨?_, rfl⟩
  rw [← UInt8.toNat_inj, toNat_ofNat_of_lt (by omega)]
  omega

/-- The second byte excludes overlong forms and what lies beyond the last code point. -/
theorem encodeChar_of_four {b₀ b₁ b₂ b₃ : UInt8} (hlo₀ : 0xF0 ≤ b₀.toNat) (hhi₀ : b₀.toNat < 0xF5)
    (hlo₁ : 0x80 ≤ b₁.toNat) (hhi₁ : b₁.toNat ≤ 0xBF)
    (hoverlong : b₀.toNat = 0xF0 → 0x90 ≤ b₁.toNat)
    (hbeyond : b₀.toNat = 0xF4 → b₁.toNat ≤ 0x8F)
    (hlo₂ : 0x80 ≤ b₂.toNat) (hhi₂ : b₂.toNat ≤ 0xBF)
    (hlo₃ : 0x80 ≤ b₃.toNat) (hhi₃ : b₃.toNat ≤ 0xBF) :
    String.utf8EncodeChar (Char.ofNat
      ((((b₀.toNat - 0xF0) * 0x40 + (b₁.toNat - 0x80)) * 0x40 + (b₂.toNat - 0x80)) * 0x40 +
        (b₃.toNat - 0x80))) =
      [b₀, b₁, b₂, b₃] := by
  have hvalid : Nat.isValidChar
      ((((b₀.toNat - 0xF0) * 0x40 + (b₁.toNat - 0x80)) * 0x40 + (b₂.toNat - 0x80)) * 0x40 +
        (b₃.toNat - 0x80)) := by
    unfold Nat.isValidChar
    omega
  rw [encodeChar_eq, toNat_charOfNat hvalid, if_neg (by omega), if_neg (by omega),
    if_neg (by omega), tail_eq hlo₁ hhi₁ (by omega), tail_eq hlo₂ hhi₂ (by omega),
    tail_eq hlo₃ hhi₃ (by omega), List.cons.injEq]
  refine ⟨?_, rfl⟩
  rw [← UInt8.toNat_inj, toNat_ofNat_of_lt (by omega)]
  omega

/-- A run that succeeds inside a sequence reads a byte that is open there. -/
theorem decodeFrom_some_eq_ok {missing bits begun pos : Nat} {lo hi : UInt8} {bytes : List UInt8}
    {s : List Char} (h : decodeFrom (some ⟨missing, lo, hi, bits⟩) begun pos bytes = .ok s) :
    ∃ b rest, bytes = b :: rest ∧ lo.toNat ≤ b.toNat ∧ b.toNat ≤ hi.toNat ∧
      (1 < missing →
        decodeFrom (some ⟨missing - 1, 0x80, 0xBF, bits * 0x40 + (b.toNat - 0x80)⟩) begun (pos + 1)
          rest = .ok s) := by
  cases bytes with
  | nil => exact nomatch h
  | cons b rest =>
    by_cases hb : Partial.Admits ⟨missing, lo, hi, bits⟩ b
    · refine ⟨b, rest, rfl, hb.lo, hb.hi, ?_⟩
      intro hmore
      have hfeed := (feed_some _ _).trans (Partial.feed_of_more hb hmore)
      rwa [decodeFrom_of_more hfeed] at h
    · have hfeed := (feed_some _ _).trans (Partial.feed_of_not_admits hb)
      rw [decodeFrom, hfeed] at h
      exact nomatch h

theorem lo_of_ite_le {p : Prop} [Decidable p] {lo lo' : UInt8} {n : Nat}
    (h : (if p then lo else lo').toNat ≤ n) (hle : lo'.toNat ≤ lo.toNat) :
    lo'.toNat ≤ n ∧ (p → lo.toNat ≤ n) := by
  by_cases hp : p
  · rw [if_pos hp] at h
    exact ⟨Nat.le_trans hle h, fun _ => h⟩
  · rw [if_neg hp] at h
    exact ⟨h, fun hp' => absurd hp' hp⟩

theorem hi_of_le_ite {p : Prop} [Decidable p] {hi hi' : UInt8} {n : Nat}
    (h : n ≤ (if p then hi else hi').toNat) (hle : hi.toNat ≤ hi'.toNat) :
    n ≤ hi'.toNat ∧ (p → n ≤ hi.toNat) := by
  by_cases hp : p
  · rw [if_pos hp] at h
    exact ⟨Nat.le_trans h hle, fun _ => h⟩
  · rw [if_neg hp] at h
    exact ⟨h, fun hp' => absurd hp' hp⟩

/-- A run that succeeds between two characters reads a whole character next. -/
theorem exists_encodeChar_of_decodeFrom {pos : Nat} {b : UInt8} {bytes : List UInt8} {s : List Char}
    (h : decodeFrom none pos pos (b :: bytes) = .ok s) :
    ∃ c rest, b :: bytes = String.utf8EncodeChar c ++ rest := by
  rw [decodeFrom, feed, lead_eq] at h
  by_cases h80 : b.toNat < 0x80
  · refine ⟨Char.ofNat b.toNat, bytes, ?_⟩
    rw [encodeChar_eq, toNat_charOfNat (Or.inl (by omega)), if_pos h80, UInt8.ofNat_toNat]
    rfl
  rw [if_neg h80] at h
  by_cases hC2 : b.toNat < 0xC2
  · rw [if_pos hC2] at h
    exact nomatch h
  rw [if_neg hC2] at h
  by_cases hE0 : b.toNat < 0xE0
  · rw [if_pos hE0] at h
    obtain ⟨b₁, rest, rfl, hlo₁, hhi₁, -⟩ := decodeFrom_some_eq_ok h
    have hchar := encodeChar_of_two (Nat.not_lt.mp hC2) hE0 hlo₁ hhi₁
    exact ⟨_, rest, by rw [hchar]; rfl⟩
  rw [if_neg hE0] at h
  by_cases hF0 : b.toNat < 0xF0
  · rw [if_pos hF0] at h
    obtain ⟨b₁, rest, rfl, hlo₁, hhi₁, h⟩ := decodeFrom_some_eq_ok h
    obtain ⟨b₂, rest, rfl, hlo₂, hhi₂, -⟩ := decodeFrom_some_eq_ok (h (Nat.lt_succ_self 1))
    have hopen := lo_of_ite_le hlo₁ (by decide)
    have hclosed := hi_of_le_ite hhi₁ (by decide)
    have hchar := encodeChar_of_three (Nat.not_lt.mp hE0) hF0 hopen.1 hclosed.1 hopen.2 hclosed.2
      hlo₂ hhi₂
    exact ⟨_, rest, by rw [hchar]; rfl⟩
  rw [if_neg hF0] at h
  by_cases hF5 : b.toNat < 0xF5
  · rw [if_pos hF5] at h
    obtain ⟨b₁, rest, rfl, hlo₁, hhi₁, h⟩ := decodeFrom_some_eq_ok h
    obtain ⟨b₂, rest, rfl, hlo₂, hhi₂, h⟩ := decodeFrom_some_eq_ok (h (by decide))
    obtain ⟨b₃, rest, rfl, hlo₃, hhi₃, -⟩ := decodeFrom_some_eq_ok (h (Nat.lt_succ_self 1))
    have hopen := lo_of_ite_le hlo₁ (by decide)
    have hclosed := hi_of_le_ite hhi₁ (by decide)
    have hchar := encodeChar_of_four (Nat.not_lt.mp hF0) hF5 hopen.1 hclosed.1 hopen.2 hclosed.2
      hlo₂ hhi₂ hlo₃ hhi₃
    exact ⟨_, rest, by rw [hchar]; rfl⟩
  · rw [if_neg hF5] at h
    exact nomatch h

theorem undoes_decodeFrom :
    Undoes (fun pos bytes => decodeFrom none pos pos bytes) String.utf8EncodeChar
      (fun _ => True) where
  nothing _ := rfl
  written pos c rest _ := decodeFrom_encodeChar c pos rest
  taken pos b bytes s hread := by
    obtain ⟨c, rest, heq⟩ := exists_encodeChar_of_decodeFrom hread
    exact ⟨c, rest, trivial, heq⟩

/-- Strict reading succeeds on what texts are written as and on nothing else. -/
theorem decode?_eq_ok {bytes : List UInt8} {s : List Char} :
    decode? bytes = .ok s ↔ bytes = encode s := by
  refine undoes_decodeFrom.eq_ok_iff.trans ⟨And.left, fun h => ⟨h, fun _ _ => trivial⟩⟩

theorem encode_append (s t : List Char) : encode (s ++ t) = encode s ++ encode t :=
  List.flatMap_append

-- ---------------------------------------------------------------------------
-- Faults
-- ---------------------------------------------------------------------------

/-- A run that fails blames a place that it has come to. -/
theorem offset_le_of_decodeFrom {state : State} {begun pos : Nat} {bytes : List UInt8}
    {fault : Fault} (h : decodeFrom state begun pos bytes = .error fault) (hbegun : begun ≤ pos) :
    fault.offset ≤ pos + bytes.length := by
  induction bytes generalizing state begun pos with
  | nil =>
    cases state with
    | none => cases h
    | some p =>
      cases h
      exact hbegun
  | cons b rest ih =>
    rw [List.length_cons]
    cases hfeed : feed state b with
    | scalar c =>
      rw [decodeFrom_of_scalar hfeed] at h
      cases hrest : decodeFrom none (pos + 1) (pos + 1) rest with
      | ok s =>
        rw [hrest] at h
        cases h
      | error e =>
        rw [hrest] at h
        cases h
        have hle := ih hrest (Nat.le_refl _)
        omega
    | more p =>
      rw [decodeFrom_of_more hfeed] at h
      have hle := ih h (Nat.le_succ_of_le hbegun)
      omega
    | flaw f =>
      simp only [decodeFrom, hfeed] at h
      cases h
      exact Nat.le_trans hbegun (Nat.le_add_right _ _)

theorem offset_le_length {bytes : List UInt8} {fault : Fault} (h : decode? bytes = .error fault) :
    fault.offset ≤ bytes.length := by
  have hle := offset_le_of_decodeFrom h (Nat.le_refl 0)
  rwa [Nat.zero_add] at hle

-- ---------------------------------------------------------------------------
-- Lengths
-- ---------------------------------------------------------------------------

theorem length_encodeChar_eq_one {c : Char} :
    (String.utf8EncodeChar c).length = 1 ↔ c.toNat < 0x80 := by
  rw [encodeChar_eq]
  split_ifs with h80 h800 h10000
  · exact ⟨fun _ => h80, fun _ => rfl⟩
  · exact ⟨fun h => absurd h (by simp), fun h => absurd h h80⟩
  · exact ⟨fun h => absurd h (by simp), fun h => absurd h h80⟩
  · exact ⟨fun h => absurd h (by simp), fun h => absurd h h80⟩

theorem length_le_length_encode (s : List Char) : s.length ≤ (encode s).length := by
  induction s with
  | nil => exact Nat.le_refl _
  | cons c s ih =>
    have hc := List.length_pos_iff.mpr (String.utf8EncodeChar_ne_nil (c := c))
    rw [encode, List.flatMap_cons, List.length_append, List.length_cons, Nat.add_comm]
    exact Nat.add_le_add hc ih

/-- In UTF-8 a text has as many bytes as characters iff it is in ASCII. -/
theorem length_encode_eq {s : List Char} :
    (encode s).length = s.length ↔ ∀ c ∈ s, c.toNat < 0x80 := by
  induction s with
  | nil => exact ⟨fun _ c hc => (nomatch hc), fun _ => rfl⟩
  | cons c s ih =>
    have hc := List.length_pos_iff.mpr (String.utf8EncodeChar_ne_nil (c := c))
    have hs := length_le_length_encode s
    rw [List.forall_mem_cons, ← ih, ← length_encodeChar_eq_one, encode, List.flatMap_cons,
      List.length_append, List.length_cons, ← encode]
    omega

end UnsafeCensus.Text.Utf8
