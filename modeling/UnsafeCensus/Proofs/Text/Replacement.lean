import UnsafeCensus.Proofs.Text.WellFormed

/-!
# Reading that replaces

Reading with replacement characters goes as far as strict reading does, puts one replacement
character for the bytes that strict reading blames, and begins anew behind them.
-/

namespace UnsafeCensus.Text.Utf8

/-- The text that bytes give when each fault of strict reading is replaced. -/
inductive Replaced : List UInt8 → List Char → Prop
  | whole (s : List Char) : Replaced (encode s) s
  | fault {bytes : List UInt8} {e : Fault} {s rest : List Char} : decode? bytes = .error e →
      bytes.take e.offset = encode s → Replaced (bytes.drop e.stop) rest →
      Replaced bytes (s ++ replacement :: rest)

variable {state : State} {begun pos : Nat} {bytes : List UInt8}

/-- What strict reading takes is taken by both. -/
theorem decodeLossyFrom_of_ok {s : List Char} (h : decodeFrom state begun pos bytes = .ok s)
    (rest : List UInt8) : decodeLossyFrom state (bytes ++ rest) = s ++ decodeLossyFrom none rest := by
  induction bytes generalizing state begun pos s with
  | nil =>
    cases state with
    | none =>
      cases h
      rfl
    | some p => cases h
  | cons b bytes ih =>
    cases hfeed : feed state b with
    | scalar c =>
      rw [decodeFrom_of_scalar hfeed, map_cons_eq_ok] at h
      obtain ⟨s', hs', rfl⟩ := h
      simp only [List.cons_append, decodeLossyFrom, hfeed, ih hs']
    | more p =>
      rw [decodeFrom_of_more hfeed] at h
      simp only [List.cons_append, decodeLossyFrom, hfeed, ih h]
    | flaw f =>
      simp only [decodeFrom, hfeed] at h
      cases h

theorem decodeLossy_encode_append (s : List Char) (rest : List UInt8) :
    decodeLossy (encode s ++ rest) = s ++ decodeLossy rest :=
  decodeLossyFrom_of_ok (decode?_eq_ok.mpr rfl) rest

/-- The byte that breaks a sequence off is read anew. -/
theorem decodeLossyFrom_of_flaw {p : Partial} {b : UInt8} {f : Flaw} (h : feed (some p) b = .flaw f)
    (rest : List UInt8) :
    decodeLossyFrom (some p) (b :: rest) = replacement :: decodeLossyFrom none (b :: rest) := by
  have hlead : feed none b = lead b := rfl
  simp only [decodeLossyFrom, h, hlead]
  cases lead b <;> rfl

/-- A run that blames the sequence it is in gives one replacement character for it. -/
theorem decodeLossyFrom_of_fault {e : Fault} (h : decodeFrom state begun pos bytes = .error e)
    (hbegun : begun ≤ pos) (hfirst : e.offset = begun) :
    pos ≤ e.stop ∧ (state = none → pos < e.stop) ∧
      decodeLossyFrom state bytes =
        replacement :: decodeLossyFrom none (bytes.drop (e.stop - pos)) := by
  induction bytes generalizing state pos with
  | nil =>
    cases state with
    | none => cases h
    | some p =>
      cases h
      exact ⟨Nat.le_refl _, nofun, by simp [decodeLossyFrom]⟩
  | cons b rest ih =>
    cases hfeed : feed state b with
    | scalar c =>
      rw [decodeFrom_of_scalar hfeed, map_eq_error] at h
      have hbehind := begun_le_of_decodeFrom h (Nat.le_refl _)
      omega
    | more p =>
      rw [decodeFrom_of_more hfeed] at h
      obtain ⟨hle, -, hlossy⟩ := ih h (Nat.le_succ_of_le hbegun)
      refine ⟨by omega, fun _ => hle, ?_⟩
      rw [show e.stop - pos = e.stop - (pos + 1) + 1 by omega, List.drop_succ_cons, ← hlossy]
      simp only [decodeLossyFrom, hfeed]
    | flaw f =>
      simp only [decodeFrom, hfeed] at h
      cases h
      cases state with
      | none => exact ⟨Nat.le_succ pos, fun _ => Nat.lt_succ_self pos, by simp [decodeLossyFrom, hfeed]⟩
      | some p => exact ⟨Nat.le_refl _, nofun, by simp [decodeLossyFrom_of_flaw hfeed]⟩

/-- The text before a fault, one replacement character, and what is read behind the fault. -/
theorem decodeLossy_of_error {e : Fault} {s : List Char} (h : decode? bytes = .error e)
    (hs : bytes.take e.offset = encode s) :
    e.offset < e.stop ∧
      decodeLossy bytes = s ++ replacement :: decodeLossy (bytes.drop e.stop) := by
  have hsplit : encode s ++ bytes.drop e.offset = bytes := by
    rw [← hs, List.take_append_drop]
  have hlength : (encode s).length = e.offset := by
    rw [← hs, List.length_take_of_le (wellFormedUpTo_offset h).le]
  rw [← hsplit, decode?, decodeFrom_encode_append, map_eq_error, Nat.zero_add, hlength] at h
  obtain ⟨hle, hlt, hlossy⟩ := decodeLossyFrom_of_fault h (Nat.le_refl _) rfl
  rw [List.drop_drop, Nat.add_sub_cancel' hle] at hlossy
  refine ⟨hlt rfl, ?_⟩
  calc decodeLossy bytes
      = decodeLossy (encode s ++ bytes.drop e.offset) := by rw [hsplit]
    _ = s ++ decodeLossy (bytes.drop e.offset) := decodeLossy_encode_append s _
    _ = s ++ replacement :: decodeLossy (bytes.drop e.stop) := congrArg (s ++ ·) hlossy

theorem decodeLossy_encode (s : List Char) : decodeLossy (encode s) = s := by
  simpa [decodeLossy, decodeLossyFrom] using decodeLossy_encode_append s []

theorem replaced_decodeLossy (bytes : List UInt8) : Replaced bytes (decodeLossy bytes) := by
  -- the bytes behind a fault are fewer, since a fault blames at least one
  induction hlength : bytes.length using Nat.strongRecOn generalizing bytes with
  | _ n ih =>
    cases hread : decode? bytes with
    | ok s =>
      rw [decode?_eq_ok.mp hread, decodeLossy_encode]
      exact .whole s
    | error e =>
      obtain ⟨s, hs⟩ := wellFormed_iff.mp (wellFormedUpTo_offset hread).wellFormed
      obtain ⟨hlt, hlossy⟩ := decodeLossy_of_error hread hs
      have hpositive : 0 < bytes.length := by
        rw [List.length_pos_iff]
        rintro rfl
        cases hread
      rw [hlossy]
      exact .fault hread hs (ih _ (by rw [List.length_drop]; omega) _ rfl)

theorem replaced_iff {t : List Char} : Replaced bytes t ↔ t = decodeLossy bytes := by
  constructor
  · intro h
    induction h with
    | whole s => exact (decodeLossy_encode s).symm
    | fault he hs _ ih => rw [(decodeLossy_of_error he hs).2, ih]
  · rintro rfl
    exact replaced_decodeLossy bytes

end UnsafeCensus.Text.Utf8
