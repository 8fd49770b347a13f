import UnsafeCensus.Text.Blank

/-!
# UTF-8

Reading of bytes as UTF-8 by an automaton that takes one byte at a time. `decode?` is strict and
names the first flaw and where its sequence begins; `decodeLossy` never fails and puts one
replacement character for each longest part of a sequence that cannot be completed. `encode` is
the other direction.
-/

namespace UnsafeCensus.Text.Utf8

/-- What can be wrong with a sequence of bytes. -/
inductive Flaw
  | start
  | continuation
  | truncated
deriving DecidableEq, Repr

def Flaw.message : Flaw → String
  | .start => "invalid start byte"
  | .continuation => "invalid continuation byte"
  | .truncated => "unexpected end of data"

/-- A sequence whose lead byte has been read: how many bytes are missing, the range of the next
one, and the bits collected so far. -/
structure Partial where
  missing : Nat
  lo : UInt8
  hi : UInt8
  bits : Nat
deriving DecidableEq, Repr

/-- Between two sequences, or inside one. -/
abbrev State := Option Partial

/-- What one byte does. -/
inductive Step
  | scalar (c : Char)
  | more (p : Partial)
  | flaw (f : Flaw)

/-- The first byte of a sequence. The second byte's range shuts out overlong forms, surrogates and
values beyond the last code point. -/
def lead (b : UInt8) : Step :=
  if b < 0x80 then .scalar (Char.ofNat b.toNat)
  else if b < 0xC2 then .flaw .start
  else if b < 0xE0 then .more ⟨1, 0x80, 0xBF, b.toNat - 0xC0⟩
  else if b < 0xF0 then
    .more ⟨2, if b == 0xE0 then 0xA0 else 0x80, if b == 0xED then 0x9F else 0xBF, b.toNat - 0xE0⟩
  else if b < 0xF5 then
    .more ⟨3, if b == 0xF0 then 0x90 else 0x80, if b == 0xF4 then 0x8F else 0xBF, b.toNat - 0xF0⟩
  else .flaw .start

/-- A later byte of a sequence. -/
def Partial.feed (p : Partial) (b : UInt8) : Step :=
  if p.lo ≤ b ∧ b ≤ p.hi then
    let bits := p.bits * 64 + (b.toNat - 0x80)
    if p.missing ≤ 1 then .scalar (Char.ofNat bits) else .more ⟨p.missing - 1, 0x80, 0xBF, bits⟩
  else .flaw .continuation

def feed : State → UInt8 → Step
  | none, b => lead b
  | some p, b => p.feed b

/-- Where reading failed and why: the bytes from `offset` up to `stop` make no character. -/
structure Fault where
  offset : Nat
  stop : Nat
  flaw : Flaw
deriving DecidableEq, Repr

/-- Strict reading from inside a run: `pos` is the offset of the next byte and `begun` that of the
sequence being read. -/
def decodeFrom (state : State) (begun pos : Nat) : List UInt8 → Except Fault (List Char)
  | [] => if state.isSome then .error ⟨begun, pos, .truncated⟩ else .ok []
  | b :: rest =>
    match feed state b with
    | .scalar c => (decodeFrom none (pos + 1) (pos + 1) rest).map (c :: ·)
    | .more p => decodeFrom (some p) begun (pos + 1) rest
    | .flaw f => .error ⟨begun, if state.isSome then pos else pos + 1, f⟩

/-- The characters of well-formed bytes, or the first fault. -/
def decode? (bytes : List UInt8) : Except Fault (List Char) :=
  decodeFrom none 0 0 bytes

/-- The replacement character. -/
def replacement : Char := '\uFFFD'

def decodeLossyFrom : State → List UInt8 → List Char
  | state, [] => if state.isSome then [replacement] else []
  | state, b :: rest =>
    match feed state b with
    | .scalar c => c :: decodeLossyFrom none rest
    | .more p => decodeLossyFrom (some p) rest
    | .flaw _ =>
      if state.isSome then
        match lead b with
        | .scalar c => replacement :: c :: decodeLossyFrom none rest
        | .more p => replacement :: decodeLossyFrom (some p) rest
        | .flaw _ => replacement :: replacement :: decodeLossyFrom none rest
      else replacement :: decodeLossyFrom none rest

/-- Reading that replaces what is malformed. -/
def decodeLossy (bytes : List UInt8) : List Char :=
  decodeLossyFrom none bytes

/-- The bytes of a text. -/
def encode (text : List Char) : List UInt8 :=
  text.flatMap String.utf8EncodeChar

/-- The mark that may stand before a text. -/
def byteOrderMark : List UInt8 := [0xEF, 0xBB, 0xBF]

end UnsafeCensus.Text.Utf8
