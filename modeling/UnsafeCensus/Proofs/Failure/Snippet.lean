import UnsafeCensus.Proofs.Failure.FirstFlaw
import UnsafeCensus.Proofs.Text.Lines
import UnsafeCensus.Proofs.Text.Replacement

/-!
# The text that a diagnosis quotes

A diagnosis of text that fits no rule quotes the first line of that text, cut to a limit. There is
always a line to quote unless there is nothing but blanks, and the message itself is one short line.
-/

namespace UnsafeCensus

namespace Diagnosis

open Text (Blanks IsFirstLine isBlank isLineEnd)

-- ---------------------------------------------------------------------------
-- Messages
-- ---------------------------------------------------------------------------

/-- The message quotes the first line of a text, without the blanks around the text and cut behind
so many characters. -/
structure Quotes (message : String) (t line : List Char) : Prop where
  first : ∃ others, Text.lines (Text.trim t) = line :: others
  isFirstLine : IsFirstLine line (Text.trim t)
  message_eq : message = "unexpected " ++
    backquoted (String.ofList (line.take 24) ++ if 24 < line.length then "..." else "")
  isPrefix : line.take 24 <+: Text.trimStart t
  begins : ∃ c rest, line.take 24 = c :: rest ∧ isBlank c = false
  noLineEnd : ∀ c ∈ line.take 24, isLineEnd c = false

/-- One line, and not a long one. -/
structure IsShortLine (message : String) : Prop where
  noLineEnd : ∀ c ∈ message.toList, isLineEnd c = false
  length_le : message.length ≤ 40

theorem ofList_shorten (line : List Char) : String.ofList (shorten line) =
    String.ofList (line.take 24) ++ if 24 < line.length then "..." else "" := by
  unfold shorten snippetLimit
  split
  · rw [String.ofList_append]
  · next h => rw [List.take_of_length_le (Nat.le_of_not_lt h), String.append_empty]

theorem quotes_firstLine {t : List Char} (h : ¬ Blanks t) :
    Quotes (Cause.unexpected (shorten (Text.firstLine (Text.trim t)))).message t
      (Text.firstLine (Text.trim t)) := by
  obtain ⟨c, rest, hline, hc⟩ := Text.exists_firstLine_trim h
  have hfirst := Text.isFirstLine_firstLine (Text.trim t)
  refine ⟨Text.exists_lines_eq (mt Text.trim_eq_nil.mp h), hfirst, ?_, ?_, ?_, ?_⟩
  · rw [Cause.message, ofList_shorten]
  · exact (List.take_prefix _ _).trans (hfirst.isPrefix.trans (Text.trim_isPrefix t))
  · exact ⟨c, rest.take 23, by rw [hline, List.take_succ_cons], hc⟩
  · intro d hd
    exact hfirst.noLineEnd d (List.mem_of_mem_take hd)

theorem Quotes.toList_message {message : String} {t line : List Char} (h : Quotes message t line) :
    message.toList = "unexpected \x60".toList ++ line.take 24 ++
      ((if 24 < line.length then "..." else "").toList ++ ['\x60']) := by
  rw [h.message_eq]
  simp [backquoted]

theorem Quotes.isShortLine {message : String} {t line : List Char} (h : Quotes message t line) :
    IsShortLine message := by
  have hbehind : (∀ c ∈ (if 24 < line.length then "..." else "").toList ++ ['\x60'],
        isLineEnd c = false) ∧
      ((if 24 < line.length then "..." else "").toList ++ ['\x60']).length ≤ 4 := by
    split <;> simp [isLineEnd]
  constructor
  · rw [h.toList_message]
    refine List.forall_mem_append.mpr ⟨List.forall_mem_append.mpr ⟨?_, h.noLineEnd⟩, hbehind.1⟩
    simp [isLineEnd]
  · have hbefore : "unexpected \x60".toList.length = 12 := by simp
    have htake : (line.take 24).length ≤ 24 := List.length_take_le 24 line
    rw [← String.length_toList, h.toList_message, List.length_append, List.length_append, hbefore]
    omega

theorem Quotes.ne_unexpectedEnd {message : String} {t line : List Char} (h : Quotes message t line) :
    message ≠ "unexpected end of input" := by
  rw [h.message_eq]
  intro heq
  -- the quotation mark stands where the other message has a letter
  have hchar := congrArg (fun s : String => s.toList[11]?) heq
  simp [backquoted] at hchar

-- ---------------------------------------------------------------------------
-- Diagnoses
-- ---------------------------------------------------------------------------

variable {source : List UInt8} {flaw : Tree}

theorem cause_of_blanks (herror : flaw.data.isMissing = false)
    (h : Blanks (Text.Utf8.decodeLossy (flaw.data.span.slice source))) :
    cause source flaw = .unexpectedEnd := by
  rw [cause, if_neg (by simp [herror]), Text.trim_eq_nil.mpr h]
  rfl

theorem cause_of_not_blanks (herror : flaw.data.isMissing = false)
    (h : ¬ Blanks (Text.Utf8.decodeLossy (flaw.data.span.slice source))) :
    cause source flaw = .unexpected (shorten (Text.firstLine
      (Text.trim (Text.Utf8.decodeLossy (flaw.data.span.slice source))))) := by
  obtain ⟨c, rest, hline, -⟩ := Text.exists_firstLine_trim h
  rw [cause, if_neg (by simp [herror]), hline]

/-- A diagnosis of bytes that fit no rule is one short line. With what the bytes read as, however
badly they are cut, it says that the input has ended iff that is nothing but blanks, and quotes its
first line otherwise. -/
theorem diagnosis_quotes_first_line (source : List UInt8) {root flaw : Tree}
    (hflaw : Tree.firstFlaw? [root] = some flaw) (herror : flaw.data.isMissing = false) :
    let message := (failure source root).message
    ∃ t, (∀ s, Text.Utf8.Replaced (flaw.data.span.slice source) s ↔ s = t) ∧
      (message = "unexpected end of input" ↔ Blanks t) ∧
      (¬ Blanks t → ∃ line, Quotes message t line) ∧ IsShortLine message := by
  intro message
  have hmessage : message = (cause source flaw).message := by
    rw [show message = (failure source root).message from rfl, failure_of_firstFlaw? hflaw]
    rfl
  refine ⟨Text.Utf8.decodeLossy (flaw.data.span.slice source), fun s => Text.Utf8.replaced_iff, ?_⟩
  by_cases hblanks : Blanks (Text.Utf8.decodeLossy (flaw.data.span.slice source))
  · rw [cause_of_blanks herror hblanks] at hmessage
    refine ⟨⟨fun _ => hblanks, fun _ => hmessage⟩, fun h => absurd hblanks h, ?_⟩
    rw [hmessage]
    exact ⟨by simp [Cause.message, isLineEnd], by simp [Cause.message, ← String.length_toList]⟩
  · have hquotes := quotes_firstLine hblanks
    rw [← cause_of_not_blanks herror hblanks, ← hmessage] at hquotes
    exact ⟨⟨fun h => absurd h hquotes.ne_unexpectedEnd, fun h => absurd h hblanks⟩,
      fun _ => ⟨_, hquotes⟩, hquotes.isShortLine⟩

/-- A line and a half that fit no rule: the half ends inside of a character. -/
def cutLines : List UInt8 × Tree :=
  (Text.Utf8.encode "\u2003else if first == second or third\r\n\u00e9".toList,
    .node ⟨"ERROR", ⟨0, 38⟩, ⟨0, 0⟩, true, true, false, true, false, none⟩ [])

theorem cutLines_are_quoted :
    Tree.firstFlaw? [cutLines.2] = some cutLines.2 ∧ cutLines.2.data.isMissing = false ∧
      Text.Utf8.Replaced (cutLines.2.data.span.slice cutLines.1)
        "\u2003else if first == second or third\r\n\ufffd".toList ∧
      (failure cutLines.1 cutLines.2).message =
        "unexpected \x60else if first == second ...\x60" := by
  have hexact : cutLines.2.FlagsExact := by decide
  have hflaw : Tree.firstFlaw? [cutLines.2] = some cutLines.2 := hexact.firstFlaw?_eq.trans rfl
  obtain ⟨t, hreplaced, -, hquotes, -⟩ := diagnosis_quotes_first_line cutLines.1 hflaw rfl
  have ht : Text.Utf8.Replaced (cutLines.2.data.span.slice cutLines.1)
      "\u2003else if first == second or third\r\n\ufffd".toList :=
    Text.Utf8.replaced_iff.mpr (by decide +kernel)
  obtain rfl := (hreplaced _).mp ht
  obtain ⟨line, hline⟩ := hquotes (by decide +kernel)
  obtain ⟨others, hlines⟩ := hline.first
  have hvalue : Text.lines (Text.trim "\u2003else if first == second or third\r\n\ufffd".toList) =
    ["else if first == second or third".toList, ['\ufffd']] := by decide +kernel
  obtain ⟨rfl, -⟩ := List.cons.inj (hlines.symm.trans hvalue)
  exact ⟨hflaw, rfl, ht, hline.message_eq.trans (by decide +kernel)⟩

end Diagnosis

end UnsafeCensus
