import Mathlib.Data.List.Chain
import UnsafeCensus.Proofs.Attribute.Spacing
import UnsafeCensus.Text.Comment
import UnsafeCensus.Text.Identifier

/-!
# The layout of an argument list

An argument list is tokens with blanks and comments between them. Its arguments are told apart in
its text. So a name is found among them if it is an argument when the blanks are taken away and the
comments are left where they stand, provided that these have no commas and brackets of their own.
-/

namespace UnsafeCensus.Attribute

open Text (Blanks isBlank isIdentContinue)

variable {c d : Char} {s t name : List Char}

-- ---------------------------------------------------------------------------
-- Parts
-- ---------------------------------------------------------------------------

/-- A token that is neither a string nor a character: there are no blanks in it, and commas and
brackets are tokens of their own. -/
structure IsToken (t : List Char) : Prop where
  ne_nil : t ≠ []
  solid : ∀ c ∈ t, isBlank c = false
  marks : ∀ c ∈ t, isMark c = true → t = [c]

theorem isToken_iff : IsToken t ↔ t ≠ [] ∧
    (t.all fun c => !isBlank c && (!isMark c || t == [c])) = true := by
  simp only [List.all_eq_true, Bool.and_eq_true, Bool.not_eq_true', Bool.or_eq_true, beq_iff_eq]
  constructor
  · intro h
    refine ⟨h.ne_nil, fun c hc => ⟨h.solid c hc, ?_⟩⟩
    cases hmark : isMark c with
    | false => exact Or.inl rfl
    | true => exact Or.inr (h.marks c hc hmark)
  · rintro ⟨hne, hall⟩
    refine ⟨hne, fun c hc => (hall c hc).1, fun c hc hmark => ?_⟩
    exact (hall c hc).2.resolve_left (by simp [hmark])

instance : DecidablePred IsToken :=
  fun _ => decidable_of_iff _ isToken_iff.symm

/-- A comment that goes up to the end of its line, with the line break, or one in delimiters, which
may hold others. -/
inductive IsComment : List Char → Prop
  | line {body : List Char} (h : '\n' ∉ body) : IsComment ('/' :: '/' :: (body ++ ['\n']))
  | block {body : List Char}
      (h : Text.afterBlockComment? .plain 0 (body ++ ['*', '/']) = some []) :
      IsComment ('/' :: '*' :: (body ++ ['*', '/']))

/-- Characters that belong to one word when they stand side by side. -/
def runsOn (c d : Char) : Bool :=
  isIdentContinue c && isIdentContinue d

/-- What an argument list is made up of. -/
inductive Part
  | token (t : List Char)
  | blank (c : Char)
  | comment (t : List Char)
deriving DecidableEq

namespace Part

def text : Part → List Char
  | token t => t
  | blank c => [c]
  | comment t => t

def isToken : Part → Bool
  | token _ => true
  | _ => false

/-- Not a blank. -/
def isSolid : Part → Bool
  | blank _ => false
  | _ => true

def isComment : Part → Bool
  | comment _ => true
  | _ => false

/-- The part is what it is said to be. -/
def IsProper : Part → Prop
  | token t => IsToken t
  | blank c => isBlank c = true
  | comment t => IsComment t

/-- A comment without commas and brackets. -/
def IsQuiet : Part → Prop
  | comment t => ∀ c ∈ t, isMark c = false
  | _ => True

theorem isQuiet_of_isComment {p : Part} (h : p.isComment = false) : p.IsQuiet := by
  cases p with
  | comment t => exact nomatch h
  | token t => trivial
  | blank c => trivial

/-- No word goes on from one part to the next. -/
def Apart (p q : Part) : Prop :=
  ∀ c ∈ p.text.getLast?, ∀ d ∈ q.text.head?, runsOn c d = false

theorem apart_iff {p q : Part} :
    Apart p q ↔ (p.text.getLast?.all fun c => q.text.head?.all fun d => !runsOn c d) = true := by
  simp [Apart, Option.all_eq_true]

instance : DecidableRel Apart :=
  fun _ _ => decidable_of_iff _ apart_iff.symm

end Part

/-- The text that parts make up. -/
def textOf (parts : List Part) : List Char :=
  parts.flatMap Part.text

/-- Parts that read one by one in their text as they are. -/
structure IsLayout (parts : List Part) : Prop where
  proper : ∀ p ∈ parts, p.IsProper
  apart : parts.IsChain Part.Apart

/-- How deep in brackets the text of parts ends. -/
def depthOf (parts : List Part) : Nat :=
  depthAfter 0 (textOf parts)

def Part.comma : Part :=
  .token [',']

/-- One of the arguments is a single token. -/
def HasArgument (parts : List Part) (name : List Char) : Prop :=
  Between .comma depthOf parts [.token name]

variable {p q : Part} {parts front back : List Part}

@[simp]
theorem textOf_nil : textOf [] = [] := rfl

@[simp]
theorem textOf_cons (p : Part) (parts : List Part) : textOf (p :: parts) = p.text ++ textOf parts :=
  List.flatMap_cons

@[simp]
theorem textOf_append (front back : List Part) :
    textOf (front ++ back) = textOf front ++ textOf back :=
  List.flatMap_append

theorem IsLayout.of_append (h : IsLayout (front ++ back)) : IsLayout front ∧ IsLayout back :=
  have hproper := List.forall_mem_append.mp h.proper
  ⟨⟨hproper.1, h.apart.left_of_append⟩, ⟨hproper.2, h.apart.right_of_append⟩⟩

-- ---------------------------------------------------------------------------
-- Words
-- ---------------------------------------------------------------------------

/-- The characters of a word, and nothing else. -/
structure IsWord (t : List Char) : Prop where
  ne_nil : t ≠ []
  chars : ∀ c ∈ t, isIdentContinue c = true

theorem isBlank_of_isIdentContinue (h : isIdentContinue c = true) : isBlank c = false :=
  (isNameChar_of_isIdent (Or.inr h)).1

theorem not_isIdentContinue_of_isMark (h : isMark c = true) : isIdentContinue c = false :=
  forall_eq_false_of_all (by decide) c (isMark_cases h)

theorem IsWord.not_isMark (h : IsWord name) : ∀ c ∈ name, isMark c = false := by
  intro c hc
  rw [Bool.eq_false_iff]
  intro hmark
  exact Bool.false_ne_true ((not_isIdentContinue_of_isMark hmark).symm.trans (h.chars c hc))

theorem IsWord.isArgument (h : IsWord name) : IsArgument name where
  ne_nil := h.ne_nil
  trimmed := Text.trim_of_not_isBlank fun c hc => isBlank_of_isIdentContinue (h.chars c hc)
  isWhole := isWhole_of_not_isMark h.not_isMark 0
  closed := depthAfter_of_not_isMark h.not_isMark 0

-- ---------------------------------------------------------------------------
-- What a part begins with
-- ---------------------------------------------------------------------------

theorem Part.IsProper.text_ne_nil (h : p.IsProper) : p.text ≠ [] := by
  cases p with
  | token t => exact h.ne_nil
  | blank c => exact List.cons_ne_nil _ _
  | comment t => cases h <;> exact List.cons_ne_nil _ _

theorem IsComment.exists_slash (h : IsComment t) : ∃ d rest, t = '/' :: d :: rest := by
  cases h with
  | line _ => exact ⟨'/', _, rfl⟩
  | block _ => exact ⟨'*', _, rfl⟩

theorem Part.IsProper.eq_token_of_isMark (h : p.IsProper) (hquiet : p.IsQuiet) (hc : c ∈ p.text)
    (hmark : isMark c = true) : p = .token [c] := by
  cases p with
  | token t => exact congrArg Part.token (h.marks c hc hmark)
  | blank d =>
    obtain rfl := List.mem_singleton.mp hc
    exact absurd h (by simp [Part.IsProper, not_isBlank_of_isMark hmark])
  | comment t => exact absurd hmark (by simp [hquiet c hc])

theorem Part.IsProper.eq_blank (h : p.IsProper) (htext : p.text = c :: s) (hc : isBlank c = true) :
    p = .blank c := by
  cases p with
  | token t =>
    obtain rfl : t = c :: s := htext
    exact absurd hc (by simp [h.solid c List.mem_cons_self])
  | blank d => simpa [Part.text] using (List.cons.inj htext).1
  | comment t =>
    obtain ⟨d, rest, rfl⟩ := IsComment.exists_slash h
    obtain ⟨rfl, -⟩ := List.cons.inj htext
    exact absurd hc (by decide)

theorem Part.IsProper.exists_token (h : p.IsProper) (htext : p.text = c :: s)
    (hc : isIdentContinue c = true) : p = .token (c :: s) := by
  cases p with
  | token t => exact congrArg Part.token htext
  | blank d =>
    obtain ⟨rfl, -⟩ := List.cons.inj htext
    exact absurd h (by simp [Part.IsProper, isBlank_of_isIdentContinue hc])
  | comment t =>
    obtain ⟨d, rest, rfl⟩ := IsComment.exists_slash h
    obtain ⟨rfl, -⟩ := List.cons.inj htext
    exact absurd hc (by decide)

-- ---------------------------------------------------------------------------
-- Where a text can be cut
-- ---------------------------------------------------------------------------

/-- Commas and brackets are parts of their own. -/
theorem exists_parts_of_isMark (hproper : ∀ p ∈ parts, p.IsProper)
    (hquiet : ∀ p ∈ parts, p.IsQuiet) (hc : isMark c = true) (htext : textOf parts = s ++ c :: t) :
    ∃ front back, parts = front ++ .token [c] :: back ∧ textOf front = s ∧ textOf back = t := by
  induction parts generalizing s with
  | nil => simp at htext
  | cons p parts ih =>
    obtain ⟨hp, hparts⟩ := List.forall_mem_cons.mp hproper
    obtain ⟨hpquiet, hpartsquiet⟩ := List.forall_mem_cons.mp hquiet
    rw [textOf_cons, List.append_eq_append_iff] at htext
    rcases htext with ⟨rest, rfl, htext⟩ | ⟨rest, hhead, htext⟩
    · obtain ⟨front, back, rfl, rfl, hback⟩ := ih hparts hpartsquiet htext
      exact ⟨p :: front, back, rfl, textOf_cons p front, hback⟩
    · cases rest with
      | nil =>
        obtain ⟨front, back, rfl, hfront, hback⟩ := ih (s := []) hparts hpartsquiet htext.symm
        refine ⟨p :: front, back, rfl, ?_, hback⟩
        rw [textOf_cons, hfront, hhead, List.append_nil, List.append_nil]
      | cons d rest =>
        obtain ⟨rfl, rfl⟩ := List.cons.inj htext
        have hmem : c ∈ p.text := by simp [hhead]
        obtain rfl := hp.eq_token_of_isMark hpquiet hmem hc
        obtain ⟨rfl, rfl⟩ : s = [] ∧ rest = [] := by
          simpa [Part.text, List.singleton_eq_append_iff] using hhead
        exact ⟨[], parts, rfl, rfl, rfl⟩

theorem exists_parts_of_blanks (hproper : ∀ p ∈ parts, p.IsProper) (hblanks : Blanks s)
    (htext : textOf parts = s ++ t) :
    ∃ front back, parts = front ++ back ∧ (∀ p ∈ front, p.isSolid = false) ∧ textOf back = t := by
  induction s generalizing parts with
  | nil => exact ⟨[], parts, rfl, by simp, htext⟩
  | cons c s ih =>
    obtain ⟨hc, hs⟩ := List.forall_mem_cons.mp hblanks
    cases parts with
    | nil => simp at htext
    | cons p parts =>
      obtain ⟨hp, hparts⟩ := List.forall_mem_cons.mp hproper
      obtain ⟨d, rest, hd⟩ := List.exists_cons_of_ne_nil hp.text_ne_nil
      rw [textOf_cons, hd, List.cons_append, List.cons_append, List.cons.injEq] at htext
      obtain ⟨rfl, htext⟩ := htext
      obtain rfl := hp.eq_blank hd hc
      obtain ⟨-, rfl⟩ := List.cons.inj hd
      obtain ⟨front, back, rfl, hfront, hback⟩ := ih hparts hs htext
      exact ⟨.blank d :: front, back, rfl, List.forall_mem_cons.mpr ⟨rfl, hfront⟩, hback⟩

/-- A word does not end one part and go on in the next. -/
theorem not_isChain_of_word (hproper : ∀ p ∈ parts, p.IsProper) (hp : p.text ≠ [])
    (hword : ∀ c ∈ p.text ++ d :: s, isIdentContinue c = true) (htext : textOf parts = d :: s ++ t) :
    ¬ (p :: parts).IsChain Part.Apart := by
  intro hchain
  cases parts with
  | nil => cases htext
  | cons q parts =>
    have hapart := (List.isChain_cons_cons.mp hchain).1
    obtain ⟨e, rest, hq⟩ := List.exists_cons_of_ne_nil (hproper q List.mem_cons_self).text_ne_nil
    rw [textOf_cons, hq] at htext
    obtain ⟨rfl, -⟩ := List.cons.inj htext
    have hstop := hapart (p.text.getLast hp) (List.getLast?_eq_some_getLast hp) e (by simp [hq])
    have hend := hword _ (List.mem_append_left _ (List.getLast_mem hp))
    simp [runsOn, hend, hword e (by simp)] at hstop

/-- A word that has a blank, a comma or nothing behind it is a token of its own. -/
theorem exists_parts_of_isWord (hlayout : IsLayout parts) (hname : IsWord name)
    (ht : ∀ c ∈ t.head?, isBlank c = true ∨ isMark c = true) (htext : textOf parts = name ++ t) :
    ∃ back, parts = .token name :: back ∧ textOf back = t := by
  cases parts with
  | nil => exact absurd (List.append_eq_nil_iff.mp htext.symm).1 hname.ne_nil
  | cons p parts =>
    obtain ⟨hp, hparts⟩ := List.forall_mem_cons.mp hlayout.proper
    obtain ⟨c, rest, hrest⟩ := List.exists_cons_of_ne_nil hp.text_ne_nil
    have hc : isIdentContinue c = true := by
      obtain ⟨d, name', rfl⟩ := List.exists_cons_of_ne_nil hname.ne_nil
      rw [textOf_cons, hrest] at htext
      obtain ⟨rfl, -⟩ := List.cons.inj htext
      exact hname.chars c List.mem_cons_self
    obtain rfl := hp.exists_token hrest hc
    rw [textOf_cons, List.append_eq_append_iff] at htext
    rcases htext with ⟨x, hx, htext⟩ | ⟨x, hx, htext⟩
    · cases x with
      | nil => exact ⟨parts, by simp [hx, Part.text], htext⟩
      | cons d x =>
        exact absurd hlayout.apart
          (not_isChain_of_word hparts hp.text_ne_nil (hx ▸ hname.chars) htext)
    · cases x with
      | nil => exact ⟨parts, by simpa [Part.text] using hx, htext.symm⟩
      | cons d x =>
        -- The token would go on with what ends the word.
        have hmem : d ∈ c :: rest := by
          rw [show c :: rest = name ++ d :: x from hx]
          simp
        have hhead : d ∈ t.head? := by simp [htext]
        rcases ht d hhead with hblank | hmark
        · exact absurd hblank (by simp [hp.solid d hmem])
        · have hone : name ++ d :: x = [d] := hx.symm.trans (hp.marks d hmem hmark)
          exact absurd (List.append_eq_singleton_iff.mp hone) (by simp [hname.ne_nil])

-- ---------------------------------------------------------------------------
-- Arguments in the text and among the parts
-- ---------------------------------------------------------------------------

/-- A token stands between two commas with nothing but blanks around it. -/
def StandsAlone (parts : List Part) (name : List Char) : Prop :=
  ∃ v w : List Part, (∀ p ∈ v, p.isSolid = false) ∧ (∀ p ∈ w, p.isSolid = false) ∧
    Between .comma depthOf parts (v ++ .token name :: w)

theorem textOf_eq_nil (hproper : ∀ p ∈ parts, p.IsProper) : textOf parts = [] ↔ parts = [] := by
  constructor
  · intro htext
    cases parts with
    | nil => rfl
    | cons p parts =>
      rw [textOf_cons, List.append_eq_nil_iff] at htext
      exact absurd htext.1 (hproper p List.mem_cons_self).text_ne_nil
  · rintro rfl
    rfl

theorem blanks_textOf (hproper : ∀ p ∈ parts, p.IsProper)
    (hgaps : ∀ p ∈ parts, p.isSolid = false) : Blanks (textOf parts) := by
  intro c hc
  obtain ⟨p, hp, hcp⟩ := List.mem_flatMap.mp hc
  cases p with
  | blank d =>
    obtain rfl := List.mem_singleton.mp hcp
    exact hproper _ hp
  | token t => exact nomatch hgaps _ hp
  | comment t => exact nomatch hgaps _ hp

theorem exists_opens (hproper : ∀ p ∈ parts, p.IsProper) (hquiet : ∀ p ∈ parts, p.IsQuiet)
    (hopens : Opens ',' (depthAfter 0) s) (htext : textOf parts = s ++ t) :
    ∃ before rest, parts = before ++ rest ∧ Opens .comma depthOf before ∧ textOf rest = t := by
  rcases hopens with rfl | ⟨front, rfl, hfront⟩
  · exact ⟨[], parts, rfl, .inl rfl, htext⟩
  · rw [List.append_assoc] at htext
    obtain ⟨before, rest, rfl, rfl, hrest⟩ :=
      exists_parts_of_isMark hproper hquiet (by decide) htext
    exact ⟨before ++ [.comma], rest, by simp [Part.comma], .inr ⟨before, rfl, hfront⟩, hrest⟩

theorem closes_of_text (hproper : ∀ p ∈ parts, p.IsProper) (hquiet : ∀ p ∈ parts, p.IsQuiet)
    (hcloses : Closes ',' (textOf parts)) : Closes .comma parts := by
  rcases hcloses with hnil | ⟨rest, htext⟩
  · exact .inl ((textOf_eq_nil hproper).mp hnil)
  · obtain ⟨before, behind, rfl, hbefore, -⟩ :=
      exists_parts_of_isMark (s := []) hproper hquiet (by decide) htext
    rw [textOf_eq_nil (List.forall_mem_append.mp hproper).1] at hbefore
    exact .inr ⟨behind, by rw [hbefore]; rfl⟩

/-- A word stands alone in the text iff it does among the parts. -/
theorem standsAlone_iff (hlayout : IsLayout parts) (hquiet : ∀ p ∈ parts, p.IsQuiet)
    (hname : IsWord name) :
    (∃ v w, Blanks v ∧ Blanks w ∧ Between ',' (depthAfter 0) (textOf parts) (v ++ name ++ w)) ↔
      StandsAlone parts name := by
  constructor
  · rintro ⟨v, w, hv, hw, before, behind, htext, hopens, hcloses⟩
    simp only [List.append_assoc] at htext
    obtain ⟨front, rest, rfl, hfront, hrest⟩ := exists_opens hlayout.proper hquiet hopens htext
    have hlayout' := hlayout.of_append.2
    obtain ⟨gaps, rest, rfl, hgaps, hword⟩ := exists_parts_of_blanks hlayout'.proper hv hrest
    have hends : ∀ c ∈ (w ++ behind).head?, isBlank c = true ∨ isMark c = true := by
      cases w with
      | cons d w => simpa using Or.inl (hw d List.mem_cons_self)
      | nil =>
        rcases hcloses with rfl | ⟨rest, rfl⟩
        · simp
        · simpa using Or.inr (by decide)
    obtain ⟨rest, rfl, hbehind⟩ := exists_parts_of_isWord hlayout'.of_append.2 hname hends hword
    obtain ⟨gaps', rest, rfl, hgaps', rfl⟩ := exists_parts_of_blanks
      (fun p hp => hlayout.proper p (by simp [hp])) hw hbehind
    refine ⟨gaps, gaps', hgaps, hgaps', front, rest, by simp, hfront, closes_of_text ?_ ?_ hcloses⟩
    · exact fun p hp => hlayout.proper p (by simp [hp])
    · exact fun p hp => hquiet p (by simp [hp])
  · rintro ⟨v, w, hv, hw, before, behind, rfl, hopens, hcloses⟩
    have hproper (p : Part) (hp : p ∈ v ∨ p ∈ w) : p.IsProper :=
      hlayout.proper p (by rcases hp with hp | hp <;> simp [hp])
    refine ⟨textOf v, textOf w, blanks_textOf (fun p hp => hproper p (.inl hp)) hv,
      blanks_textOf (fun p hp => hproper p (.inr hp)) hw, textOf before, textOf behind,
      by simp [Part.text], ?_, ?_⟩
    · rcases hopens with rfl | ⟨front, rfl, hfront⟩
      · exact .inl rfl
      · exact .inr ⟨textOf front, by simp [Part.text, Part.comma], hfront⟩
    · rcases hcloses with rfl | ⟨rest, rfl⟩
      · exact .inl rfl
      · exact .inr ⟨textOf rest, rfl⟩

-- ---------------------------------------------------------------------------
-- Leaving parts out
-- ---------------------------------------------------------------------------

/-- Parts that open and close no brackets can be left out. -/
theorem depthAfter_filter (keep : Part → Bool)
    (hdropped : ∀ p ∈ parts, keep p = false → ∀ depth, depthAfter depth p.text = depth)
    (depth : Nat) :
    depthAfter depth (textOf (parts.filter keep)) = depthAfter depth (textOf parts) := by
  induction parts generalizing depth with
  | nil => rfl
  | cons p parts ih =>
    obtain ⟨hp, hparts⟩ := List.forall_mem_cons.mp hdropped
    rw [textOf_cons, depthAfter_append]
    cases hkeep : keep p with
    | false => rw [List.filter_cons_of_neg (by simp [hkeep]), ih hparts, hp hkeep]
    | true => rw [List.filter_cons_of_pos hkeep, textOf_cons, depthAfter_append, ih hparts]

theorem Between.filter {stretch : List Part} (h : Between .comma depthOf parts stretch)
    (keep : Part → Bool) (hcomma : keep .comma = true)
    (hdropped : ∀ p ∈ parts, keep p = false → ∀ depth, depthAfter depth p.text = depth) :
    Between .comma depthOf (parts.filter keep) (stretch.filter keep) := by
  obtain ⟨before, behind, rfl, hopens, hcloses⟩ := h
  refine ⟨before.filter keep, behind.filter keep, by simp, ?_, ?_⟩
  · rcases hopens with rfl | ⟨front, rfl, hfront⟩
    · exact .inl rfl
    · refine .inr ⟨front.filter keep, by simp [hcomma], ?_⟩
      rw [depthOf, depthAfter_filter keep (fun p hp => hdropped p (by simp [hp]))]
      exact hfront
  · rcases hcloses with rfl | ⟨rest, rfl⟩
    · exact .inl rfl
    · exact .inr ⟨rest.filter keep, by simp [hcomma]⟩

theorem Part.IsProper.depthAfter_gap (h : p.IsProper) (hgap : p.isSolid = false) (depth : Nat) :
    depthAfter depth p.text = depth := by
  cases p with
  | blank c => exact depthAfter_blanks (List.forall_mem_singleton.mpr h) depth
  | token t => exact nomatch hgap
  | comment t => exact nomatch hgap

theorem exists_opens_filter (h : Opens .comma depthOf (parts.filter Part.isSolid))
    (hproper : ∀ p ∈ parts, p.IsProper) :
    ∃ before gaps, parts = before ++ gaps ∧ Opens .comma depthOf before ∧
      ∀ p ∈ gaps, p.isSolid = false := by
  rcases h with hnone | ⟨front, hfilter, hfront⟩
  · exact ⟨[], parts, rfl, .inl rfl, by simpa using hnone⟩
  · obtain ⟨front', rest, rfl, rfl, hrest⟩ := List.filter_eq_append_iff.mp hfilter
    obtain ⟨gaps, gaps', rfl, hgaps, -, hgaps'⟩ := List.filter_eq_cons_iff.mp hrest
    refine ⟨front' ++ gaps ++ [.comma], gaps', by simp, .inr ⟨front' ++ gaps, rfl, ?_⟩,
      by simpa using hgaps'⟩
    have hkept : (front' ++ gaps).filter Part.isSolid = front'.filter Part.isSolid := by
      simpa using hgaps
    rw [depthOf, ← depthAfter_filter Part.isSolid, hkept]
    · exact hfront
    · exact fun p hp hgap =>
        (hproper p (by rcases List.mem_append.mp hp with hp | hp <;> simp [hp])).depthAfter_gap hgap

theorem exists_closes_filter (h : Closes .comma (parts.filter Part.isSolid)) :
    ∃ gaps behind, parts = gaps ++ behind ∧ (∀ p ∈ gaps, p.isSolid = false) ∧
      Closes .comma behind := by
  rcases h with hnone | ⟨rest, hfilter⟩
  · exact ⟨parts, [], by simp, by simpa using hnone, .inl rfl⟩
  · obtain ⟨gaps, behind, rfl, hgaps, -, -⟩ := List.filter_eq_cons_iff.mp hfilter
    exact ⟨gaps, .comma :: behind, rfl, by simpa using hgaps, .inr ⟨behind, rfl⟩⟩

/-- What stands alone is an argument when the blanks are taken away, and only that. -/
theorem standsAlone_iff_hasArgument (hproper : ∀ p ∈ parts, p.IsProper) :
    StandsAlone parts name ↔ HasArgument (parts.filter Part.isSolid) name := by
  constructor
  · rintro ⟨v, w, hv, hw, hbetween⟩
    have hfiltered := hbetween.filter Part.isSolid rfl
      fun p hp hgap => (hproper p hp).depthAfter_gap hgap
    have hv' : v.filter Part.isSolid = [] := by simpa using hv
    have hw' : w.filter Part.isSolid = [] := by simpa using hw
    rw [List.filter_append, List.filter_cons_of_pos rfl, hv', hw'] at hfiltered
    exact hfiltered
  · rintro ⟨before, behind, hfilter, hopens, hcloses⟩
    rw [List.append_assoc] at hfilter
    obtain ⟨front, rest, rfl, rfl, hrest⟩ := List.filter_eq_append_iff.mp hfilter
    obtain ⟨gaps, back, rfl, hgaps, -, rfl⟩ := List.filter_eq_cons_iff.mp hrest
    obtain ⟨before, gaps', rfl, hbefore, hgaps'⟩ :=
      exists_opens_filter hopens fun p hp => hproper p (by simp [hp])
    obtain ⟨gaps'', behind, rfl, hgaps'', hbehind⟩ := exists_closes_filter hcloses
    refine ⟨gaps' ++ gaps, gaps'', List.forall_mem_append.mpr ⟨hgaps', by simpa using hgaps⟩,
      hgaps'', before, behind, by simp, hbefore, hbehind⟩

/-- A word is among the arguments of a text iff it is an argument when the blanks are taken away. -/
theorem mem_splitArguments_textOf (hlayout : IsLayout parts) (hquiet : ∀ p ∈ parts, p.IsQuiet)
    (hname : IsWord name) :
    name ∈ splitArguments (textOf parts) ↔ HasArgument (parts.filter Part.isSolid) name := by
  rw [mem_splitArguments_iff hname.isArgument, standsAlone_iff hlayout hquiet hname,
    standsAlone_iff_hasArgument hlayout.proper]

end UnsafeCensus.Attribute
