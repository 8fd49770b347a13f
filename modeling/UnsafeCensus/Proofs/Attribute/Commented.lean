import Mathlib.Data.List.SplitBy
import UnsafeCensus.Proofs.Attribute.Layout
import UnsafeCensus.Proofs.Census.Forbidding

/-!
# Comments in an argument list

Comments are not known as such when arguments are told apart. So an attribute forbids unsafe code
iff it would with its comments taken for code. Blanks make no difference, and comments without
commas and brackets make one to the argument they stand by, which they can only hide.
-/

namespace UnsafeCensus.Attribute

open Text (Blanks isBlank isIdentContinue)

variable {c d : Char} {s t name path : List Char} {parts : List Part}

-- ---------------------------------------------------------------------------
-- Comments taken for code
-- ---------------------------------------------------------------------------

def Part.ofRun : List Char → Part
  | [c] => if Text.isBlank c then .blank c else .token [c]
  | t => .token t

/-- A text cut up into words, blanks and single signs, with no eye for comments. -/
def cutUp (s : List Char) : List Part :=
  (s.splitBy runsOn).map Part.ofRun

theorem Part.text_ofRun (t : List Char) : (Part.ofRun t).text = t := by
  unfold Part.ofRun
  split
  · split <;> rfl
  · rfl

theorem textOf_cutUp (s : List Char) : textOf (cutUp s) = s := by
  simp only [textOf, cutUp, List.flatMap_map, Part.text_ofRun, List.flatMap_id',
    List.flatten_splitBy]

/-- A run of several characters is a word. -/
theorem isIdentContinue_of_isChain (hrun : (c :: d :: t).IsChain fun c d => runsOn c d = true) :
    ∀ e ∈ c :: d :: t, isIdentContinue e = true := by
  induction t generalizing c d with
  | nil =>
    obtain ⟨hcd, -⟩ := List.isChain_cons_cons.mp hrun
    simpa [runsOn] using hcd
  | cons e t ih =>
    obtain ⟨hcd, hrest⟩ := List.isChain_cons_cons.mp hrun
    rw [runsOn, Bool.and_eq_true] at hcd
    exact List.forall_mem_cons.mpr ⟨hcd.1, ih hrest⟩

theorem eq_singleton_of_isChain (hrun : t.IsChain fun c d => runsOn c d = true) (hc : c ∈ t)
    (hsign : isIdentContinue c = false) : t = [c] := by
  match t, hrun with
  | [d], _ => rw [List.mem_singleton.mp hc]
  | d :: e :: t, hrun =>
    have hword := isIdentContinue_of_isChain hrun c hc
    exact absurd hword (by simp [hsign])

theorem isProper_ofRun (hrun : t.IsChain fun c d => runsOn c d = true) (hne : t ≠ []) :
    (Part.ofRun t).IsProper := by
  have hmarks : ∀ c ∈ t, isMark c = true → t = [c] := fun c hc hmark =>
    eq_singleton_of_isChain hrun hc (not_isIdentContinue_of_isMark hmark)
  have hblank : ∀ c ∈ t, isBlank c = true → t = [c] := fun c hc hblank =>
    eq_singleton_of_isChain hrun hc (by
      rw [Bool.eq_false_iff]
      intro hword
      simp [isBlank_of_isIdentContinue hword] at hblank)
  unfold Part.ofRun
  split
  · next c =>
    split
    · next hc => exact hc
    · next hc => exact ⟨hne, by simpa using hc, hmarks⟩
  · next hseveral =>
    refine ⟨hne, fun c hc => ?_, hmarks⟩
    rw [Bool.eq_false_iff]
    intro hcblank
    exact hseveral c (hblank c hc hcblank)

theorem isLayout_cutUp (s : List Char) : IsLayout (cutUp s) where
  proper := by
    intro p hp
    obtain ⟨t, ht, rfl⟩ := List.mem_map.mp hp
    exact isProper_ofRun (List.isChain_of_mem_splitBy ht) (List.ne_nil_of_mem_splitBy ht)
  apart := by
    refine (List.isChain_map _).mpr ((List.isChain_getLast_head_splitBy runsOn s).imp ?_)
    rintro t u ⟨ht, hu, hends⟩ c hc d hd
    rw [Part.text_ofRun, List.getLast?_eq_some_getLast ht] at hc
    rw [Part.text_ofRun, List.head?_eq_some_head hu] at hd
    cases hc
    cases hd
    exact hends

theorem isComment_cutUp (s : List Char) : ∀ p ∈ cutUp s, p.isComment = false := by
  intro p hp
  obtain ⟨t, -, rfl⟩ := List.mem_map.mp hp
  unfold Part.ofRun
  split
  · split <;> rfl
  · rfl

-- ---------------------------------------------------------------------------
-- Attributes
-- ---------------------------------------------------------------------------

variable {source : List UInt8} {item : Tree}

/-- The attribute of an item has a path, and its arguments are written in parts. -/
structure IsWrittenIn (source : List UInt8) (item : Tree) (path : List Char) (parts : List Part) :
    Prop where
  isPath : IsPath path
  layout : IsLayout parts
  text : ∃ node u v w,
    item.namedChildren.find? (fun c => c.kind == "attribute") = some node ∧
    Blanks u ∧ Blanks v ∧ Blanks w ∧
    node.text source = u ++ path ++ v ++ '(' :: textOf parts ++ ')' :: w

theorem IsWrittenIn.ofNode?_eq (h : IsWrittenIn source item path parts) :
    ofNode? source item = some (ofReading (item.kind == innerKind) path (textOf parts)) := by
  obtain ⟨node, u, v, w, hnode, hu, hv, hw, htext⟩ := h.text
  have hwritten : Written (node.text source) path (some (textOf parts)) := by
    rw [htext]
    exact .listed hu h.isPath hv hw
  rw [ofNode?, hnode]
  exact ofText?_of_written hwritten

/-- The attribute of an item forbids unsafe code. -/
def Forbids (source : List UInt8) (item : Tree) : Prop :=
  SafetyPolicy.ofAttributes (ofNode? source item).toList = .forbidden

theorem forbids_iff :
    Forbids source item ↔ ∃ a, ofNode? source item = some a ∧ a.forbidsUnsafe = true := by
  rw [Forbids, SafetyPolicy.ofAttributes_eq_forbidden]
  simp only [Option.mem_toList]

theorem IsWrittenIn.forbids_iff (h : IsWrittenIn source item "forbid".toList parts) :
    Forbids source item ↔ unsafeLint.toList ∈ splitArguments (textOf parts) := by
  rw [Attribute.forbids_iff, h.ofNode?_eq]
  simp only [Option.some.injEq, exists_eq_left', forbidsUnsafe_iff, ofReading, List.mem_map]
  constructor
  · rintro ⟨-, arg, harg, hlint⟩
    rwa [unsafeLint, ← hlint, String.toList_ofList]
  · intro hmem
    exact ⟨rfl, _, hmem, rfl⟩

theorem forbidsUnsafe_of_innerItems {root : Tree} {front back : List Tree} (includeTests : Bool)
    (hitems : (root.namedChildren.filter fun t => t.kind == innerKind) = front ++ item :: back) :
    (Metrics.ofTree source includeTests root).forbidsUnsafe = true ↔
      Forbids source item ∨ ∃ other ∈ front ++ back, Forbids source other := by
  have hroot : (Metrics.ofTree source includeTests root).forbidsUnsafe = true ↔
      ∃ other ∈ front ++ item :: back, Forbids source other := by
    rw [Metrics.ofTree, Metrics.ofSite, decide_eq_true_eq, SafetyPolicy.ofAttributes_eq_forbidden,
      Tree.innerAttributes, Site.root, hitems]
    simp only [List.mem_filterMap, Attribute.forbids_iff]
    grind
  rw [hroot]
  simp only [List.mem_append, List.mem_cons]
  grind

theorem isWord_unsafeLint : IsWord unsafeLint.toList :=
  ⟨by decide +kernel, List.all_eq_true.mp (by decide +kernel)⟩

theorem filter_isSolid (h : ∀ p ∈ parts, p.isComment = false) :
    parts.filter Part.isSolid = parts.filter Part.isToken := by
  refine List.filter_congr fun p hp => ?_
  cases p with
  | comment t => exact nomatch h _ hp
  | token t => rfl
  | blank c => rfl

/-- A comment without commas and brackets can be left out. -/
theorem HasArgument.without_comments (h : HasArgument (parts.filter Part.isSolid) name)
    (hquiet : ∀ p ∈ parts, p.IsQuiet) : HasArgument (parts.filter Part.isToken) name := by
  have hfiltered := Between.filter h Part.isToken rfl ?_
  · have hboth : (parts.filter Part.isSolid).filter Part.isToken =
        parts.filter Part.isToken := by
      rw [List.filter_filter]
      refine List.filter_congr fun p _ => ?_
      cases p <;> rfl
    rw [hboth] at hfiltered
    exact hfiltered
  · intro p hp hdropped
    obtain ⟨hmem, hgap⟩ := List.mem_filter.mp hp
    cases p with
    | comment t => exact depthAfter_of_not_isMark (hquiet _ hmem)
    | token t => exact nomatch hdropped
    | blank c => exact nomatch hgap

/-- An attribute forbids unsafe code iff its tokens name the lint when what its comments hold is
taken for tokens too. Blanks make no difference. Comments without commas and brackets belong to the
argument they stand in, so they hide the lint if they stand by it wherever it is named, and else
make no difference either. -/
theorem forbids_as_if_comments_were_code (h : IsWrittenIn source item "forbid".toList parts) :
    let names (shown : List Part) : Prop := HasArgument shown unsafeLint.toList
    let tokens := parts.filter Part.isToken
    let solid := parts.filter Part.isSolid
    (Forbids source item ↔ names ((cutUp (textOf parts)).filter Part.isToken)) ∧
    ((∀ p ∈ parts, p.isComment = false) → (Forbids source item ↔ names tokens)) ∧
    ((∀ p ∈ parts, p.IsQuiet) →
      (Forbids source item ↔ names solid) ∧ (Forbids source item → names tokens) ∧
      ((Forbids source item ↔ names tokens) ↔ (names tokens → names solid))) ∧
    ∀ (root : Tree) (includeTests : Bool) (front back : List Tree),
      (root.namedChildren.filter fun t => t.kind == innerKind) = front ++ item :: back →
      ((Metrics.ofTree source includeTests root).forbidsUnsafe = true ↔
        Forbids source item ∨ ∃ other ∈ front ++ back, Forbids source other) := by
  intro names tokens solid
  have hquietly (hquiet : ∀ p ∈ parts, p.IsQuiet) : Forbids source item ↔ names solid :=
    h.forbids_iff.trans (mem_splitArguments_textOf h.layout hquiet isWord_unsafeLint)
  refine ⟨?_, ?_, ?_, ?_⟩
  · have hcut := mem_splitArguments_textOf (isLayout_cutUp (textOf parts))
      (fun p hp => Part.isQuiet_of_isComment (isComment_cutUp _ p hp)) isWord_unsafeLint
    rw [textOf_cutUp, filter_isSolid (isComment_cutUp _)] at hcut
    exact h.forbids_iff.trans hcut
  · intro hnone
    have hsame : solid = tokens := filter_isSolid hnone
    rw [← hsame]
    exact hquietly fun p hp => Part.isQuiet_of_isComment (hnone p hp)
  · intro hquiet
    have hforbids := hquietly hquiet
    have hnamed : names solid → names tokens := fun hsolid => hsolid.without_comments hquiet
    exact ⟨hforbids, fun hyes => hnamed (hforbids.mp hyes),
      fun hsame htokens => hforbids.mp (hsame.mpr htokens),
      fun hshown => hforbids.trans ⟨hnamed, hshown⟩⟩
  · intro root includeTests front back hitems
    exact forbidsUnsafe_of_innerItems includeTests hitems

-- ---------------------------------------------------------------------------
-- Comments by the lint and by another argument
-- ---------------------------------------------------------------------------

/-- A source with an attribute whose arguments are written in parts. -/
def forbidWith (parts : List Part) : String :=
  String.ofList ("forbid".toList ++ '(' :: textOf parts ++ [')'])

def bytesWith (parts : List Part) : List UInt8 :=
  Text.Utf8.encode (forbidWith parts).toList

def innerItem (parts : List Part) : Tree :=
  .node ⟨innerKind, ⟨0, (bytesWith parts).length⟩, ⟨0, 0⟩, true, false, false, false, false, none⟩
    [nodeSpanning (forbidWith parts)]

def fileWith (parts : List Part) : Tree :=
  .node
    ⟨"source_file", ⟨0, (bytesWith parts).length⟩, ⟨0, 0⟩, true, false, false, false, false, none⟩
    [innerItem parts]

theorem isWrittenIn_innerItem (hlayout : IsLayout parts)
    (htext : (nodeSpanning (forbidWith parts)).text (bytesWith parts) =
      "forbid".toList ++ '(' :: textOf parts ++ [')']) :
    IsWrittenIn (bytesWith parts) (innerItem parts) "forbid".toList parts where
  isPath := ⟨'f', "orbid".toList, rfl, by decide, List.all_eq_true.mp (by decide +kernel)⟩
  layout := hlayout
  text := ⟨nodeSpanning (forbidWith parts), [], [], [], rfl, Text.blanks_nil, Text.blanks_nil,
    Text.blanks_nil, by simpa using htext⟩

def deadCode : Part := .token "dead_code".toList

def unsafeCode : Part := .token unsafeLint.toList

theorem isProper_tokens : deadCode.IsProper ∧ unsafeCode.IsProper ∧ Part.comma.IsProper := by
  have htokens : IsToken "dead_code".toList ∧ IsToken unsafeLint.toList ∧ IsToken [','] := by
    decide +kernel
  exact htokens

/-- The comment stands by an argument other than the lint. -/
def remarked : List Part :=
  [deadCode, .blank ' ', .comment "/* old */".toList, .comma, .blank '\n', unsafeCode]

/-- The comment stands by the lint. -/
def explained : List Part :=
  [unsafeCode, .blank ' ', .comment "/* why */".toList]

/-- The lint stands in the comment. -/
def commentedOut : List Part :=
  [deadCode, .blank ' ', .comment "/*, unsafe_code, */".toList]

theorem isLayout_remarked : IsLayout remarked where
  proper := by
    obtain ⟨hdead, hlint, hcomma⟩ := isProper_tokens
    simp only [remarked, List.forall_mem_cons]
    exact ⟨hdead, rfl, @IsComment.block " old ".toList rfl, hcomma, rfl, hlint, nofun⟩
  apart := by decide +kernel

theorem isLayout_explained : IsLayout explained where
  proper := by
    simp only [explained, List.forall_mem_cons]
    exact ⟨isProper_tokens.2.1, rfl, @IsComment.block " why ".toList rfl, nofun⟩
  apart := by decide +kernel

theorem isLayout_commentedOut : IsLayout commentedOut where
  proper := by
    simp only [commentedOut, List.forall_mem_cons]
    exact ⟨isProper_tokens.1, rfl, @IsComment.block ", unsafe_code, ".toList rfl, nofun⟩
  apart := by decide +kernel

theorem comment_by_another_lint :
    IsWrittenIn (bytesWith remarked) (innerItem remarked) "forbid".toList remarked ∧
    HasArgument (remarked.filter Part.isToken) unsafeLint.toList ∧
    (Metrics.ofTree (bytesWith remarked) true (fileWith remarked)).forbidsUnsafe = true := by
  have hwritten := isWrittenIn_innerItem isLayout_remarked (by decide +kernel)
  obtain ⟨-, -, hquiet, hroot⟩ := forbids_as_if_comments_were_code hwritten
  have hargument : HasArgument (remarked.filter Part.isSolid) unsafeLint.toList :=
    ⟨[deadCode, .comment "/* old */".toList, .comma], [], by decide +kernel,
      .inr ⟨[deadCode, .comment "/* old */".toList], rfl, by decide +kernel⟩, .inl rfl⟩
  have hold : (Part.comment "/* old */".toList).IsQuiet :=
    forall_eq_false_of_all (by decide +kernel)
  obtain ⟨hforbids, htokens, -⟩ := hquiet (by
    simp only [remarked, List.forall_mem_cons]
    exact ⟨trivial, trivial, hold, trivial, trivial, trivial, nofun⟩)
  have hyes := hforbids.mpr hargument
  exact ⟨hwritten, htokens hyes, (hroot (fileWith remarked) true [] [] rfl).mpr (Or.inl hyes)⟩

/-- A comment that hides the lint, and one that names it. -/
theorem comments_change_the_verdict :
    (IsWrittenIn (bytesWith explained) (innerItem explained) "forbid".toList explained ∧
      HasArgument (explained.filter Part.isToken) unsafeLint.toList ∧
      ¬ Forbids (bytesWith explained) (innerItem explained)) ∧
    (IsWrittenIn (bytesWith commentedOut) (innerItem commentedOut) "forbid".toList commentedOut ∧
      ¬ HasArgument (commentedOut.filter Part.isToken) unsafeLint.toList ∧
      Forbids (bytesWith commentedOut) (innerItem commentedOut)) := by
  refine ⟨⟨?_, ⟨[], [], rfl, .inl rfl, .inl rfl⟩, ?_⟩, ?_, ?_, ?_⟩
  · exact isWrittenIn_innerItem isLayout_explained (by decide +kernel)
  · unfold Forbids
    decide +kernel
  · exact isWrittenIn_innerItem isLayout_commentedOut (by decide +kernel)
  · rintro ⟨before, behind, htokens, -, -⟩
    have hmem : unsafeCode ∈ commentedOut.filter Part.isToken := by
      rw [htokens]
      simp [unsafeCode]
    exact absurd hmem (by decide +kernel)
  · unfold Forbids
    decide +kernel

end UnsafeCensus.Attribute
