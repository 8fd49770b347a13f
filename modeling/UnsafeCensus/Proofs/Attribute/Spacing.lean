import UnsafeCensus.Census.Walk
import UnsafeCensus.Proofs.Attribute.Decorations
import UnsafeCensus.Proofs.Attribute.Reading
import UnsafeCensus.Text.Identifier

/-!
# Blanks inside a path

A path is read up to its first blank. So an attribute whose path is written with blanks around `::`
is not read at all, and what it decorates is as if the attribute were not there. For what decides on
test modules and on unsafe code that makes no difference, since these attributes have paths of one
name. For test functions it does.
-/

namespace UnsafeCensus.Attribute

open Text (Blanks isBlank trimStart)

variable {c : Char} {s t u v path name raw : List Char} {a b : Option (List Char)}

-- ---------------------------------------------------------------------------
-- Names and paths
-- ---------------------------------------------------------------------------

/-- A name, plain or raw. -/
def IsIdentifier (name : List Char) : Prop :=
  ∃ c rest, (name = c :: rest ∨ name = 'r' :: '#' :: c :: rest) ∧ Text.isIdentStart c = true ∧
    ∀ d ∈ rest, Text.isIdentContinue d = true

/-- The characters of names are neither blanks nor parentheses. -/
def IsNameChar (c : Char) : Prop :=
  isBlank c = false ∧ c ≠ '('

theorem isNameChar_of_isIdent
    (h : Text.isIdentStart c = true ∨ Text.isIdentContinue c = true) : IsNameChar c := by
  have hall : ∀ n ∈ blankCodes, Text.isIdentStart (Char.ofNat n) = false ∧
      Text.isIdentContinue (Char.ofNat n) = false := by
    decide +kernel
  constructor
  · rw [Bool.eq_false_iff]
    intro hblank
    have hno := hall c.toNat (toNat_mem_blankCodes hblank)
    rw [Char.ofNat_toNat] at hno
    simp [hno] at h
  · rintro rfl
    exact absurd h (by decide)

theorem IsIdentifier.cons (h : IsIdentifier name) :
    ∃ d rest, name = d :: rest ∧ ∀ c ∈ name, IsNameChar c := by
  obtain ⟨d, rest, hname, hd, hrest⟩ := h
  have hplain : ∀ c ∈ d :: rest, IsNameChar c := List.forall_mem_cons.mpr
    ⟨isNameChar_of_isIdent (Or.inl hd), fun c hc => isNameChar_of_isIdent (Or.inr (hrest c hc))⟩
  rcases hname with rfl | rfl
  · exact ⟨d, rest, rfl, hplain⟩
  · refine ⟨'r', _, rfl, List.forall_mem_cons.mpr ⟨?_, List.forall_mem_cons.mpr ⟨?_, hplain⟩⟩⟩
    · exact ⟨by decide, by decide⟩
    · exact ⟨by decide, by decide⟩

/-- The blanks before and behind a `::`, and the name that follows. -/
structure Link where
  before : List Char
  behind : List Char
  name : List Char

/-- A path: a name, and further ones behind a `::` each. -/
def spelled (name : List Char) : List Link → List Char
  | [] => name
  | link :: links =>
    name ++ (link.before ++ ':' :: ':' :: (link.behind ++ spelled link.name links))

/-- The same names with no blanks between them. -/
def tightened (links : List Link) : List Link :=
  links.map fun link => ⟨[], [], link.name⟩

def IsTight (links : List Link) : Prop :=
  ∀ link ∈ links, link.before = [] ∧ link.behind = []

/-- A path of identifiers, with blanks at most around `::`. -/
structure IsSpacedPath (name : List Char) (links : List Link) : Prop where
  first : IsIdentifier name
  further : ∀ link ∈ links, IsIdentifier link.name
  blanks : ∀ link ∈ links, Blanks link.before ∧ Blanks link.behind

variable {links : List Link}

theorem tightened_of_isTight (h : IsTight links) : tightened links = links := by
  refine (List.map_congr_left fun link hlink => ?_).trans (List.map_id links)
  obtain ⟨hbefore, hbehind⟩ := h link hlink
  cases link
  simp_all

theorem isTight_tightened (links : List Link) : IsTight (tightened links) := by
  intro link hlink
  obtain ⟨_, -, rfl⟩ := List.mem_map.mp hlink
  exact ⟨rfl, rfl⟩

theorem IsSpacedPath.tightened (h : IsSpacedPath name links) :
    IsSpacedPath name (tightened links) := by
  refine ⟨h.first, fun link hlink => ?_, fun link hlink => ?_⟩
  · obtain ⟨link, hmem, rfl⟩ := List.mem_map.mp hlink
    exact h.further link hmem
  · obtain ⟨link, -, rfl⟩ := List.mem_map.mp hlink
    exact ⟨Text.blanks_nil, Text.blanks_nil⟩

theorem IsSpacedPath.tail {link : Link} (h : IsSpacedPath name (link :: links)) :
    IsSpacedPath link.name links :=
  ⟨h.further link List.mem_cons_self, fun l hl => h.further l (List.mem_cons_of_mem _ hl),
    fun l hl => h.blanks l (List.mem_cons_of_mem _ hl)⟩

theorem IsSpacedPath.spelled_cons (h : IsSpacedPath name links) :
    ∃ d rest, spelled name links = d :: rest ∧ IsNameChar d := by
  obtain ⟨d, rest, rfl, hchars⟩ := h.first.cons
  cases links with
  | nil => exact ⟨d, rest, rfl, hchars d List.mem_cons_self⟩
  | cons link links => exact ⟨d, _, rfl, hchars d List.mem_cons_self⟩

-- ---------------------------------------------------------------------------
-- Where reading stops
-- ---------------------------------------------------------------------------

/-- Behind a path and blanks stands a parenthesis or nothing. -/
theorem Tail.eq_paren (h : Tail (v ++ c :: s) a) (hv : Blanks v) (hc : isBlank c = false) :
    c = '(' := by
  have htrim : trimStart (v ++ c :: s) = c :: s := by
    rw [Text.trimStart_append hv, Text.trimStart_cons hc]
  cases a with
  | none =>
    rw [tail_none_iff, htrim] at h
    cases h
  | some inside =>
    obtain ⟨rest, hrest, -⟩ := tail_some_iff.mp h
    rw [htrim] at hrest
    exact (List.cons.inj hrest).1

theorem Tail.not_nameChar (h : Tail (v ++ c :: s) a) (hv : Blanks v) : ¬ IsNameChar c :=
  fun hc => hc.2 (h.eq_paren hv hc.1)

/-- If reading a path stops at a tail, it has not stopped in a name. -/
theorem isPathChar_of_tail (hname : ∀ c ∈ name, IsNameChar c)
    (h : Tail ((name ++ s).dropWhile isPathChar) a) : ∀ c ∈ name, isPathChar c = true := by
  induction name with
  | nil => simp
  | cons d name ih =>
    obtain ⟨hd, hrest⟩ := List.forall_mem_cons.mp hname
    by_cases hpath : isPathChar d = true
    · rw [List.cons_append, List.dropWhile_cons_of_pos hpath] at h
      exact List.forall_mem_cons.mpr ⟨hpath, ih hrest h⟩
    · rw [List.cons_append, List.dropWhile_cons_of_neg hpath] at h
      exact absurd hd (Tail.not_nameChar (v := []) h Text.blanks_nil)

theorem dropWhile_blanks (hv : Blanks v) (hne : v ≠ []) (s : List Char) :
    (v ++ s).dropWhile isPathChar = v ++ s := by
  obtain ⟨d, v, rfl⟩ := List.exists_cons_of_ne_nil hne
  have hstop := (not_isPathChar_of_isBlank (hv d List.mem_cons_self)).2
  exact List.dropWhile_cons_of_neg (by simp [hstop])

/-- If reading a path stops at a tail, there were no blanks in the path. -/
theorem isTight_of_tail (h : IsSpacedPath name links)
    (htail : Tail ((spelled name links ++ t).dropWhile isPathChar) a) :
    IsTight links ∧ ∀ c ∈ spelled name links, isPathChar c = true := by
  have hcolon : isPathChar ':' = true := by decide
  induction links generalizing name with
  | nil =>
    obtain ⟨_, _, _, hchars⟩ := h.first.cons
    exact ⟨nofun, isPathChar_of_tail hchars htail⟩
  | cons link links ih =>
    obtain ⟨_, _, _, hchars⟩ := h.first.cons
    obtain ⟨hbefore, hbehind⟩ := h.blanks link List.mem_cons_self
    simp only [spelled, List.append_assoc, List.cons_append] at htail ⊢
    have hname := isPathChar_of_tail hchars htail
    rw [List.dropWhile_append_of_pos hname] at htail
    have hnone : link.before = [] := by
      by_contra hne
      rw [dropWhile_blanks hbefore hne] at htail
      exact htail.not_nameChar hbefore ⟨by decide, by decide⟩
    rw [hnone, List.nil_append, List.dropWhile_cons_of_pos hcolon,
      List.dropWhile_cons_of_pos hcolon] at htail
    have hnone' : link.behind = [] := by
      by_contra hne
      obtain ⟨d, rest, hspelled, hd⟩ := h.tail.spelled_cons
      rw [dropWhile_blanks hbehind hne, hspelled] at htail
      exact htail.not_nameChar hbehind hd
    rw [hnone', List.nil_append] at htail
    obtain ⟨htight, hrest⟩ := ih h.tail htail
    refine ⟨List.forall_mem_cons.mpr ⟨⟨hnone, hnone'⟩, htight⟩, ?_⟩
    rw [hnone, hnone']
    exact List.forall_mem_append.mpr ⟨hname, by simpa [hcolon] using hrest⟩

theorem toNat_lt_of_isAlpha (h : c.isAlpha = true) : c.toNat < 0x80 := by
  rcases Bool.or_eq_true_iff.mp h with hupper | hlower
  · have hbounds : 'A'.val ≤ c.val ∧ c.val ≤ 'Z'.val := of_decide_eq_true hupper
    exact Nat.lt_of_le_of_lt (UInt32.le_iff_toNat_le.mp hbounds.2) (by decide)
  · have hbound : c.val ≤ 'z'.val := of_decide_eq_true (Bool.and_eq_true_iff.mp hlower).2
    exact Nat.lt_of_le_of_lt (UInt32.le_iff_toNat_le.mp hbound) (by decide)

theorem isPathChar_of_isPathStart (h : isPathStart c = true) : isPathChar c = true := by
  unfold isPathStart at h
  rw [Bool.or_eq_true, beq_iff_eq] at h
  rcases h with h | rfl
  · have halphanum : c.isAlphanum = true := Bool.or_eq_true_iff.mpr (Or.inl h)
    simp [isPathChar, Text.isWordChar_of_isAlphanum (toNat_lt_of_isAlpha h) halphanum]
  · decide

/-- A text with such a path has the form of an attribute iff there are no blanks in the path, and
the path begins as paths do and has their characters. -/
theorem written_spelled_iff (h : IsSpacedPath name links) (hu : Blanks u) (ht : Tail t a) :
    Written (u ++ spelled name links ++ t) path b ↔
      IsTight links ∧ IsPath (spelled name links) ∧ path = spelled name links ∧ b = a := by
  constructor
  · intro hwritten
    obtain ⟨d, rest, hspelled, hd⟩ := h.spelled_cons
    obtain ⟨c, rest', hstart, hc, -, htail⟩ := written_iff.mp hwritten
    have hwhole : c :: rest' = spelled name links ++ t := by
      rw [← hstart, List.append_assoc, Text.trimStart_append hu, hspelled, List.cons_append,
        Text.trimStart_cons hd.1]
    rw [← List.dropWhile_cons_of_pos (isPathChar_of_isPathStart hc), hwhole] at htail
    obtain ⟨htight, hchars⟩ := isTight_of_tail h htail
    have hpath : IsPath (spelled name links) := by
      rw [hspelled, List.cons_append] at hwhole
      rw [hspelled] at hchars ⊢
      exact ⟨d, rest, rfl, (List.cons.inj hwhole).1 ▸ hc, (List.forall_mem_cons.mp hchars).2⟩
    obtain ⟨rfl, rfl⟩ := hwritten.unique (written_iff_tail.mpr ⟨u, t, hu, hpath, ht, rfl⟩)
    exact ⟨htight, hpath, rfl, rfl⟩
  · rintro ⟨-, hpath, rfl, rfl⟩
    exact written_iff_tail.mpr ⟨u, t, hu, hpath, ht, rfl⟩

variable {isInner : Bool} {found : Attribute}

theorem ofText?_spelled (h : IsSpacedPath name links) (hu : Blanks u) (ht : Tail t a) :
    ofText? isInner (u ++ spelled name links ++ t) = some found ↔
      IsTight links ∧ IsPath (spelled name links) ∧
        found = ofReading isInner (spelled name links) (a.getD []) := by
  constructor
  · intro hfound
    obtain ⟨⟨path, raw⟩, hread, rfl⟩ := Option.map_eq_some_iff.mp hfound
    obtain ⟨b, hwritten, rfl⟩ := read?_eq_some.mp hread
    obtain ⟨htight, hpath, rfl, rfl⟩ := (written_spelled_iff h hu ht).mp hwritten
    exact ⟨htight, hpath, rfl⟩
  · rintro ⟨htight, hpath, rfl⟩
    exact ofText?_of_written ((written_spelled_iff h hu ht).mpr ⟨htight, hpath, rfl, rfl⟩)

theorem ofText?_of_not_isTight (h : IsSpacedPath name links) (hu : Blanks u) (ht : Tail t a)
    (hloose : ¬ IsTight links) : ofText? isInner (u ++ spelled name links ++ t) = none := by
  rw [Option.eq_none_iff_forall_ne_some]
  intro found hfound
  exact hloose ((ofText?_spelled h hu ht).mp hfound).1

theorem ofText?_tightened (h : IsSpacedPath name links) (hu : Blanks u) (ht : Tail t a) :
    ofText? isInner (u ++ spelled name (tightened links) ++ t) = some found ↔
      IsPath (spelled name (tightened links)) ∧
        found = ofReading isInner (spelled name (tightened links)) (a.getD []) := by
  rw [ofText?_spelled h.tightened hu ht, and_iff_right (isTight_tightened links)]

/-- A path with blanks in it has more than one name. -/
theorem colon_mem_spelled_tightened (hloose : ¬ IsTight links) (name : List Char) :
    ':' ∈ spelled name (tightened links) := by
  cases links with
  | nil => exact absurd nofun hloose
  | cons link links => simp [tightened, spelled]

-- ---------------------------------------------------------------------------
-- Nodes
-- ---------------------------------------------------------------------------

variable {source : List UInt8} {item item' : Tree}

/-- Two nodes of one kind that hold the same attribute, the first one with blanks around the `::` of
its path, the second one without. -/
structure Respaced (source : List UInt8) (item item' : Tree) (name : List Char) (links : List Link)
    (raw : Option (List Char)) : Prop where
  kind : item'.kind = item.kind
  path : IsSpacedPath name links
  written : ∃ node node' u t, Blanks u ∧ Tail t raw ∧
    item.namedChildren.find? (fun c => c.kind == "attribute") = some node ∧
    item'.namedChildren.find? (fun c => c.kind == "attribute") = some node' ∧
    node.text source = u ++ spelled name links ++ t ∧
    node'.text source = u ++ spelled name (tightened links) ++ t

theorem Respaced.exists_texts (h : Respaced source item item' name links a) :
    ∃ u t, Blanks u ∧ Tail t a ∧
      ofNode? source item =
        ofText? (item.kind == innerKind) (u ++ spelled name links ++ t) ∧
      ofNode? source item' =
        ofText? (item.kind == innerKind) (u ++ spelled name (tightened links) ++ t) := by
  obtain ⟨node, node', u, t, hu, ht, hnode, hnode', htext, htext'⟩ := h.written
  refine ⟨u, t, hu, ht, ?_, ?_⟩
  · rw [ofNode?, hnode, ← htext]
  · rw [ofNode?, hnode', ← htext', h.kind]

theorem Respaced.ofNode?_eq_of_isTight (h : Respaced source item item' name links a)
    (htight : IsTight links) : ofNode? source item = ofNode? source item' := by
  obtain ⟨u, t, -, -, hspaced, htight'⟩ := h.exists_texts
  rw [hspaced, htight', tightened_of_isTight htight]

theorem Respaced.ofNode?_eq_none (h : Respaced source item item' name links a)
    (hloose : ¬ IsTight links) : ofNode? source item = none := by
  obtain ⟨u, t, hu, ht, hspaced, -⟩ := h.exists_texts
  rw [hspaced, ofText?_of_not_isTight h.path hu ht hloose]

theorem Respaced.ofNode?_tight (h : Respaced source item item' name links a) {found : Attribute} :
    ofNode? source item' = some found ↔ IsPath (spelled name (tightened links)) ∧
      found = ofReading (item.kind == innerKind) (spelled name (tightened links)) (a.getD []) := by
  obtain ⟨u, t, hu, ht, -, htight⟩ := h.exists_texts
  rw [htight, ofText?_tightened h.path hu ht]

/-- What one attribute says of two nodes, where what it says is known by a path of one name. -/
theorem Respaced.any_toList_eq (h : Respaced source item item' name links a)
    {tells : Attribute → Bool} (known : String) (hknown : ':' ∉ known.toList)
    (htells : ∀ found, tells found = true → found.path = known) :
    (ofNode? source item).toList.any tells = (ofNode? source item').toList.any tells := by
  by_cases htight : IsTight links
  · rw [h.ofNode?_eq_of_isTight htight]
  · rw [h.ofNode?_eq_none htight]
    cases hfound : ofNode? source item' with
    | none => rfl
    | some found =>
      obtain ⟨-, rfl⟩ := h.ofNode?_tight.mp hfound
      simp only [Option.toList_none, Option.toList_some, List.any_nil, List.any_cons,
        Bool.or_false]
      symm
      rw [Bool.eq_false_iff]
      intro hyes
      have hpath := congrArg String.toList (htells _ hyes)
      have hcolon := colon_mem_spelled_tightened htight name
      exact hknown (by simpa [← hpath, ofReading] using hcolon)

theorem Respaced.isDecoration (h : Respaced source item item' name links a)
    (houter : item.kind = outerKind) : item.isDecoration = true ∧ item'.isDecoration = true := by
  simp [Tree.isDecoration, h.kind, houter]

theorem decoration_of_outer (houter : item.kind = outerKind) :
    item.decoration source = (ofNode? source item).toList := by
  simp [Tree.decoration, houter]

/-- Among the attributes of an item it makes no difference. -/
theorem Respaced.any_decorations_eq (h : Respaced source item item' name links a)
    (houter : item.kind = outerKind) {tells : Attribute → Bool} (known : String)
    (hknown : ':' ∉ known.toList) (htells : ∀ found, tells found = true → found.path = known)
    (nearer further : List Tree) :
    (Tree.decorations source (nearer ++ item :: further)).any tells =
      (Tree.decorations source (nearer ++ item' :: further)).any tells := by
  obtain ⟨hitem, hitem'⟩ := h.isDecoration houter
  rw [Tree.any_decorations_append_cons hitem, Tree.any_decorations_append_cons hitem',
    decoration_of_outer houter, decoration_of_outer (h.kind.trans houter),
    h.any_toList_eq known hknown htells]

/-- It does make one if only the attribute says so, and says so without the blanks. -/
theorem Respaced.any_decorations_eq_iff (h : Respaced source item item' name links a)
    (houter : item.kind = outerKind) (tells : Attribute → Bool) (nearer further : List Tree) :
    (Tree.decorations source (nearer ++ item :: further)).any tells =
        (Tree.decorations source (nearer ++ item' :: further)).any tells ↔
      IsTight links ∨ (Tree.decorations source (nearer ++ item' :: further)).any tells = false ∨
        (Tree.decorations source (nearer ++ further)).any tells = true := by
  obtain ⟨hitem, hitem'⟩ := h.isDecoration houter
  rw [Tree.any_decorations_append_cons hitem, Tree.any_decorations_append_cons hitem',
    decoration_of_outer houter, decoration_of_outer (h.kind.trans houter)]
  by_cases htight : IsTight links
  · simp [h.ofNode?_eq_of_isTight htight, htight]
  · rw [h.ofNode?_eq_none htight]
    cases (Tree.decorations source (nearer ++ further)).any tells <;> simp [htight]

theorem path_of_forbidsUnsafe {found : Attribute} (h : found.forbidsUnsafe = true) :
    found.path = "forbid" := by
  simp only [forbidsUnsafe, Bool.and_eq_true, beq_iff_eq] at h
  exact h.1

theorem path_of_keepsForTests {found : Attribute} (h : found.keepsForTests = true) :
    found.path = "cfg" := by
  simp only [keepsForTests, Bool.and_eq_true, beq_iff_eq] at h
  exact h.1

/-- What a scope says about unsafe code, by its inner attributes. -/
theorem Respaced.ofAttributes_innerAttributes_eq (h : Respaced source item item' name links a)
    (hnamed : item'.named = item.named) (data : Node) (before behind : List Tree) :
    SafetyPolicy.ofAttributes
        ((Tree.node data (before ++ item :: behind)).innerAttributes source) =
      SafetyPolicy.ofAttributes
        ((Tree.node data (before ++ item' :: behind)).innerAttributes source) := by
  have hany := h.any_toList_eq "forbid" (by decide) fun _ => path_of_forbidsUnsafe
  have hcons (t : Tree) (ts : List Tree) : (t :: ts).filterMap (ofNode? source) =
      (ofNode? source t).toList ++ ts.filterMap (ofNode? source) := by
    rw [List.filterMap_cons]
    cases ofNode? source t <;> rfl
  unfold SafetyPolicy.ofAttributes Tree.innerAttributes Tree.namedChildren
  simp only [Tree.children, List.filter_append, List.filter_cons, hnamed]
  cases item.named with
  | false => simp
  | true =>
    by_cases hinner : item.kind == innerKind
    · simp only [if_true, List.filter_cons, h.kind, hinner, List.filterMap_append, hcons,
        List.any_append, hany]
    · simp [h.kind, hinner]

/-- Blanks around the `::` of a path keep an attribute from being read, whatever else it says. So an
item is taken for a test function as without them, and left out as without them, unless only this
attribute would tell; the other readings of attributes do not depend on the blanks. -/
theorem spacing_matters_iff (h : Respaced source item item' name links a) :
    (ofNode? source item = ofNode? source item' ↔
      IsTight links ∨ ¬ IsPath (spelled name (tightened links))) ∧
    (IsPath (spelled name (tightened links)) → ofNode? source item' =
      some (ofReading (item.kind == innerKind) (spelled name (tightened links)) (a.getD []))) ∧
    (item'.named = item.named → ∀ data before behind,
      SafetyPolicy.ofAttributes
          ((Tree.node data (before ++ item :: behind)).innerAttributes source) =
        SafetyPolicy.ofAttributes
          ((Tree.node data (before ++ item' :: behind)).innerAttributes source)) ∧
    (item.kind = outerKind → ∀ (s : Site) (nearer further : List Tree),
      let spaced : Site := { s with before := nearer ++ item :: further }
      let tight : Site := { s with before := nearer ++ item' :: further }
      let without : Site := { s with before := nearer ++ further }
      spaced.isTestModule source = tight.isTestModule source ∧
      SafetyPolicy.ofAttributes (spaced.outerAttributes source) =
        SafetyPolicy.ofAttributes (tight.outerAttributes source) ∧
      (spaced.isTestFunction source = tight.isTestFunction source ↔
        IsTight links ∨ tight.isTestFunction source = false ∨
          without.isTestFunction source = true) ∧
      (Census.skips source false spaced = Census.skips source false tight ↔
        IsTight links ∨ Census.skips source false tight = false ∨
          Census.skips source false without = true)) := by
  refine ⟨?_, ?_, fun hnamed => h.ofAttributes_innerAttributes_eq hnamed, ?_⟩
  · by_cases htight : IsTight links
    · exact iff_of_true (h.ofNode?_eq_of_isTight htight) (Or.inl htight)
    · rw [h.ofNode?_eq_none htight, or_iff_right htight]
      constructor
      · intro hnone hpath
        exact nomatch hnone.trans (h.ofNode?_tight.mpr ⟨hpath, rfl⟩)
      · intro hpath
        symm
        rw [Option.eq_none_iff_forall_ne_some]
        intro found hfound
        exact hpath (h.ofNode?_tight.mp hfound).1
  · intro hpath
    exact h.ofNode?_tight.mpr ⟨hpath, rfl⟩
  · intro houter s nearer further spaced tight without
    have hmodule : spaced.isTestModule source = tight.isTestModule source :=
      h.any_decorations_eq houter "cfg" (by decide) (fun _ => path_of_keepsForTests)
        nearer further
    have hsafety : (spaced.outerAttributes source).any forbidsUnsafe =
        (tight.outerAttributes source).any forbidsUnsafe :=
      h.any_decorations_eq houter "forbid" (by decide) (fun _ => path_of_forbidsUnsafe)
        nearer further
    have hiff := h.any_decorations_eq_iff houter
    refine ⟨hmodule, ?_, hiff marksTest nearer further, ?_⟩
    · unfold SafetyPolicy.ofAttributes
      rw [hsafety]
    · have hkind : spaced.kind = s.kind ∧ tight.kind = s.kind ∧ without.kind = s.kind :=
        ⟨rfl, rfl, rfl⟩
      simp only [Census.skips, Site.isTestItem, hkind.1, hkind.2.1, hkind.2.2, Bool.not_false,
        Bool.true_and]
      cases s.kind with
      | function => exact hiff marksTest nearer further
      | method => exact hiff marksTest nearer further
      | module => exact hiff keepsForTests nearer further
      | _ => simp

-- ---------------------------------------------------------------------------
-- A test function whose attribute has a path with blanks
-- ---------------------------------------------------------------------------

/-- A source in which an attribute is written twice. -/
def twiceWritten : List UInt8 := Text.Utf8.encode "tokio :: testtokio::test".toList

def itemAt (start stop : Nat) : Tree :=
  .node ⟨outerKind, ⟨start, stop⟩, ⟨0, start⟩, true, false, false, false, false, none⟩
    [.node ⟨"attribute", ⟨start, stop⟩, ⟨0, start⟩, true, false, false, false, false, none⟩ []]

/-- A function with an item directly before it. -/
def functionBehind (item : Tree) : Site :=
  ⟨.node ⟨"function_item", ⟨0, 0⟩, ⟨0, 0⟩, true, false, false, false, false, none⟩ [], ["source_file"],
    [item]⟩

def tokioLinks : List Link := [⟨[' '], [' '], "test".toList⟩]

theorem isIdentifier_of_all {name : List Char} (c : Char) (rest : List Char)
    (hname : name = c :: rest) (hc : Text.isIdentStart c = true)
    (hrest : rest.all Text.isIdentContinue = true) : IsIdentifier name :=
  ⟨c, rest, Or.inl hname, hc, List.all_eq_true.mp hrest⟩

theorem respaced_tokio :
    Respaced twiceWritten (itemAt 0 13) (itemAt 13 24) "tokio".toList tokioLinks none where
  kind := rfl
  path :=
    { first := isIdentifier_of_all 't' "okio".toList rfl (by decide) (by decide +kernel)
      further := by
        simpa [tokioLinks] using
          isIdentifier_of_all 't' "est".toList rfl (by decide) (by decide +kernel)
      blanks := by simp [tokioLinks, Blanks, isBlank] }
  written := ⟨_, _, [], [], Text.blanks_nil, .bare Text.blanks_nil, rfl, rfl, by decide +kernel,
    by decide +kernel⟩

theorem spaced_tokio_not_read :
    Respaced twiceWritten (itemAt 0 13) (itemAt 13 24) "tokio".toList tokioLinks none ∧
    ofNode? twiceWritten (itemAt 0 13) ≠ ofNode? twiceWritten (itemAt 13 24) ∧
    (functionBehind (itemAt 0 13)).isTestModule twiceWritten =
      (functionBehind (itemAt 13 24)).isTestModule twiceWritten := by
  obtain ⟨hsame, -, -, hsites⟩ := spacing_matters_iff respaced_tokio
  have hloose : ¬ IsTight tokioLinks := by simp [IsTight, tokioLinks]
  have hpath : IsPath (spelled "tokio".toList (tightened tokioLinks)) :=
    ⟨'t', "okio::test".toList, rfl, by decide, List.all_eq_true.mp (by decide +kernel)⟩
  refine ⟨respaced_tokio, ?_, (hsites rfl (functionBehind (itemAt 0 13)) [] []).1⟩
  rw [Ne, hsame]
  rintro (htight | hno)
  · exact hloose htight
  · exact hno hpath

/-- A function that is a test without the blanks in its attribute, and none with them. -/
theorem spaced_test_is_no_test :
    ofNode? twiceWritten (itemAt 0 13) = none ∧
    ofNode? twiceWritten (itemAt 13 24) = some ⟨"tokio::test", [], false⟩ ∧
    (functionBehind (itemAt 0 13)).isTestFunction twiceWritten = false ∧
    (functionBehind (itemAt 13 24)).isTestFunction twiceWritten = true ∧
    Census.skips twiceWritten false (functionBehind (itemAt 0 13)) = false ∧
    Census.skips twiceWritten false (functionBehind (itemAt 13 24)) = true := by
  decide +kernel

end UnsafeCensus.Attribute
