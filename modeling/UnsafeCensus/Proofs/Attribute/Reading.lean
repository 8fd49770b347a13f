import UnsafeCensus.Attribute.Basic
import UnsafeCensus.Proofs.Attribute.Splitting

/-!
# The form of an attribute

`Written` gives the form of attribute texts as a grammar. A text has an attribute if and only if it
has this form, and it has it in one way: no choice of where the path ends or which parenthesis is
the last one leads to another attribute.
-/

namespace UnsafeCensus.Attribute

open Text (Blanks isBlank trimStart trimEnd)

variable {c : Char} {s t v w x path raw inside : List Char} {a b : Option (List Char)}

-- ---------------------------------------------------------------------------
-- The form
-- ---------------------------------------------------------------------------

def IsPath (path : List Char) : Prop :=
  ∃ c rest, path = c :: rest ∧ isPathStart c = true ∧ ∀ d ∈ rest, isPathChar d = true

/-- A text is written as a path, or as a path with the text of its arguments in parentheses. -/
inductive Written : List Char → List Char → Option (List Char) → Prop
  | bare {u v w path : List Char} (hu : Blanks u) (hpath : IsPath path) (hv : Blanks v)
      (hw : Blanks w) : Written (u ++ path ++ v ++ w) path none
  | listed {u v w path inside : List Char} (hu : Blanks u) (hpath : IsPath path) (hv : Blanks v)
      (hw : Blanks w) : Written (u ++ path ++ v ++ '(' :: inside ++ ')' :: w) path (some inside)

/-- What may stand behind a path. -/
inductive Tail : List Char → Option (List Char) → Prop
  | bare {w : List Char} (h : Blanks w) : Tail w none
  | listed {v w inside : List Char} (hv : Blanks v) (hw : Blanks w) :
      Tail (v ++ '(' :: (inside ++ ')' :: w)) (some inside)

theorem written_iff_tail :
    Written x path a ↔ ∃ u t, Blanks u ∧ IsPath path ∧ Tail t a ∧ x = u ++ path ++ t := by
  constructor
  · intro h
    cases h with
    | @bare u v w _ hu hpath hv hw =>
      exact ⟨u, v ++ w, hu, hpath, .bare (hv.append hw), by simp⟩
    | @listed u v w _ inside hu hpath hv hw =>
      exact ⟨u, v ++ '(' :: (inside ++ ')' :: w), hu, hpath, .listed hv hw, by simp⟩
  · rintro ⟨u, t, hu, hpath, htail, rfl⟩
    cases htail with
    | bare h => simpa using Written.bare hu hpath h Text.blanks_nil
    | listed hv hw => simpa using Written.listed hu hpath hv hw

-- ---------------------------------------------------------------------------
-- Characters
-- ---------------------------------------------------------------------------

/-- The code points of the blanks. -/
def blankCodes : List Nat :=
  List.range' 0x09 5 ++ List.range' 0x1C 5 ++ [0x85, 0xA0, 0x1680] ++ List.range' 0x2000 11 ++
    [0x2028, 0x2029, 0x202F, 0x205F, 0x3000]

theorem toNat_mem_blankCodes (h : isBlank c = true) : c.toNat ∈ blankCodes := by
  simp only [isBlank, Bool.or_eq_true, Bool.and_eq_true, decide_eq_true_eq, beq_iff_eq] at h
  simp only [blankCodes, List.mem_append, List.mem_range'_1, List.mem_cons, List.not_mem_nil,
    or_false]
  omega

/-- Blanks are neither at the beginning of a path nor inside. -/
theorem not_isPathChar_of_isBlank (h : isBlank c = true) :
    isPathStart c = false ∧ isPathChar c = false := by
  have hall : ∀ n ∈ blankCodes,
      isPathStart (Char.ofNat n) = false ∧ isPathChar (Char.ofNat n) = false := by
    decide +kernel
  simpa using hall c.toNat (toNat_mem_blankCodes h)

theorem not_isBlank_of_isPathStart (h : isPathStart c = true) : isBlank c = false := by
  rw [Bool.eq_false_iff]
  intro hblank
  simp [(not_isPathChar_of_isBlank hblank).1] at h

/-- A path ends where its tail begins. -/
theorem Tail.not_isPathChar (h : Tail t a) (hc : t.head? = some c) : isPathChar c = false := by
  have hblank {v : List Char} (hv : Blanks v) (hc : v.head? = some c) : isPathChar c = false :=
    (not_isPathChar_of_isBlank (hv c (List.mem_of_mem_head? hc))).2
  cases h with
  | bare h => exact hblank h hc
  | @listed v w inside hv hw =>
    cases v with
    | nil =>
      cases hc
      decide
    | cons d v => exact hblank hv hc

-- ---------------------------------------------------------------------------
-- Reading a tail
-- ---------------------------------------------------------------------------

theorem unsnoc?_eq_some : unsnoc? s = some (t, c) ↔ s = t ++ [c] := by
  unfold unsnoc?
  split
  · next d r h =>
    have hs : s = r.reverse ++ [d] := by simpa using congrArg List.reverse h
    simp [hs, Prod.ext_iff]
  · next h =>
    have hs : s = [] := List.reverse_eq_nil_iff.mp h
    simp [hs]

/-- The parenthesis that closes the arguments is the last character that is no blank. -/
theorem closed?_eq_some : closed? s = some inside ↔ ∃ w, Blanks w ∧ s = inside ++ ')' :: w := by
  have hparen : isBlank ')' = false := by decide
  constructor
  · intro h
    unfold closed? at h
    split at h
    · next t hlast =>
      cases h
      obtain ⟨w, hw, hs⟩ := Text.exists_trimEnd_append_blanks s
      rw [unsnoc?_eq_some] at hlast
      exact ⟨w, hw, by simpa [hlast] using hs⟩
    · cases h
  · rintro ⟨w, hw, rfl⟩
    have htrim : trimEnd (inside ++ ')' :: w) = inside ++ [')'] := by
      rw [List.append_cons, Text.trimEnd_append hw, Text.trimEnd_concat hparen]
    rw [closed?, unsnoc?_eq_some.mpr htrim]
    rfl

theorem tail_none_iff : Tail t none ↔ trimStart t = [] := by
  rw [Text.trimStart_eq_nil]
  constructor
  · rintro ⟨h⟩
    exact h
  · exact .bare

theorem tail_some_iff :
    Tail t (some inside) ↔ ∃ rest, trimStart t = '(' :: rest ∧ closed? rest = some inside := by
  have hparen : isBlank '(' = false := by decide
  constructor
  · intro h
    cases h with
    | @listed v w _ hv hw =>
      refine ⟨inside ++ ')' :: w, ?_, closed?_eq_some.mpr ⟨w, hw, rfl⟩⟩
      rw [Text.trimStart_append hv, Text.trimStart_cons hparen]
  · rintro ⟨rest, htrim, hclosed⟩
    obtain ⟨v, hv, ht⟩ := Text.exists_blanks_append_trimStart t
    obtain ⟨w, hw, rfl⟩ := closed?_eq_some.mp hclosed
    rw [ht, htrim]
    exact .listed hv hw

theorem Tail.unique (h : Tail t a) (h' : Tail t b) : a = b := by
  cases a with
  | none =>
    cases b with
    | none => rfl
    | some inside =>
      obtain ⟨rest, htrim, -⟩ := tail_some_iff.mp h'
      rw [tail_none_iff.mp h] at htrim
      cases htrim
  | some inside =>
    obtain ⟨rest, htrim, hclosed⟩ := tail_some_iff.mp h
    cases b with
    | none =>
      rw [tail_none_iff.mp h'] at htrim
      cases htrim
    | some inside' =>
      obtain ⟨rest', htrim', hclosed'⟩ := tail_some_iff.mp h'
      rw [htrim, List.cons.injEq] at htrim'
      rw [← htrim'.2] at hclosed'
      exact hclosed.symm.trans hclosed'

theorem tail?_eq_some : tail? t = some raw ↔ ∃ a, Tail t a ∧ raw = a.getD [] := by
  constructor
  · intro h
    unfold tail? at h
    split at h
    · next htrim =>
      cases h
      exact ⟨none, tail_none_iff.mpr htrim, rfl⟩
    · next rest htrim => exact ⟨some raw, tail_some_iff.mpr ⟨rest, htrim, h⟩, rfl⟩
    · cases h
  · rintro ⟨a, htail, rfl⟩
    unfold tail?
    cases a with
    | none => rw [tail_none_iff.mp htail]; rfl
    | some inside =>
      obtain ⟨rest, htrim, hclosed⟩ := tail_some_iff.mp htail
      rw [htrim]
      exact hclosed

-- ---------------------------------------------------------------------------
-- Reading a text
-- ---------------------------------------------------------------------------

/-- The path is the longest there is. -/
theorem written_iff :
    Written x path a ↔ ∃ c rest, trimStart x = c :: rest ∧ isPathStart c = true ∧
      path = c :: rest.takeWhile isPathChar ∧ Tail (rest.dropWhile isPathChar) a := by
  rw [written_iff_tail]
  constructor
  · rintro ⟨u, t, hu, ⟨c, rest, rfl, hc, hrest⟩, htail, rfl⟩
    have hstart : trimStart (u ++ (c :: rest) ++ t) = c :: (rest ++ t) := by
      rw [List.append_assoc, Text.trimStart_append hu, List.cons_append,
        Text.trimStart_cons (not_isBlank_of_isPathStart hc)]
    have hends : t.takeWhile isPathChar = [] ∧ t.dropWhile isPathChar = t := by
      cases t with
      | nil => exact ⟨rfl, rfl⟩
      | cons d t => simp [htail.not_isPathChar rfl]
    refine ⟨c, rest ++ t, hstart, hc, ?_, ?_⟩
    · rw [List.takeWhile_append_of_pos hrest, hends.1, List.append_nil]
    · rw [List.dropWhile_append_of_pos hrest, hends.2]
      exact htail
  · rintro ⟨c, rest, hstart, hc, rfl, htail⟩
    obtain ⟨u, hu, hx⟩ := Text.exists_blanks_append_trimStart x
    refine ⟨u, _, hu, ⟨c, _, rfl, hc, fun _ hd => List.mem_takeWhile_imp hd⟩, htail, ?_⟩
    rw [hx, hstart, List.append_assoc, List.cons_append, List.takeWhile_append_dropWhile]

theorem Written.unique {path' : List Char} (h : Written x path a) (h' : Written x path' b) :
    path = path' ∧ a = b := by
  obtain ⟨c, rest, hstart, -, rfl, htail⟩ := written_iff.mp h
  obtain ⟨c', rest', hstart', -, rfl, htail'⟩ := written_iff.mp h'
  rw [hstart, List.cons.injEq] at hstart'
  obtain ⟨rfl, rfl⟩ := hstart'
  exact ⟨rfl, htail.unique htail'⟩

theorem read?_eq_some :
    read? x = some (path, raw) ↔ ∃ a, Written x path a ∧ raw = a.getD [] := by
  constructor
  · intro h
    unfold read? at h
    split at h
    · next c rest hstart =>
      split at h
      · next hc =>
        obtain ⟨raw', hread, hpair⟩ := Option.map_eq_some_iff.mp h
        cases hpair
        obtain ⟨a, htail, rfl⟩ := tail?_eq_some.mp hread
        exact ⟨a, written_iff.mpr ⟨c, rest, hstart, hc, rfl, htail⟩, rfl⟩
      · cases h
    · cases h
  · rintro ⟨a, hwritten, rfl⟩
    obtain ⟨c, rest, hstart, hc, rfl, htail⟩ := written_iff.mp hwritten
    simp [read?, hstart, hc, tail?_eq_some.mpr ⟨a, htail, rfl⟩]

/-- The attribute of a path and the text of its arguments. -/
def ofReading (isInner : Bool) (path raw : List Char) : Attribute :=
  ⟨String.ofList path, (splitArguments raw).map String.ofList, isInner⟩

theorem ofText?_of_written {isInner : Bool} (h : Written x path a) :
    ofText? isInner x = some (ofReading isInner path (a.getD [])) := by
  rw [ofText?, read?_eq_some.mpr ⟨a, h, rfl⟩]
  rfl

theorem ofText?_eq_some {isInner : Bool} {found : Attribute} :
    ofText? isInner x = some found ↔
      ∃ path a, Written x path a ∧ found.path = String.ofList path ∧
        Splits (a.getD []) (found.args.map String.toList) ∧ found.inner = isInner := by
  constructor
  · intro h
    obtain ⟨⟨path, raw⟩, hread, rfl⟩ := Option.map_eq_some_iff.mp h
    obtain ⟨a, hwritten, rfl⟩ := read?_eq_some.mp hread
    refine ⟨path, a, hwritten, rfl, splits_iff.mpr ?_, rfl⟩
    simp
  · rintro ⟨path, a, hwritten, hpath, hargs, rfl⟩
    rw [ofText?, read?_eq_some.mpr ⟨a, hwritten, rfl⟩, Option.map_some, splits_iff.mp hargs, ← hpath]
    simp

theorem ofText?_eq_none {isInner : Bool} :
    ofText? isInner x = none ↔ ¬ ∃ path a, Written x path a := by
  rw [ofText?, Option.map_eq_none_iff]
  constructor
  · rintro h ⟨path, a, hwritten⟩
    exact nomatch h.symm.trans (read?_eq_some.mpr ⟨a, hwritten, rfl⟩)
  · intro h
    rw [Option.eq_none_iff_forall_ne_some]
    rintro ⟨path, raw⟩ hread
    obtain ⟨a, hwritten, -⟩ := read?_eq_some.mp hread
    exact h ⟨path, a, hwritten⟩

-- ---------------------------------------------------------------------------
-- Nodes
-- ---------------------------------------------------------------------------

/-- The node of an item has an attribute if and only if its text has the form, it has the form in
one way, and the attribute is what the text says. So path and arguments that are written down are
read back, with blanks wherever one likes. -/
theorem read_as_written {source : List UInt8} {item node : Tree}
    (hnode : item.namedChildren.find? (fun c => c.kind == "attribute") = some node) :
    (ofNode? source item = none ↔ ¬ ∃ path a, Written (node.text source) path a) ∧
    (∀ found, ofNode? source item = some found ↔
      ∃ path a, Written (node.text source) path a ∧ found.path = String.ofList path ∧
        Splits (a.getD []) (found.args.map String.toList) ∧
        found.inner = (item.kind == innerKind)) ∧
    (∀ path a path' a', Written (node.text source) path a → Written (node.text source) path' a' →
      path = path' ∧ a = a') ∧
    ∀ u path v args inside w, Blanks u → IsPath path → Blanks v → Lists args inside →
      (∀ arg ∈ args, IsArgument arg) → Blanks w →
      node.text source = u ++ path ++ v ++ '(' :: inside ++ ')' :: w →
      ofNode? source item =
        some ⟨String.ofList path, args.map String.ofList, item.kind == innerKind⟩ := by
  have hitem : ofNode? source item = ofText? (item.kind == innerKind) (node.text source) := by
    rw [ofNode?, hnode]
  rw [hitem]
  refine ⟨ofText?_eq_none, fun found => ofText?_eq_some, fun _ _ _ _ h h' => h.unique h', ?_⟩
  intro u path v args inside w hu hpath hv hlists hargs hw htext
  refine ofText?_eq_some.mpr ⟨path, some inside, ?_, rfl, ?_, rfl⟩
  · rw [htext]
    exact .listed hu hpath hv hw
  · refine splits_iff.mpr ?_
    simpa using splitArguments_of_lists hlists hargs

/-- The node of an attribute that spans a whole source. -/
def nodeSpanning (source : String) : Tree :=
  .node ⟨"attribute", ⟨0, source.utf8ByteSize⟩, ⟨0, 0⟩, true, false, false, false, false, none⟩ []

/-- An item that decorates what stands behind it by such an attribute. -/
def itemSpanning (source : String) : Tree :=
  .node ⟨outerKind, ⟨0, source.utf8ByteSize⟩, ⟨0, 0⟩, true, false, false, false, false, none⟩
    [nodeSpanning source]

def spacedSource : String := "cfg ( any(a, b) ,\ttest ) "

theorem lists_spaced :
    Lists ["any(a, b)".toList, "test".toList] " any(a, b) ,\ttest ".toList := by
  have htest : Lists ["test".toList] "\ttest ".toList :=
    .last (v := ['\t']) (w := [' ']) (by decide) (by decide)
  exact .more (v := [' ']) (w := [' ']) (by decide) (by decide) htest

theorem spaced_arguments_are_read :
    (itemSpanning spacedSource).namedChildren.find? (fun c => c.kind == "attribute") =
        some (nodeSpanning spacedSource) ∧
      ofNode? (Text.Utf8.encode spacedSource.toList) (itemSpanning spacedSource) =
        some ⟨"cfg", ["any(a, b)", "test"], false⟩ := by
  have hnode : (itemSpanning spacedSource).namedChildren.find? (fun c => c.kind == "attribute") =
      some (nodeSpanning spacedSource) := rfl
  have htext : (nodeSpanning spacedSource).text (Text.Utf8.encode spacedSource.toList) =
      [] ++ "cfg".toList ++ [' '] ++ '(' :: " any(a, b) ,\ttest ".toList ++ ')' :: [' '] := by
    decide +kernel
  have hpath : IsPath "cfg".toList :=
    ⟨'c', ['f', 'g'], by decide +kernel, by decide, List.all_eq_true.mp (by decide +kernel)⟩
  have hread := (read_as_written hnode).2.2.2 [] "cfg".toList [' '] _ _ [' '] (by decide) hpath
    (by decide) lists_spaced (by decide +kernel) (by decide) htext
  have houter : ((itemSpanning spacedSource).kind == innerKind) = false := by decide
  exact ⟨hnode, by simpa [houter] using hread⟩

end UnsafeCensus.Attribute
