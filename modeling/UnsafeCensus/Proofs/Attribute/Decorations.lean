import UnsafeCensus.Attribute.Attached

/-!
# What decorates an item

The attributes of an item are collected backwards from it, sibling by sibling. A comment in between
adds nothing, and the first sibling that is neither an attribute nor a comment ends them.
-/

namespace UnsafeCensus

namespace Tree

theorem isComment_iff {t : Tree} :
    t.isComment = true ↔ t.kind = "line_comment" ∨ t.kind = "block_comment" := by
  simp [isComment]

variable (source : List UInt8)

/-- The attributes of what stands behind some siblings, of which the nearest comes first. -/
def decorations (before : List Tree) : List Attribute :=
  ((before.takeWhile isDecoration).reverse.filter fun t => t.kind == Attribute.outerKind)
    |>.filterMap (Attribute.ofNode? source)

/-- The attribute that a node itself holds for what stands behind it. -/
def decoration (t : Tree) : List Attribute :=
  if t.kind == Attribute.outerKind then (Attribute.ofNode? source t).toList else []

variable {source}

theorem decorations_cons (t : Tree) (before : List Tree) :
    decorations source (t :: before) =
      if t.isDecoration then decorations source before ++ t.decoration source else [] := by
  unfold decorations decoration
  cases hrun : t.isDecoration with
  | false => simp [hrun]
  | true =>
    cases hkind : t.kind == Attribute.outerKind with
    | false => simp [hrun, hkind]
    | true => cases hparse : Attribute.ofNode? source t <;> simp [hrun, hkind, hparse]

theorem decorations_cons_of_isComment {t : Tree} (h : t.isComment) (before : List Tree) :
    decorations source (t :: before) = decorations source before := by
  have hkind : (t.kind == Attribute.outerKind) = false := by
    rcases isComment_iff.mp h with hline | hblock
    · simp [hline, Attribute.outerKind]
    · simp [hblock, Attribute.outerKind]
  simp [decorations_cons, isDecoration, h, decoration, hkind]

/-- Nothing behind a sibling that is no decoration counts. -/
theorem decorations_append {further : List Tree}
    (h : ∀ t ∈ further.head?, t.isDecoration = false) (nearer : List Tree) :
    decorations source (nearer ++ further) = decorations source nearer := by
  induction nearer with
  | nil =>
    cases further with
    | nil => rfl
    | cons t further => simp [decorations, h t rfl]
  | cons t nearer ih => simp only [List.cons_append, decorations_cons, ih]

/-- What some attribute says, one of which is that of an item in between. -/
theorem any_decorations_append_cons {item : Tree} (hitem : item.isDecoration = true)
    (tells : Attribute → Bool) (nearer further : List Tree) :
    (decorations source (nearer ++ item :: further)).any tells =
      ((decorations source (nearer ++ further)).any tells ||
        (nearer.all isDecoration && (item.decoration source).any tells)) := by
  induction nearer with
  | nil => simp [decorations_cons, hitem]
  | cons t nearer ih =>
    simp only [List.cons_append, decorations_cons, List.all_cons]
    cases t.isDecoration with
    | false => simp
    | true => simp [ih, Bool.or_comm, Bool.or_left_comm]

end Tree

theorem Site.outerAttributes_eq (source : List UInt8) (s : Site) :
    s.outerAttributes source = Tree.decorations source s.before := rfl

end UnsafeCensus
