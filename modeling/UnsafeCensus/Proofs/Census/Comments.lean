import UnsafeCensus.Proofs.Census.Following

/-!
# Comments in a census

Comments stand anywhere: between an attribute and its item, beside the one expression of a
statement, among the modifiers of a function. A census without them is the same census.
-/

namespace UnsafeCensus

-- ---------------------------------------------------------------------------
-- Comments with nothing below them that counts
-- ---------------------------------------------------------------------------

namespace Site

/-- A comment that fills no field and has no item and no block below it. -/
structure IsIdleComment (s : Site) : Prop where
  loose : s.tree.IsLooseComment
  below : ∀ p, ∀ n ∈ s.at? p, p ≠ [] → n.kind = .other

theorem IsIdleComment.isIdle {s : Site} (h : s.IsIdleComment) : s.IsIdle := by
  intro p n hn
  cases p with
  | nil =>
    obtain rfl := Option.some.inj hn
    apply kind_eq_other
    intro kind
    rcases Tree.isComment_iff.mp h.loose.comment with heq | heq
    · cases kind <;> simp [heq, Kind.nodeKinds]
    · cases kind <;> simp [heq, Kind.nodeKinds]
  | cons i p => exact h.below (i :: p) n hn (List.cons_ne_nil i p)

theorem isIdleComment_iff {s : Site} :
    s.IsIdleComment ↔ s.tree.IsLooseComment ∧
      ∀ p ∈ s.tree.positions, ∀ n ∈ s.at? p, p ≠ [] → n.kind = .other := by
  rw [← forall_at?_iff]
  exact ⟨fun h => ⟨h.loose, h.below⟩, fun h => ⟨h.1, h.2⟩⟩

instance (s : Site) : Decidable s.IsIdleComment :=
  decidable_of_iff _ isIdleComment_iff.symm

end Site

-- ---------------------------------------------------------------------------
-- Trees without some of their comments
-- ---------------------------------------------------------------------------

namespace Census

/-- Whatever is chosen below the root is a comment with nothing below it that counts. -/
def CommentsAt (root : Site) (chosen : Position → Bool) : Prop :=
  ∀ p, ∀ s ∈ root.at? p, p ≠ [] ∧ chosen p → s.IsIdleComment

theorem commentsAt_iff {root : Site} {chosen : Position → Bool} :
    CommentsAt root chosen ↔
      ∀ p ∈ root.tree.positions, ∀ s ∈ root.at? p, p ≠ [] ∧ chosen p → s.IsIdleComment :=
  Site.forall_at?_iff

instance (root : Site) (chosen : Position → Bool) : Decidable (CommentsAt root chosen) :=
  decidable_of_iff _ commentsAt_iff.symm

theorem omitting_eq_none {chosen : Position → Bool} {p : Position} {d : Node} :
    Edit.omitting chosen p d = none ↔ p ≠ [] ∧ chosen p := by
  simp [Edit.omitting]

theorem CommentsAt.mild {root : Site} {chosen : Position → Bool} (h : CommentsAt root chosen) :
    (Edit.omitting chosen).Mild false root.tree := by
  intro p t ht
  by_cases hchosen : p ≠ [] ∧ chosen p
  · rw [omitting_eq_none.mpr hchosen]
    obtain ⟨s, hs, rfl⟩ := Option.map_eq_some_iff.mp ((root.map_tree_at? p).trans ht)
    exact (h p s hs hchosen).loose
  · have hkept : Edit.omitting chosen p t.data = some t.data := by simp [Edit.omitting, hchosen]
    rw [hkept]
    exact .inl rfl

theorem CommentsAt.editedTo {root : Site} {chosen : Position → Bool} (h : CommentsAt root chosen)
    (source : List UInt8) :
    root.EditedTo source false (.omitting chosen) (root.edited (.omitting chosen)) where
  mild := h.mild
  idle p s hs hnone := (h p s hs (omitting_eq_none.mp hnone)).isIdle
  tree := Tree.edited?_eq_edited rfl
  above := rfl
  decorations := rfl

/-- Comments may be left out of a tree, any of them and wherever they stand: the census stays what
it is. -/
theorem comments_change_nothing (source : List UInt8) (includeTests : Bool) (root : Site)
    (chosen : Position → Bool) (h : CommentsAt root chosen) :
    Metrics.ofSite source includeTests (root.edited (.omitting chosen)) =
      Metrics.ofSite source includeTests root := by
  apply Metrics.Rises.eq
  exact rises_ofSite ⟨.omitting chosen, h.editedTo source⟩

-- ---------------------------------------------------------------------------
-- A test with comments
-- ---------------------------------------------------------------------------

/-- The source `#[test]/**/fn a(){unsafe{}/**/;}`. -/
def commentedSource : List UInt8 := [
  0x23, 0x5B, 0x74, 0x65, 0x73, 0x74, 0x5D, 0x2F, 0x2A, 0x2A, 0x2F, 0x66, 0x6E, 0x20, 0x61, 0x28,
  0x29, 0x7B, 0x75, 0x6E, 0x73, 0x61, 0x66, 0x65, 0x7B, 0x7D, 0x2F, 0x2A, 0x2A, 0x2F, 0x3B, 0x7D]

/-- The tree of that source, tokens left out, with nodes in the places of the comments. -/
def testAround (between behind : List Tree) : Tree :=
  let wrapped := Tree.ofRule "unsafe_block" 18 26 [.ofRule "block" 24 26 []]
  let body := Tree.ofRule "block" 17 32 [.ofRule "expression_statement" 18 31 (wrapped :: behind)]
  .ofRule "source_file" 0 32
    (.ofRule "attribute_item" 0 7 [.ofRule "attribute" 2 6 []] ::
      between ++ [.ofRule "function_item" 11 32 [body]])

def commentedTest : Tree :=
  testAround [.ofRule "block_comment" 7 11 []] [.ofRule "block_comment" 26 30 []]

theorem comments_of_test_left_out :
    CommentsAt (.root commentedTest) ([[1], [2, 0, 0, 1]].contains ·) ∧
      Metrics.ofTree commentedSource false (testAround [] []) =
        Metrics.ofTree commentedSource false commentedTest := by
  have hcomments : CommentsAt (.root commentedTest) ([[1], [2, 0, 0, 1]].contains ·) := by decide
  exact ⟨hcomments, comments_change_nothing commentedSource false _ _ hcomments⟩

end Census

end UnsafeCensus
