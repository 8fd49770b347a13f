import UnsafeCensus.Proofs.Census.Counting

/-!
# Trees without test items

A test item is cut out of a tree by an empty statement in its place, so that siblings keep their
places. What a census reads off a node that stays is what it read before: an empty statement is no
attribute, no modifier and no statement, and neither is a test item.
-/

namespace UnsafeCensus

-- ---------------------------------------------------------------------------
-- Pruned trees
-- ---------------------------------------------------------------------------

/-- An empty statement in the place of a node. -/
def Tree.blanked (t : Tree) : Tree :=
  .node { t.data with kind := "empty_statement" } []

section

variable (source : List UInt8)

mutual

/-- The tree with every outermost test item below its root blanked. -/
def Tree.withoutTests (above : List String) : Tree → Tree
  | .node d ts => .node d (Tree.siblingsWithoutTests (d.kind :: above) [] ts)

/-- Siblings in the same way, of which those in `before` have been passed. -/
def Tree.siblingsWithoutTests (above : List String) (before : List Tree) : List Tree → List Tree
  | [] => []
  | t :: ts =>
    (if Site.isTestItem source ⟨t, above, before⟩ then t.blanked else t.withoutTests above) ::
      Tree.siblingsWithoutTests above (t :: before) ts

end

namespace Site

/-- What stands in the place of a node in the pruned tree. -/
def pruned (s : Site) : Tree :=
  if s.isTestItem source then s.tree.blanked else s.tree.withoutTests source s.above

/-- The sites of the siblings before a node, nearest first. -/
def earlier (above : List String) : List Tree → List Site
  | [] => []
  | t :: before => ⟨t, above, before⟩ :: earlier above before

/-- The site that a node has in the pruned tree. -/
def prune (s : Site) : Site :=
  ⟨s.pruned source, s.above, (earlier s.above s.before).map (pruned source)⟩

/-- A root, which stays itself, with the pruned tree below it. -/
def pruneBelow (s : Site) : Site :=
  ⟨s.tree.withoutTests source s.above, s.above, s.before⟩

end Site

end

namespace Site

variable {source : List UInt8}

theorem map_tree_earlier (above : List String) (before : List Tree) :
    (earlier above before).map tree = before := by
  induction before with
  | nil => rfl
  | cons t before ih => simp [earlier, ih]

theorem siblings_siblingsWithoutTests (above : List String) (before ts : List Tree) :
    siblings above ((earlier above before).map (pruned source))
        (Tree.siblingsWithoutTests source above before ts) =
      (siblings above before ts).map (prune source) := by
  induction ts generalizing before with
  | nil => rfl
  | cons t ts ih => exact congrArg₂ List.cons rfl (ih (t :: before))

theorem children_pruneBelow (s : Site) :
    (s.pruneBelow source).children = s.children.map (prune source) := by
  obtain ⟨⟨d, ts⟩, above, before⟩ := s
  exact siblings_siblingsWithoutTests (d.kind :: above) [] ts

theorem children_withoutTests (s : Site) :
    (s.tree.withoutTests source s.above).children = s.children.map (pruned source) := by
  have h := (s.pruneBelow source).map_tree_children
  rw [children_pruneBelow, List.map_map] at h
  exact h.symm

@[simp] theorem data_withoutTests (above : List String) (t : Tree) :
    (t.withoutTests source above).data = t.data := by
  cases t
  rfl

theorem pruned_of_isTestItem {s : Site} (h : s.isTestItem source = true) :
    s.pruned source = s.tree.blanked := if_pos h

theorem pruned_of_not_isTestItem {s : Site} (h : s.isTestItem source = false) :
    s.pruned source = s.tree.withoutTests source s.above :=
  if_neg (by simp [h])

-- ---------------------------------------------------------------------------
-- What shows of a node
-- ---------------------------------------------------------------------------

/-- The kinds of nodes among which the test items are. -/
def testItemKinds : List String := ["function_item", "function_signature_item", "mod_item"]

theorem kind_mem_of_isTestItem {s : Site} (h : s.isTestItem source = true) :
    s.tree.kind ∈ testItemKinds := by
  have hmem (kind : Kind) (hkind : s.kind = kind) (hother : kind ≠ .other)
      (hsub : kind.nodeKinds ⊆ testItemKinds) : s.tree.kind ∈ testItemKinds :=
    hsub (tree_kind_mem hkind hother)
  unfold isTestItem at h
  split at h
  · next hkind => exact hmem .function hkind (by decide) (by decide)
  · next hkind => exact hmem .method hkind (by decide) (by decide)
  · next hkind => exact hmem .module hkind (by decide) (by decide)
  · cases h

/-- A question about kinds that takes all test items for empty statements has the same answer after
pruning. -/
theorem kind_pruned (asks : String → Bool)
    (hasks : ∀ k ∈ testItemKinds, asks k = asks "empty_statement") (s : Site) :
    asks (s.pruned source).kind = asks s.tree.kind := by
  cases htest : s.isTestItem source with
  | true =>
    rw [pruned_of_isTestItem htest, hasks _ (kind_mem_of_isTestItem htest)]
    rfl
  | false => rw [pruned_of_not_isTestItem htest, Tree.kind, Tree.kind, data_withoutTests]

/-- Apart from its kind a node stays what it is. -/
theorem data_pruned (s : Site) :
    (s.pruned source).data = { s.tree.data with kind := (s.pruned source).kind } := by
  cases htest : s.isTestItem source with
  | true =>
    rw [pruned_of_isTestItem htest]
    rfl
  | false =>
    rw [pruned_of_not_isTestItem htest, Tree.kind, data_withoutTests]

@[simp] theorem named_pruned (s : Site) : (s.pruned source).named = s.tree.named := by
  rw [Tree.named, data_pruned, Tree.named]

@[simp] theorem field_pruned (s : Site) :
    (s.pruned source).data.field = s.tree.data.field := by
  rw [data_pruned]

@[simp] theorem text_pruned (s : Site) : (s.pruned source).text source = s.tree.text source := by
  rw [Tree.text, data_pruned, Tree.text]

theorem kind_withoutTests (above : List String) (t : Tree) :
    (t.withoutTests source above).kind = t.kind := by
  rw [Tree.kind, data_withoutTests, Tree.kind]

theorem not_isTestItem_of_kind {s : Site} (h : s.tree.kind ∉ testItemKinds) :
    s.isTestItem source = false :=
  Bool.eq_false_iff.mpr fun htest => h (kind_mem_of_isTestItem htest)

theorem kind_pruned_beq {k : String} (hk : k ∉ "empty_statement" :: testItemKinds) (s : Site) :
    ((s.pruned source).kind == k) = (s.tree.kind == k) := by
  rw [List.mem_cons, not_or] at hk
  refine kind_pruned (· == k) (fun j hj => ?_) s
  have hne : j ≠ k := fun h => hk.2 (h ▸ hj)
  simp [hne, Ne.symm hk.1]

theorem isComment_pruned (s : Site) : (s.pruned source).isComment = s.tree.isComment :=
  kind_pruned (fun k => k == "line_comment" || k == "block_comment") (by decide) s

theorem isDecoration_pruned (s : Site) : (s.pruned source).isDecoration = s.tree.isDecoration := by
  rw [Tree.isDecoration, Tree.isDecoration, isComment_pruned, kind_pruned_beq (by decide)]

-- ---------------------------------------------------------------------------
-- What shows of a node through its children
-- ---------------------------------------------------------------------------

variable (source) in
/-- The children with a property that pruning keeps are found in the same places. -/
theorem filter_children_withoutTests (has : Tree → Bool)
    (hhas : ∀ c : Site, has (c.pruned source) = has c.tree) (s : Site) :
    (s.tree.withoutTests source s.above).children.filter has =
        (s.children.filter fun c => has c.tree).map (pruned source) ∧
      s.tree.children.filter has = (s.children.filter fun c => has c.tree).map tree := by
  rw [children_withoutTests, ← map_tree_children, List.filter_map, List.filter_map]
  simp only [Function.comp_def, hhas, and_self]

variable (source) in
theorem find?_children_withoutTests (has : Tree → Bool)
    (hhas : ∀ c : Site, has (c.pruned source) = has c.tree) (s : Site) :
    (s.tree.withoutTests source s.above).children.find? has =
        (s.children.find? fun c => has c.tree).map (pruned source) ∧
      s.tree.children.find? has = (s.children.find? fun c => has c.tree).map tree := by
  obtain ⟨hpruned, hplain⟩ := filter_children_withoutTests source has hhas s
  rw [← List.head?_filter, ← List.head?_filter, ← List.head?_filter, hpruned, hplain,
    List.head?_map, List.head?_map]
  exact ⟨rfl, rfl⟩

theorem any_children_withoutTests {has : Tree → Bool}
    (hhas : ∀ c : Site, has (c.pruned source) = has c.tree) (s : Site) :
    (s.tree.withoutTests source s.above).children.any has = s.tree.children.any has := by
  rw [children_withoutTests, ← map_tree_children, List.any_map, List.any_map]
  simp only [Function.comp_def, hhas]

theorem isMarkedUnsafe_withoutTests (s : Site) :
    (s.tree.withoutTests source s.above).isMarkedUnsafe = s.tree.isMarkedUnsafe := by
  have hunsafe (m : Site) :
      (m.tree.withoutTests source m.above).children.any (fun c => c.kind == "unsafe") =
        m.tree.children.any fun c => c.kind == "unsafe" :=
    any_children_withoutTests (kind_pruned_beq (by decide)) m
  obtain ⟨hpruned, hplain⟩ := find?_children_withoutTests source
    (fun c => c.kind == "function_modifiers") (kind_pruned_beq (by decide)) s
  rw [Tree.isMarkedUnsafe, Tree.isMarkedUnsafe, Tree.isFunctionLike, Tree.isFunctionLike,
    kind_withoutTests, hunsafe, hpruned, hplain]
  cases hfind : s.children.find? fun c => c.tree.kind == "function_modifiers" with
  | none => rfl
  | some m =>
    have hkind : m.tree.kind = "function_modifiers" := by simpa using List.find?_some hfind
    have htest : m.isTestItem source = false :=
      not_isTestItem_of_kind (by rw [hkind]; decide)
    simp only [Option.map_some, pruned_of_not_isTestItem htest, hunsafe]

theorem wrapsUnsafeBlock_pruned (s : Site) :
    (s.pruned source).wrapsUnsafeBlock = s.tree.wrapsUnsafeBlock := by
  rw [Tree.wrapsUnsafeBlock, Tree.wrapsUnsafeBlock, kind_pruned_beq (by decide)]
  cases hkind : s.tree.kind == "expression_statement" with
  | false => rfl
  | true =>
    have htest : s.isTestItem source = false :=
      not_isTestItem_of_kind (by rw [eq_of_beq hkind]; decide)
    obtain ⟨hpruned, hplain⟩ := filter_children_withoutTests source
      (fun c => !c.isComment && c.named) (fun c => by rw [isComment_pruned, named_pruned]) s
    rw [pruned_of_not_isTestItem htest, Tree.namedChildren, Tree.namedChildren, List.filter_filter,
      List.filter_filter, hpruned, hplain]
    generalize s.children.filter (fun c => !c.tree.isComment && c.tree.named) = spoken
    match spoken with
    | [] => rfl
    | [c] => exact congrArg (true && ·) (kind_pruned_beq (k := "unsafe_block") (by decide) c)
    | _ :: _ :: _ => rfl

theorem isStatement_pruned (s : Site) : (s.pruned source).isStatement = s.tree.isStatement := by
  have hdeclares : Tree.nonStatementKinds.contains (s.pruned source).kind =
      Tree.nonStatementKinds.contains s.tree.kind :=
    kind_pruned (fun k => Tree.nonStatementKinds.contains k) (by decide) s
  have hblock : ((s.pruned source).kind != "unsafe_block") = (s.tree.kind != "unsafe_block") :=
    congrArg not (kind_pruned_beq (by decide) s)
  rw [Tree.isStatement, Tree.isStatement, named_pruned, hdeclares, hblock, wrapsUnsafeBlock_pruned]

theorem statementCount_withoutTests (s : Site) :
    (s.tree.withoutTests source s.above).statementCount = s.tree.statementCount := by
  rw [Tree.statementCount, Tree.statementCount, children_withoutTests, ← map_tree_children,
    List.countP_map, List.countP_map]
  simp only [Function.comp_def, isStatement_pruned]

-- ---------------------------------------------------------------------------
-- Attributes
-- ---------------------------------------------------------------------------

variable (source) in
theorem namedChildren_withoutTests (s : Site) :
    (s.tree.withoutTests source s.above).namedChildren =
        (s.children.filter fun c => c.tree.named).map (pruned source) ∧
      s.tree.namedChildren = (s.children.filter fun c => c.tree.named).map tree :=
  filter_children_withoutTests source Tree.named named_pruned s

theorem ofNode?_withoutTests (s : Site) :
    Attribute.ofNode? source (s.tree.withoutTests source s.above) =
      Attribute.ofNode? source s.tree := by
  obtain ⟨hpruned, hplain⟩ := namedChildren_withoutTests source s
  have hkind (c : Site) : ((c.pruned source).kind == "attribute") = (c.tree.kind == "attribute") :=
    kind_pruned_beq (by decide) c
  rw [Attribute.ofNode?, Attribute.ofNode?, hpruned, hplain, kind_withoutTests, List.find?_map,
    List.find?_map]
  simp only [Function.comp_def, hkind]
  cases (s.children.filter fun c => c.tree.named).find? fun c => c.tree.kind == "attribute" with
  | none => rfl
  | some a => simp only [Option.map_some, text_pruned]

/-- The attributes among some nodes, taken from the nodes of one kind, survive in place. -/
theorem attributes_map_pruned {k : String} (hk : k ∉ "empty_statement" :: testItemKinds)
    (nodes : List Site) :
    ((nodes.map (pruned source)).filter fun t => t.kind == k).filterMap
        (Attribute.ofNode? source) =
      ((nodes.map tree).filter fun t => t.kind == k).filterMap (Attribute.ofNode? source) := by
  induction nodes with
  | nil => rfl
  | cons s nodes ih =>
    have hkind : ((s.pruned source).kind == k) = (s.tree.kind == k) := kind_pruned_beq hk s
    cases hs : s.tree.kind == k with
    | false => simpa [hkind, hs] using ih
    | true =>
      have htest : s.isTestItem source = false :=
        not_isTestItem_of_kind fun hmem => hk (List.mem_cons_of_mem _ (eq_of_beq hs ▸ hmem))
      have hsame : Attribute.ofNode? source (s.pruned source) = Attribute.ofNode? source s.tree := by
        rw [pruned_of_not_isTestItem htest, ofNode?_withoutTests]
      simp only [List.map_cons, List.filter_cons, hkind, hs, if_true, List.filterMap_cons, hsame, ih]

theorem innerAttributes_withoutTests (s : Site) :
    (s.tree.withoutTests source s.above).innerAttributes source =
      s.tree.innerAttributes source := by
  obtain ⟨hpruned, hplain⟩ := namedChildren_withoutTests source s
  rw [Tree.innerAttributes, Tree.innerAttributes, hpruned, hplain]
  exact attributes_map_pruned (by decide) _

/-- Blanking the siblings before an item keeps the run of attributes that decorates it. -/
theorem outerAttributes_prune (s : Site) :
    (s.prune source).outerAttributes source = s.outerAttributes source := by
  have hrun (image : Site → Tree) (himage : ∀ c, (image c).isDecoration = c.tree.isDecoration) :
      (((earlier s.above s.before).map image).takeWhile Tree.isDecoration).reverse =
        ((earlier s.above s.before).takeWhile fun c => c.tree.isDecoration).reverse.map image := by
    rw [List.takeWhile_map, List.map_reverse]
    simp only [Function.comp_def, himage]
  have hplain := hrun tree fun _ => rfl
  have hpruned := hrun (pruned source) isDecoration_pruned
  rw [map_tree_earlier] at hplain
  rw [outerAttributes, outerAttributes, prune, hplain, hpruned]
  exact attributes_map_pruned (by decide) _

-- ---------------------------------------------------------------------------
-- Pruned sites
-- ---------------------------------------------------------------------------

/-- The first child that fills a field, with what surrounds it. -/
def childByField? (name : String) (s : Site) : Option Site :=
  s.children.find? fun c => c.tree.data.field == some name

variable (source) in
theorem childByField?_withoutTests (name : String) (s : Site) :
    (s.tree.withoutTests source s.above).childByField? name =
        (s.childByField? name).map (pruned source) ∧
      s.tree.childByField? name = (s.childByField? name).map tree :=
  find?_children_withoutTests source _ (fun c => by rw [field_pruned]) s

theorem tree_prune_of_isTestItem {s : Site} (h : s.isTestItem source = true) :
    (s.prune source).tree = s.tree.blanked := pruned_of_isTestItem h

theorem tree_prune {s : Site} (h : s.isTestItem source = false) :
    (s.prune source).tree = s.tree.withoutTests source s.above := pruned_of_not_isTestItem h

theorem kind_prune_of_isTestItem {s : Site} (h : s.isTestItem source = true) :
    (s.prune source).kind = .other := by
  have hkind : (s.prune source).tree.kind = "empty_statement" := by
    rw [tree_prune_of_isTestItem h]
    rfl
  simp [kind, Tree.isFunctionLike, hkind]

theorem kind_prune {s : Site} (h : s.isTestItem source = false) :
    (s.prune source).kind = s.kind := by
  refine kind_congr ?_ rfl
  rw [tree_prune h, kind_withoutTests]

theorem children_prune_of_isTestItem {s : Site} (h : s.isTestItem source = true) :
    (s.prune source).children = [] := by
  rw [children, tree_prune_of_isTestItem h]
  rfl

theorem children_prune {s : Site} (h : s.isTestItem source = false) :
    (s.prune source).children = s.children.map (prune source) := by
  rw [← children_pruneBelow, children, tree_prune h]
  rfl

end Site

end UnsafeCensus
