import Mathlib.Data.Set.Card
import UnsafeCensus.Proofs.Census.Walk

/-!
# What the counts of a census are

A census adds up contributions visit by visit. Here its counts are told apart from any order of
visits: each of them is the number of the nodes below the root that are live and of the right sort.
Nodes stand for their positions. A statement is counted at its own position, and whether it counts
as unsafe depends on the nodes that enclose its block.
-/

namespace UnsafeCensus

/-- One of the two numbers of a count. -/
def Count.part (c : Count) (risky : Bool) : Int :=
  if risky then c.risky else c.safe

theorem Count.part_add (a b : Count) (risky : Bool) :
    (a + b).part risky = a.part risky + b.part risky := by
  cases risky <;> rfl

theorem Count.total_eq (c : Count) : c.total = c.part false + c.part true := rfl

/-- The kind of the nodes that add to a category. -/
def Category.kind : Category → Kind
  | .functions => .function
  | .exprs => .block
  | .itemTraits => .trait
  | .itemImpls => .impl
  | .methods => .method

theorem Category.kind_injective {k k' : Category} (h : k.kind = k'.kind) : k = k' := by
  revert h
  cases k <;> cases k' <;> decide

/-- What the grammar calls the nodes that the census sees as a kind of its own. -/
def Kind.nodeKinds : Kind → List String
  | .function => ["function_item"]
  | .method => ["function_item", "function_signature_item"]
  | .trait => ["trait_item"]
  | .impl => ["impl_item"]
  | .module => ["mod_item"]
  | .block => ["block"]
  | .unsafeBlock => ["unsafe_block"]
  | .other => []

theorem Site.tree_kind_mem {s : Site} {kind : Kind} (h : s.kind = kind) (hother : kind ≠ .other) :
    s.tree.kind ∈ kind.nodeKinds := by
  subst h
  unfold Site.kind at hother ⊢
  by_cases hlike : s.tree.isFunctionLike = true
  · rw [if_pos hlike] at hother ⊢
    rw [Tree.isFunctionLike, Bool.or_eq_true, beq_iff_eq, beq_iff_eq] at hlike
    rcases hlike with hitem | hsignature
    · split <;> simp [hitem, Kind.nodeKinds]
    · split <;> simp_all [Kind.nodeKinds]
  · rw [if_neg hlike] at hother ⊢
    split <;> simp_all [Kind.nodeKinds]

theorem Site.kind_eq_other {s : Site} (h : ∀ kind : Kind, s.tree.kind ∉ kind.nodeKinds) :
    s.kind = .other := by
  by_contra hother
  exact h s.kind (tree_kind_mem rfl hother)

/-- What a node is seen as depends on its name and on what encloses it. -/
theorem Site.kind_congr {s s' : Site} (htree : s'.tree.kind = s.tree.kind)
    (habove : s'.above = s.above) : s'.kind = s.kind := by
  unfold kind isMethod Tree.isFunctionLike
  rw [htree, habove]

namespace Census

variable (source : List UInt8) (includeTests : Bool)

-- ---------------------------------------------------------------------------
-- Live nodes
-- ---------------------------------------------------------------------------

/-- The node at a position below the root is not left out, neither by itself nor with an item that
encloses it. -/
structure Live (root : Site) (p : Position) (s : Site) : Prop where
  below : p ≠ []
  node : root.at? p = some s
  enclosed : ∀ a ∈ root.between p, skips source includeTests a = false
  kept : skips source includeTests s = false

/-- A live node of a kind that is, or is not, marked as unsafe. -/
def Declares (root : Site) (kind : Kind) (risky : Bool) (p : Position) : Prop :=
  ∃ s, Live source includeTests root p s ∧ s.kind = kind ∧ s.tree.isMarkedUnsafe = risky

/-- The node at `c` is a child of the live block at `b` and is executed as a statement. -/
def StatementOf (root : Site) (b c : Position) : Prop :=
  ∃ s i n, Live source includeTests root b s ∧ s.kind = .block ∧ c = b ++ [i] ∧
    s.tree.children[i]? = some n ∧ n.isStatement

/-- The node at a position belongs to one of the two numbers of a category. -/
def Counted (root : Site) (k : Category) (risky : Bool) (p : Position) : Prop :=
  match k with
  | .functions => Declares source includeTests root .function risky p
  | .methods => Declares source includeTests root .method risky p
  | .itemTraits => Declares source includeTests root .trait risky p
  | .itemImpls => Declares source includeTests root .impl risky p
  | .exprs => ∃ b, StatementOf source includeTests root b p ∧ (risky = true ↔ InUnsafe root b)

variable {source includeTests}

theorem Live.reached {root s : Site} {p : Position} (h : Live source includeTests root p s) :
    Reached source includeTests root p :=
  ⟨h.below, by rw [h.node]; rfl, h.enclosed⟩

-- ---------------------------------------------------------------------------
-- One node, one number
-- ---------------------------------------------------------------------------

/-- No item that is counted by itself is a statement. -/
theorem isStatement_eq_false {s : Site} {k : Category} (hk : k ≠ .exprs) (h : s.kind = k.kind) :
    s.tree.isStatement = false := by
  have hlisted : k.kind.nodeKinds ⊆ Tree.nonStatementKinds := by
    cases k with
    | exprs => exact absurd rfl hk
    | functions | itemTraits | itemImpls | methods => decide
  have hmem : s.tree.kind ∈ Tree.nonStatementKinds :=
    hlisted (Site.tree_kind_mem h (by cases k <;> decide))
  simp [Tree.isStatement, hmem]

theorem tree_at?_append_singleton {root s : Site} {b : Position} (h : root.at? b = some s)
    (i : Nat) : (root.at? (b ++ [i])).map Site.tree = s.tree.children[i]? := by
  rw [Site.map_tree_at?, Tree.at?_append, ← Site.map_tree_at?, h, Option.map_some, Option.bind_some,
    Tree.at?_cons]
  cases s.tree.children[i]? <;> rfl

theorem StatementOf.isStatement {root s : Site} {b c : Position}
    (h : StatementOf source includeTests root b c) (hc : root.at? c = some s) :
    s.tree.isStatement = true := by
  obtain ⟨t, i, n, hlive, -, rfl, hn, hstmt⟩ := h
  have htree := tree_at?_append_singleton hlive.node i
  rw [hc, hn, Option.map_some] at htree
  rw [Option.some.inj htree]
  exact hstmt

/-- What `Counted` says of the items that are counted by themselves. -/
theorem counted_of_ne_exprs {root : Site} {k : Category} (hk : k ≠ .exprs) {risky : Bool}
    {p : Position} :
    Counted source includeTests root k risky p ↔
      Declares source includeTests root k.kind risky p := by
  cases k with
  | exprs => exact absurd rfl hk
  | functions | itemTraits | itemImpls | methods => exact Iff.rfl

/-- No node belongs to two of the numbers. -/
theorem Counted.unique {root : Site} {p : Position} {k k' : Category} {risky risky' : Bool}
    (h : Counted source includeTests root k risky p)
    (h' : Counted source includeTests root k' risky' p) : k = k' ∧ risky = risky' := by
  by_cases hk : k = .exprs <;> by_cases hk' : k' = .exprs
  · subst hk hk'
    obtain ⟨b, ⟨s, i, n, -, -, hp, -⟩, hu⟩ := h
    obtain ⟨b', ⟨s', i', n', -, -, hp', -⟩, hu'⟩ := h'
    obtain rfl : b = b' := by
      rw [← @List.dropLast_concat _ b i, ← hp, hp', List.dropLast_concat]
    exact ⟨rfl, Bool.eq_iff_iff.mpr (hu.trans hu'.symm)⟩
  · subst hk
    obtain ⟨b, hstmt, -⟩ := h
    obtain ⟨s, hlive, hkind, -⟩ := (counted_of_ne_exprs hk').mp h'
    exact absurd (hstmt.isStatement hlive.node) (by simp [isStatement_eq_false hk' hkind])
  · subst hk'
    obtain ⟨b, hstmt, -⟩ := h'
    obtain ⟨s, hlive, hkind, -⟩ := (counted_of_ne_exprs hk).mp h
    exact absurd (hstmt.isStatement hlive.node) (by simp [isStatement_eq_false hk hkind])
  · obtain ⟨s, hlive, hkind, hmark⟩ := (counted_of_ne_exprs hk).mp h
    obtain ⟨s', hlive', hkind', hmark'⟩ := (counted_of_ne_exprs hk').mp h'
    obtain rfl := Option.some.inj (hlive.node.symm.trans hlive'.node)
    exact ⟨Category.kind_injective (hkind.symm.trans hkind'), hmark.symm.trans hmark'⟩

-- ---------------------------------------------------------------------------
-- Contributions as positions
-- ---------------------------------------------------------------------------

/-- What a visit adds to a category is unsafe: by the context for statements, by the mark of the
node for all others. -/
def addsRisky (k : Category) (f : Traversal.Frame Context) : Bool :=
  match k with
  | .exprs => f.1.inUnsafe
  | _ => f.2.tree.isMarkedUnsafe

/-- The positions of the nodes that a visit at a position counts. -/
def counts (k : Category) (p : Position) (s : Site) : List Position :=
  match k with
  | .exprs => (s.tree.children.findIdxs Tree.isStatement).map fun i => p ++ [i]
  | _ => [p]

/-- The positions that a visit adds to one of the numbers of a category. -/
def contributed (k : Category) (risky : Bool) (v : Position × Traversal.Frame Context) :
    List Position :=
  if v.2.2.kind = k.kind ∧ addsRisky k v.2 = risky then counts k v.1 v.2.2 else []

theorem part_of (risky risky' : Bool) (n : Nat) :
    (Count.of risky n).part risky' = if risky = risky' then (n : Int) else 0 := by
  cases risky <;> cases risky' <;> rfl

theorem part_zero (risky : Bool) : Count.zero.part risky = 0 := by
  cases risky <;> rfl

theorem contribution_eq (k : Category) (p : Position) (f : Traversal.Frame Context) :
    contribution f.1 f.2 k =
      if f.2.kind = k.kind then Count.of (addsRisky k f) (counts k p f.2).length else .zero := by
  cases k <;> simp [contribution, Category.kind, addsRisky, counts, Tree.statementCount]

theorem part_contribution (k : Category) (risky : Bool)
    (v : Position × Traversal.Frame Context) :
    (contribution v.2.1 v.2.2 k).part risky = ((contributed k risky v).length : Int) := by
  rw [contribution_eq k v.1 v.2, contributed]
  by_cases hkind : v.2.2.kind = k.kind
  · by_cases hrisky : addsRisky k v.2 = risky <;> simp [hkind, hrisky, part_of]
  · simp [hkind, part_zero]

theorem mem_contributed {k : Category} {risky : Bool} {v : Position × Traversal.Frame Context}
    {q : Position} :
    q ∈ contributed k risky v ↔
      v.2.2.kind = k.kind ∧ addsRisky k v.2 = risky ∧ q ∈ counts k v.1 v.2.2 := by
  rw [contributed]
  split
  · next h => simp [h]
  · next h => simpa using fun hkind hrisky => absurd ⟨hkind, hrisky⟩ h

theorem mem_counts_exprs {p q : Position} {s : Site} :
    q ∈ counts .exprs p s ↔ ∃ i n, q = p ++ [i] ∧ s.tree.children[i]? = some n ∧ n.isStatement := by
  simp only [counts, List.mem_map, List.mem_findIdxs_iff_exists_getElem_pos]
  constructor
  · rintro ⟨i, ⟨hi, hstmt⟩, rfl⟩
    exact ⟨i, _, rfl, List.getElem?_eq_getElem hi, hstmt⟩
  · rintro ⟨i, n, rfl, hn, hstmt⟩
    obtain ⟨hi, rfl⟩ := List.getElem?_eq_some_iff.mp hn
    exact ⟨i, ⟨hi, hstmt⟩, rfl⟩

theorem mem_counts_of_ne_exprs {k : Category} (hk : k ≠ .exprs) {p q : Position} {s : Site} :
    q ∈ counts k p s ↔ q = p := by
  cases k with
  | exprs => exact absurd rfl hk
  | functions | itemTraits | itemImpls | methods => exact List.mem_singleton

/-- A counted position tells which visit counted it. -/
theorem eq_of_mem_contributed {k : Category} {risky : Bool}
    {v w : Position × Traversal.Frame Context} {q : Position}
    (hv : q ∈ contributed k risky v) (hw : q ∈ contributed k risky w) : v.1 = w.1 := by
  have hqv := (mem_contributed.mp hv).2.2
  have hqw := (mem_contributed.mp hw).2.2
  by_cases hk : k = .exprs
  · subst hk
    obtain ⟨i, n, rfl, -⟩ := mem_counts_exprs.mp hqv
    obtain ⟨j, m, heq, -⟩ := mem_counts_exprs.mp hqw
    exact List.append_inj_left' heq rfl
  · rw [mem_counts_of_ne_exprs hk] at hqv hqw
    exact hqv.symm.trans hqw

theorem nodup_contributed (k : Category) (risky : Bool)
    (v : Position × Traversal.Frame Context) : (contributed k risky v).Nodup := by
  rw [contributed]
  split
  · cases k with
    | exprs => exact List.nodup_findIdxs.map fun i j h => by simpa using h
    | functions | itemTraits | itemImpls | methods => exact List.nodup_singleton _
  · exact List.nodup_nil

-- ---------------------------------------------------------------------------
-- All contributions
-- ---------------------------------------------------------------------------

/-- The visits of the nodes that are not left out, with their positions. -/
def keptVisits (source : List UInt8) (includeTests : Bool) (root : Site) :
    List (Position × Traversal.Frame Context) :=
  (placedVisits source includeTests root).filter fun v => !skips source includeTests v.2.2

theorem map_snd_keptVisits (root : Site) :
    (keptVisits source includeTests root).map Prod.snd =
      (visits source includeTests root).filter fun f => !skips source includeTests f.2 := by
  rw [← map_snd_placedVisits, List.filter_map]
  rfl

theorem mem_keptVisits {root : Site} {p : Position} {f : Traversal.Frame Context} :
    (p, f) ∈ keptVisits source includeTests root ↔
      Live source includeTests root p f.2 ∧ VisitedAt source root p f := by
  rw [keptVisits, List.mem_filter, mem_placedVisits, Bool.not_eq_true']
  constructor
  · rintro ⟨⟨hreach, hf⟩, hkept⟩
    exact ⟨⟨hreach.below, hf.node, hreach.unskipped, hkept⟩, hf⟩
  · rintro ⟨hlive, hf⟩
    exact ⟨⟨hlive.reached, hf⟩, hlive.kept⟩

theorem Live.exists_mem_keptVisits {root s : Site} {p : Position}
    (h : Live source includeTests root p s) :
    ∃ c, (p, (c, s)) ∈ keptVisits source includeTests root := by
  obtain ⟨⟨c, t⟩, hf⟩ := exists_visitedAt h.reached
  obtain rfl := Option.some.inj (h.node.symm.trans hf.node)
  exact ⟨c, mem_keptVisits.mpr ⟨h, hf⟩⟩

theorem addsRisky_exprs_iff {root : Site} {p : Position} {f : Traversal.Frame Context}
    (hf : VisitedAt source root p f) (risky : Bool) :
    addsRisky .exprs f = risky ↔ (risky = true ↔ InUnsafe root p) := by
  rw [addsRisky, Bool.eq_iff_iff, hf.inUnsafe]
  exact Iff.comm

theorem counted_iff_exists_contributed {root : Site} {k : Category} {risky : Bool}
    {q : Position} :
    Counted source includeTests root k risky q ↔
      ∃ v ∈ keptVisits source includeTests root, q ∈ contributed k risky v := by
  by_cases hk : k = .exprs
  · subst hk
    constructor
    · rintro ⟨b, ⟨s, i, n, hlive, hkind, hq, hn, hstmt⟩, hu⟩
      obtain ⟨c, hmem⟩ := hlive.exists_mem_keptVisits
      refine ⟨_, hmem, mem_contributed.mpr ⟨hkind, ?_, mem_counts_exprs.mpr ⟨i, n, hq, hn, hstmt⟩⟩⟩
      exact (addsRisky_exprs_iff (mem_keptVisits.mp hmem).2 risky).mpr hu
    · rintro ⟨⟨b, f⟩, hmem, hq⟩
      obtain ⟨hlive, hf⟩ := mem_keptVisits.mp hmem
      obtain ⟨hkind, hu, hcount⟩ := mem_contributed.mp hq
      obtain ⟨i, n, hq, hn, hstmt⟩ := mem_counts_exprs.mp hcount
      exact ⟨b, ⟨f.2, i, n, hlive, hkind, hq, hn, hstmt⟩, (addsRisky_exprs_iff hf risky).mp hu⟩
  · have hmark : ∀ f : Traversal.Frame Context, addsRisky k f = f.2.tree.isMarkedUnsafe := by
      intro f
      cases k with
      | exprs => exact absurd rfl hk
      | functions | itemTraits | itemImpls | methods => rfl
    rw [counted_of_ne_exprs hk]
    constructor
    · rintro ⟨s, hlive, hkind, hrisky⟩
      obtain ⟨c, hmem⟩ := hlive.exists_mem_keptVisits
      refine ⟨_, hmem, mem_contributed.mpr ⟨hkind, (hmark _).trans hrisky, ?_⟩⟩
      exact (mem_counts_of_ne_exprs hk).mpr rfl
    · rintro ⟨⟨p, f⟩, hmem, hq⟩
      obtain ⟨hlive, -⟩ := mem_keptVisits.mp hmem
      obtain ⟨hkind, hrisky, hcount⟩ := mem_contributed.mp hq
      obtain rfl := (mem_counts_of_ne_exprs hk).mp hcount
      exact ⟨f.2, hlive, hkind, (hmark f).symm.trans hrisky⟩

/-- All positions that belong to one of the numbers of a category. -/
def countedPositions (source : List UInt8) (includeTests : Bool) (root : Site) (k : Category)
    (risky : Bool) : List Position :=
  (keptVisits source includeTests root).flatMap (contributed k risky)

theorem nodup_countedPositions (root : Site) (k : Category) (risky : Bool) :
    (countedPositions source includeTests root k risky).Nodup := by
  rw [countedPositions, List.nodup_flatMap]
  refine ⟨fun v _ => nodup_contributed k risky v, ?_⟩
  refine ((pairwise_placedVisits root).filter _).imp fun {v w} hlt q hv hw => ?_
  exact absurd (eq_of_mem_contributed hv hw) (ne_of_lt hlt)

theorem setOf_counted_eq (root : Site) (k : Category) (risky : Bool) :
    {p | Counted source includeTests root k risky p} =
      ↑(countedPositions source includeTests root k risky).toFinset := by
  ext p
  rw [Set.mem_ofPred_eq, counted_iff_exists_contributed, List.coe_toFinset, Set.mem_ofPred_eq,
    countedPositions, List.mem_flatMap]

theorem part_foldl (k : Category) (risky : Bool) (fs : List (Traversal.Frame Context))
    (b : CounterBlock) :
    ((fs.foldl (fun b f => b + .ofFun (contribution f.1 f.2)) b).get k).part risky =
      (b.get k).part risky + (fs.map fun f => (contribution f.1 f.2 k).part risky).sum := by
  induction fs generalizing b with
  | nil => simp
  | cons f fs ih =>
    rw [List.foldl_cons, ih, CounterBlock.get_add, CounterBlock.get_ofFun, Count.part_add,
      List.map_cons, List.sum_cons, Int.add_assoc]

theorem sum_part_contribution (k : Category) (risky : Bool)
    (vs : List (Position × Traversal.Frame Context)) :
    (vs.map ((fun f => (contribution f.1 f.2 k).part risky) ∘ Prod.snd)).sum =
      ((vs.flatMap (contributed k risky)).length : Int) := by
  induction vs with
  | nil => rfl
  | cons v vs ih =>
    rw [List.map_cons, List.sum_cons, ih, List.flatMap_cons, List.length_append, Int.natCast_add,
      ← part_contribution]
    rfl

theorem part_counters (root : Site) (k : Category) (risky : Bool) :
    ((Metrics.ofSite source includeTests root).counters.get k).part risky =
      ((countedPositions source includeTests root k risky).length : Int) := by
  have hzero : (CounterBlock.zero.get k).part risky = 0 := by
    cases k <;> exact part_zero risky
  rw [Metrics.ofSite, part_foldl, hzero, Int.zero_add, ← map_snd_keptVisits, List.map_map,
    countedPositions]
  exact sum_part_contribution k risky _

-- ---------------------------------------------------------------------------
-- Exactness
-- ---------------------------------------------------------------------------

theorem ncard_setOf_counted (root : Site) (k : Category) (risky : Bool) :
    ({p | Counted source includeTests root k risky p}.ncard : Int) =
      ((Metrics.ofSite source includeTests root).counters.get k).part risky := by
  rw [part_counters, setOf_counted_eq, Set.ncard_coe_finset,
    List.toFinset_card_of_nodup (nodup_countedPositions root k risky)]

theorem finite_setOf_counted (root : Site) (k : Category) (risky : Bool) :
    {p | Counted source includeTests root k risky p}.Finite := by
  rw [setOf_counted_eq]
  exact Finset.finite_toSet _

/-- The statements of live blocks are those that count as safe and those that count as unsafe. -/
theorem setOf_statement_eq_union (root : Site) :
    {c | ∃ b, StatementOf source includeTests root b c} =
      {c | Counted source includeTests root .exprs false c} ∪
        {c | Counted source includeTests root .exprs true c} := by
  ext c
  rw [Set.mem_union, Set.mem_ofPred_eq, Set.mem_ofPred_eq, Set.mem_ofPred_eq]
  constructor
  · rintro ⟨b, h⟩
    by_cases hu : InUnsafe root b
    · exact .inr ⟨b, h, iff_of_true rfl hu⟩
    · exact .inl ⟨b, h, iff_of_false Bool.false_ne_true hu⟩
  · rintro (⟨b, h, -⟩ | ⟨b, h, -⟩) <;> exact ⟨b, h⟩

theorem ncard_statements (root : Site) :
    ({c | ∃ b, StatementOf source includeTests root b c}.ncard : Int) =
      (Metrics.ofSite source includeTests root).counters.exprs.total := by
  have hdisjoint : Disjoint {c | Counted source includeTests root .exprs false c}
      {c | Counted source includeTests root .exprs true c} := by
    rw [Set.disjoint_left]
    intro c hsafe hrisky
    rw [Set.mem_ofPred_eq] at hsafe hrisky
    exact Bool.false_ne_true (hsafe.unique hrisky).2
  rw [setOf_statement_eq_union, Set.ncard_union_eq hdisjoint (finite_setOf_counted ..)
    (finite_setOf_counted ..), Int.natCast_add, ncard_setOf_counted, ncard_setOf_counted]
  exact (Count.total_eq _).symm

variable (source includeTests) in
/-- Each number of a census is the number of the nodes that belong to it. A node belongs to at most
one of them, and each statement of a live block to exactly one. -/
theorem counts_are_numbers_of_live_nodes (root : Site) :
    (∀ k risky, {p | Counted source includeTests root k risky p}.Finite ∧
      ((Metrics.ofSite source includeTests root).counters.get k).part risky =
        {p | Counted source includeTests root k risky p}.ncard) ∧
    (∀ p k k' risky risky', Counted source includeTests root k risky p →
      Counted source includeTests root k' risky' p → k = k' ∧ risky = risky') ∧
    (Metrics.ofSite source includeTests root).counters.exprs.total =
      {c | ∃ b, StatementOf source includeTests root b c}.ncard :=
  ⟨fun k risky => ⟨finite_setOf_counted root k risky, (ncard_setOf_counted root k risky).symm⟩,
    fun _ _ _ _ _ h h' => h.unique h', (ncard_statements root).symm⟩

end Census

end UnsafeCensus
