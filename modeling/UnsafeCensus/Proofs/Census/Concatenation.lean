import Mathlib.Algebra.BigOperators.Group.List.Lemmas
import UnsafeCensus.Proofs.Census.Following
import UnsafeCensus.Proofs.Census.Forbidding

/-!
# A census piece by piece

Items are counted alike wherever they stand among others: only the attributes in front of an item
reach beyond it, and they end at a node that is neither an attribute nor a comment. Where lists of
items end with such nodes, the census of all of them is put together from the censuses of each.
-/

namespace UnsafeCensus

-- ---------------------------------------------------------------------------
-- Lists of items
-- ---------------------------------------------------------------------------

namespace Site

/-- A root with other children. -/
def holding (root : Site) (ts : List Tree) : Site :=
  ⟨.node root.tree.data ts, root.above, root.before⟩

theorem siblings_append (above : List String) (before ts us : List Tree) :
    siblings above before (ts ++ us) =
      siblings above before ts ++ siblings above (ts.reverse ++ before) us := by
  induction ts generalizing before with
  | nil => rfl
  | cons t ts ih => simp [siblings, ih]

end Site

/-- What follows is not decorated from here: the last node, if there is one, is neither an attribute
nor a comment. -/
def IsChunk (ts : List Tree) : Prop :=
  ∀ t ∈ ts.getLast?, t.isDecoration = false

instance (ts : List Tree) : Decidable (IsChunk ts) :=
  inferInstanceAs (Decidable (∀ t ∈ ts.getLast?, t.isDecoration = false))

theorem IsChunk.decorations_reverse {ts : List Tree} (h : IsChunk ts) (source : List UInt8) :
    Tree.decorations source ts.reverse = Tree.decorations source [] := by
  rw [← List.nil_append ts.reverse]
  apply Tree.decorations_append
  rwa [List.head?_reverse]

/-- The census of a root that holds some items. -/
def Metrics.ofItems (source : List UInt8) (includeTests : Bool) (root : Site) (ts : List Tree) :
    Metrics :=
  .ofSite source includeTests (root.holding ts)

namespace Census

variable {source : List UInt8} {includeTests : Bool} {root : Site}

-- ---------------------------------------------------------------------------
-- Visits behind other items
-- ---------------------------------------------------------------------------

variable (source includeTests root) in
/-- The visits at and below items of a root that stand behind others. -/
def visitsBehind (before ts : List Tree) : List (Traversal.Frame Context) :=
  Traversal.visits (enter source includeTests)
    ((Site.siblings (root.tree.kind :: root.above) before ts).map fun s => (outermost, s))

theorem visits_holding_append (ts us : List Tree) :
    visits source includeTests (root.holding (ts ++ us)) =
      visits source includeTests (root.holding ts) ++
        visitsBehind source includeTests root ts.reverse us := by
  have hchildren : (root.holding (ts ++ us)).children =
      (root.holding ts).children ++
        Site.siblings (root.tree.kind :: root.above) ts.reverse us := by
    have h := Site.siblings_append (root.tree.kind :: root.above) [] ts us
    rwa [List.append_nil] at h
  unfold visits visitsBehind Traversal.push
  simp only [hchildren, List.map_append, Traversal.visits_append]

/-- Items that stand behind a chunk are visited as if they stood in front. -/
theorem thinned_visitsBehind {ts : List Tree} (h : IsChunk ts) (us : List Tree) :
    Thinned (Follows source false) (fun f => f.2.IsIdle)
      (visits source includeTests (root.holding us))
      (visitsBehind source includeTests root ts.reverse us) := by
  -- No node is edited: the two lists of siblings differ in what stands in front of them.
  have hsites : Thinned (Site.Resembles source false) Site.IsIdle
      (Site.siblings (root.tree.kind :: root.above) [] us)
      (Site.siblings (root.tree.kind :: root.above) ts.reverse
        (Tree.editedAll (.relabelling id) us)) := by
    refine Site.thinned_siblings us _ _ _ (h.decorations_reverse source) ?_
    intro i c _
    constructor
    · intro p t _
      exact .inl rfl
    · intro p s _ hnone
      cases hnone
  rw [Tree.editedAll_relabelling_id] at hsites
  exact thinned_visits (thinned_outermost hsites)

-- ---------------------------------------------------------------------------
-- Two lists of items
-- ---------------------------------------------------------------------------

theorem counters_ofItems_append {ts : List Tree} (h : IsChunk ts) (us : List Tree) :
    (Metrics.ofItems source includeTests root (ts ++ us)).counters =
      (Metrics.ofItems source includeTests root ts).counters +
        (Metrics.ofItems source includeTests root us).counters := by
  have hbehind : ((visitsBehind source includeTests root ts.reverse us).map
        (added source includeTests)).sum =
      ((visits source includeTests (root.holding us)).map (added source includeTests)).sum :=
    CounterBlock.Rises.eq (rises_sum_added (thinned_visitsBehind h us))
  simp only [Metrics.ofItems, counters_eq_sum, visits_holding_append, List.map_append,
    List.sum_append, hbehind]

theorem forbiddingScopes_ofItems_append {ts : List Tree} (h : IsChunk ts) (us : List Tree) :
    (Metrics.ofItems source includeTests root (ts ++ us)).forbiddingScopes =
      (Metrics.ofItems source includeTests root ts).forbiddingScopes ++
        (Metrics.ofItems source includeTests root us).forbiddingScopes := by
  have hbehind : (visitsBehind source includeTests root ts.reverse us).flatMap
        (reported source includeTests) =
      (visits source includeTests (root.holding us)).flatMap (reported source includeTests) :=
    flatMap_reported_eq (thinned_visitsBehind h us)
  simp only [Metrics.ofItems, forbiddingScopes_eq_flatMap, visits_holding_append,
    List.flatMap_append, hbehind]

/-- What the items say about the whole is said by some of them. -/
theorem forbidsUnsafe_ofItems_append (ts us : List Tree) :
    (Metrics.ofItems source includeTests root (ts ++ us)).forbidsUnsafe =
      ((Metrics.ofItems source includeTests root ts).forbidsUnsafe ||
        (Metrics.ofItems source includeTests root us).forbidsUnsafe) := by
  have hinner : (root.holding (ts ++ us)).tree.innerAttributes source =
      (root.holding ts).tree.innerAttributes source ++
        (root.holding us).tree.innerAttributes source := by
    simp [Tree.innerAttributes, Tree.namedChildren, Tree.children, Site.holding]
  simp only [Metrics.ofItems, Metrics.ofSite, hinner, SafetyPolicy.ofAttributes_eq_forbidden,
    List.mem_append, or_and_right, exists_or, Bool.decide_or]

theorem risky_ofItems_nonneg (ts : List Tree) (k : Category) :
    0 ≤ ((Metrics.ofItems source includeTests root ts).counters.get k).risky := by
  calc
    0 ≤ ((countedPositions source includeTests (root.holding ts) k true).length : Int) :=
      Int.natCast_nonneg _
    _ = _ := (part_counters (root.holding ts) k true).symm

/-- Blocks of numbers that are not negative have unsafe occurrences together if one of them does. -/
theorem hasUnsafe_add {a b : CounterBlock} (ha : ∀ k, 0 ≤ (a.get k).risky)
    (hb : ∀ k, 0 ≤ (b.get k).risky) : (a + b).hasUnsafe = (a.hasUnsafe || b.hasUnsafe) := by
  rw [Bool.eq_iff_iff, Bool.or_eq_true]
  simp only [CounterBlock.hasUnsafe, List.any_eq_true, decide_eq_true_eq, ← exists_or,
    ← and_or_left, CounterBlock.get_add, Count.risky_add]
  refine exists_congr fun k => and_congr_right fun _ => ?_
  have hak := ha k
  have hbk := hb k
  omega

-- ---------------------------------------------------------------------------
-- Any number of lists
-- ---------------------------------------------------------------------------

variable (source includeTests root) in
/-- The counts of several lists of items in one block, where each list is counted for itself. -/
def summed (chunks : List (List Tree)) : CounterBlock :=
  (chunks.map fun ts => (Metrics.ofItems source includeTests root ts).counters).sum

theorem counters_ofItems_nil : (Metrics.ofItems source includeTests root []).counters = 0 := by
  rw [Metrics.ofItems, counters_eq_sum]
  simp [visits, Traversal.push, Site.children, Site.holding, Tree.children, Site.siblings]

theorem counters_ofItems_flatten {chunks : List (List Tree)} (h : ∀ ts ∈ chunks, IsChunk ts) :
    (Metrics.ofItems source includeTests root chunks.flatten).counters =
      summed source includeTests root chunks := by
  induction chunks with
  | nil => exact counters_ofItems_nil
  | cons ts chunks ih =>
    rw [List.forall_mem_cons] at h
    rw [List.flatten_cons, counters_ofItems_append h.1, ih h.2, summed, summed, List.map_cons,
      List.sum_cons]

theorem summed_perm {chunks chunks' : List (List Tree)} (h : chunks.Perm chunks') :
    summed source includeTests root chunks = summed source includeTests root chunks' :=
  (h.map _).sum_eq

variable (source includeTests root) in
/-- The census of two lists of items is put together from those of each, if the first one is a
chunk. So chunks may be counted one by one: the sum is the same for any chunks that the items are
cut into, and in any order of the chunks. -/
theorem census_adds_up :
    (∀ ts us, IsChunk ts →
      let whole := Metrics.ofItems source includeTests root (ts ++ us)
      let first := Metrics.ofItems source includeTests root ts
      let second := Metrics.ofItems source includeTests root us
      whole.counters = first.counters + second.counters ∧
      whole.forbiddingScopes = first.forbiddingScopes ++ second.forbiddingScopes ∧
      whole.forbidsUnsafe = (first.forbidsUnsafe || second.forbidsUnsafe) ∧
      whole.counters.hasUnsafe = (first.counters.hasUnsafe || second.counters.hasUnsafe)) ∧
    (∀ chunks chunks' : List (List Tree), (∀ ts ∈ chunks, IsChunk ts) →
      (∀ ts ∈ chunks', IsChunk ts) →
      (Metrics.ofItems source includeTests root chunks.flatten).counters =
        summed source includeTests root chunks ∧
      (chunks.flatten = chunks'.flatten →
        summed source includeTests root chunks = summed source includeTests root chunks') ∧
      (chunks.Perm chunks' →
        (Metrics.ofItems source includeTests root chunks.flatten).counters =
          (Metrics.ofItems source includeTests root chunks'.flatten).counters)) := by
  constructor
  · intro ts us hts
    refine ⟨counters_ofItems_append hts us, forbiddingScopes_ofItems_append hts us,
      forbidsUnsafe_ofItems_append ts us, ?_⟩
    rw [counters_ofItems_append hts us]
    exact hasUnsafe_add (risky_ofItems_nonneg ts) (risky_ofItems_nonneg us)
  · intro chunks chunks' h h'
    refine ⟨counters_ofItems_flatten h, ?_, ?_⟩
    · intro heq
      rw [← counters_ofItems_flatten h, ← counters_ofItems_flatten h', heq]
    · intro hperm
      rw [counters_ofItems_flatten h, counters_ofItems_flatten h', summed_perm hperm]

-- ---------------------------------------------------------------------------
-- A function and a test
-- ---------------------------------------------------------------------------

/-- The source `unsafe fn a(){}#[test]fn b(){}`. -/
def functionAndTest : List UInt8 := [
  0x75, 0x6E, 0x73, 0x61, 0x66, 0x65, 0x20, 0x66, 0x6E, 0x20, 0x61, 0x28, 0x29, 0x7B, 0x7D, 0x23,
  0x5B, 0x74, 0x65, 0x73, 0x74, 0x5D, 0x66, 0x6E, 0x20, 0x62, 0x28, 0x29, 0x7B, 0x7D]

/-- The node of the unsafe function. -/
def markedFunction : List Tree :=
  [.ofRule "function_item" 0 15 [.ofRule "function_modifiers" 0 6 [.ofToken "unsafe" 0 6]]]

/-- The nodes of the test, of which the first is its attribute. -/
def decoratedTest : List Tree :=
  [.ofRule "attribute_item" 15 22 [.ofRule "attribute" 17 21 []], .ofRule "function_item" 22 30 []]

theorem function_and_test_add_up :
    let count := Metrics.ofItems functionAndTest false (.root (.ofRule "source_file" 0 30 []))
    let sum := summed functionAndTest false (.root (.ofRule "source_file" 0 30 []))
    IsChunk markedFunction ∧ IsChunk decoratedTest ∧
      (count (markedFunction ++ decoratedTest)).counters =
        (count markedFunction).counters + (count decoratedTest).counters ∧
      [markedFunction, decoratedTest].flatten = [markedFunction ++ decoratedTest].flatten ∧
      sum [markedFunction, decoratedTest] = sum [markedFunction ++ decoratedTest] ∧
      [markedFunction, decoratedTest].Perm [decoratedTest, markedFunction] ∧
      (count [markedFunction, decoratedTest].flatten).counters =
        (count [decoratedTest, markedFunction].flatten).counters := by
  have hfunction : IsChunk markedFunction := by decide
  have htest : IsChunk decoratedTest := by decide
  have hwhole : IsChunk (markedFunction ++ decoratedTest) := by decide
  obtain ⟨htwo, hmany⟩ :=
    census_adds_up functionAndTest false (.root (.ofRule "source_file" 0 30 []))
  have hgroups := hmany [markedFunction, decoratedTest] [markedFunction ++ decoratedTest]
    (by simp [hfunction, htest]) (by simp [hwhole])
  have horder := hmany [markedFunction, decoratedTest] [decoratedTest, markedFunction]
    (by simp [hfunction, htest]) (by simp [hfunction, htest])
  have hperm : [markedFunction, decoratedTest].Perm [decoratedTest, markedFunction] := .swap ..
  exact ⟨hfunction, htest, (htwo _ _ hfunction).1, rfl, hgroups.2.1 rfl, hperm, horder.2.2 hperm⟩

end Census

end UnsafeCensus
