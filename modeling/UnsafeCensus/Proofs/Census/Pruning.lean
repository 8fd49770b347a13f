import UnsafeCensus.Proofs.Census.Sums
import UnsafeCensus.Proofs.Census.TestItems

/-!
# Leaving tests out

A census without tests is the census of the tree from which the test items have been cut. The walk
over the pruned tree makes the visits of the walk that leaves tests out, one for one, and what
stands in the place of a test item adds nothing.
-/

namespace UnsafeCensus.Census

variable {source : List UInt8}

-- ---------------------------------------------------------------------------
-- The walk over the pruned tree
-- ---------------------------------------------------------------------------

theorem moduleName_withoutTests (s : Site) :
    moduleName source (s.tree.withoutTests source s.above) = moduleName source s.tree := by
  obtain ⟨hpruned, hplain⟩ := Site.childByField?_withoutTests source "name" s
  rw [moduleName, moduleName, hpruned, hplain]
  cases s.childByField? "name" with
  | none => rfl
  | some name => simp only [Option.map_some, Site.text_pruned]

theorem inside_prune (c : Context) {s : Site} (h : s.isTestItem source = false) :
    Context.inside source c (s.prune source) = Context.inside source c s := by
  rw [Context.inside, Context.inside, Site.kind_prune h, Site.tree_prune h,
    Site.isMarkedUnsafe_withoutTests, moduleName_withoutTests]

/-- The frame of a node in the pruned tree. -/
def pruneFrame (source : List UInt8) (f : Traversal.Frame Context) : Traversal.Frame Context :=
  (f.1, f.2.prune source)

/-- A turn over the pruned tree that takes tests as they come pushes what the same turn over the
whole tree pushes that leaves tests out. -/
theorem push_prune (c : Context) (s : Site) :
    Traversal.push (s.prune source) (enter source true c (s.prune source)) =
      (Traversal.push s (enter source false c s)).map (pruneFrame source) := by
  cases htest : s.isTestItem source with
  | true => simp [enter, skips, Traversal.push, htest, Site.children_prune_of_isTestItem htest]
  | false =>
    simp [enter, skips, Traversal.push, htest, Site.children_prune htest, inside_prune c htest,
      pruneFrame]

theorem visits_pruneBelow (root : Site) :
    visits source true (root.pruneBelow source) =
      (visits source false root).map (pruneFrame source) := by
  have hpush : Traversal.push (root.pruneBelow source) (some outermost) =
      (Traversal.push root (some outermost)).map (pruneFrame source) := by
    simp [Traversal.push, Site.children_pruneBelow, pruneFrame]
  rw [visits, visits, hpush]
  exact Traversal.visits_map push_prune _

-- ---------------------------------------------------------------------------
-- What the visits of the pruned tree contribute
-- ---------------------------------------------------------------------------

theorem contribution_prune (c : Context) {s : Site} (h : s.isTestItem source = false) :
    contribution c (s.prune source) = contribution c s := by
  funext k
  cases k <;> simp only [contribution, Site.kind_prune h, Site.tree_prune h,
    Site.isMarkedUnsafe_withoutTests, Site.statementCount_withoutTests]

theorem contribution_prune_of_isTestItem (c : Context) {s : Site} (h : s.isTestItem source = true)
    (k : Category) : contribution c (s.prune source) k = .zero := by
  cases k <;> simp [contribution, Site.kind_prune_of_isTestItem h]

theorem forbiddingScope?_prune_of_isTestItem (c : Context) {s : Site}
    (h : s.isTestItem source = true) : forbiddingScope? source c (s.prune source) = none := by
  simp [forbiddingScope?, Site.kind_prune_of_isTestItem h]

/-- If a module, one whose body is no test item. -/
def KeepsBody (source : List UInt8) (s : Site) : Prop :=
  s.kind = .module → ∀ b ∈ s.childByField? "body", b.isTestItem source = false
deriving Decidable

theorem scopeAttributes_prune {s : Site} (h : s.isTestItem source = false)
    (hbody : ∀ b ∈ s.childByField? "body", b.isTestItem source = false) :
    scopeAttributes source (s.prune source) = scopeAttributes source s := by
  obtain ⟨hpruned, hplain⟩ := Site.childByField?_withoutTests source "body" s
  rw [scopeAttributes, scopeAttributes, Site.outerAttributes_prune, Site.tree_prune h, hpruned,
    hplain]
  cases hfind : s.childByField? "body" with
  | none => rfl
  | some b =>
    simp only [Option.map_some, Site.pruned_of_not_isTestItem (hbody b hfind),
      Site.innerAttributes_withoutTests]

theorem forbiddingScope?_prune (c : Context) {s : Site} (h : s.isTestItem source = false)
    (hbody : KeepsBody source s) :
    forbiddingScope? source c (s.prune source) = forbiddingScope? source c s := by
  by_cases hkind : s.kind = .module
  · rw [forbiddingScope?, forbiddingScope?, scopeAttributes_prune h (hbody hkind),
      Site.kind_prune h, Site.tree_prune h, moduleName_withoutTests]
  · simp [forbiddingScope?, Site.kind_prune h, hkind]

/-- A visit of the pruned tree adds what the visit adds where tests are left out. -/
theorem added_prune (f : Traversal.Frame Context) :
    added source true (pruneFrame source f) = added source false f := by
  cases htest : f.2.isTestItem source with
  | true =>
    have hzero : contribution f.1 (f.2.prune source) = fun _ => .zero :=
      funext (contribution_prune_of_isTestItem f.1 htest)
    simp only [added, skips, htest, pruneFrame, hzero]
    rfl
  | false => simp [added, skips, htest, pruneFrame, contribution_prune f.1 htest]

theorem reported_prune {f : Traversal.Frame Context} (h : KeepsBody source f.2) :
    reported source true (pruneFrame source f) = reported source false f := by
  cases htest : f.2.isTestItem source with
  | true =>
    simp [reported, skips, htest, pruneFrame, forbiddingScope?_prune_of_isTestItem f.1 htest]
  | false => simp [reported, skips, htest, pruneFrame, forbiddingScope?_prune f.1 htest h]

/-- No module has a body that is a test item. -/
def BodiesKept (source : List UInt8) (root : Site) : Prop :=
  ∀ p, ∀ s ∈ root.at? p, KeepsBody source s

theorem bodiesKept_iff {root : Site} :
    BodiesKept source root ↔ ∀ p ∈ root.tree.positions, ∀ s ∈ root.at? p, KeepsBody source s :=
  Site.forall_at?_iff

instance (root : Site) : Decidable (BodiesKept source root) :=
  decidable_of_iff _ bodiesKept_iff.symm

theorem exists_at?_of_mem_visits {includeTests : Bool} {root : Site}
    {f : Traversal.Frame Context} (h : f ∈ visits source includeTests root) :
    ∃ p, root.at? p = some f.2 := by
  rw [← map_snd_placedVisits, List.mem_map] at h
  obtain ⟨⟨p, f⟩, hplaced, rfl⟩ := h
  exact ⟨p, (mem_placedVisits.mp hplaced).2.node⟩

theorem ofSite_pruneBelow {root : Site} (hbodies : BodiesKept source root) :
    Metrics.ofSite source true (root.pruneBelow source) = Metrics.ofSite source false root := by
  have hvisited (f : Traversal.Frame Context) (hf : f ∈ visits source false root) :
      KeepsBody source f.2 := by
    obtain ⟨p, hp⟩ := exists_at?_of_mem_visits hf
    exact hbodies p f.2 hp
  have hroot : (root.pruneBelow source).tree.innerAttributes source =
      root.tree.innerAttributes source := Site.innerAttributes_withoutTests root
  have hadded : ((visits source false root).map (pruneFrame source)).map (added source true) =
      (visits source false root).map (added source false) := by
    rw [List.map_map]
    exact List.map_congr_left fun f _ => added_prune f
  have hreported : ((visits source false root).map (pruneFrame source)).flatMap
        (reported source true) =
      (visits source false root).flatMap (reported source false) := by
    rw [List.flatMap_map]
    exact List.flatMap_congr fun f hf => reported_prune (hvisited f hf)
  rw [ofSite_eq, ofSite_eq, visits_pruneBelow, hadded, hreported, hroot]

-- ---------------------------------------------------------------------------
-- With tests and without
-- ---------------------------------------------------------------------------

section

variable {includeTests : Bool} {root : Site}

theorem Live.withTests {p : Position} {s : Site} (h : Live source includeTests root p s) :
    Live source true root p s :=
  ⟨h.below, h.node, fun _ _ => rfl, rfl⟩

theorem Counted.withTests {k : Category} {risky : Bool} {p : Position}
    (h : Counted source includeTests root k risky p) : Counted source true root k risky p := by
  cases k with
  | exprs =>
    obtain ⟨b, ⟨s, i, n, hlive, hstmt⟩, hu⟩ := h
    exact ⟨b, ⟨s, i, n, hlive.withTests, hstmt⟩, hu⟩
  | functions | itemTraits | itemImpls | methods =>
    obtain ⟨s, hlive, hmark⟩ := h
    exact ⟨s, hlive.withTests, hmark⟩

theorem part_le_withTests (k : Category) (risky : Bool) :
    ((Metrics.ofSite source includeTests root).counters.get k).part risky ≤
      ((Metrics.ofSite source true root).counters.get k).part risky := by
  rw [← ncard_setOf_counted, ← ncard_setOf_counted, Int.ofNat_le]
  exact Set.ncard_le_ncard (fun p h => Counted.withTests h) (finite_setOf_counted ..)

theorem visits_sublist_withTests :
    (visits source includeTests root).Sublist (visits source true root) := by
  refine Traversal.visits_sublist (fun c s => ?_) _
  rw [enter, enter]
  cases skips source includeTests s with
  | true => exact .inl rfl
  | false => exact .inr rfl

/-- A census with tests leaves nothing out. -/
theorem filter_visits_withTests (root : Site) :
    ((visits source true root).filter fun f => !skips source true f.2) =
      visits source true root :=
  List.filter_eq_self.mpr fun _ _ => rfl

theorem forbiddingScopes_sublist_withTests :
    (Metrics.ofSite source includeTests root).forbiddingScopes.Sublist
      (Metrics.ofSite source true root).forbiddingScopes := by
  rw [Metrics.ofSite, Metrics.ofSite, filter_visits_withTests]
  exact (List.filter_sublist.trans visits_sublist_withTests).filterMap _

end

variable (source) in
/-- A census without tests is the census of the tree without its tests, unless a test item is the
body of a module. It counts no more than a census with tests, and lists part of the scopes in
order. -/
theorem leaving_out_is_cutting_out (root : Site) :
    (BodiesKept source root →
      Metrics.ofSite source false root = Metrics.ofSite source true (root.pruneBelow source)) ∧
    (∀ k risky, ((Metrics.ofSite source false root).counters.get k).part risky ≤
      ((Metrics.ofSite source true root).counters.get k).part risky) ∧
    (Metrics.ofSite source false root).forbiddingScopes.Sublist
      (Metrics.ofSite source true root).forbiddingScopes :=
  ⟨fun hbodies => (ofSite_pruneBelow hbodies).symm, part_le_withTests,
    forbiddingScopes_sublist_withTests⟩

-- ---------------------------------------------------------------------------
-- A test in a module
-- ---------------------------------------------------------------------------

/-- The source `mod m{#[test]fn a(){}}`. -/
def testInModule : List UInt8 := [
  0x6D, 0x6F, 0x64, 0x20, 0x6D, 0x7B, 0x23, 0x5B, 0x74, 0x65, 0x73, 0x74, 0x5D, 0x66, 0x6E, 0x20,
  0x61, 0x28, 0x29, 0x7B, 0x7D, 0x7D]

/-- The tree of that source, tokens left out, with a node in the place of the function. -/
def moduleAround (item : Tree) : Tree :=
  let rule (kind : String) (start stop : Nat) (field : Option String) (children : List Tree) : Tree :=
    .node ⟨kind, ⟨start, stop⟩, ⟨0, start⟩, true, false, false, false, false, field⟩ children
  let test := rule "attribute" 8 12 none [rule "identifier" 8 12 none []]
  let body := rule "declaration_list" 5 22 (some "body")
    [rule "attribute_item" 6 13 none [test], item]
  rule "source_file" 0 22 none
    [rule "mod_item" 0 22 none [rule "identifier" 4 5 (some "name") [], body]]

def testFunction : Tree :=
  .node ⟨"function_item", ⟨13, 21⟩, ⟨0, 13⟩, true, false, false, false, false, none⟩
    [.node ⟨"block", ⟨19, 21⟩, ⟨0, 19⟩, true, false, false, false, false, some "body"⟩ []]

theorem pruneBelow_moduleAround :
    (Site.root (moduleAround testFunction)).pruneBelow testInModule =
      Site.root (moduleAround testFunction.blanked) := rfl

theorem testFunction_cut_out :
    BodiesKept testInModule (.root (moduleAround testFunction)) ∧
      Metrics.ofTree testInModule false (moduleAround testFunction) =
        Metrics.ofTree testInModule true (moduleAround testFunction.blanked) := by
  have hbodies : BodiesKept testInModule (.root (moduleAround testFunction)) := by decide
  have h := (leaving_out_is_cutting_out testInModule (.root (moduleAround testFunction))).1 hbodies
  rw [pruneBelow_moduleAround] at h
  exact ⟨hbodies, h⟩

end UnsafeCensus.Census
