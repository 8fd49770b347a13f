import UnsafeCensus.Proofs.Census.Following

/-!
# Detection and counting

What is counted is a matter of the shape of a tree, whatever the text says: the text decides only
which items are tests. What is unsafe is a matter of marks: a mark moves what it governs from safe
to unsafe, and neither adds to the counts nor touches what is reported of scopes.
-/

namespace UnsafeCensus

-- ---------------------------------------------------------------------------
-- Trees without their texts
-- ---------------------------------------------------------------------------

/-- What remains of a node when its text is forgotten. -/
def Node.shape (d : Node) : Node :=
  { d with span := ⟨0, 0⟩, point := ⟨0, 0⟩, textless := false }

namespace Tree

/-- What remains of a tree when its texts are forgotten. -/
def outline (t : Tree) : Tree :=
  t.edited (.relabelling Node.shape)

@[simp] theorem kind_outline (t : Tree) : t.outline.kind = t.kind := by
  simp [outline, kind, Node.shape]

@[simp] theorem named_outline (t : Tree) : t.outline.named = t.named := by
  simp [outline, named, Node.shape]

@[simp] theorem children_outline (t : Tree) : t.outline.children = t.children.map outline :=
  children_edited_relabelling Node.shape t

@[simp] theorem isComment_outline (t : Tree) : t.outline.isComment = t.isComment := by
  simp [isComment]

@[simp] theorem isMarkedUnsafe_outline (t : Tree) :
    t.outline.isMarkedUnsafe = t.isMarkedUnsafe := by
  unfold isMarkedUnsafe isFunctionLike
  simp only [kind_outline, children_outline, List.find?_map, List.any_map, Function.comp_def]
  cases t.children.find? fun c => c.kind == "function_modifiers" with
  | none => rfl
  | some modifiers => simp [Function.comp_def]

@[simp] theorem wrapsUnsafeBlock_outline (t : Tree) :
    t.outline.wrapsUnsafeBlock = t.wrapsUnsafeBlock := by
  unfold wrapsUnsafeBlock namedChildren
  simp only [kind_outline, children_outline, List.filter_map, Function.comp_def, named_outline,
    isComment_outline]
  generalize (t.children.filter fun c => c.named).filter _ = spoken
  match spoken with
  | [] => rfl
  | [c] => simp
  | _ :: _ :: _ => rfl

@[simp] theorem isStatement_outline (t : Tree) : t.outline.isStatement = t.isStatement := by
  simp [isStatement]

@[simp] theorem statementCount_outline (t : Tree) :
    t.outline.statementCount = t.statementCount := by
  simp [statementCount, List.countP_map, Function.comp_def]

end Tree

-- ---------------------------------------------------------------------------
-- Sites of one shape
-- ---------------------------------------------------------------------------

namespace Site

/-- Two nodes whose trees differ in texts only, with a relation between the nodes below. -/
structure Mirrors (agree : Site → Site → Prop) (s s' : Site) : Prop where
  above : s'.above = s.above
  outline : s'.tree.outline = s.tree.outline
  below : ∀ p, ∀ n ∈ s.at? p, p ≠ [] → ∀ n' ∈ s'.at? p, agree n n'

theorem above_eq_of_mem_siblings {above : List String} {before ts : List Tree} {s : Site}
    (h : s ∈ siblings above before ts) : s.above = above := by
  induction ts generalizing before with
  | nil => cases h
  | cons t ts ih =>
    rcases List.mem_cons.mp h with rfl | h
    · rfl
    · exact ih h

namespace Mirrors

variable {agree : Site → Site → Prop} {s s' : Site}

theorem tree_kind_eq (h : s.Mirrors agree s') : s'.tree.kind = s.tree.kind := by
  rw [← Tree.kind_outline, h.outline, Tree.kind_outline]

theorem kind_eq (h : s.Mirrors agree s') : s'.kind = s.kind :=
  kind_congr h.tree_kind_eq h.above

theorem isMarkedUnsafe_eq (h : s.Mirrors agree s') :
    s'.tree.isMarkedUnsafe = s.tree.isMarkedUnsafe := by
  rw [← Tree.isMarkedUnsafe_outline, h.outline, Tree.isMarkedUnsafe_outline]

theorem statementCount_eq (h : s.Mirrors agree s') :
    s'.tree.statementCount = s.tree.statementCount := by
  rw [← Tree.statementCount_outline, h.outline, Tree.statementCount_outline]

theorem map_outline_children (h : s.Mirrors agree s') :
    s'.tree.children.map Tree.outline = s.tree.children.map Tree.outline := by
  rw [← Tree.children_outline, h.outline, Tree.children_outline]

theorem child (h : s.Mirrors agree s') {i : Nat} {c c' : Site} (hc : s.children[i]? = some c)
    (hc' : s'.children[i]? = some c') : c.Mirrors agree c' ∧ agree c c' := by
  have hbelow (p : Position) : ∀ n ∈ c.at? p, ∀ n' ∈ c'.at? p, agree n n' := by
    rw [← at?_cons_of_child hc, ← at?_cons_of_child hc']
    intro n hn
    exact h.below (i :: p) n hn (List.cons_ne_nil i p)
  refine ⟨⟨?_, ?_, fun p n hn _ => hbelow p n hn⟩, hbelow [] c rfl c' rfl⟩
  · rw [above_eq_of_mem_siblings (List.mem_of_getElem? hc),
      above_eq_of_mem_siblings (List.mem_of_getElem? hc'), h.tree_kind_eq, h.above]
  · have houtline := congrArg (·[i]?) h.map_outline_children
    simpa [← map_tree_getElem?_children, hc, hc'] using houtline

theorem thinned_children (h : s.Mirrors agree s') :
    Thinned (fun c c' => c.Mirrors agree c' ∧ agree c c') (fun _ => False) s.children
      s'.children := by
  apply Thinned.of_getElem?
  · have hlength := congrArg List.length h.map_outline_children
    simpa [← map_tree_children] using hlength.symm
  · intro i c c' hc hc'
    exact h.child hc hc'

theorem at? (h : s.Mirrors agree s') {p : Position} {n n' : Site} (hn : s.at? p = some n)
    (hn' : s'.at? p = some n') : n.Mirrors agree n' := by
  induction p generalizing s s' with
  | nil =>
    obtain rfl := Option.some.inj hn
    obtain rfl := Option.some.inj hn'
    exact h
  | cons i p ih =>
    obtain ⟨c, hc, hcn⟩ := at?_cons_eq_some.mp hn
    obtain ⟨c', hc', hcn'⟩ := at?_cons_eq_some.mp hn'
    exact ih (h.child hc hc').1 hcn hcn'

end Mirrors

end Site

namespace Census

-- ---------------------------------------------------------------------------
-- Two texts
-- ---------------------------------------------------------------------------

section

variable {source source' : List UInt8} {includeTests : Bool}

/-- Both nodes are left out, or neither. -/
def SkippedAlike (source source' : List UInt8) (includeTests : Bool) (s s' : Site) : Prop :=
  skips source' includeTests s' = skips source includeTests s

/-- The second visit is made to the mirror image of the node, in a context that is unsafe alike. The
module paths need not agree, for names are texts. -/
structure Reflects (source source' : List UInt8) (includeTests : Bool)
    (f f' : Traversal.Frame Context) : Prop where
  node : f.2.Mirrors (SkippedAlike source source' includeTests) f'.2
  skips : SkippedAlike source source' includeTests f.2 f'.2
  inUnsafe : f'.1.inUnsafe = f.1.inUnsafe

theorem Reflects.thinned_push {f f' : Traversal.Frame Context}
    (h : Reflects source source' includeTests f f') :
    Thinned (Reflects source source' includeTests) (fun _ => False)
      (Traversal.push f.2 (enter source includeTests f.1 f.2))
      (Traversal.push f'.2 (enter source' includeTests f'.1 f'.2)) := by
  have hinside : (Context.inside source' f'.1 f'.2).inUnsafe =
      (Context.inside source f.1 f.2).inUnsafe := by
    simp only [inUnsafe_inside, h.inUnsafe, opensUnsafe, h.node.kind_eq, h.node.isMarkedUnsafe_eq]
  unfold enter
  rw [h.skips]
  cases Census.skips source includeTests f.2 with
  | true => exact .nil
  | false =>
    refine Thinned.map (h.node.thinned_children.imp ?_ fun _ => id)
    intro c c' hc
    exact ⟨hc.1, hc.2, hinside⟩

theorem Reflects.added_eq {f f' : Traversal.Frame Context}
    (h : Reflects source source' includeTests f f') :
    added source' includeTests f' = added source includeTests f := by
  have hcontribution : contribution f'.1 f'.2 = contribution f.1 f.2 := by
    funext k
    cases k <;> simp only [contribution, h.node.kind_eq, h.node.isMarkedUnsafe_eq,
      h.node.statementCount_eq, h.inUnsafe]
  rw [added, added, h.skips, hcontribution]

theorem counters_eq_of_mirrors {root root' : Site}
    (h : root.Mirrors (SkippedAlike source source' includeTests) root') :
    (Metrics.ofSite source' includeTests root').counters =
      (Metrics.ofSite source includeTests root).counters := by
  have houtermost : Thinned (Reflects source source' includeTests) (fun _ => False)
      (Traversal.push root (some outermost)) (Traversal.push root' (some outermost)) := by
    refine Thinned.map (h.thinned_children.imp ?_ fun _ => id)
    intro c c' hc
    exact ⟨hc.1, hc.2, rfl⟩
  have hvisits : Thinned (Reflects source source' includeTests) (fun _ => False)
      (visits source includeTests root) (visits source' includeTests root') :=
    Traversal.visits_thinned (fun _ _ hf => hf.thinned_push) (fun _ hf => hf.elim) houtermost
  rw [counters_eq_sum, counters_eq_sum]
  refine hvisits.sum_map (r := fun a b => b = a) rfl ?_ (fun _ _ hf => hf.added_eq)
    (fun _ hf => hf.elim)
  rintro a _ c _ rfl rfl
  rfl

/-- The two sources call the same functions tests, and the same modules. -/
structure CalledAlike (source source' : List UInt8) (s s' : Site) : Prop where
  function : s.kind = .function ∨ s.kind = .method →
    s'.isTestFunction source' = s.isTestFunction source
  module : s.kind = .module → s'.isTestModule source' = s.isTestModule source

theorem calledAlike_iff {s s' : Site} :
    CalledAlike source source' s s' ↔
      (s.kind = .function ∨ s.kind = .method →
        s'.isTestFunction source' = s.isTestFunction source) ∧
      (s.kind = .module → s'.isTestModule source' = s.isTestModule source) :=
  ⟨fun h => ⟨h.function, h.module⟩, fun h => ⟨h.1, h.2⟩⟩

instance (s s' : Site) : Decidable (CalledAlike source source' s s') :=
  decidable_of_iff _ calledAlike_iff.symm

theorem CalledAlike.isTestItem_eq {s s' : Site} (h : CalledAlike source source' s s')
    (hkind : s'.kind = s.kind) : s'.isTestItem source' = s.isTestItem source := by
  unfold Site.isTestItem
  rw [hkind]
  cases hs : s.kind with
  | function => exact h.function (.inl hs)
  | method => exact h.function (.inr hs)
  | module => exact h.module hs
  | trait | impl | block | unsafeBlock | other => rfl

/-- Functions and modules at the same positions below the roots are called tests alike. -/
def TestsAgree (source source' : List UInt8) (root root' : Site) : Prop :=
  ∀ p, ∀ s ∈ root.at? p, p ≠ [] → ∀ s' ∈ root'.at? p, CalledAlike source source' s s'

theorem testsAgree_iff {root root' : Site} :
    TestsAgree source source' root root' ↔ ∀ p ∈ root.tree.positions, ∀ s ∈ root.at? p, p ≠ [] →
      ∀ s' ∈ root'.at? p, CalledAlike source source' s s' :=
  Site.forall_at?_iff

instance (root root' : Site) : Decidable (TestsAgree source source' root root') :=
  decidable_of_iff _ testsAgree_iff.symm

/-- With tests nothing is left out, and without them it depends on what is called a test. -/
theorem mirrors_skippedAlike {root root' : Site} (habove : root'.above = root.above)
    (houtline : root'.tree.outline = root.tree.outline)
    (h : includeTests = false → TestsAgree source source' root root') :
    root.Mirrors (SkippedAlike source source' includeTests) root' := by
  have hmirrors : root.Mirrors (fun _ _ => True) root' :=
    ⟨habove, houtline, fun _ _ _ _ _ _ => trivial⟩
  refine ⟨habove, houtline, ?_⟩
  intro p s hs hp s' hs'
  have hkind : s'.kind = s.kind := (hmirrors.at? hs hs').kind_eq
  unfold SkippedAlike skips
  cases includeTests with
  | true => rfl
  | false => rw [(h rfl p s hs hp s' hs').isTestItem_eq hkind]

end

-- ---------------------------------------------------------------------------
-- More marks
-- ---------------------------------------------------------------------------

/-- Whatever is chosen is a token of a kind that no rule of the census asks for. -/
def TokensAt (root : Site) (chosen : Position → Bool) : Prop :=
  ∀ p, ∀ s ∈ root.at? p, chosen p → s.tree.IsIdleToken

theorem tokensAt_iff {root : Site} {chosen : Position → Bool} :
    TokensAt root chosen ↔
      ∀ p ∈ root.tree.positions, ∀ s ∈ root.at? p, chosen p → s.tree.IsIdleToken :=
  Site.forall_at?_iff

instance (root : Site) (chosen : Position → Bool) : Decidable (TokensAt root chosen) :=
  decidable_of_iff _ tokensAt_iff.symm

theorem TokensAt.editedTo {root : Site} {chosen : Position → Bool} (h : TokensAt root chosen)
    (source : List UInt8) :
    root.EditedTo source true (.marking chosen) (root.edited (.marking chosen)) where
  mild := by
    intro p t ht
    obtain ⟨s, hs, rfl⟩ := Option.map_eq_some_iff.mp ((root.map_tree_at? p).trans ht)
    cases hchosen : chosen p with
    | false => exact .inl (by simp [hchosen])
    | true => exact .inr ⟨rfl, h p s hs hchosen, by simp [hchosen]⟩
  idle p s _ hnone := nomatch hnone
  tree := Tree.edited?_eq_edited rfl
  above := rfl
  decorations := rfl

/-- Which nodes are counted does not depend on the text, but for tests, and how many does not depend
on marks. -/
theorem detection_and_counting_independent :
    (∀ (source source' : List UInt8) (root root' : Site), root'.above = root.above →
      root'.tree.outline = root.tree.outline →
      (Metrics.ofSite source' true root').counters = (Metrics.ofSite source true root).counters ∧
      (TestsAgree source source' root root' →
        (Metrics.ofSite source' false root').counters =
          (Metrics.ofSite source false root).counters)) ∧
    (∀ (source : List UInt8) (includeTests : Bool) (root : Site) (chosen : Position → Bool),
      TokensAt root chosen →
      let plain := Metrics.ofSite source includeTests root
      let marked := Metrics.ofSite source includeTests (root.edited (.marking chosen))
      marked.forbidsUnsafe = plain.forbidsUnsafe ∧
      marked.forbiddingScopes = plain.forbiddingScopes ∧
      ∀ k, (marked.counters.get k).total = (plain.counters.get k).total ∧
        (plain.counters.get k).risky ≤ (marked.counters.get k).risky) := by
  constructor
  · intro source source' root root' habove houtline
    constructor
    · exact counters_eq_of_mirrors (mirrors_skippedAlike habove houtline nofun)
    · intro htests
      exact counters_eq_of_mirrors (mirrors_skippedAlike habove houtline fun _ => htests)
  · intro source includeTests root chosen htokens
    have hrises : (Metrics.ofSite source includeTests root).Rises true
        (Metrics.ofSite source includeTests (root.edited (.marking chosen))) :=
      rises_ofSite ⟨.marking chosen, htokens.editedTo source⟩
    refine ⟨hrises.forbidsUnsafe, hrises.forbiddingScopes, ?_⟩
    intro k
    exact ⟨(hrises.counters k).total, (hrises.counters k).risky⟩

-- ---------------------------------------------------------------------------
-- A constant function that is a test
-- ---------------------------------------------------------------------------

/-- The source `#[test]const fn a(){b;}`. -/
def constTest : List UInt8 := [
  0x23, 0x5B, 0x74, 0x65, 0x73, 0x74, 0x5D, 0x63, 0x6F, 0x6E, 0x73, 0x74, 0x20, 0x66, 0x6E, 0x20,
  0x61, 0x28, 0x29, 0x7B, 0x62, 0x3B, 0x7D]

/-- The source `#[test]const fn aa(){b;}`. -/
def renamedTest : List UInt8 := [
  0x23, 0x5B, 0x74, 0x65, 0x73, 0x74, 0x5D, 0x63, 0x6F, 0x6E, 0x73, 0x74, 0x20, 0x66, 0x6E, 0x20,
  0x61, 0x61, 0x28, 0x29, 0x7B, 0x62, 0x3B, 0x7D]

/-- The root of either source, most tokens left out, by where it stops. -/
def constTestRoot (stop : Nat) : Site :=
  let modifiers := Tree.ofRule "function_modifiers" 7 12 [.ofToken "const" 7 12]
  let body := Tree.ofRule "block" (stop - 4) stop
    [.ofRule "expression_statement" (stop - 3) (stop - 1) []]
  .root (.ofRule "source_file" 0 stop
    [.ofRule "attribute_item" 0 7 [.ofRule "attribute" 2 6 []],
      .ofRule "function_item" 7 stop [modifiers, body]])

theorem const_test_counted_alike :
    let plain := constTestRoot 23
    let renamed := constTestRoot 24
    let marked := plain.edited (.marking ([[1, 0, 0]].contains ·))
    (TestsAgree constTest renamedTest plain renamed ∧
      (Metrics.ofSite renamedTest false renamed).counters =
        (Metrics.ofSite constTest false plain).counters) ∧
    (TokensAt plain ([[1, 0, 0]].contains ·) ∧
      ∀ k, ((Metrics.ofSite constTest true marked).counters.get k).total =
        ((Metrics.ofSite constTest true plain).counters.get k).total) := by
  have htests : TestsAgree constTest renamedTest (constTestRoot 23) (constTestRoot 24) := by decide
  have htokens : TokensAt (constTestRoot 23) ([[1, 0, 0]].contains ·) := by decide
  obtain ⟨htexts, hmarks⟩ := detection_and_counting_independent
  have hcounters := (htexts constTest renamedTest (constTestRoot 23) (constTestRoot 24) rfl rfl).2
  have htotals := (hmarks constTest true (constTestRoot 23) _ htokens).2.2
  exact ⟨⟨htests, hcounters htests⟩, ⟨htokens, fun k => (htotals k).1⟩⟩

end Census

end UnsafeCensus
