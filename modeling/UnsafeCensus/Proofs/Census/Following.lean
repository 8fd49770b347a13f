import UnsafeCensus.Proofs.Census.Edits
import UnsafeCensus.Proofs.Census.Sums

/-!
# The walk over an edited tree

The walk over an edited tree makes the visits of the walk over the tree as it was, in contexts that
differ in marks only, and misses the visits below the nodes that are left out. If nothing there
counts, the two censuses report the same modules and count as many nodes in each category.
-/

namespace UnsafeCensus

-- ---------------------------------------------------------------------------
-- Sites in an edited tree
-- ---------------------------------------------------------------------------

namespace Site

/-- Neither the node nor anything below it counts. -/
def IsIdle (s : Site) : Prop :=
  ∀ p, ∀ n ∈ s.at? p, n.kind = .other

/-- The second site is that of the same node in the edited tree, where the attributes in front of it
are the same. -/
structure EditedTo (source : List UInt8) (marking : Bool) (e : Edit) (s s' : Site) : Prop where
  mild : e.Mild marking s.tree
  idle : ∀ p, ∀ n ∈ s.at? p, e p n.tree.data = none → n.IsIdle
  tree : s.tree.edited? e = some s'.tree
  above : s'.above = s.above
  decorations : Tree.decorations source s'.before = Tree.decorations source s.before

/-- The second site is that of the same node in some edited tree. -/
def Resembles (source : List UInt8) (marking : Bool) (s s' : Site) : Prop :=
  ∃ e, s.EditedTo source marking e s'

variable {source : List UInt8} {marking : Bool}

theorem IsIdle.kind {s : Site} (h : s.IsIdle) : s.kind = .other :=
  h [] s rfl

theorem IsIdle.children {s : Site} (h : s.IsIdle) : ∀ c ∈ s.children, c.IsIdle := by
  intro c hc p n hn
  obtain ⟨i, hi⟩ := List.mem_iff_getElem?.mp hc
  exact h (i :: p) n (at?_cons_of_child hi p ▸ hn)

theorem EditedTo.below {e : Edit} {s s' : Site} (h : s.EditedTo source marking e s') {i : Nat}
    {c : Site} (hc : s.children[i]? = some c) :
    (e.inside i).Mild marking c.tree ∧
      ∀ p, ∀ n ∈ c.at? p, e (i :: p) n.tree.data = none → n.IsIdle := by
  constructor
  · intro p n hn
    refine h.mild (i :: p) n (Tree.at?_cons_eq_some.mpr ⟨c.tree, ?_, hn⟩)
    rw [← map_tree_getElem?_children, hc, Option.map_some]
  · intro p n hn
    exact h.idle (i :: p) n (at?_cons_of_child hc p ▸ hn)

/-- Siblings that are edited stay in line, and so do the attributes in front of each. -/
theorem thinned_siblings {above : List String} (ts : List Tree) (e : Edit)
    (before before' : List Tree)
    (hdecorations : Tree.decorations source before' = Tree.decorations source before)
    (hbelow : ∀ (i : Nat) (c : Site), (siblings above before ts)[i]? = some c →
      (e.inside i).Mild marking c.tree ∧
        ∀ p, ∀ n ∈ c.at? p, e (i :: p) n.tree.data = none → n.IsIdle) :
    Thinned (Resembles source marking) IsIdle (siblings above before ts)
      (siblings above before' (Tree.editedAll e ts)) := by
  -- The siblings passed differ in the two trees. What they have in common, and what alone is read
  -- of them, is the attributes at their end.
  induction ts generalizing e before before' with
  | nil => exact .nil
  | cons t ts ih =>
    obtain ⟨hmild, hidle⟩ := hbelow 0 ⟨t, above, before⟩ rfl
    have htail (before'' : List Tree)
        (h : Tree.decorations source before'' = Tree.decorations source (t :: before)) :=
      ih e.past (t :: before) before'' h fun i c hc => hbelow (i + 1) c hc
    rw [Tree.editedAll]
    cases hedit : t.edited? (e.inside 0) with
    | none =>
      have hnone : e.inside 0 [] t.data = none := Tree.edited?_eq_none.mp hedit
      have hcomment : t.IsLooseComment := by
        have hallowed := hmild [] t rfl
        rwa [hnone] at hallowed
      refine .drop (hidle [] _ rfl hnone) (htail before' ?_)
      rw [Tree.decorations_cons_of_isComment hcomment.comment]
      exact hdecorations
    | some u =>
      have hu : t.Resembles marking u := ⟨e.inside 0, hmild, hedit⟩
      refine .keep ⟨e.inside 0, hmild, hidle, hedit, rfl, hdecorations⟩ (htail (u :: before') ?_)
      rw [Tree.decorations_cons, Tree.decorations_cons, hu.isDecoration_eq, hu.decoration_eq,
        hdecorations]

namespace Resembles

variable {s s' : Site}

theorem tree_resembles (h : s.Resembles source marking s') :
    s.tree.Resembles marking s'.tree := by
  obtain ⟨e, he⟩ := h
  exact ⟨e, he.mild, he.tree⟩

theorem thinned_children (h : s.Resembles source marking s') :
    Thinned (Resembles source marking) IsIdle s.children s'.children := by
  obtain ⟨e, he⟩ := h
  rw [Site.children, Site.children, he.above, (Tree.edited?_eq_some.mp he.tree).2]
  rcases (tree_resembles ⟨e, he⟩).data_cases with hsame | ⟨-, htoken, -⟩
  · rw [Tree.kind, Tree.kind, hsame]
    exact thinned_siblings _ e [] [] rfl fun i c hc => he.below hc
  · rw [htoken.childless]
    exact .nil

theorem kind_eq (h : s.Resembles source marking s') : s'.kind = s.kind := by
  have htree := h.tree_resembles
  obtain ⟨e, he⟩ := h
  rcases htree.data_cases with hsame | ⟨-, htoken, hturned⟩
  · exact kind_congr (congrArg Node.kind hsame) he.above
  · have huntested (kind : Kind) : s.tree.kind ∉ kind.nodeKinds := by
      have hsub : kind.nodeKinds ⊆ Tree.testedKinds := by cases kind <;> decide
      exact fun hmem => htoken.untested (hsub hmem)
    have hmark (kind : Kind) : s'.tree.kind ∉ kind.nodeKinds := by
      have hkind : s'.tree.kind = "unsafe" := congrArg Node.kind hturned
      rw [hkind]
      cases kind <;> decide
    rw [kind_eq_other huntested, kind_eq_other hmark]

theorem outerAttributes_eq (h : s.Resembles source marking s') :
    s'.outerAttributes source = s.outerAttributes source := by
  obtain ⟨e, he⟩ := h
  exact he.decorations

theorem isTestItem_eq (h : s.Resembles source marking s') :
    s'.isTestItem source = s.isTestItem source := by
  simp only [isTestItem, isTestFunction, isTestModule, h.kind_eq, h.outerAttributes_eq]

theorem gains_opensUnsafe (h : s.Resembles source marking s') :
    Gains marking (Census.opensUnsafe s) (Census.opensUnsafe s') := by
  unfold Census.opensUnsafe
  rw [h.kind_eq]
  cases s.kind with
  | function | method => exact h.tree_resembles.gains_isMarkedUnsafe
  | unsafeBlock | trait | impl | module | block | other => exact Gains.refl marking _

theorem scopeAttributes_eq (h : s.Resembles source marking s') :
    Census.scopeAttributes source s' = Census.scopeAttributes source s := by
  have hbody := h.tree_resembles.childByField?_rel "body"
  unfold Census.scopeAttributes
  rw [h.outerAttributes_eq]
  generalize s.tree.childByField? "body" = c, s'.tree.childByField? "body" = d at hbody ⊢
  cases hbody with
  | none => rfl
  | some hcd => simp only [hcd.innerAttributes_eq]

end Resembles

end Site

-- ---------------------------------------------------------------------------
-- Visits of an edited tree
-- ---------------------------------------------------------------------------

/-- A count becomes another one of the same total, of which no less is unsafe. -/
structure Count.Rises (marking : Bool) (a b : Count) : Prop where
  total : b.total = a.total
  risky : a.risky ≤ b.risky
  same : marking = false → b = a

theorem Count.Rises.refl (marking : Bool) (a : Count) : a.Rises marking a :=
  ⟨rfl, Int.le_refl _, fun _ => rfl⟩

theorem Count.Rises.add {marking : Bool} {a b c d : Count} (h : a.Rises marking b)
    (h' : c.Rises marking d) : (a + c).Rises marking (b + d) := by
  constructor
  · have htotal := h.total
    have htotal' := h'.total
    simp only [Count.total, Count.safe_add, Count.risky_add] at htotal htotal' ⊢
    omega
  · exact Int.add_le_add h.risky h'.risky
  · intro hmarking
    rw [h.same hmarking, h'.same hmarking]

/-- A number of occurrences that turns unsafe as a whole. -/
theorem Count.Rises.of_gains {marking risky risky' : Bool} (h : Gains marking risky risky')
    (n : Nat) : (Census.Count.of risky n).Rises marking (Census.Count.of risky' n) := by
  refine ⟨?_, ?_, fun hmarking => by rw [h.2 hmarking]⟩
  · cases risky <;> cases risky' <;> simp [Census.Count.of, Count.total]
  · cases risky with
    | false => cases risky' <;> simp [Census.Count.of]
    | true => rw [h.1 rfl]

/-- Each count of a block rises. -/
def CounterBlock.Rises (marking : Bool) (a b : CounterBlock) : Prop :=
  ∀ k, (a.get k).Rises marking (b.get k)

theorem CounterBlock.Rises.eq {a b : CounterBlock} (h : a.Rises false b) : b = a := by
  apply CounterBlock.ext_part
  intro k risky
  rw [(h k).same rfl]

/-- The same is reported of scopes, and each count rises. -/
structure Metrics.Rises (marking : Bool) (m m' : Metrics) : Prop where
  forbidsUnsafe : m'.forbidsUnsafe = m.forbidsUnsafe
  forbiddingScopes : m'.forbiddingScopes = m.forbiddingScopes
  counters : m.counters.Rises marking m'.counters

theorem Metrics.Rises.eq {m m' : Metrics} (h : m.Rises false m') : m' = m := by
  obtain ⟨b, forbids, scopes⟩ := m
  obtain ⟨b', forbids', scopes'⟩ := m'
  obtain ⟨rfl, rfl, hcounters⟩ := h
  rw [show b' = b from hcounters.eq]

namespace Census

variable {source : List UInt8} {marking includeTests : Bool}

/-- The second visit is that of the same node in the edited tree. -/
structure Follows (source : List UInt8) (marking : Bool) (f f' : Traversal.Frame Context) :
    Prop where
  node : f.2.Resembles source marking f'.2
  inUnsafe : Gains marking f.1.inUnsafe f'.1.inUnsafe
  modulePath : f'.1.modulePath = f.1.modulePath

namespace Follows

variable {f f' : Traversal.Frame Context}

theorem skips_eq (h : Follows source marking f f') :
    skips source includeTests f'.2 = skips source includeTests f.2 := by
  rw [skips, skips, h.node.isTestItem_eq]

theorem inside (h : Follows source marking f f') {c c' : Site}
    (hc : c.Resembles source marking c') :
    Follows source marking (Context.inside source f.1 f.2, c)
      (Context.inside source f'.1 f'.2, c') := by
  refine ⟨hc, ?_, ?_⟩
  · rw [inUnsafe_inside, inUnsafe_inside]
    exact h.inUnsafe.or h.node.gains_opensUnsafe
  · have hnames : moduleNames source [f'.2] = moduleNames source [f.2] := by
      by_cases hmodule : f.2.kind = .module
      · simp [moduleNames, h.node.kind_eq, hmodule, h.node.tree_resembles.moduleName_eq]
      · simp [moduleNames, h.node.kind_eq, hmodule]
    rw [modulePath_inside, modulePath_inside, h.modulePath, hnames]

/-- A turn over the edited tree pushes what the turn over the tree as it was does, without what is
left out. -/
theorem thinned_push (h : Follows source marking f f') :
    Thinned (Follows source marking) (fun g => g.2.IsIdle)
      (Traversal.push f.2 (enter source includeTests f.1 f.2))
      (Traversal.push f'.2 (enter source includeTests f'.1 f'.2)) := by
  unfold enter
  rw [h.skips_eq]
  cases skips source includeTests f.2 with
  | true => exact .nil
  | false =>
    refine Thinned.map (h.node.thinned_children.imp ?_ ?_)
    · intro c c' hc
      exact h.inside hc
    · intro c hc
      exact hc

theorem reported_eq (h : Follows source marking f f') :
    reported source includeTests f' = reported source includeTests f := by
  simp only [reported, forbiddingScope?, h.skips_eq, h.node.kind_eq, h.node.scopeAttributes_eq,
    h.modulePath, h.node.tree_resembles.moduleName_eq]

theorem rises_contribution (h : Follows source marking f f') :
    (CounterBlock.ofFun (contribution f.1 f.2)).Rises marking
      (.ofFun (contribution f'.1 f'.2)) := by
  have hmarked := h.node.tree_resembles.gains_isMarkedUnsafe
  intro k
  rw [CounterBlock.get_ofFun, CounterBlock.get_ofFun]
  cases k with
  | functions | methods | itemTraits | itemImpls =>
    simp only [contribution, h.node.kind_eq]
    split
    · exact .of_gains hmarked 1
    · exact .refl marking _
  | exprs =>
    simp only [contribution, h.node.kind_eq, h.node.tree_resembles.statementCount_eq]
    split
    · exact .of_gains h.inUnsafe _
    · exact .refl marking _

theorem rises_added (h : Follows source marking f f') :
    (added source includeTests f).Rises marking (added source includeTests f') := by
  unfold added
  rw [h.skips_eq]
  cases skips source includeTests f.2 with
  | true => exact fun k => .refl marking _
  | false => exact h.rises_contribution

end Follows

theorem added_of_isIdle {f : Traversal.Frame Context} (h : f.2.IsIdle) :
    added source includeTests f = 0 := by
  have hnothing : contribution f.1 f.2 = fun _ => .zero := by
    funext k
    cases k <;> simp [contribution, h.kind]
  unfold added
  rw [hnothing]
  exact ite_self 0

theorem reported_of_isIdle {f : Traversal.Frame Context} (h : f.2.IsIdle) :
    reported source includeTests f = [] := by
  simp [reported, forbiddingScope?, h.kind]

/-- Pending frames of an edited tree lead to the visits of those of the tree as it was, without what
counts nothing. -/
theorem thinned_visits {pending pending' : List (Traversal.Frame Context)}
    (h : Thinned (Follows source marking) (fun f => f.2.IsIdle) pending pending') :
    Thinned (Follows source marking) (fun f => f.2.IsIdle)
      (Traversal.visits (enter source includeTests) pending)
      (Traversal.visits (enter source includeTests) pending') := by
  refine Traversal.visits_thinned ?_ ?_ h
  · intro f f' hf
    exact hf.thinned_push
  · intro f hf g hg
    cases hcontext : enter source includeTests f.1 f.2 with
    | none =>
      rw [hcontext] at hg
      exact absurd hg List.not_mem_nil
    | some d =>
      rw [hcontext] at hg
      obtain ⟨c, hc, rfl⟩ := List.mem_map.mp hg
      exact hf.children c hc

/-- Siblings of an edited tree, to be visited in the outermost context. -/
theorem thinned_outermost {ss ss' : List Site}
    (h : Thinned (Site.Resembles source marking) Site.IsIdle ss ss') :
    Thinned (Follows source marking) (fun f => f.2.IsIdle) (ss.map fun s => (outermost, s))
      (ss'.map fun s => (outermost, s)) := by
  refine Thinned.map (h.imp ?_ ?_)
  · intro s s' hs
    exact ⟨hs, Gains.refl marking false, rfl⟩
  · intro s hs
    exact hs

variable {visited visited' : List (Traversal.Frame Context)}

theorem rises_sum_added
    (h : Thinned (Follows source marking) (fun f => f.2.IsIdle) visited visited') :
    CounterBlock.Rises marking (visited.map (added source includeTests)).sum
      (visited'.map (added source includeTests)).sum := by
  refine h.sum_map ?_ ?_ ?_ ?_
  · exact fun k => .refl marking _
  · intro a b c d hab hcd k
    rw [CounterBlock.get_add, CounterBlock.get_add]
    exact (hab k).add (hcd k)
  · intro f f' hf
    exact hf.rises_added
  · intro f hf
    exact added_of_isIdle hf

theorem flatMap_reported_eq
    (h : Thinned (Follows source marking) (fun f => f.2.IsIdle) visited visited') :
    visited'.flatMap (reported source includeTests) =
      visited.flatMap (reported source includeTests) := by
  refine h.flatMap_eq ?_ ?_
  · intro f f' hf
    exact hf.reported_eq
  · intro f hf
    exact reported_of_isIdle hf

/-- A census of an edited tree differs in marks only. -/
theorem rises_ofSite {root root' : Site} (h : root.Resembles source marking root') :
    (Metrics.ofSite source includeTests root).Rises marking
      (Metrics.ofSite source includeTests root') := by
  have hvisits : Thinned (Follows source marking) (fun f => f.2.IsIdle)
      (visits source includeTests root) (visits source includeTests root') :=
    thinned_visits (thinned_outermost h.thinned_children)
  constructor
  · simp only [Metrics.ofSite, h.tree_resembles.innerAttributes_eq]
  · rw [forbiddingScopes_eq_flatMap, forbiddingScopes_eq_flatMap]
    exact flatMap_reported_eq hvisits
  · rw [counters_eq_sum, counters_eq_sum]
    exact rises_sum_added hvisits

end Census

end UnsafeCensus
