import Mathlib.Data.List.Forall2
import UnsafeCensus.Census.Walk
import UnsafeCensus.Proofs.Tree.Traversal

/-!
# The walk of a census

What a census visits and in which context, said by positions. A node is reached unless an item that
encloses it below the root is left out, and its context is read off the nodes that enclose it: it
is unsafe if one of them is an unsafe block or is marked as an unsafe function, and its module path
lists the modules among them.
-/

namespace UnsafeCensus.Census

variable (source : List UInt8) (includeTests : Bool)

-- ---------------------------------------------------------------------------
-- Contexts
-- ---------------------------------------------------------------------------

/-- What the node contains lies in an unsafe context because of the node itself. -/
def opensUnsafe (s : Site) : Bool :=
  match s.kind with
  | .unsafeBlock => true
  | .function | .method => s.tree.isMarkedUnsafe
  | _ => false

/-- The names of the modules among some nodes. -/
def moduleNames (nodes : List Site) : List String :=
  (nodes.filter fun s => s.kind = .module).map fun s => moduleName source s.tree

theorem moduleNames_cons (s : Site) (nodes : List Site) :
    moduleNames source (s :: nodes) = moduleNames source [s] ++ moduleNames source nodes := by
  simp only [moduleNames, ← List.map_append, ← List.filter_append, List.singleton_append]

theorem inUnsafe_inside (c : Context) (s : Site) :
    (Context.inside source c s).inUnsafe = (c.inUnsafe || opensUnsafe s) := by
  unfold Context.inside opensUnsafe
  cases s.kind <;> simp

theorem modulePath_inside (c : Context) (s : Site) :
    (Context.inside source c s).modulePath = c.modulePath ++ moduleNames source [s] := by
  unfold Context.inside moduleNames
  cases h : s.kind <;> simp [h]

/-- The context inside nodes that enclose one another, outermost first. -/
def insideAll (c : Context) (nodes : List Site) : Context :=
  nodes.foldl (Context.inside source) c

theorem inUnsafe_insideAll (c : Context) (nodes : List Site) :
    (insideAll source c nodes).inUnsafe = (c.inUnsafe || nodes.any opensUnsafe) := by
  induction nodes generalizing c with
  | nil => simp [insideAll]
  | cons s nodes ih =>
    have h := ih (Context.inside source c s)
    rw [inUnsafe_inside, Bool.or_assoc] at h
    exact h

theorem modulePath_insideAll (c : Context) (nodes : List Site) :
    (insideAll source c nodes).modulePath = c.modulePath ++ moduleNames source nodes := by
  induction nodes generalizing c with
  | nil => simp [insideAll, moduleNames]
  | cons s nodes ih =>
    have h := ih (Context.inside source c s)
    rw [modulePath_inside, List.append_assoc, ← moduleNames_cons] at h
    exact h

-- ---------------------------------------------------------------------------
-- Frames at positions
-- ---------------------------------------------------------------------------

/-- The walk comes to a position below the root: no item that encloses it is left out. -/
structure Reached (root : Site) (p : Position) : Prop where
  below : p ≠ []
  present : (root.at? p).isSome
  unskipped : ∀ s ∈ root.between p, skips source includeTests s = false

/-- Some node that encloses the position below the root makes its inside unsafe. -/
def InUnsafe (root : Site) (p : Position) : Prop :=
  ∃ s ∈ root.between p, opensUnsafe s

/-- A frame holds the node at a position, in the context that its enclosing nodes give. -/
structure VisitedAt (root : Site) (p : Position) (f : Traversal.Frame Context) : Prop where
  node : root.at? p = some f.2
  inUnsafe : f.1.inUnsafe = true ↔ InUnsafe root p
  modulePath : f.1.modulePath = moduleNames source (root.between p)

variable {source includeTests}

theorem frameAt?_eq_some {c : Context} {s : Site} {p : Position} {f : Traversal.Frame Context} :
    Traversal.frameAt? (enter source includeTests) c s p = some f ↔
      s.at? p = some f.2 ∧ (∀ a ∈ s.enclosing p, skips source includeTests a = false) ∧
        f.1 = insideAll source c (s.enclosing p) := by
  induction p generalizing c s with
  | nil =>
    rw [Traversal.frameAt?, Site.at?_nil, Option.some.injEq, Option.some.injEq]
    constructor
    · rintro rfl
      exact ⟨rfl, fun a ha => absurd ha List.not_mem_nil, rfl⟩
    · rintro ⟨ht, -, hc⟩
      exact Prod.ext hc.symm ht
  | cons i p ih =>
    rw [Traversal.frameAt?, Site.at?_cons]
    cases hc : s.children[i]? with
    | none => simp
    | some t =>
      rw [Site.enclosing_cons hc, List.forall_mem_cons]
      cases hs : skips source includeTests s with
      | true => simp [enter, hs]
      | false => simp [enter, hs, ih, insideAll]

/-- The frame in which a position below the root is visited. -/
def frameBelow? (source : List UInt8) (includeTests : Bool) (root : Site) :
    Position → Option (Traversal.Frame Context) :=
  Tree.ofChoice? (Traversal.frameAt? (enter source includeTests) outermost) root.children

theorem frameBelow?_eq_some {root : Site} {p : Position} {f : Traversal.Frame Context} :
    frameBelow? source includeTests root p = some f ↔
      Reached source includeTests root p ∧ root.at? p = some f.2 ∧
        f.1 = insideAll source outermost (root.between p) := by
  cases p with
  | nil =>
    simp only [frameBelow?, Tree.ofChoice?, reduceCtorEq, false_iff, not_and]
    intro h
    exact absurd rfl h.below
  | cons i p =>
    rw [frameBelow?, Tree.ofChoice?]
    cases hc : root.children[i]? with
    | none => simp [Site.at?_cons, hc]
    | some t =>
      rw [Option.bind_some, frameAt?_eq_some, Site.between_cons hc, Site.at?_cons, hc,
        Option.bind_some]
      constructor
      · rintro ⟨hat, hopen, hctx⟩
        refine ⟨⟨List.cons_ne_nil i p, ?_, ?_⟩, hat, hctx⟩
        · rw [Site.at?_cons, hc, Option.bind_some, hat]
          rfl
        · rw [Site.between_cons hc]
          exact hopen
      · rintro ⟨hreach, hat, hctx⟩
        refine ⟨hat, ?_, hctx⟩
        rw [← Site.between_cons hc]
        exact hreach.unskipped

/-- The context of a visit is unsafe, and has its module path, by what encloses the node. -/
theorem context_ext_iff {root : Site} {p : Position} {c : Context} :
    c = insideAll source outermost (root.between p) ↔
      (c.inUnsafe = true ↔ InUnsafe root p) ∧ c.modulePath = moduleNames source (root.between p) := by
  have hu := inUnsafe_insideAll source outermost (root.between p)
  have hm := modulePath_insideAll source outermost (root.between p)
  simp only [outermost, Bool.false_or, List.nil_append] at hu hm
  rw [InUnsafe, ← List.any_eq_true, ← Bool.eq_iff_iff]
  constructor
  · rintro rfl
    exact ⟨hu, hm⟩
  · rintro ⟨hcu, hcm⟩
    obtain ⟨u, m⟩ := c
    simp only at hcu hcm
    rw [hcu, hcm, ← hu, ← hm]
    rfl

theorem frameBelow?_eq_some_iff_visitedAt {root : Site} {p : Position}
    {f : Traversal.Frame Context} :
    frameBelow? source includeTests root p = some f ↔
      Reached source includeTests root p ∧ VisitedAt source root p f := by
  rw [frameBelow?_eq_some, context_ext_iff]
  constructor
  · rintro ⟨hreach, hat, hu, hm⟩
    exact ⟨hreach, hat, hu, hm⟩
  · rintro ⟨hreach, hat, hu, hm⟩
    exact ⟨hreach, hat, hu, hm⟩

-- ---------------------------------------------------------------------------
-- Visits at positions
-- ---------------------------------------------------------------------------

/-- The visits of a census with the positions they are made at. -/
def placedVisits (source : List UInt8) (includeTests : Bool) (root : Site) :
    List (Position × Traversal.Frame Context) :=
  (Tree.positionsOfAll root.tree.children).filterMap fun p =>
    (frameBelow? source includeTests root p).map fun f => (p, f)

theorem map_snd_placedVisits (root : Site) :
    (placedVisits source includeTests root).map Prod.snd = visits source includeTests root := by
  rw [visits, Traversal.visits_push_eq_filterMap, placedVisits, List.map_filterMap]
  apply List.filterMap_congr
  intro p _
  rw [Option.map_map]
  exact Option.map_id'

/-- The visits are made in source order, each at a position of its own. -/
theorem pairwise_placedVisits (root : Site) :
    (placedVisits source includeTests root).Pairwise fun a b => a.1 < b.1 := by
  rw [placedVisits, List.pairwise_filterMap]
  refine (Tree.pairwise_positionsOfAll _).imp fun {p q} hpq a ha b hb => ?_
  obtain ⟨f, -, rfl⟩ := Option.map_eq_some_iff.mp ha
  obtain ⟨g, -, rfl⟩ := Option.map_eq_some_iff.mp hb
  exact hpq

theorem mem_positionsOfAll_of_reached {root : Site} {p : Position}
    (h : Reached source includeTests root p) : p ∈ Tree.positionsOfAll root.tree.children := by
  have hmem : p ∈ root.tree.positions := by
    rw [Tree.mem_positions, ← root.map_tree_at?, Option.isSome_map]
    exact h.present
  rw [Tree.positions_eq, List.mem_cons] at hmem
  exact hmem.resolve_left h.below

theorem mem_placedVisits {root : Site} {p : Position} {f : Traversal.Frame Context} :
    (p, f) ∈ placedVisits source includeTests root ↔
      Reached source includeTests root p ∧ VisitedAt source root p f := by
  rw [← frameBelow?_eq_some_iff_visitedAt, placedVisits, List.mem_filterMap]
  constructor
  · rintro ⟨q, -, hq⟩
    obtain ⟨g, hg, heq⟩ := Option.map_eq_some_iff.mp hq
    obtain ⟨rfl, rfl⟩ := Prod.mk.inj heq
    exact hg
  · intro hf
    have hreach := (frameBelow?_eq_some.mp hf).1
    exact ⟨p, mem_positionsOfAll_of_reached hreach, by rw [hf]; rfl⟩

theorem exists_visitedAt {root : Site} {p : Position} (h : Reached source includeTests root p) :
    ∃ f, VisitedAt source root p f := by
  obtain ⟨s, hs⟩ := Option.isSome_iff_exists.mp h.present
  have hf : frameBelow? source includeTests root p =
      some (insideAll source outermost (root.between p), s) :=
    frameBelow?_eq_some.mpr ⟨h, hs, rfl⟩
  exact ⟨_, (frameBelow?_eq_some_iff_visitedAt.mp hf).2⟩

theorem mem_map_fst_placedVisits {root : Site} {p : Position} :
    p ∈ (placedVisits source includeTests root).map Prod.fst ↔
      Reached source includeTests root p := by
  rw [List.mem_map]
  constructor
  · rintro ⟨⟨q, f⟩, hmem, rfl⟩
    exact (mem_placedVisits.mp hmem).1
  · intro h
    obtain ⟨f, hf⟩ := exists_visitedAt h
    exact ⟨(p, f), mem_placedVisits.mpr ⟨h, hf⟩, rfl⟩

-- ---------------------------------------------------------------------------
-- The loop
-- ---------------------------------------------------------------------------

/-- Siblings are visited in one context: what encloses them is the same. -/
theorem VisitedAt.context_eq_of_sibling {root : Site} {p : Position} {i j : Nat}
    {f g : Traversal.Frame Context} (hf : VisitedAt source root (p ++ [i]) f)
    (hg : VisitedAt source root (p ++ [j]) g) : f.1 = g.1 := by
  have hparent : (root.at? p).isSome := Site.at?_isSome_of_append (by rw [hf.node]; rfl)
  obtain ⟨t, ht⟩ := Option.isSome_iff_exists.mp hparent
  have hbetween : root.between (p ++ [i]) = root.between (p ++ [j]) := by
    rw [Site.between, Site.between, Site.enclosing_append_singleton ht,
      Site.enclosing_append_singleton ht]
  rw [context_ext_iff.mpr ⟨hf.inUnsafe, hf.modulePath⟩,
    context_ext_iff.mpr ⟨hg.inUnsafe, hg.modulePath⟩, hbetween]

variable (source includeTests) in
/-- The loop over the work stack ends. It pops the positions that are reached, in source order and
each once, in the context of the nodes that enclose them, so in one context for siblings. -/
theorem stack_pops_reached_in_source_order (root : Site) :
    ∃ ps : List Position,
      ps.Pairwise (· < ·) ∧
      (∀ p, p ∈ ps ↔ Reached source includeTests root p) ∧
      Traversal.turns (enter source includeTests) ps.length
          (Traversal.push root (some outermost)).reverse =
        (visits source includeTests root, []) ∧
      List.Forall₂ (VisitedAt source root) ps (visits source includeTests root) ∧
      (∀ p i j f g, VisitedAt source root (p ++ [i]) f → VisitedAt source root (p ++ [j]) g →
        f.1 = g.1) := by
  refine ⟨(placedVisits source includeTests root).map Prod.fst, ?_, ?_, ?_, ?_, ?_⟩
  · exact List.pairwise_map.mpr (pairwise_placedVisits root)
  · intro p
    exact mem_map_fst_placedVisits
  · rw [List.length_map, ← List.length_map (f := Prod.snd), map_snd_placedVisits]
    exact Traversal.turns_reverse _ _
  · rw [← map_snd_placedVisits, List.forall₂_map_left_iff, List.forall₂_map_right_iff,
      List.forall₂_same]
    intro pf hpf
    exact (mem_placedVisits.mp hpf).2
  · intro p i j f g hf hg
    exact hf.context_eq_of_sibling hg

end UnsafeCensus.Census
