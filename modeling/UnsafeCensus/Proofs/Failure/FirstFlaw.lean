import UnsafeCensus.Proofs.Tree.Position
import UnsafeCensus.Scan.Basic

/-!
# The flaw that a diagnosis names

The search for a flaw only enters children that may hold one by their own report. So it finds the
first flaw, in source order, among those that are exposed: every node on the way down to them says
that a flaw may be there. Where the reports are exact all flaws are exposed, and the search finds
what a search through all nodes would find. Where spans nest and siblings do not overlap, source
order is the order of offsets.
-/

namespace UnsafeCensus

/-- A span lies inside another one. -/
structure Span.Within (s outer : Span) : Prop where
  start : outer.start ≤ s.start
  proper : s.start ≤ s.stop
  stop : s.stop ≤ outer.stop

instance (s outer : Span) : Decidable (s.Within outer) :=
  decidable_of_iff (outer.start ≤ s.start ∧ s.start ≤ s.stop ∧ s.stop ≤ outer.stop)
    ⟨fun h => ⟨h.1, h.2.1, h.2.2⟩, fun h => ⟨h.start, h.proper, h.stop⟩⟩

namespace Tree

-- ---------------------------------------------------------------------------
-- Exposed flaws
-- ---------------------------------------------------------------------------

/-- The node at a position is a flaw, and every node on the way down to it, itself included, may
hold a flaw by its own report. The node that the way starts at is not asked. -/
structure Exposed (t : Tree) (p : Position) (flaw : Tree) : Prop where
  node : t.at? p = some flaw
  isFlaw : flaw.isFlaw
  reported : ∀ q n, q ≠ [] → q <+: p → t.at? q = some n → n.mayHoldFlaw

/-- The exposed flaw at a position. -/
def flawAt? (t : Tree) : Position → Option Tree
  | [] => if t.isFlaw then some t else none
  | i :: p => t.children[i]?.bind fun c => if c.mayHoldFlaw then c.flawAt? p else none

theorem exposed_nil {t flaw : Tree} : Exposed t [] flaw ↔ t = flaw ∧ t.isFlaw := by
  constructor
  · rintro ⟨hnode, hflaw, -⟩
    obtain rfl := Option.some.inj hnode
    exact ⟨rfl, hflaw⟩
  · rintro ⟨rfl, hflaw⟩
    exact ⟨rfl, hflaw, fun q n hq hpre => absurd (List.prefix_nil.mp hpre) hq⟩

theorem exposed_cons {t flaw : Tree} {i : Nat} {p : Position} :
    Exposed t (i :: p) flaw ↔
      ∃ c, t.children[i]? = some c ∧ c.mayHoldFlaw ∧ Exposed c p flaw := by
  constructor
  · rintro ⟨hnode, hflaw, hreport⟩
    obtain ⟨c, hc, hp⟩ := at?_cons_eq_some.mp hnode
    refine ⟨c, hc, ?_, hp, hflaw, ?_⟩
    · apply hreport [i] c (List.cons_ne_nil i []) ⟨p, rfl⟩
      exact at?_cons_eq_some.mpr ⟨c, hc, rfl⟩
    · intro q n hq hpre hn
      apply hreport (i :: q) n (List.cons_ne_nil i q) (List.cons_prefix_cons.mpr ⟨rfl, hpre⟩)
      exact at?_cons_eq_some.mpr ⟨c, hc, hn⟩
  · rintro ⟨c, hc, hmay, hp, hflaw, hreport⟩
    refine ⟨at?_cons_eq_some.mpr ⟨c, hc, hp⟩, hflaw, ?_⟩
    intro q n hq hpre hn
    obtain ⟨j, r, rfl⟩ := List.exists_cons_of_ne_nil hq
    obtain ⟨rfl, hrest⟩ := List.cons_prefix_cons.mp hpre
    obtain ⟨c', hc', hn⟩ := at?_cons_eq_some.mp hn
    obtain rfl := Option.some.inj (hc.symm.trans hc')
    cases r with
    | nil =>
      obtain rfl := Option.some.inj hn
      exact hmay
    | cons k r => exact hreport (k :: r) n (List.cons_ne_nil k r) hrest hn

theorem flawAt?_eq_some {t flaw : Tree} {p : Position} :
    t.flawAt? p = some flaw ↔ Exposed t p flaw := by
  induction p generalizing t with
  | nil =>
    rw [flawAt?, exposed_nil]
    by_cases h : t.isFlaw <;> simp [h]
  | cons i p ih =>
    rw [flawAt?, exposed_cons, Option.bind_eq_some_iff]
    simp only [Option.ite_none_right_eq_some, ih]

-- ---------------------------------------------------------------------------
-- The search
-- ---------------------------------------------------------------------------

/-- The exposed flaws of a tree, in source order. -/
def flaws (t : Tree) : List Tree :=
  t.positions.filterMap t.flawAt?

theorem flaws_of_isFlaw {t : Tree} (h : t.isFlaw) :
    t.flaws = t :: (positionsOfAll t.children).filterMap t.flawAt? := by
  rw [flaws, positions_eq, List.filterMap_cons_some]
  rw [flawAt?, if_pos h]

theorem flaws_of_not_isFlaw {t : Tree} (h : ¬ t.isFlaw) :
    t.flaws = (t.children.filter mayHoldFlaw).flatMap flaws := by
  have hroot : t.flawAt? [] = none := by rw [flawAt?, if_neg h]
  have hchoice : ∀ p ∈ positionsOfAll t.children, t.flawAt? p =
      ofChoice? (fun c p => if c.mayHoldFlaw then c.flawAt? p else none) t.children p := by
    intro p hp
    obtain ⟨i, q, rfl⟩ := List.exists_cons_of_ne_nil (ne_nil_of_mem_positionsOfAll hp)
    rfl
  have hall := filterMap_ofChoice? id
    (fun c p => if c.mayHoldFlaw then c.flawAt? p else none) t.children
  rw [List.map_id] at hall
  rw [flaws, positions_eq, List.filterMap_cons_none hroot, List.filterMap_congr hchoice, hall]
  induction t.children with
  | nil => rfl
  | cons c ts ih =>
    rw [List.flatMap_cons, ih, List.filter_cons]
    by_cases hc : c.mayHoldFlaw
    · simp [hc, flaws]
    · simp [hc]

theorem firstFlaw?_eq_head? (ts : List Tree) : firstFlaw? ts = (ts.flatMap flaws).head? := by
  fun_induction firstFlaw? ts with
  | case1 => rfl
  | case2 t rest h => rw [List.flatMap_cons, flaws_of_isFlaw h]; rfl
  | case3 t rest h ih =>
    rw [ih, List.flatMap_append, List.flatMap_cons, flaws_of_not_isFlaw h]

theorem firstFlaw?_singleton (t : Tree) :
    firstFlaw? [t] = t.positions.findSome? t.flawAt? := by
  rw [firstFlaw?_eq_head?, List.flatMap_singleton, flaws, List.head?_filterMap]

theorem mem_positions_of_exposed {t flaw : Tree} {p : Position} (h : Exposed t p flaw) :
    p ∈ t.positions :=
  (t.mem_positions p).mpr (by rw [h.node]; rfl)

/-- The search finds the first exposed flaw. -/
theorem firstFlaw?_eq_some {t flaw : Tree} :
    firstFlaw? [t] = some flaw ↔
      ∃ p, Exposed t p flaw ∧ ∀ q n, Exposed t q n → ¬ q < p := by
  rw [firstFlaw?_singleton]
  constructor
  · intro h
    -- Positions are listed in order, so a smaller one lies in the part that holds no flaw.
    obtain ⟨earlier, p, later, heq, hp, hnone⟩ := List.findSome?_eq_some_iff.mp h
    refine ⟨p, flawAt?_eq_some.mp hp, ?_⟩
    intro q n hq hlt
    have hmem := mem_positions_of_exposed hq
    have hsorted := t.pairwise_positions
    rw [heq] at hmem hsorted
    have hlater := (List.pairwise_cons.mp (List.pairwise_append.mp hsorted).2.1).1
    rcases List.mem_append.mp hmem with hmem | hmem
    · exact Option.some_ne_none n ((flawAt?_eq_some.mpr hq).symm.trans (hnone q hmem))
    · rcases List.mem_cons.mp hmem with rfl | hmem
      · exact List.lt_irrefl _ hlt
      · exact List.lt_asymm hlt (hlater q hmem)
  · rintro ⟨p, hp, hfirst⟩
    obtain ⟨earlier, later, heq⟩ := List.append_of_mem (mem_positions_of_exposed hp)
    have hsorted := t.pairwise_positions
    rw [heq] at hsorted
    have hearlier := (List.pairwise_append.mp hsorted).2.2
    refine List.findSome?_eq_some_iff.mpr
      ⟨earlier, p, later, heq, flawAt?_eq_some.mpr hp, ?_⟩
    intro q hq
    rw [Option.eq_none_iff_forall_ne_some]
    intro n hn
    exact hfirst q n (flawAt?_eq_some.mp hn) (hearlier q hq p List.mem_cons_self)

theorem firstFlaw?_eq_none {t : Tree} : firstFlaw? [t] = none ↔ ∀ p n, ¬ Exposed t p n := by
  rw [firstFlaw?_singleton, List.findSome?_eq_none_iff]
  constructor
  · intro h p n hp
    have hnone := h p (mem_positions_of_exposed hp)
    rw [flawAt?_eq_some.mpr hp] at hnone
    exact Option.some_ne_none n hnone
  · intro h p _
    rw [Option.eq_none_iff_forall_ne_some]
    intro n hn
    exact h p n (flawAt?_eq_some.mp hn)

-- ---------------------------------------------------------------------------
-- Exact reports
-- ---------------------------------------------------------------------------

/-- A node reports an error iff it is a flaw or contains one. -/
def FlagsExact (t : Tree) : Prop :=
  ∀ n ∈ t.nodes, n.data.hasError = true ↔ ∃ m ∈ n.nodes, m.isFlaw

instance (t : Tree) : Decidable t.FlagsExact :=
  inferInstanceAs (Decidable (∀ n ∈ t.nodes, _))

theorem self_mem_nodes (t : Tree) : t ∈ t.nodes :=
  mem_nodes.mpr ⟨[], rfl⟩

theorem FlagsExact.exposed_iff {t flaw : Tree} (h : t.FlagsExact) {p : Position} :
    Exposed t p flaw ↔ t.at? p = some flaw ∧ flaw.isFlaw := by
  refine ⟨fun hp => ⟨hp.node, hp.isFlaw⟩, fun ⟨hnode, hflaw⟩ => ⟨hnode, hflaw, ?_⟩⟩
  rintro q n - ⟨r, rfl⟩ hq
  rw [at?_append, hq, Option.bind_some] at hnode
  have herror := (h n (mem_nodes.mpr ⟨q, hq⟩)).mpr ⟨flaw, mem_nodes.mpr ⟨r, hnode⟩, hflaw⟩
  rw [mayHoldFlaw, herror, Bool.true_or]

/-- With exact reports nothing is missed: the search finds what a search through all nodes does. -/
theorem FlagsExact.firstFlaw?_eq {t : Tree} (h : t.FlagsExact) :
    firstFlaw? [t] = t.nodes.find? isFlaw := by
  have hflaw : t.flawAt? = fun p => (t.at? p).filter isFlaw := by
    funext p
    ext flaw
    rw [flawAt?_eq_some, h.exposed_iff, Option.filter_eq_some_iff]
  rw [firstFlaw?_singleton, nodes, ← List.head?_filter, List.filter_filterMap, List.head?_filterMap,
    hflaw]

-- ---------------------------------------------------------------------------
-- Offsets
-- ---------------------------------------------------------------------------

/-- The spans of children lie inside that of their parent, and each child ends before the next one
begins. -/
structure SpansNested (t : Tree) : Prop where
  within : ∀ n ∈ t.nodes, ∀ c ∈ n.children, c.data.span.Within n.data.span
  ordered : ∀ n ∈ t.nodes, n.children.Pairwise fun a b => a.data.span.stop ≤ b.data.span.start

instance (t : Tree) : Decidable t.SpansNested :=
  decidable_of_iff
    ((∀ n ∈ t.nodes, ∀ c ∈ n.children, c.data.span.Within n.data.span) ∧
      ∀ n ∈ t.nodes, n.children.Pairwise fun a b => a.data.span.stop ≤ b.data.span.start)
    ⟨fun h => ⟨h.1, h.2⟩, fun h => ⟨h.within, h.ordered⟩⟩

theorem mem_nodes_of_mem_children {t c n : Tree} (hc : c ∈ t.children) (hn : n ∈ c.nodes) :
    n ∈ t.nodes := by
  obtain ⟨i, hi⟩ := List.getElem?_of_mem hc
  obtain ⟨p, hp⟩ := mem_nodes.mp hn
  exact mem_nodes.mpr ⟨i :: p, at?_cons_eq_some.mpr ⟨c, hi, hp⟩⟩

namespace SpansNested

theorem child {t c : Tree} (h : t.SpansNested) (hc : c ∈ t.children) : c.SpansNested :=
  ⟨fun n hn => h.within n (mem_nodes_of_mem_children hc hn),
    fun n hn => h.ordered n (mem_nodes_of_mem_children hc hn)⟩

theorem child_within {t c : Tree} (h : t.SpansNested) (hc : c ∈ t.children) :
    c.data.span.Within t.data.span :=
  h.within t t.self_mem_nodes c hc

theorem start_le {t n : Tree} (h : t.SpansNested) {p : Position} (hn : t.at? p = some n) :
    t.data.span.start ≤ n.data.span.start := by
  induction p generalizing t with
  | nil =>
    obtain rfl := Option.some.inj hn
    exact Nat.le_refl _
  | cons i p ih =>
    obtain ⟨c, hc, hcn⟩ := at?_cons_eq_some.mp hn
    have hmem := List.mem_of_getElem? hc
    exact Nat.le_trans (h.child_within hmem).start (ih (h.child hmem) hcn)

theorem start_le_stop {t n : Tree} (h : t.SpansNested)
    (hproper : t.data.span.start ≤ t.data.span.stop) {p : Position} (hn : t.at? p = some n) :
    n.data.span.start ≤ t.data.span.stop := by
  induction p generalizing t with
  | nil =>
    obtain rfl := Option.some.inj hn
    exact hproper
  | cons i p ih =>
    obtain ⟨c, hc, hcn⟩ := at?_cons_eq_some.mp hn
    have hmem := List.mem_of_getElem? hc
    have hin := h.child_within hmem
    exact Nat.le_trans (ih (h.child hmem) hin.proper hcn) hin.stop

/-- Source order is the order of offsets. -/
theorem start_le_of_lt {t n m : Tree} (h : t.SpansNested) {p q : Position} (hlt : p < q)
    (hn : t.at? p = some n) (hm : t.at? q = some m) :
    n.data.span.start ≤ m.data.span.start := by
  induction p generalizing t q with
  | nil =>
    obtain rfl := Option.some.inj hn
    exact h.start_le hm
  | cons i p ih =>
    cases q with
    | nil => exact absurd hlt (List.not_lt_nil _)
    | cons j q =>
      obtain ⟨c, hc, hcn⟩ := at?_cons_eq_some.mp hn
      obtain ⟨d, hd, hdm⟩ := at?_cons_eq_some.mp hm
      have hcmem := List.mem_of_getElem? hc
      have hdmem := List.mem_of_getElem? hd
      rcases List.cons_lt_cons_iff.mp hlt with hij | ⟨rfl, hpq⟩
      · obtain ⟨hi, rfl⟩ := List.getElem?_eq_some_iff.mp hc
        obtain ⟨hj, rfl⟩ := List.getElem?_eq_some_iff.mp hd
        have hsiblings :=
          List.pairwise_iff_getElem.mp (h.ordered t t.self_mem_nodes) i j hi hj hij
        calc n.data.span.start
            ≤ t.children[i].data.span.stop :=
              (h.child hcmem).start_le_stop (h.child_within hcmem).proper hcn
          _ ≤ t.children[j].data.span.start := hsiblings
          _ ≤ m.data.span.start := (h.child hdmem).start_le hdm
      · obtain rfl := Option.some.inj (hc.symm.trans hd)
        exact ih (h.child hcmem) hpq hcn hdm

end SpansNested

theorem FlagsExact.start_le_of_find? {t flaw m : Tree} (h : t.FlagsExact) (hspans : t.SpansNested)
    (hflaw : t.nodes.find? isFlaw = some flaw) (hm : m ∈ t.nodes) (hmflaw : m.isFlaw) :
    flaw.data.span.start ≤ m.data.span.start := by
  obtain ⟨p, hp, hfirst⟩ := firstFlaw?_eq_some.mp (h.firstFlaw?_eq.trans hflaw)
  obtain ⟨q, hq⟩ := mem_nodes.mp hm
  have hnot : ¬ q < p := hfirst q m (h.exposed_iff.mpr ⟨hq, hmflaw⟩)
  rcases lt_trichotomy p q with hlt | rfl | hlt
  · exact hspans.start_le_of_lt hlt hp.node hq
  · obtain rfl := Option.some.inj (hp.node.symm.trans hq)
    exact Nat.le_refl _
  · exact absurd hlt hnot

theorem mem_nodes_of_firstFlaw? {t flaw : Tree} (h : firstFlaw? [t] = some flaw) :
    flaw ∈ t.nodes := by
  obtain ⟨p, hp, -⟩ := firstFlaw?_eq_some.mp h
  exact mem_nodes.mpr ⟨p, hp.node⟩

-- ---------------------------------------------------------------------------
-- Points
-- ---------------------------------------------------------------------------

/-- The point of each node is the row and the column of its first byte. -/
def PointsAtStart (source : List UInt8) (t : Tree) : Prop :=
  ∀ n ∈ t.nodes, n.data.point = .ofOffset source n.data.span.start

instance (source : List UInt8) (t : Tree) : Decidable (t.PointsAtStart source) :=
  inferInstanceAs (Decidable (∀ n ∈ t.nodes, _))

theorem locatedAll_eq_map (source : List UInt8) (ts : List Tree) :
    locatedAll source ts = ts.map (located source) := by
  induction ts with
  | nil => rfl
  | cons t ts ih => rw [locatedAll, ih, List.map_cons]

theorem children_located (source : List UInt8) (t : Tree) :
    (t.located source).children = t.children.map (located source) := by
  cases t
  rw [located, children, locatedAll_eq_map, children]

theorem at?_located (source : List UInt8) (t : Tree) (p : Position) :
    (t.located source).at? p = (t.at? p).map (located source) := by
  induction p generalizing t with
  | nil => rfl
  | cons i p ih =>
    rw [at?, at?, children_located, List.getElem?_map]
    cases t.children[i]? with
    | none => rfl
    | some c => exact ih c

/-- Points that are computed are exact. -/
theorem pointsAtStart_located (source : List UInt8) (t : Tree) :
    (t.located source).PointsAtStart source := by
  intro n hn
  obtain ⟨p, hp⟩ := mem_nodes.mp hn
  rw [at?_located, Option.map_eq_some_iff] at hp
  obtain ⟨m, -, rfl⟩ := hp
  cases m
  rfl

end Tree

-- ---------------------------------------------------------------------------
-- Parsing
-- ---------------------------------------------------------------------------

namespace Diagnosis

theorem cause_ne_unlocated (source : List UInt8) (flaw : Tree) :
    cause source flaw ≠ .unlocated := by
  unfold cause
  split
  · exact Cause.noConfusion
  · split <;> exact Cause.noConfusion

theorem failure_of_firstFlaw? {source : List UInt8} {t flaw : Tree}
    (h : Tree.firstFlaw? [t] = some flaw) : failure source t = failureAt source flaw := by
  simp only [failure, h]

/-- A flaw whose point is that of its offset is reported where it begins. -/
theorem failureAt_eq_ofOffset {source : List UInt8} {flaw : Tree}
    (h : flaw.data.point = .ofOffset source flaw.data.span.start) :
    failureAt source flaw = .ofOffset (cause source flaw) source flaw.data.span.start := by
  rw [failureAt, h]
  rfl

end Diagnosis

theorem Scan.value_parse (parser : Parser) (source : List UInt8) :
    (Scan.parse parser source).value = (parser source).diagnose source := by
  unfold Scan.parse
  cases (parser source).diagnose source <;> rfl

theorem Tree.FlagsExact.hasError_iff {t : Tree} (h : t.FlagsExact) :
    t.data.hasError = true ↔ ∃ n ∈ t.nodes, n.isFlaw :=
  h t t.self_mem_nodes

/-- A parse gives its tree iff there is no flaw in it, and otherwise the failure of the first flaw:
of all flaws that one begins first. It is reported at its point, which is the place of its offset if
points are exact. Where reports cannot be trusted, the search still finds the first of the flaws
that are exposed. -/
theorem parse_reports_first_flaw (parser : Parser) (source : List UInt8) :
    let t := parser source
    (t.FlagsExact →
      ((Scan.parse parser source).value = .ok t ↔ ∀ n ∈ t.nodes, ¬ n.isFlaw) ∧
      ∀ flaw, t.nodes.find? Tree.isFlaw = some flaw →
        (Scan.parse parser source).value = .error ⟨Diagnosis.cause source flaw,
          flaw.data.span.start, flaw.data.point.row + 1, flaw.data.point.column + 1, none⟩ ∧
        (t.PointsAtStart source → (Scan.parse parser source).value =
          .error (.ofOffset (Diagnosis.cause source flaw) source flaw.data.span.start)) ∧
        Diagnosis.cause source flaw ≠ .unlocated ∧
        (t.SpansNested → ∀ n ∈ t.nodes, n.isFlaw → flaw.data.span.start ≤ n.data.span.start)) ∧
    (∀ flaw, Tree.firstFlaw? [t] = some flaw ↔
      ∃ p, t.Exposed p flaw ∧ ∀ q n, t.Exposed q n → ¬ q < p) ∧
    (Tree.firstFlaw? [t] = none ↔ ∀ p n, ¬ t.Exposed p n) := by
  intro t
  have hreport : ∀ flaw, t.FlagsExact → t.nodes.find? Tree.isFlaw = some flaw →
      (Scan.parse parser source).value = .error (Diagnosis.failureAt source flaw) := by
    intro flaw hexact hflaw
    have herror : t.data.hasError = true :=
      hexact.hasError_iff.mpr ⟨flaw, List.mem_of_find?_eq_some hflaw, List.find?_some hflaw⟩
    rw [Scan.value_parse, Tree.diagnose, if_pos herror,
      Diagnosis.failure_of_firstFlaw? (hexact.firstFlaw?_eq.trans hflaw)]
  refine ⟨fun hexact => ⟨?_, fun flaw hflaw => ⟨hreport flaw hexact hflaw, ?_, ?_, ?_⟩⟩, ?_, ?_⟩
  · have hnone : (∀ n ∈ t.nodes, ¬ n.isFlaw) ↔ ¬ t.data.hasError = true := by
      simp only [hexact.hasError_iff, not_exists, not_and]
    rw [Scan.value_parse, hnone, Tree.diagnose]
    by_cases herror : t.data.hasError = true
    · simp [t, herror]
    · simp [t, herror]
  · intro hpoints
    have hpoint := hpoints flaw (List.mem_of_find?_eq_some hflaw)
    rw [hreport flaw hexact hflaw, Diagnosis.failureAt_eq_ofOffset hpoint]
  · exact Diagnosis.cause_ne_unlocated source flaw
  · intro hspans n hn hnflaw
    exact hexact.start_le_of_find? hspans hflaw hn hnflaw
  · intro flaw
    exact Tree.firstFlaw?_eq_some
  · exact Tree.firstFlaw?_eq_none

/-- Two brackets in the wrong place, one of them inside a block. -/
def strayBrackets : Tree :=
  let leaf (kind : String) (start : Nat) (isError : Bool) : Tree :=
    .node ⟨kind, ⟨start, start + 1⟩, ⟨0, start⟩, true, isError, false, isError, false, none⟩ []
  let block : Tree :=
    .node ⟨"block", ⟨2, 5⟩, ⟨0, 2⟩, true, false, false, true, false, none⟩
      [leaf "ERROR" 2 true, leaf "identifier" 4 false]
  .node ⟨"source_file", ⟨0, 7⟩, ⟨0, 0⟩, true, false, false, true, false, none⟩
    [leaf "identifier" 0 false, block, leaf "ERROR" 6 true]

theorem strayBrackets_reports_the_inner_one :
    strayBrackets.FlagsExact ∧ strayBrackets.SpansNested ∧
      (Scan.parse (fun _ => strayBrackets) (Text.Utf8.encode "a ) b (".toList)).value =
        .error ⟨.unexpected [')'], 2, 1, 3, none⟩ ∧
      ∀ n ∈ strayBrackets.nodes, n.isFlaw → 2 ≤ n.data.span.start := by
  have hexact : strayBrackets.FlagsExact := by decide
  have hspans : strayBrackets.SpansNested := by decide
  have h := parse_reports_first_flaw (fun _ => strayBrackets) (Text.Utf8.encode "a ) b (".toList)
  obtain ⟨hparse, -, -, hleast⟩ := (h.1 hexact).2 _ rfl
  exact ⟨hexact, hspans, hparse.trans rfl, hleast hspans⟩

end UnsafeCensus
