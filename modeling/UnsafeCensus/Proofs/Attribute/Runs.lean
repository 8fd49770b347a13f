import Mathlib.Data.List.DropRight
import Mathlib.Data.Nat.Find
import UnsafeCensus.Proofs.Attribute.Decorations

/-!
# Runs of attributes and comments

The attributes of an item are those of the run of attributes and comments that ends directly before
it. Seen from an attribute, only one sibling that is neither can stand directly behind its run: the
attribute is reported for that one, and for no other such sibling.
-/

namespace UnsafeCensus

-- ---------------------------------------------------------------------------
-- Siblings by position
-- ---------------------------------------------------------------------------

theorem Site.getElem?_siblings (above : List String) (before ts : List Tree) (k : Nat) :
    (siblings above before ts)[k]? =
      ts[k]?.map fun t => ⟨t, above, (ts.take k).reverse ++ before⟩ := by
  induction ts generalizing before k with
  | nil => rfl
  | cons t ts ih =>
    cases k with
    | zero => rfl
    | succ k => simp [siblings, ih]

namespace Tree

variable {source : List UInt8} {ts : List Tree} {i j k l : Nat}

-- ---------------------------------------------------------------------------
-- Runs
-- ---------------------------------------------------------------------------

/-- The siblings from `i` up to `k` are attributes and comments. -/
def Uninterrupted (ts : List Tree) (i k : Nat) : Prop :=
  ∀ t ∈ (ts.take k).drop i, t.isDecoration = true

/-- The longest run of attributes and comments that ends directly before `k` begins at `j`. -/
structure IsRun (ts : List Tree) (j k : Nat) : Prop where
  le : j ≤ k
  uninterrupted : Uninterrupted ts j k
  maximal : ∀ t ∈ (ts.take j).getLast?, t.isDecoration = false

instance : DecidableRel (Uninterrupted ts) := fun i k =>
  inferInstanceAs (Decidable (∀ t ∈ (ts.take k).drop i, t.isDecoration = true))

theorem uninterrupted_iff :
    Uninterrupted ts i k ↔ ∀ m t, i ≤ m → m < k → ts[m]? = some t → t.isDecoration = true := by
  constructor
  · intro h m t him hmk hm
    refine h t (List.mem_of_getElem? (i := m - i) ?_)
    rw [List.getElem?_drop, Nat.add_sub_cancel' him, List.getElem?_take_of_lt hmk, hm]
  · intro h t ht
    obtain ⟨n, hn⟩ := List.getElem?_of_mem ht
    rw [List.getElem?_drop, List.getElem?_take, Option.ite_none_right_eq_some] at hn
    exact h (i + n) t (Nat.le_add_right i n) hn.1 hn.2

theorem exists_isRun (ts : List Tree) (k : Nat) : ∃ j, IsRun ts j k := by
  have hprefix := List.rdropWhile_prefix isDecoration (l := ts.take k)
  have hle : ((ts.take k).rdropWhile isDecoration).length ≤ k :=
    Nat.le_trans hprefix.length_le (List.length_take_le k ts)
  refine ⟨((ts.take k).rdropWhile isDecoration).length, hle, ?_, ?_⟩
  · intro t ht
    have hsplit : (ts.take k).rdropWhile isDecoration ++ (ts.take k).rtakeWhile isDecoration =
        ts.take k := List.rdropWhile_append_rtakeWhile
    rw [← hsplit, List.drop_left' (by rw [hsplit])] at ht
    exact List.mem_rtakeWhile_imp ht
  · have hfront : ts.take ((ts.take k).rdropWhile isDecoration).length =
        (ts.take k).rdropWhile isDecoration := by
      rw [← Nat.min_eq_left hle, ← List.take_take, ← List.prefix_iff_eq_take.mp hprefix]
    rw [hfront]
    intro t ht
    obtain ⟨hne, rfl⟩ := List.mem_getLast?_eq_getLast ht
    simpa using List.rdropWhile_last_not isDecoration _ hne

theorem IsRun.isDecoration_before (h : IsRun ts (i + 1) k) {t : Tree} (ht : ts[i]? = some t) :
    t.isDecoration = false := by
  apply h.maximal
  rw [List.take_add_one, ht]
  simp

/-- How far back from a sibling there are only attributes and comments is said by its run. -/
theorem IsRun.uninterrupted_iff_le (h : IsRun ts j k) (hk : k ≤ ts.length) :
    Uninterrupted ts i k ↔ j ≤ i := by
  constructor
  · intro hi
    by_contra hlt
    obtain ⟨m, rfl⟩ : ∃ m, j = m + 1 := Nat.exists_eq_add_one_of_ne_zero (by omega)
    have hmk : m < k := h.le
    have hm : ts[m]? = some ts[m] := List.getElem?_eq_getElem (Nat.lt_of_lt_of_le hmk hk)
    have hin := uninterrupted_iff.mp hi m _ (by omega) hmk hm
    rw [h.isDecoration_before hm] at hin
    cases hin
  · intro hji
    refine uninterrupted_iff.mpr fun m t him hmk hm => ?_
    exact uninterrupted_iff.mp h.uninterrupted m t (Nat.le_trans hji him) hmk hm

theorem IsRun.unique (h : IsRun ts j k) (h' : IsRun ts i k) (hk : k ≤ ts.length) : j = i :=
  Nat.le_antisymm ((h.uninterrupted_iff_le hk).mp h'.uninterrupted)
    ((h'.uninterrupted_iff_le hk).mp h.uninterrupted)

/-- What stands behind an attribute or a comment is all of that kind, or there is a first sibling
that is not. -/
theorem all_or_exists_uninterrupted {t : Tree} (ht : ts[i]? = some t)
    (hdecoration : t.isDecoration = true) :
    (∀ k u, i < k → ts[k]? = some u → u.isDecoration = true) ∨
      ∃ k u, i < k ∧ Uninterrupted ts i k ∧ ts[k]? = some u ∧ u.isDecoration = false := by
  classical
  by_cases hex : ∃ k, i < k ∧ ∃ u, ts[k]? = some u ∧ u.isDecoration = false
  · obtain ⟨hik, u, hu, hend⟩ := Nat.find_spec hex
    refine Or.inr ⟨Nat.find hex, u, hik, uninterrupted_iff.mpr fun m w him hmk hw => ?_, hu, hend⟩
    rcases Nat.eq_or_lt_of_le him with rfl | him
    · obtain rfl := Option.some.inj (ht.symm.trans hw)
      exact hdecoration
    · by_contra hwend
      exact Nat.find_min hex hmk ⟨him, w, hw, Bool.eq_false_iff.mpr hwend⟩
  · refine Or.inl fun k u hik hu => ?_
    by_contra hend
    exact hex ⟨k, hik, u, hu, Bool.eq_false_iff.mpr hend⟩

-- ---------------------------------------------------------------------------
-- Reports
-- ---------------------------------------------------------------------------

/-- The attribute that a sibling itself is, if it can be read. -/
def attribute? (source : List UInt8) (t : Tree) : Option Attribute :=
  if t.kind == Attribute.outerKind then Attribute.ofNode? source t else none

theorem attribute?_of_kind {t : Tree} (h : t.kind = Attribute.outerKind) :
    t.attribute? source = Attribute.ofNode? source t := by
  simp [attribute?, h]

theorem isDecoration_of_kind {t : Tree} (h : t.kind = Attribute.outerKind) :
    t.isDecoration = true := by
  simp [isDecoration, h]

/-- The sibling at `i` is an attribute that can be read, and in the run before `k`. -/
structure ReportedFor (source : List UInt8) (ts : List Tree) (i k : Nat) : Prop where
  reads : ∃ t, ts[i]? = some t ∧ (t.attribute? source).isSome = true
  inRun : ∃ j, IsRun ts j k ∧ j ≤ i ∧ i < k

theorem decorations_of_isRun (h : IsRun ts j k) :
    decorations source (ts.take k).reverse =
      ((ts.take k).drop j).filterMap (attribute? source) := by
  have hsplit : (ts.take k).reverse = ((ts.take k).drop j).reverse ++ (ts.take j).reverse := by
    rw [← List.reverse_append, ← Nat.min_eq_left h.le, ← List.take_take, Nat.min_eq_left h.le,
      List.take_append_drop]
  rw [hsplit, decorations_append]
  · unfold decorations
    rw [List.takeWhile_eq_self_iff.mpr, List.reverse_reverse, List.filterMap_filter]
    · rfl
    · intro t ht
      exact h.uninterrupted t (List.mem_reverse.mp ht)
  · rw [List.head?_reverse]
    exact h.maximal

theorem ReportedFor.uninterrupted (h : ReportedFor source ts i k) :
    i < k ∧ Uninterrupted ts i k := by
  obtain ⟨j, hj, hji, hik⟩ := h.inRun
  refine ⟨hik, uninterrupted_iff.mpr fun m t him => ?_⟩
  exact uninterrupted_iff.mp hj.uninterrupted m t (Nat.le_trans hji him)

theorem reportedFor_of_uninterrupted (hk : k ≤ ts.length)
    (hreads : ∃ t, ts[i]? = some t ∧ (t.attribute? source).isSome = true) (hik : i < k)
    (hrun : Uninterrupted ts i k) : ReportedFor source ts i k := by
  obtain ⟨j, hj⟩ := exists_isRun ts k
  exact ⟨hreads, j, hj, (hj.uninterrupted_iff_le hk).mp hrun, hik⟩

theorem IsRun.reportedFor_iff (h : IsRun ts j k) (hk : k ≤ ts.length) :
    ReportedFor source ts i k ↔
      (∃ t, ts[i]? = some t ∧ (t.attribute? source).isSome = true) ∧ j ≤ i ∧ i < k := by
  constructor
  · rintro ⟨hreads, j', h', hji, hik⟩
    obtain rfl := h.unique h' hk
    exact ⟨hreads, hji, hik⟩
  · rintro ⟨hreads, hji, hik⟩
    exact ⟨hreads, j, h, hji, hik⟩

/-- The sibling for which an attribute is reported ends its run. -/
theorem ReportedFor.le_of_end (h : ReportedFor source ts i k) {t : Tree} (ht : ts[l]? = some t)
    (hend : t.isDecoration = false) (hil : i ≤ l) : k ≤ l := by
  by_contra hlt
  have hin := uninterrupted_iff.mp h.uninterrupted.2 l t hil (Nat.lt_of_not_le hlt) ht
  rw [hend] at hin
  cases hin

/-- The attributes of a sibling are, in source order, those that can be read of the longest run of
attributes and comments directly before it. Among the siblings that are neither, each attribute is
reported for one at most: for the one directly behind its run. It is reported for none iff it cannot
be read or there is no such sibling. -/
theorem attributes_decorate_what_they_precede (source : List UInt8) (above : List String)
    (ts : List Tree) :
    (∀ k s, (Site.siblings above [] ts)[k]? = some s → ∃ j, IsRun ts j k ∧
      s.outerAttributes source = ((ts.take k).drop j).filterMap (attribute? source) ∧
      ∀ i, ReportedFor source ts i k ↔
        (∃ t, ts[i]? = some t ∧ (t.attribute? source).isSome = true) ∧ j ≤ i ∧ i < k) ∧
    (∀ i k l t u, ts[k]? = some t → t.isDecoration = false → ts[l]? = some u →
      u.isDecoration = false → ReportedFor source ts i k → ReportedFor source ts i l → k = l) ∧
    ∀ i t, ts[i]? = some t → t.kind = Attribute.outerKind →
      (∀ k < ts.length, ReportedFor source ts i k ↔
        (Attribute.ofNode? source t).isSome = true ∧ i < k ∧ Uninterrupted ts i k) ∧
      ((∀ k u, ts[k]? = some u → u.isDecoration = false → ¬ ReportedFor source ts i k) ↔
        Attribute.ofNode? source t = none ∨
          ∀ k u, i < k → ts[k]? = some u → u.isDecoration = true) := by
  refine ⟨?_, ?_, ?_⟩
  · intro k s hs
    rw [Site.getElem?_siblings, Option.map_eq_some_iff] at hs
    obtain ⟨t, ht, rfl⟩ := hs
    obtain ⟨j, hj⟩ := exists_isRun ts k
    refine ⟨j, hj, ?_, fun i => hj.reportedFor_iff (List.getElem?_eq_some_iff.mp ht).1.le⟩
    rw [Site.outerAttributes_eq, List.append_nil, decorations_of_isRun hj]
  · intro i k l t u ht htend hu huend hk hl
    refine Nat.le_antisymm (hk.le_of_end hu huend hl.uninterrupted.1.le) ?_
    exact hl.le_of_end ht htend hk.uninterrupted.1.le
  · intro i t ht hkind
    have hreads : (∃ u, ts[i]? = some u ∧ (u.attribute? source).isSome = true) ↔
        (Attribute.ofNode? source t).isSome = true := by
      simp [ht, attribute?_of_kind hkind]
    have hreported {k : Nat} (hk : k < ts.length) : ReportedFor source ts i k ↔
        (Attribute.ofNode? source t).isSome = true ∧ i < k ∧ Uninterrupted ts i k := by
      rw [← hreads]
      exact ⟨fun h => ⟨h.reads, h.uninterrupted⟩,
        fun h => reportedFor_of_uninterrupted hk.le h.1 h.2.1 h.2.2⟩
    refine ⟨fun k hk => hreported hk, ?_, ?_⟩
    · intro hnone
      rcases all_or_exists_uninterrupted ht (isDecoration_of_kind hkind) with
        hall | ⟨k, u, hik, hrun, hu, hend⟩
      · exact Or.inr hall
      · refine Or.inl (Option.not_isSome_iff_eq_none.mp fun hsome => ?_)
        have hk := (List.getElem?_eq_some_iff.mp hu).1
        exact hnone k u hu hend ((hreported hk).mpr ⟨hsome, hik, hrun⟩)
    · rintro (hnone | hall) k u hu hend hk
      · have hsome := hreads.mp hk.reads
        rw [hnone] at hsome
        cases hsome
      · rw [hall k u hk.uninterrupted.1 hu] at hend
        cases hend

-- ---------------------------------------------------------------------------
-- An attribute that is not read, and one behind which nothing follows
-- ---------------------------------------------------------------------------

/-- A function, decorated by `test` and by an attribute that cannot be read, with a comment in
between. Behind it are an inner attribute and an attribute that decorates nothing. -/
def decoratedFunction : List Tree :=
  let node (kind : String) (span : Span) (children : List Tree) : Tree :=
    .node ⟨kind, span, ⟨0, span.start⟩, true, false, false, false, false, none⟩ children
  let holding (kind : String) (span : Span) : Tree := node kind span [node "attribute" span []]
  [node "struct_item" ⟨0, 0⟩ [], holding "attribute_item" ⟨0, 4⟩, node "line_comment" ⟨4, 5⟩ [],
    holding "attribute_item" ⟨5, 7⟩, node "function_item" ⟨7, 8⟩ [],
    holding "inner_attribute_item" ⟨8, 11⟩, holding "attribute_item" ⟨8, 11⟩]

theorem decoratedFunction_has_one_attribute :
    let source := Text.Utf8.encode "test 9x cfg".toList
    ∃ s, (Site.siblings [] [] decoratedFunction)[4]? = some s ∧
      s.outerAttributes source = [⟨"test", [], false⟩] ∧
      ReportedFor source decoratedFunction 1 4 ∧
      (∀ l u, decoratedFunction[l]? = some u → u.isDecoration = false →
        ReportedFor source decoratedFunction 1 l → l = 4) ∧
      (∀ k u, decoratedFunction[k]? = some u → u.isDecoration = false →
        ¬ ReportedFor source decoratedFunction 3 k ∧ ¬ ReportedFor source decoratedFunction 6 k) := by
  intro source
  obtain ⟨hruns, hone, hnone⟩ := attributes_decorate_what_they_precede source [] decoratedFunction
  obtain ⟨j, hj, hattributes, hreported⟩ := hruns 4 _ rfl
  have hrun : IsRun decoratedFunction 1 4 := ⟨by decide, by decide, by decide⟩
  obtain rfl := hj.unique hrun (by decide)
  have hread : ((decoratedFunction.take 4).drop 1).filterMap (attribute? source) =
      [⟨"test", [], false⟩] := by decide +kernel
  have htest : ReportedFor source decoratedFunction 1 4 :=
    (hreported 1).mpr ⟨⟨_, rfl, by decide +kernel⟩, by decide, by decide⟩
  have hunread := (hnone 3 _ rfl rfl).2.mpr (Or.inl (by decide +kernel))
  have hlast := (hnone 6 _ rfl rfl).2.mpr (Or.inr ?_)
  · refine ⟨_, rfl, hattributes.trans hread, htest, ?_, ?_⟩
    · intro l u hu hend hl
      exact hone 1 l 4 u _ hu hend rfl rfl hl htest
    · intro k u hu hend
      exact ⟨hunread k u hu hend, hlast k u hu hend⟩
  · intro k u hk hu
    rw [List.getElem?_eq_none (show decoratedFunction.length ≤ k from hk)] at hu
    cases hu

end Tree

end UnsafeCensus
