import UnsafeCensus.Proofs.Tree.Position
import UnsafeCensus.Proofs.Tree.Thinning

/-!
# Edits

An edit of a tree goes from node to node: it gives a node other data, or leaves the node out with
all that it contains. Nodes are told apart by their positions in the tree as it was.
-/

namespace UnsafeCensus

/-- What becomes of the node at a position: other data in its place, or nothing. -/
abbrev Edit := Position → Node → Option Node

namespace Edit

/-- The edit below the child at an index. -/
def inside (e : Edit) (i : Nat) : Edit := fun p => e (i :: p)

/-- The edit below the siblings behind the first one. -/
def past (e : Edit) : Edit := fun p => e p.next

/-- Leave out what lies at the chosen positions below the root. -/
def omitting (chosen : Position → Bool) : Edit :=
  fun p d => if p ≠ [] ∧ chosen p then none else some d

/-- Change what is known of each node, wherever it lies. -/
def relabelling (f : Node → Node) : Edit :=
  fun _ d => some (f d)

end Edit

namespace Tree

mutual

/-- What an edit makes of a tree, if it does not leave it out. -/
def edited? (e : Edit) : Tree → Option Tree
  | node d ts => (e [] d).map fun d' => node d' (editedAll e ts)

/-- What an edit of a parent makes of its children. -/
def editedAll (e : Edit) : List Tree → List Tree
  | [] => []
  | t :: ts => (t.edited? (e.inside 0)).toList ++ editedAll e.past ts

end

/-- What an edit makes of a whole tree, which is not left out. -/
def edited (e : Edit) (t : Tree) : Tree :=
  (t.edited? e).getD t

theorem edited?_eq_some {e : Edit} {t u : Tree} :
    t.edited? e = some u ↔
      e [] t.data = some u.data ∧ u.children = editedAll e t.children := by
  obtain ⟨d, ts⟩ := t
  obtain ⟨d', us⟩ := u
  rw [edited?, Option.map_eq_some_iff]
  constructor
  · rintro ⟨_, hd, heq⟩
    cases heq
    exact ⟨hd, rfl⟩
  · rintro ⟨hd, hus⟩
    exact ⟨d', hd, congrArg (node d') hus.symm⟩

theorem edited?_eq_none {e : Edit} {t : Tree} : t.edited? e = none ↔ e [] t.data = none := by
  obtain ⟨d, ts⟩ := t
  simp [edited?, data]

theorem edited?_eq_edited {e : Edit} {t : Tree} (h : (e [] t.data).isSome) :
    t.edited? e = some (t.edited e) := by
  cases ht : t.edited? e with
  | none =>
    rw [edited?_eq_none.mp ht] at h
    cases h
  | some u => rw [edited, ht, Option.getD_some]

/-- The children that an edit leaves are the edits of children, in order. -/
theorem thinned_editedAll (e : Edit) (ts : List Tree) :
    Thinned (fun t u => ∃ i : Nat, ts[i]? = some t ∧ t.edited? (e.inside i) = some u)
      (fun t => ∃ i : Nat, ts[i]? = some t ∧ t.edited? (e.inside i) = none)
      ts (editedAll e ts) := by
  induction ts generalizing e with
  | nil => exact .nil
  | cons t ts ih =>
    -- A child behind the first one is edited at the index it has among those behind.
    have htail := (ih e.past).imp
      (fun _ _ ⟨i, ht, hu⟩ =>
        (⟨i + 1, ht, hu⟩ : ∃ i : Nat, (t :: ts)[i]? = some _ ∧ edited? (e.inside i) _ = some _))
      (fun _ ⟨i, ht, hu⟩ =>
        (⟨i + 1, ht, hu⟩ : ∃ i : Nat, (t :: ts)[i]? = some _ ∧ edited? (e.inside i) _ = none))
    rw [editedAll]
    cases hedit : t.edited? (e.inside 0) with
    | none => exact .drop ⟨0, rfl, hedit⟩ htail
    | some u => exact .keep ⟨0, rfl, hedit⟩ htail

-- ---------------------------------------------------------------------------
-- Edits that leave nothing out
-- ---------------------------------------------------------------------------

variable (f : Node → Node)

theorem edited?_relabelling (t : Tree) :
    t.edited? (.relabelling f) = some (t.edited (.relabelling f)) :=
  edited?_eq_edited rfl

@[simp] theorem data_edited_relabelling (t : Tree) :
    (t.edited (.relabelling f)).data = f t.data := by
  have h := (edited?_eq_some.mp (edited?_relabelling f t)).1
  exact (Option.some.inj h).symm

theorem editedAll_relabelling (ts : List Tree) :
    editedAll (.relabelling f) ts = ts.map fun t => t.edited (.relabelling f) := by
  induction ts with
  | nil => rfl
  | cons t ts ih =>
    have hfirst : t.edited? (Edit.inside (.relabelling f) 0) = some (t.edited (.relabelling f)) :=
      edited?_relabelling f t
    rw [editedAll, hfirst, List.map_cons, ← ih]
    rfl

@[simp] theorem children_edited_relabelling (t : Tree) :
    (t.edited (.relabelling f)).children = t.children.map fun c => c.edited (.relabelling f) := by
  rw [(edited?_eq_some.mp (edited?_relabelling f t)).2, editedAll_relabelling]

mutual

theorem edited?_relabelling_id (t : Tree) : t.edited? (.relabelling id) = some t := by
  cases t with
  | node d ts =>
    rw [edited?, editedAll_relabelling_id ts]
    rfl

theorem editedAll_relabelling_id (ts : List Tree) : editedAll (.relabelling id) ts = ts := by
  cases ts with
  | nil => rfl
  | cons t ts =>
    have hfirst : t.edited? (Edit.inside (.relabelling id) 0) = some t := edited?_relabelling_id t
    have hrest : editedAll (Edit.past (.relabelling id)) ts = ts := editedAll_relabelling_id ts
    rw [editedAll, hfirst, hrest]
    rfl

end

end Tree

/-- A root with an edit of the tree that it heads. -/
def Site.edited (e : Edit) (s : Site) : Site :=
  ⟨s.tree.edited e, s.above, s.before⟩

-- ---------------------------------------------------------------------------
-- Trees written out
-- ---------------------------------------------------------------------------

namespace Tree

/-- A node of a grammar rule, in a text that has no errors. -/
def ofRule (kind : String) (start stop : Nat) (children : List Tree) : Tree :=
  .node ⟨kind, ⟨start, stop⟩, ⟨0, start⟩, true, false, false, false, false, none⟩ children

/-- A node of a single token. -/
def ofToken (kind : String) (start stop : Nat) : Tree :=
  .node ⟨kind, ⟨start, stop⟩, ⟨0, start⟩, false, false, false, false, false, none⟩ []

end Tree

end UnsafeCensus
