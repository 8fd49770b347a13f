import Mathlib.Data.List.Lex
import UnsafeCensus.Tree.Site

/-!
# Positions in a tree

A node is known by the way that leads to it: which child to take at each step. Two nodes of the
same content are at different positions, so it is positions that are counted and put in order.
Source order is the lexicographic order of positions: a node before what it contains, and all of
that before the next sibling.
-/

namespace UnsafeCensus

/-- A way down a tree, as the indices of the children to take. -/
abbrev Position := List Nat

namespace Position

/-- The same position when one more sibling stands in front of the subtree it lies in. -/
def next : Position → Position
  | [] => []
  | i :: p => (i + 1) :: p

theorem next_lt_next {p q : Position} (h : p < q) : p.next < q.next := by
  cases p with
  | nil =>
    cases q with
    | nil => exact absurd h (List.not_lt_nil _)
    | cons j q => exact List.nil_lt_cons _ _
  | cons i p =>
    cases q with
    | nil => exact absurd h (List.not_lt_nil _)
    | cons j q =>
      rcases List.cons_lt_cons_iff.mp h with hij | ⟨hij, hpq⟩
      · exact List.cons_lt_cons_iff.mpr (.inl (Nat.succ_lt_succ hij))
      · exact List.cons_lt_cons_iff.mpr (.inr ⟨congrArg Nat.succ hij, hpq⟩)

end Position

-- ---------------------------------------------------------------------------
-- Nodes at positions
-- ---------------------------------------------------------------------------

namespace Tree

/-- The node at a position. -/
def at? (t : Tree) : Position → Option Tree
  | [] => some t
  | i :: p => t.children[i]?.bind fun c => c.at? p

@[simp] theorem at?_nil (t : Tree) : t.at? [] = some t := rfl

theorem at?_cons (t : Tree) (i : Nat) (p : Position) :
    t.at? (i :: p) = t.children[i]?.bind fun c => c.at? p := rfl

theorem at?_cons_eq_some {t n : Tree} {i : Nat} {p : Position} :
    t.at? (i :: p) = some n ↔ ∃ c, t.children[i]? = some c ∧ c.at? p = some n := by
  rw [at?_cons, Option.bind_eq_some_iff]

theorem at?_append (t : Tree) (p q : Position) :
    t.at? (p ++ q) = (t.at? p).bind fun n => n.at? q := by
  induction p generalizing t with
  | nil => rfl
  | cons i p ih =>
    rw [List.cons_append, at?_cons, at?_cons]
    cases t.children[i]? with
    | none => rfl
    | some c => exact ih c

end Tree

namespace Site

/-- The node at a position, with what surrounds it. -/
def at? (s : Site) : Position → Option Site
  | [] => some s
  | i :: p => s.children[i]?.bind fun c => c.at? p

@[simp] theorem at?_nil (s : Site) : s.at? [] = some s := rfl

theorem at?_cons (s : Site) (i : Nat) (p : Position) :
    s.at? (i :: p) = s.children[i]?.bind fun c => c.at? p := rfl

theorem at?_cons_eq_some {s n : Site} {i : Nat} {p : Position} :
    s.at? (i :: p) = some n ↔ ∃ c, s.children[i]? = some c ∧ c.at? p = some n := by
  rw [at?_cons, Option.bind_eq_some_iff]

theorem at?_cons_of_child {s c : Site} {i : Nat} (h : s.children[i]? = some c) (p : Position) :
    s.at? (i :: p) = c.at? p := by
  rw [at?_cons, h, Option.bind_some]

/-- The nodes that enclose the one at a position, from the one the position starts at, outermost
first. -/
def enclosing (s : Site) : Position → List Site
  | [] => []
  | i :: p => s :: match s.children[i]? with
    | some c => c.enclosing p
    | none => []

/-- The nodes that enclose the one at a position and lie below the one it starts at. -/
def between (s : Site) (p : Position) : List Site :=
  (s.enclosing p).tail

theorem enclosing_cons {s c : Site} {i : Nat} (h : s.children[i]? = some c) (p : Position) :
    s.enclosing (i :: p) = s :: c.enclosing p := by
  simp only [enclosing, h]

theorem between_cons {s c : Site} {i : Nat} (h : s.children[i]? = some c) (p : Position) :
    s.between (i :: p) = c.enclosing p := by
  rw [between, enclosing_cons h, List.tail_cons]

theorem map_tree_getElem?_children (s : Site) (i : Nat) :
    (s.children[i]?).map tree = s.tree.children[i]? := by
  rw [← List.getElem?_map, s.map_tree_children]

theorem at?_isSome_of_append {s : Site} {p q : Position} (h : (s.at? (p ++ q)).isSome) :
    (s.at? p).isSome := by
  induction p generalizing s with
  | nil => rfl
  | cons i p ih =>
    rw [List.cons_append, at?_cons] at h
    rw [at?_cons]
    cases hc : s.children[i]? with
    | none => simp [hc] at h
    | some c => exact ih (by simpa [hc] using h)

/-- A node encloses its children, beside what encloses itself. -/
theorem enclosing_append_singleton {s t : Site} {p : Position} (h : s.at? p = some t) (i : Nat) :
    s.enclosing (p ++ [i]) = s.enclosing p ++ [t] := by
  induction p generalizing s with
  | nil =>
    obtain rfl := Option.some.inj h
    cases hc : s.children[i]? <;> simp [enclosing, hc]
  | cons j p ih =>
    obtain ⟨c, hc, hct⟩ := at?_cons_eq_some.mp h
    rw [List.cons_append, enclosing_cons hc, enclosing_cons hc, ih hct, List.cons_append]

theorem map_tree_at? (s : Site) (p : Position) : (s.at? p).map tree = s.tree.at? p := by
  induction p generalizing s with
  | nil => rfl
  | cons i p ih =>
    rw [at?_cons, Tree.at?_cons, ← s.map_tree_getElem?_children]
    cases s.children[i]? with
    | none => rfl
    | some c => exact ih c

end Site

-- ---------------------------------------------------------------------------
-- All positions, in source order
-- ---------------------------------------------------------------------------

namespace Tree

mutual

/-- The positions of the nodes of a tree, in source order. -/
def positions : Tree → List Position
  | node _ ts => [] :: positionsOfAll ts

/-- The positions of the nodes of siblings, seen from their parent. -/
def positionsOfAll : List Tree → List Position
  | [] => []
  | t :: ts => t.positions.map (0 :: ·) ++ (positionsOfAll ts).map Position.next

end

theorem positions_eq (t : Tree) : t.positions = [] :: positionsOfAll t.children := by
  cases t
  rw [positions, children]

theorem mem_positionsOfAll_cons {t : Tree} {ts : List Tree} {p : Position} :
    p ∈ positionsOfAll (t :: ts) ↔
      (∃ q ∈ t.positions, p = 0 :: q) ∨ ∃ q ∈ positionsOfAll ts, p = q.next := by
  simp only [positionsOfAll, List.mem_append, List.mem_map, eq_comm]

mutual

theorem mem_positions (t : Tree) (p : Position) : p ∈ t.positions ↔ (t.at? p).isSome := by
  cases t with
  | node d ts =>
    cases p with
    | nil => simp [positions]
    | cons i p =>
      have h := mem_positionsOfAll ts (i :: p)
      simpa [positions, at?_cons, children] using h

theorem mem_positionsOfAll (ts : List Tree) (p : Position) :
    p ∈ positionsOfAll ts ↔ ∃ i q, p = i :: q ∧ (ts[i]?.bind fun t => t.at? q).isSome := by
  cases ts with
  | nil => simp [positionsOfAll]
  | cons t ts =>
    rw [mem_positionsOfAll_cons]
    constructor
    · rintro (⟨q, hq, rfl⟩ | ⟨q, hq, rfl⟩)
      · exact ⟨0, q, rfl, (mem_positions t q).mp hq⟩
      · obtain ⟨i, r, rfl, hr⟩ := (mem_positionsOfAll ts q).mp hq
        exact ⟨i + 1, r, rfl, hr⟩
    · rintro ⟨i, q, rfl, hq⟩
      cases i with
      | zero => exact .inl ⟨q, (mem_positions t q).mpr hq, rfl⟩
      | succ i => exact .inr ⟨i :: q, (mem_positionsOfAll ts _).mpr ⟨i, q, rfl, hq⟩, rfl⟩

end

theorem ne_nil_of_mem_positionsOfAll {ts : List Tree} {p : Position}
    (h : p ∈ positionsOfAll ts) : p ≠ [] := by
  obtain ⟨i, q, rfl, -⟩ := (mem_positionsOfAll ts p).mp h
  exact List.cons_ne_nil i q

mutual

/-- Source order is the order of positions, and no position is listed twice. -/
theorem pairwise_positions (t : Tree) : t.positions.Pairwise (· < ·) := by
  cases t with
  | node d ts =>
    rw [positions, List.pairwise_cons]
    refine ⟨?_, pairwise_positionsOfAll ts⟩
    intro p hp
    obtain ⟨i, q, rfl, -⟩ := (mem_positionsOfAll ts p).mp hp
    exact List.nil_lt_cons i q

theorem pairwise_positionsOfAll (ts : List Tree) :
    (positionsOfAll ts).Pairwise (· < ·) := by
  cases ts with
  | nil => exact List.Pairwise.nil
  | cons t ts =>
    rw [positionsOfAll, List.pairwise_append]
    refine ⟨?_, ?_, ?_⟩
    · refine List.Pairwise.map _ (fun p q h => ?_) (pairwise_positions t)
      exact List.cons_lt_cons_iff.mpr (.inr ⟨rfl, h⟩)
    · exact List.Pairwise.map _ (fun p q h => Position.next_lt_next h) (pairwise_positionsOfAll ts)
    · intro p hp q hq
      obtain ⟨p, -, rfl⟩ := List.mem_map.mp hp
      obtain ⟨r, hr, rfl⟩ := List.mem_map.mp hq
      obtain ⟨i, q, rfl, -⟩ := (mem_positionsOfAll ts r).mp hr
      exact List.cons_lt_cons_iff.mpr (.inl (Nat.succ_pos i))

end

/-- What a function of trees and positions below them gives for a position that begins with the
choice of one of several. -/
def ofChoice? {α β : Type} (f : α → Position → Option β) (xs : List α) : Position → Option β
  | [] => none
  | i :: p => xs[i]?.bind fun x => f x p

theorem ofChoice?_cons_next {α β : Type} (f : α → Position → Option β) (x : α) (xs : List α)
    (p : Position) : ofChoice? f (x :: xs) p.next = ofChoice? f xs p := by
  cases p with
  | nil => rfl
  | cons i p => rfl

/-- Positions below several trees are gone through tree by tree. -/
theorem filterMap_ofChoice? {α β : Type} (tree : α → Tree) (f : α → Position → Option β)
    (xs : List α) :
    (positionsOfAll (xs.map tree)).filterMap (ofChoice? f xs) =
      xs.flatMap fun x => (tree x).positions.filterMap (f x) := by
  induction xs with
  | nil => rfl
  | cons x xs ih =>
    rw [List.map_cons, positionsOfAll, List.filterMap_append, List.flatMap_cons, ← ih,
      List.filterMap_map, List.filterMap_map]
    congr 1
    exact List.filterMap_congr fun p _ => ofChoice?_cons_next f x xs p

-- ---------------------------------------------------------------------------
-- All nodes, in source order
-- ---------------------------------------------------------------------------

/-- The nodes of a tree, in source order. -/
def nodes (t : Tree) : List Tree :=
  t.positions.filterMap t.at?

theorem mem_nodes {t n : Tree} : n ∈ t.nodes ↔ ∃ p, t.at? p = some n := by
  rw [nodes, List.mem_filterMap]
  constructor
  · rintro ⟨p, -, h⟩
    exact ⟨p, h⟩
  · rintro ⟨p, h⟩
    exact ⟨p, (t.mem_positions p).mpr (by rw [h]; rfl), h⟩

end Tree

/-- What is said of the nodes at all positions is said of those at the positions of the tree. -/
theorem Site.forall_at?_iff {s : Site} {P : Position → Site → Prop} :
    (∀ p, ∀ n ∈ s.at? p, P p n) ↔ ∀ p ∈ s.tree.positions, ∀ n ∈ s.at? p, P p n := by
  constructor
  · intro h p _
    exact h p
  · intro h p n hn
    refine h p ?_ n hn
    rw [Tree.mem_positions, ← Site.map_tree_at?, hn]
    rfl

end UnsafeCensus
