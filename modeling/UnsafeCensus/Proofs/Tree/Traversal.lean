import UnsafeCensus.Proofs.Tree.Position
import UnsafeCensus.Tree.Traversal

/-!
# What a traversal visits

The work list of a traversal holds frames of several depths at once, yet each frame is worked off as
if it stood alone: the visits of a work list are those of its frames one after the other
(`visits_append`). From this the visits of one frame are computed without a work list, position by
position in source order (`visits_eq_filterMap`).

The second part runs the loop on a stack whose top is its last frame. Children are pushed in
reverse there, and the loop pops what `visits` lists and then has nothing left (`turns_reverse`).
-/

namespace UnsafeCensus.Traversal

variable {Context : Type} (enter : Context → Site → Option Context)

-- ---------------------------------------------------------------------------
-- Work lists
-- ---------------------------------------------------------------------------

@[simp] theorem visits_nil : visits enter [] = [] := by
  rw [visits]

theorem visits_cons (c : Context) (s : Site) (rest : List (Frame Context)) :
    visits enter ((c, s) :: rest) = (c, s) :: visits enter (push s (enter c s) ++ rest) := by
  rw [visits]

theorem visits_append (pending later : List (Frame Context)) :
    visits enter (pending ++ later) = visits enter pending ++ visits enter later := by
  fun_induction visits enter pending with
  | case1 => rfl
  | case2 c s rest ih =>
    rw [List.cons_append, visits_cons, ← List.append_assoc, ih, List.cons_append]

theorem visits_eq_flatMap (pending : List (Frame Context)) :
    visits enter pending = pending.flatMap fun f => visits enter [f] := by
  induction pending with
  | nil => simp
  | cons f rest ih =>
    rw [← List.singleton_append, visits_append, ih, List.flatMap_append, List.flatMap_singleton]

theorem visits_push (s : Site) (d : Context) :
    visits enter (push s (some d)) = s.children.flatMap fun t => visits enter [(d, t)] := by
  rw [visits_eq_flatMap, push, List.flatMap_map]

-- ---------------------------------------------------------------------------
-- Positions
-- ---------------------------------------------------------------------------

/-- The frame in which the node at a position is visited. There is none if some node on the way
keeps its children from being visited. -/
def frameAt? (c : Context) (s : Site) : Position → Option (Frame Context)
  | [] => some (c, s)
  | i :: p => (enter c s).bind fun d => s.children[i]?.bind fun t => frameAt? d t p

theorem size_lt_of_mem_children {s t : Site} (h : t ∈ s.children) : t.tree.size < s.tree.size := by
  have hmem : t.tree ∈ s.tree.children := s.map_tree_children ▸ List.mem_map_of_mem h
  obtain ⟨before, later, heq⟩ := List.append_of_mem hmem
  rw [Tree.size_eq s.tree, heq, Tree.sizes_append, Tree.sizes]
  omega

/-- The visits below a node, from those of each child alone. -/
theorem visits_push_of_forall {s : Site} {d : Context}
    (h : ∀ t ∈ s.children, visits enter [(d, t)] = t.tree.positions.filterMap (frameAt? enter d t)) :
    visits enter (push s (some d)) =
      (Tree.positionsOfAll s.tree.children).filterMap (Tree.ofChoice? (frameAt? enter d) s.children) := by
  rw [visits_push, ← s.map_tree_children, Tree.filterMap_ofChoice?]
  exact List.flatMap_congr h

/-- The visits of a single frame are those of the positions of its node, in source order. -/
theorem visits_eq_filterMap (c : Context) (s : Site) :
    visits enter [(c, s)] = s.tree.positions.filterMap (frameAt? enter c s) := by
  induction hn : s.tree.size using Nat.strong_induction_on generalizing c s with
  | _ n ih =>
    rw [visits_cons, List.append_nil, Tree.positions_eq, List.filterMap_cons_some (by rfl)]
    congr 1
    have hcons : ∀ p ∈ Tree.positionsOfAll s.tree.children, ∃ i q, p = i :: q :=
      fun p hp => List.exists_cons_of_ne_nil (Tree.ne_nil_of_mem_positionsOfAll hp)
    cases he : enter c s with
    | none =>
      rw [push, visits_nil, eq_comm, List.filterMap_eq_nil_iff]
      intro p hp
      obtain ⟨i, q, rfl⟩ := hcons p hp
      simp [frameAt?, he]
    | some d =>
      have hframe : ∀ p ∈ Tree.positionsOfAll s.tree.children,
          frameAt? enter c s p = Tree.ofChoice? (frameAt? enter d) s.children p := by
        intro p hp
        obtain ⟨i, q, rfl⟩ := hcons p hp
        simp [frameAt?, he, Tree.ofChoice?]
      rw [List.filterMap_congr hframe]
      apply visits_push_of_forall
      exact fun t ht => ih _ (hn ▸ size_lt_of_mem_children ht) d t rfl

/-- The visits below a node, position by position in source order. -/
theorem visits_push_eq_filterMap (d : Context) (s : Site) :
    visits enter (push s (some d)) =
      (Tree.positionsOfAll s.tree.children).filterMap (Tree.ofChoice? (frameAt? enter d) s.children) :=
  visits_push_of_forall enter fun t _ => visits_eq_filterMap enter d t

-- ---------------------------------------------------------------------------
-- The loop over a stack
-- ---------------------------------------------------------------------------

/-- One turn of the loop over a stack whose top is its last frame: the top is popped, and the
frames of its children are pushed in reverse. -/
def turn (stack : List (Frame Context)) : Option (Frame Context × List (Frame Context)) :=
  stack.getLast?.map fun f => (f, stack.dropLast ++ (push f.2 (enter f.1 f.2)).reverse)

/-- What a number of turns pop, in order, and the stack that they leave. -/
def turns : Nat → List (Frame Context) → List (Frame Context) × List (Frame Context)
  | 0, stack => ([], stack)
  | n + 1, stack =>
    match turn enter stack with
    | some (f, rest) => (f :: (turns n rest).1, (turns n rest).2)
    | none => ([], stack)

theorem turn_reverse_cons (c : Context) (s : Site) (rest : List (Frame Context)) :
    turn enter ((c, s) :: rest).reverse =
      some ((c, s), (push s (enter c s) ++ rest).reverse) := by
  simp [turn]

/-- The loop pops the visits, one a turn, and the stack is empty after the last of them. -/
theorem turns_reverse (pending : List (Frame Context)) :
    turns enter (visits enter pending).length pending.reverse = (visits enter pending, []) := by
  fun_induction visits enter pending with
  | case1 => rfl
  | case2 c s rest ih =>
    rw [List.length_cons, turns, turn_reverse_cons]
    simp only [ih]

-- ---------------------------------------------------------------------------
-- Two traversals
-- ---------------------------------------------------------------------------

variable {enter}

/-- If each turn of a traversal pushes the images of what a turn of another one pushes, it visits
the images of what the other one visits. -/
theorem visits_map {Context' : Type} {enter' : Context' → Site → Option Context'}
    {image : Frame Context → Frame Context'}
    (hstep : ∀ c s, push (image (c, s)).2 (enter' (image (c, s)).1 (image (c, s)).2) =
      (push s (enter c s)).map image)
    (pending : List (Frame Context)) :
    visits enter' (pending.map image) = (visits enter pending).map image := by
  fun_induction visits enter pending with
  | case1 => simp
  | case2 c s rest ih =>
    rw [List.map_append, ← hstep] at ih
    rw [List.map_cons, List.map_cons, ← ih]
    exact visits_cons enter' _ _ _

/-- A traversal that enters fewer nodes, and those in the same context, visits a part in order. -/
theorem visits_sublist {enter' : Context → Site → Option Context}
    (hstep : ∀ c s, enter c s = none ∨ enter c s = enter' c s)
    (pending : List (Frame Context)) :
    (visits enter pending).Sublist (visits enter' pending) := by
  fun_induction visits enter pending with
  | case1 => exact List.nil_sublist _
  | case2 c s rest ih =>
    rw [visits_cons enter', List.cons_sublist_cons]
    rcases hstep c s with hnone | hsame
    · rw [hnone, push, List.nil_append] at ih ⊢
      rw [visits_append]
      exact ih.trans (List.sublist_append_right _ _)
    · rwa [← hsame]

end UnsafeCensus.Traversal
