import Mathlib.Algebra.Group.Defs
import Mathlib.Data.List.Forall2
import UnsafeCensus.Proofs.Tree.Traversal

/-!
# Two traversals in step

One list is thinned into another if some of its elements are dropped and each of the others has a
counterpart, in order. Two traversals whose turns push such lists visit such lists
(`visits_thinned`): a subtree that one of them does not have is dropped as a whole.
-/

namespace UnsafeCensus

/-- The second list has, in order, a counterpart of each element of the first that is not
dropped. -/
inductive Thinned {α β : Type} (kept : α → β → Prop) (dropped : α → Prop) : List α → List β → Prop
  | nil : Thinned kept dropped [] []
  | keep {a : α} {b : β} {as : List α} {bs : List β} (head : kept a b)
      (tail : Thinned kept dropped as bs) : Thinned kept dropped (a :: as) (b :: bs)
  | drop {a : α} {as : List α} {bs : List β} (head : dropped a)
      (tail : Thinned kept dropped as bs) : Thinned kept dropped (a :: as) bs

namespace Thinned

variable {α β γ δ : Type} {kept : α → β → Prop} {dropped : α → Prop} {as : List α} {bs : List β}

-- ---------------------------------------------------------------------------
-- Making lists
-- ---------------------------------------------------------------------------

theorem append {as' : List α} {bs' : List β} (h : Thinned kept dropped as bs)
    (h' : Thinned kept dropped as' bs') : Thinned kept dropped (as ++ as') (bs ++ bs') := by
  induction h with
  | nil => exact h'
  | keep head _ ih => exact .keep head ih
  | drop head _ ih => exact .drop head ih

theorem of_forall_dropped (h : ∀ a ∈ as, dropped a) : Thinned kept dropped as [] := by
  induction as with
  | nil => exact .nil
  | cons a as ih =>
    rw [List.forall_mem_cons] at h
    exact .drop h.1 (ih h.2)

theorem of_getElem? (hlength : as.length = bs.length)
    (h : ∀ (i : Nat) a b, as[i]? = some a → bs[i]? = some b → kept a b) : Thinned kept dropped as bs := by
  induction as generalizing bs with
  | nil =>
    obtain rfl := List.length_eq_zero_iff.mp hlength.symm
    exact .nil
  | cons a as ih =>
    obtain _ | ⟨b, bs⟩ := bs
    · cases hlength
    · refine .keep (h 0 a b rfl rfl) (ih (Nat.succ.inj hlength) ?_)
      intro i a' b' ha' hb'
      exact h (i + 1) a' b' ha' hb'

theorem map {f : γ → α} {g : δ → β} {cs : List γ} {ds : List δ}
    (h : Thinned (fun c d => kept (f c) (g d)) (fun c => dropped (f c)) cs ds) :
    Thinned kept dropped (cs.map f) (ds.map g) := by
  induction h with
  | nil => exact .nil
  | keep head _ ih => exact .keep head ih
  | drop head _ ih => exact .drop head ih

theorem imp {kept' : α → β → Prop} {dropped' : α → Prop} (h : Thinned kept dropped as bs)
    (hkept : ∀ a b, kept a b → kept' a b) (hdropped : ∀ a, dropped a → dropped' a) :
    Thinned kept' dropped' as bs := by
  induction h with
  | nil => exact .nil
  | keep head _ ih => exact .keep (hkept _ _ head) ih
  | drop head _ ih => exact .drop (hdropped _ head) ih

-- ---------------------------------------------------------------------------
-- Reading lists
-- ---------------------------------------------------------------------------

theorem dropped_or_exists (h : Thinned kept dropped as bs) {a : α} (ha : a ∈ as) :
    dropped a ∨ ∃ b ∈ bs, kept a b := by
  induction h with
  | nil => exact absurd ha List.not_mem_nil
  | keep head _ ih =>
    rcases List.mem_cons.mp ha with rfl | ha
    · exact .inr ⟨_, List.mem_cons_self, head⟩
    · refine (ih ha).imp_right ?_
      rintro ⟨b, hb, hab⟩
      exact ⟨b, List.mem_cons_of_mem _ hb, hab⟩
  | drop head _ ih =>
    rcases List.mem_cons.mp ha with rfl | ha
    · exact .inl head
    · exact ih ha

/-- What nothing dropped has is found at the same places of both lists. -/
theorem filter {p : α → Bool} {q : β → Bool} (h : Thinned kept dropped as bs)
    (hkept : ∀ a b, kept a b → q b = p a) (hdropped : ∀ a, dropped a → p a = false) :
    List.Forall₂ kept (as.filter p) (bs.filter q) := by
  induction h with
  | nil => exact .nil
  | keep head _ ih =>
    simp only [List.filter_cons, hkept _ _ head]
    split
    · exact .cons head ih
    · exact ih
  | drop head _ ih =>
    simp only [List.filter_cons, hdropped _ head]
    exact ih

theorem flatMap_eq {f : α → List γ} {g : β → List γ} (h : Thinned kept dropped as bs)
    (hkept : ∀ a b, kept a b → g b = f a) (hdropped : ∀ a, dropped a → f a = []) :
    bs.flatMap g = as.flatMap f := by
  induction h with
  | nil => rfl
  | keep head _ ih => simp only [List.flatMap_cons, hkept _ _ head, ih]
  | drop head _ ih => simp only [List.flatMap_cons, hdropped _ head, List.nil_append, ih]

/-- A relation that sums respect holds of two sums if it holds of the kept summands and the dropped
ones are zero. -/
theorem sum_map {M : Type} [AddMonoid M] {r : M → M → Prop} {f : α → M} {g : β → M}
    (h : Thinned kept dropped as bs) (hzero : r 0 0)
    (hadd : ∀ a b c d, r a b → r c d → r (a + c) (b + d))
    (hkept : ∀ a b, kept a b → r (f a) (g b)) (hdropped : ∀ a, dropped a → f a = 0) :
    r (as.map f).sum (bs.map g).sum := by
  induction h with
  | nil => exact hzero
  | keep head _ ih =>
    simp only [List.map_cons, List.sum_cons]
    exact hadd _ _ _ _ (hkept _ _ head) ih
  | drop head _ ih =>
    simp only [List.map_cons, List.sum_cons, hdropped _ head, zero_add]
    exact ih

end Thinned

namespace Traversal

variable {Context Context' : Type} {enter : Context → Site → Option Context}
  {enter' : Context' → Site → Option Context'} {kept : Frame Context → Frame Context' → Prop}
  {dropped : Frame Context → Prop}

/-- If turns at counterparts push thinned lists, and turns at dropped frames push dropped ones, the
visits are thinned as the pending frames are. -/
theorem visits_thinned
    (hkept : ∀ f f', kept f f' →
      Thinned kept dropped (push f.2 (enter f.1 f.2)) (push f'.2 (enter' f'.1 f'.2)))
    (hdropped : ∀ f, dropped f → ∀ g ∈ push f.2 (enter f.1 f.2), dropped g)
    {pending : List (Frame Context)} {pending' : List (Frame Context')}
    (h : Thinned kept dropped pending pending') :
    Thinned kept dropped (visits enter pending) (visits enter' pending') := by
  -- A dropped frame takes a turn of the first traversal and none of the second, so the induction
  -- follows the first.
  fun_induction visits enter pending generalizing pending' with
  | case1 =>
    cases h
    rw [visits_nil]
    exact .nil
  | case2 c s rest ih =>
    cases h with
    | @keep _ f' _ rest' head tail =>
      rw [visits_cons]
      exact .keep head (ih ((hkept _ f' head).append tail))
    | drop head tail =>
      have hbelow : Thinned kept dropped (push s (enter c s)) [] :=
        .of_forall_dropped (hdropped _ head)
      exact .drop head (ih (hbelow.append tail))

end Traversal

end UnsafeCensus
