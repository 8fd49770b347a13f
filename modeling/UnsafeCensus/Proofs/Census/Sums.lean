import Mathlib.Algebra.BigOperators.Group.List.Basic
import UnsafeCensus.Proofs.Census.Counting

/-!
# A census as a sum

Blocks of counts form a commutative monoid. The counts of a census are the sum of what each visit
adds, and its forbidding scopes are the visits' reports one after the other, whatever is pending in
front of a visit or behind it.
-/

namespace UnsafeCensus

-- ---------------------------------------------------------------------------
-- Blocks of counts
-- ---------------------------------------------------------------------------

namespace CounterBlock

theorem ext_part {a b : CounterBlock}
    (h : ∀ k risky, (a.get k).part risky = (b.get k).part risky) : a = b := by
  have hcount (k : Category) : a.get k = b.get k := Count.ext (h k false) (h k true)
  exact CounterBlock.ext (hcount .functions) (hcount .exprs) (hcount .itemTraits)
    (hcount .itemImpls) (hcount .methods)

instance : Zero CounterBlock := ⟨.zero⟩

theorem part_zero (k : Category) (risky : Bool) :
    ((0 : CounterBlock).get k).part risky = 0 := by
  cases k <;> exact Census.part_zero risky

theorem part_add (a b : CounterBlock) (k : Category) (risky : Bool) :
    ((a + b).get k).part risky = (a.get k).part risky + (b.get k).part risky := by
  rw [get_add, Count.part_add]

instance : AddCommMonoid CounterBlock where
  add_assoc a b c := by
    apply ext_part
    intro k risky
    simp only [part_add, add_assoc]
  zero_add a := by
    apply ext_part
    intro k risky
    rw [part_add, part_zero, zero_add]
  add_zero a := by
    apply ext_part
    intro k risky
    rw [part_add, part_zero, add_zero]
  add_comm a b := by
    apply ext_part
    intro k risky
    rw [part_add, part_add, add_comm]
  nsmul := nsmulRec

end CounterBlock

-- ---------------------------------------------------------------------------
-- What visits add
-- ---------------------------------------------------------------------------

namespace Census

variable (source : List UInt8) (includeTests : Bool)

/-- What a visit adds to the counts. -/
def added (f : Traversal.Frame Context) : CounterBlock :=
  if skips source includeTests f.2 then 0 else .ofFun (contribution f.1 f.2)

/-- What a visit adds to the report of forbidding scopes. -/
def reported (f : Traversal.Frame Context) : List String :=
  if skips source includeTests f.2 then [] else (forbiddingScope? source f.1 f.2).toList

variable {source includeTests}

theorem foldl_contribution_eq (visited : List (Traversal.Frame Context)) (b : CounterBlock) :
    (visited.filter fun f => !skips source includeTests f.2).foldl
        (fun b f => b + .ofFun (contribution f.1 f.2)) b =
      b + (visited.map (added source includeTests)).sum := by
  induction visited generalizing b with
  | nil => exact (add_zero b).symm
  | cons f visited ih =>
    rw [List.map_cons, List.sum_cons, List.filter_cons, added]
    cases skips source includeTests f.2 with
    | true => simpa using ih b
    | false => simpa [add_assoc] using ih (b + .ofFun (contribution f.1 f.2))

theorem filterMap_forbiddingScope?_eq (visited : List (Traversal.Frame Context)) :
    (visited.filter fun f => !skips source includeTests f.2).filterMap
        (fun f => forbiddingScope? source f.1 f.2) =
      visited.flatMap (reported source includeTests) := by
  induction visited with
  | nil => rfl
  | cons f visited ih =>
    rw [List.flatMap_cons, List.filter_cons, reported]
    cases skips source includeTests f.2 with
    | true => simpa using ih
    | false => cases hscope : forbiddingScope? source f.1 f.2 <;> simp [hscope, ih]

/-- A census puts together what its visits add and report. -/
theorem ofSite_eq (root : Site) :
    Metrics.ofSite source includeTests root =
      { counters := ((visits source includeTests root).map (added source includeTests)).sum
        forbidsUnsafe := SafetyPolicy.ofAttributes (root.tree.innerAttributes source) = .forbidden
        forbiddingScopes :=
          (visits source includeTests root).flatMap (reported source includeTests) } := by
  rw [Metrics.ofSite, foldl_contribution_eq, filterMap_forbiddingScope?_eq]
  exact congrArg (fun counters => Metrics.mk counters _ _) (zero_add _)

theorem counters_eq_sum (root : Site) :
    (Metrics.ofSite source includeTests root).counters =
      ((visits source includeTests root).map (added source includeTests)).sum := by
  rw [ofSite_eq]

theorem forbiddingScopes_eq_flatMap (root : Site) :
    (Metrics.ofSite source includeTests root).forbiddingScopes =
      (visits source includeTests root).flatMap (reported source includeTests) := by
  rw [ofSite_eq]

end Census

end UnsafeCensus
