import Mathlib.Data.List.TakeWhile
import UnsafeCensus.Proofs.Census.Counting

/-!
# Where unsafe code is forbidden

The whole forbids unsafe code by an inner attribute of its own, and by nothing that lies deeper or
stands in front. A module forbids it for its own scope, by an attribute of the run before it or by
an inner attribute of its body. The report lists the live modules that do, in source order, each
under the names of the modules on the way to it.
-/

namespace UnsafeCensus

-- ---------------------------------------------------------------------------
-- Attributes that forbid
-- ---------------------------------------------------------------------------

namespace Attribute

theorem forbidsUnsafe_iff {a : Attribute} :
    a.forbidsUnsafe = true ↔ a.path = "forbid" ∧ "unsafe_code" ∈ a.args := by
  simp [forbidsUnsafe, unsafeLint]

end Attribute

theorem SafetyPolicy.ofAttributes_eq_forbidden {attributes : List Attribute} :
    SafetyPolicy.ofAttributes attributes = .forbidden ↔ ∃ a ∈ attributes, a.forbidsUnsafe = true := by
  rw [SafetyPolicy.ofAttributes]
  split
  · next h => simpa using h
  · next h => simpa using h

namespace Tree

end Tree

namespace Site

end Site

-- ---------------------------------------------------------------------------
-- Forbidding modules
-- ---------------------------------------------------------------------------

namespace Census

variable (source : List UInt8) (includeTests : Bool)

variable {source includeTests}

end Census

end UnsafeCensus
