import UnsafeCensus.Census.Counts
import UnsafeCensus.Fault.Basic

/-!
# Counts from what a caller passes

Counts given as numbers, blocks given as numbers under the names of categories, and additions in
which one side is no count at all.
-/

namespace UnsafeCensus

namespace Count

/-- What messages call the constructor and the type of counts. -/
def callee : String := "Count.__init__()"
def typeName : String := "Count"

/-- A count from up to two numbers, the safe one first. The count under construction is itself
counted among the arguments. -/
def ofNumbers? : List Int → Except Misfit Count
  | [] => .ok zero
  | [safe] => .ok ⟨safe, 0⟩
  | [safe, risky] => .ok ⟨safe, risky⟩
  | more => .error (.tooManyArguments callee 1 3 (more.length + 1))

/-- The sum with a value that is no count. -/
def addValue (_ : Count) (v : Value) : Except Misfit Count :=
  .error (.operands typeName v.typeName)

end Count

def Category.ofName? (s : String) : Option Category :=
  Category.all.find? fun k => k.name == s

theorem Category.ofName?_name (k : Category) : Category.ofName? k.name = some k := by
  cases k <;> rfl

namespace CounterBlock

/-- What messages call the constructor and the type of blocks, and the block under construction. -/
def callee : String := "CounterBlock.__init__()"
def typeName : String := "CounterBlock"
def receiver : String := "self"

/-- The block with the count under a name replaced. -/
def setNamed (b : CounterBlock) (e : String × Count) : Except Misfit CounterBlock :=
  match Category.ofName? e.1 with
  | some k => .ok (b.set k e.2)
  | none =>
    .error (if e.1 = receiver then .repeatedArgument callee e.1 else .unknownArgument callee e.1)

/-- A block from numbers under names. Categories that are not named are zero. -/
def ofEntries? (entries : List (String × List Int)) : Except Misfit CounterBlock := do
  let counts ← entries.mapM fun e => (Count.ofNumbers? e.2).map fun c => (e.1, c)
  counts.foldlM setNamed zero

/-- The sum with a value that is no block. -/
def addValue (_ : CounterBlock) (v : Value) : Except Misfit CounterBlock :=
  .error (.operands typeName v.typeName)

end CounterBlock

end UnsafeCensus
