/-!
# Counts

How often each category of code occurs, safe and not. Blocks of counts form a commutative monoid
under `+`.
-/

namespace UnsafeCensus

/-- Occurrences of one category: `risky` ones are declared unsafe or lie in an unsafe context. -/
@[ext]
structure Count where
  safe : Int
  risky : Int
deriving DecidableEq, Repr

namespace Count

def zero : Count := ⟨0, 0⟩

def total (c : Count) : Int := c.safe + c.risky

instance : Add Count := ⟨fun a b => ⟨a.safe + b.safe, a.risky + b.risky⟩⟩

@[simp] theorem safe_add (a b : Count) : (a + b).safe = a.safe + b.safe := rfl
@[simp] theorem risky_add (a b : Count) : (a + b).risky = a.risky + b.risky := rfl

end Count

/-- The categories that are counted. -/
inductive Category
  | functions
  | exprs
  | itemTraits
  | itemImpls
  | methods
deriving DecidableEq, Repr

def Category.all : List Category := [.functions, .exprs, .itemTraits, .itemImpls, .methods]

def Category.name : Category → String
  | .functions => "functions"
  | .exprs => "exprs"
  | .itemTraits => "item_traits"
  | .itemImpls => "item_impls"
  | .methods => "methods"

/-- One count for each category. -/
@[ext]
structure CounterBlock where
  functions : Count
  exprs : Count
  itemTraits : Count
  itemImpls : Count
  methods : Count
deriving DecidableEq, Repr

namespace CounterBlock

def zero : CounterBlock := ⟨.zero, .zero, .zero, .zero, .zero⟩

def get (b : CounterBlock) : Category → Count
  | .functions => b.functions
  | .exprs => b.exprs
  | .itemTraits => b.itemTraits
  | .itemImpls => b.itemImpls
  | .methods => b.methods

/-- The block whose counts are those of a function on categories. -/
def ofFun (f : Category → Count) : CounterBlock :=
  ⟨f .functions, f .exprs, f .itemTraits, f .itemImpls, f .methods⟩

@[simp] theorem get_ofFun (f : Category → Count) (k : Category) : (ofFun f).get k = f k := by
  cases k <;> rfl

/-- The block with the count of one category replaced. -/
def set (b : CounterBlock) (k : Category) (c : Count) : CounterBlock :=
  ofFun fun j => if j = k then c else b.get j

instance : Add CounterBlock := ⟨fun a b => ofFun fun k => a.get k + b.get k⟩

@[simp] theorem get_add (a b : CounterBlock) (k : Category) :
    (a + b).get k = a.get k + b.get k :=
  get_ofFun ..

@[simp] theorem add_ofFun_zero (b : CounterBlock) : b + ofFun (fun _ => .zero) = b := by
  ext <;> exact Int.add_zero _

/-- Some category has occurrences that are not safe. -/
def hasUnsafe (b : CounterBlock) : Bool :=
  Category.all.any fun k => 0 < (b.get k).risky

end CounterBlock

end UnsafeCensus
