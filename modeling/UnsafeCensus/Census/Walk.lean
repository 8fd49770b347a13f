import UnsafeCensus.Census.Counts
import UnsafeCensus.Census.Kind
import UnsafeCensus.Tree.Traversal

/-!
# The census of a tree

Every node below the counted root is visited once, in source order, in the context of what
encloses it. A visit contributes to the counts by its kind:

* a function, method, trait or implementation counts once, by whether it is marked unsafe;
* a block counts its statements, by whether the block lies in an unsafe context.

The body of an unsafe function and the inside of an unsafe block are unsafe contexts, and one
inside another changes nothing. Items that are there for tests are left out on demand, with all
that they contain.
-/

namespace UnsafeCensus

/-- What encloses a node: whether some of it is unsafe, and the modules, outermost first. -/
structure Context where
  inUnsafe : Bool
  modulePath : List String
deriving DecidableEq, Repr

namespace Census

def outermost : Context := ⟨false, []⟩

/-- The name a module is declared under. -/
def moduleName (source : List UInt8) (t : Tree) : String :=
  match t.childByField? "name" with
  | some name => String.ofList (name.text source)
  | none => ""

/-- Left out of a census that excludes tests. -/
def skips (source : List UInt8) (includeTests : Bool) (s : Site) : Bool :=
  !includeTests && s.isTestItem source

/-- The context of what a node contains. -/
def Context.inside (source : List UInt8) (c : Context) (s : Site) : Context :=
  match s.kind with
  | .function | .method => { c with inUnsafe := c.inUnsafe || s.tree.isMarkedUnsafe }
  | .module => { c with modulePath := c.modulePath ++ [moduleName source s.tree] }
  | .unsafeBlock => { c with inUnsafe := true }
  | _ => c

/-- The context in which the children of a node are visited, if they are. -/
def enter (source : List UInt8) (includeTests : Bool) (c : Context) (s : Site) : Option Context :=
  if skips source includeTests s then none else some (Context.inside source c s)

/-- The nodes below a root, each with its context, in the order of their visits. -/
def visits (source : List UInt8) (includeTests : Bool) (root : Site) :
    List (Traversal.Frame Context) :=
  Traversal.visits (enter source includeTests) (Traversal.push root (some outermost))

/-! ## What a visit contributes -/

/-- A number of occurrences, all safe or all not. -/
def Count.of (risky : Bool) (n : Nat) : Count :=
  if risky then ⟨0, n⟩ else ⟨n, 0⟩

/-- What a node that is not left out adds to the count of a category. -/
def contribution (c : Context) (s : Site) : Category → Count
  | .functions => if s.kind = .function then Count.of s.tree.isMarkedUnsafe 1 else .zero
  | .methods => if s.kind = .method then Count.of s.tree.isMarkedUnsafe 1 else .zero
  | .itemTraits => if s.kind = .trait then Count.of s.tree.isMarkedUnsafe 1 else .zero
  | .itemImpls => if s.kind = .impl then Count.of s.tree.isMarkedUnsafe 1 else .zero
  | .exprs => if s.kind = .block then Count.of c.inUnsafe s.tree.statementCount else .zero

/-- The attributes by which a module speaks about its own scope. -/
def scopeAttributes (source : List UInt8) (s : Site) : List Attribute :=
  s.outerAttributes source ++
    match s.tree.childByField? "body" with
    | some body => body.innerAttributes source
    | none => []

/-- The path of a module that forbids unsafe code in its own scope. -/
def forbiddingScope? (source : List UInt8) (c : Context) (s : Site) : Option String :=
  if s.kind = .module ∧ SafetyPolicy.ofAttributes (scopeAttributes source s) = .forbidden then
    some ("::".intercalate (c.modulePath ++ [moduleName source s.tree]))
  else none

end Census

/-- The result of a census: the counts, whether the whole forbids unsafe code, and the paths of
the modules that do so for themselves, in source order. -/
structure Metrics where
  counters : CounterBlock
  forbidsUnsafe : Bool
  forbiddingScopes : List String
deriving DecidableEq, Repr

/-- The census of all that lies below a root. -/
def Metrics.ofSite (source : List UInt8) (includeTests : Bool) (root : Site) : Metrics :=
  let counted := (Census.visits source includeTests root).filter fun f =>
    !Census.skips source includeTests f.2
  { counters :=
      counted.foldl (fun b f => b + .ofFun (Census.contribution f.1 f.2)) .zero
    forbidsUnsafe :=
      SafetyPolicy.ofAttributes (root.tree.innerAttributes source) = .forbidden
    forbiddingScopes :=
      counted.filterMap fun f => Census.forbiddingScope? source f.1 f.2 }

/-- The census of a whole tree. -/
def Metrics.ofTree (source : List UInt8) (includeTests : Bool) (tree : Tree) : Metrics :=
  Metrics.ofSite source includeTests (.root tree)

end UnsafeCensus
