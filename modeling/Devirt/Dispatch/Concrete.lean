import Devirt.Dispatch.Basic

/-!
# The target of a virtual call

The implementation that runs when a method is called on an instance of exactly the class of its
signature. Classes come first: the class itself and its superclasses, nearest first. Only if none of
them declares the method, its interfaces are searched for default methods.
-/

namespace Devirt

/-- What a search through interfaces found, in the order of discovery. -/
structure DefaultSearch where
  /-- Declarations with an implementation. -/
  defaults : List MethodDeclaration
  /-- Abstract declarations, which end a branch of the search as well. -/
  abstracts : List MethodDeclaration

namespace View

/-- The class that a call starts from, then its superclasses, as far as the view resolves them. -/
def chain (v : View) (start : ClassDeclaration) : List ClassDeclaration :=
  start :: (v.hierarchy.superclasses start.name).filterMap v.class?

/-- Where a search goes on from an interface: to its own interfaces, unless it declares the method
itself. -/
def searchStep (v : View) (sub : SubSignature) (c : ClassName) : List ClassName :=
  match v.class? c with
  | some d => if (d.method? sub).isSome then [] else d.interfaces
  | none => []

/-- The interfaces that a search visits, breadth first, each once. Interfaces that the view does not
resolve are passed over. -/
def searchedInterfaces (v : View) (chain : List ClassDeclaration) (sub : SubSignature) :
    List ClassName :=
  Graph.explore (v.searchStep sub) (v.classes.map (·.name)) (chain.flatMap (·.interfaces))

/-- Searches the interfaces of some classes for declarations of a method. -/
def searchDefaults (v : View) (chain : List ClassDeclaration) (sub : SubSignature) :
    DefaultSearch :=
  let found := (v.searchedInterfaces chain sub).filterMap fun c => v.method? ⟨c, sub⟩
  ⟨found.filter (!·.isAbstract), found.filter (·.isAbstract)⟩

end View

/-- The declarations that no other one is more specific than: no other one is declared in a strict
sub-interface. -/
def Hierarchy.mostSpecific (h : Hierarchy) (candidates : List MethodDeclaration) :
    List MethodDeclaration :=
  candidates.filter fun m =>
    !candidates.any fun n => n.owner ≠ m.owner && h.isSubclass n.owner m.owner

namespace View

/-- The outcome when all that is inherited is an abstract declaration: nothing to run for an
abstract class, and an error for a concrete one. -/
def abstractOutcome (start : ClassDeclaration) (m : MethodDeclaration) :
    Except DispatchError (Option MethodSignature) :=
  if start.isAbstract then .ok none else .error (.abstractMethod m.signature)

/-- The outcome when a class of the chain declares the method. -/
def classOutcome (start : ClassDeclaration) (m : MethodDeclaration) :
    Except DispatchError (Option MethodSignature) :=
  if !m.isAbstract then .ok (some m.signature)
  else if start.isAbstract && m.owner ≠ start.name then .ok none
  else .error (.abstractMethod m.signature)

/-- The default method that is taken out of those that were found. -/
def chooseDefault (h : Hierarchy) (policy : DiamondPolicy) (m : MethodSignature)
    (defaults : List MethodDeclaration) : Except DispatchError (Option MethodSignature) :=
  let best := h.mostSpecific defaults
  if policy = .strict ∧ 1 < best.length then
    .error (.ambiguousDefaultMethod m (best.map (·.signature)))
  else .ok (best.head?.map (·.signature))

/-- The outcome of a search that found some default method. Under the strict policy abstract
declarations compete with the default methods. -/
def defaultOutcome (h : Hierarchy) (policy : DiamondPolicy) (start : ClassDeclaration)
    (m : MethodSignature) (search : DefaultSearch) :
    Except DispatchError (Option MethodSignature) :=
  match policy with
  | .discoveryOrder => chooseDefault h policy m search.defaults
  | .strict =>
    match h.mostSpecific (search.defaults ++ search.abstracts) with
    | [] => chooseDefault h policy m search.defaults
    | [best] =>
      if best.isAbstract then abstractOutcome start best
      else chooseDefault h policy m search.defaults
    | candidates => .error (.ambiguousDefaultMethod m (candidates.map (·.signature)))

/-- The outcome of a search through interfaces. -/
def searchOutcome (h : Hierarchy) (policy : DiamondPolicy) (start : ClassDeclaration)
    (m : MethodSignature) (search : DefaultSearch) :
    Except DispatchError (Option MethodSignature) :=
  if search.defaults.isEmpty then
    match search.abstracts.head? with
    | some declared => abstractOutcome start declared
    | none => .error (.noConcreteImplementation m)
  else defaultOutcome h policy start m search

/-- The implementation that a virtual call of a method runs. `none` stands for a method that stays
abstract below an abstract class. -/
def concreteTarget (v : View) (policy : DiamondPolicy) (m : MethodSignature) :
    Except DispatchError (Option MethodSignature) :=
  match v.class? m.owner with
  | none => .error (.classNotInView m.owner)
  | some start =>
    match (v.chain start).findSome? (·.method? m.sub) with
    | some declared => classOutcome start declared
    | none =>
      searchOutcome v.hierarchy policy start m (v.searchDefaults (v.chain start) m.sub)

end View

end Devirt
