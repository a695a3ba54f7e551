import Devirt.Hierarchy.View

/-!
# Dispatch: policies and errors
-/

namespace Devirt

/-- How a call chooses between default methods of unrelated interfaces. -/
inductive DiamondPolicy where
  /-- The first maximally specific default method in the order in which a breadth-first search finds
  them. -/
  | discoveryOrder
  /-- The maximally specific declaration, abstract declarations included, if it is unique. -/
  | strict
deriving DecidableEq

/-- Why a call has no target. That an abstract method has no implementation below an abstract class
is no error. -/
inductive DispatchError where
  /-- The hierarchy names a class that the view does not resolve. -/
  | classNotInView (name : ClassName)
  /-- All that a concrete class inherits is an abstract declaration. -/
  | abstractMethod (method : MethodSignature)
  | noConcreteImplementation (method : MethodSignature)
  /-- Several declarations are maximally specific. -/
  | ambiguousDefaultMethod (method : MethodSignature) (candidates : List MethodSignature)
  | notSpecialCall (method : MethodSignature)
deriving DecidableEq

def DispatchError.message : DispatchError → String
  | classNotInView name =>
    "could not resolve " ++ name.text ++ ", but it is named by the type hierarchy"
  | abstractMethod method =>
    "could not find a concrete method for " ++ method.text ++ " because the method is abstract"
  | noConcreteImplementation method => "could not find a concrete method for " ++ method.text
  | ambiguousDefaultMethod method candidates =>
    method.text ++ " has " ++ toString candidates.length ++
      " maximally specific interface declarations"
  | notSpecialCall method => method.text ++ " is not invoked through a special invocation"

/-- The declaration of a class that has to be there. -/
def View.requireClass (v : View) (c : ClassName) : Except DispatchError ClassDeclaration :=
  match v.class? c with
  | some d => .ok d
  | none => .error (.classNotInView c)

end Devirt
