import Devirt.Ty

/-!
# Signatures of methods and fields

Two methods override each other exactly when their sub-signatures are equal, which makes the
sub-signature the key under which a class declares a method.
-/

namespace Devirt

/-- A method without its declaring class. -/
structure SubSignature where
  name : String
  parameters : List Ty
  result : Ty
deriving DecidableEq, Hashable

namespace SubSignature

/-- Instance initialisers are methods of this name. -/
def constructorName : String := "<init>"

/-- Static initialisers are methods of this name. -/
def staticInitializerName : String := "<clinit>"

/-- Whether the method is an instance initialiser. -/
def isConstructor (s : SubSignature) : Bool := s.name = constructorName

/-- Whether the method is a static initialiser. -/
def isStaticInitializer (s : SubSignature) : Bool := s.name = staticInitializerName

def text (s : SubSignature) : String :=
  s.result.text ++ " " ++ s.name ++ "(" ++ ",".intercalate (s.parameters.map Ty.text) ++ ")"

/-- Name first, then parameter types position by position, then the result type. -/
instance : Ord SubSignature :=
  ⟨compareLex (compareOn name) (compareLex (compareOn parameters) (compareOn result))⟩

end SubSignature

/-- A method together with the class that declares it. -/
structure MethodSignature where
  owner : ClassName
  sub : SubSignature
deriving DecidableEq, Hashable

namespace MethodSignature

/-- The same sub-signature, declared on another class. -/
def onClass (m : MethodSignature) (c : ClassName) : MethodSignature := { m with owner := c }

/-- Declaring class and sub-signature between angle brackets. -/
def text (m : MethodSignature) : String := "<" ++ m.owner.text ++ ": " ++ m.sub.text ++ ">"

instance : Ord MethodSignature := ⟨compareLex (compareOn owner) (compareOn sub)⟩

end MethodSignature

/-- A field together with the class that declares it. -/
structure FieldSignature where
  owner : ClassName
  name : String
  ty : Ty
deriving DecidableEq, Hashable

namespace FieldSignature

/-- Declaring class, type and name between angle brackets. -/
def text (f : FieldSignature) : String :=
  "<" ++ f.owner.text ++ ": " ++ f.ty.text ++ " " ++ f.name ++ ">"

instance : Ord FieldSignature :=
  ⟨compareLex (compareOn owner) (compareLex (compareOn name) (compareOn ty))⟩

end FieldSignature

end Devirt
