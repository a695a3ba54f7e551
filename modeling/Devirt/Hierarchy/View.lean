import Devirt.Hierarchy.Universe

/-!
# Views

A view is what a resolver is given: a hierarchy, and the declarations that can be looked up. The two
need not agree, since a view can hide classes that its hierarchy still names.
-/

namespace Devirt

/-- A hierarchy with the declarations that can be looked up. -/
structure View where
  hierarchy : Hierarchy
  classes : List ClassDeclaration

namespace View

/-- The declaration of a class. Of two declarations of one class the first one counts. -/
def class? (v : View) (c : ClassName) : Option ClassDeclaration := Hierarchy.find? v.classes c

/-- The method that the class of a signature declares under its sub-signature. -/
def method? (v : View) (m : MethodSignature) : Option MethodDeclaration :=
  (v.class? m.owner).bind fun c => c.method? m.sub

/-- The view without the declarations of some classes, under the same hierarchy. -/
def hide (v : View) (hidden : ClassName → Bool) : View :=
  { v with classes := v.classes.filter fun d => !hidden d.name }

/-- The view of some declarations as they are, with no check for repetitions or cycles. -/
def ofClasses (classes : List ClassDeclaration) : View := ⟨.ofClasses classes, classes⟩

end View

/-- The view that hides nothing of a universe. -/
def Universe.view (u : Universe) : View := ⟨u.hierarchy, u.classes⟩

end Devirt
