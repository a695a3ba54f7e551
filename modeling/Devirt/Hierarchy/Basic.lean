import Devirt.Ascending
import Devirt.Graph.BreadthFirst
import Devirt.Hierarchy.Declaration

/-!
# Hierarchies and their walks

A hierarchy holds the direct edges between classes: superclass, interfaces, and the classes that
name a given one. The edges touch finitely many classes, which are listed, but nothing else is asked
of them: there may be cycles, and classes that are named without being declared. Every walk ends on
every hierarchy and has no bound of its own.
-/

namespace Devirt

/-- The direct edges between classes. -/
structure Hierarchy where
  /-- Whether a class is declared. -/
  contains : ClassName → Bool
  superclass? : ClassName → Option ClassName
  /-- Interfaces in order of declaration. -/
  interfaces : ClassName → List ClassName
  /-- The classes that name a class as superclass or interface. -/
  directSubtypes : ClassName → List ClassName
  /-- The classes that edges lead to. -/
  types : List ClassName
  superclass_mem : ∀ a b, superclass? a = some b → b ∈ types
  interface_mem : ∀ a b, b ∈ interfaces a → b ∈ types
  subtype_mem : ∀ a b, b ∈ directSubtypes a → b ∈ types

namespace Hierarchy

/-- The superclass of a class, then its interfaces. -/
def supertypes (h : Hierarchy) (c : ClassName) : List ClassName :=
  (h.superclass? c).toList ++ h.interfaces c

/-- All subtypes of a class without the class itself, nearest first. -/
def subtypes (h : Hierarchy) (c : ClassName) : List ClassName :=
  Graph.explore h.directSubtypes (Graph.without c h.types) (h.directSubtypes c)

/-- The superclasses from a class upwards as long as they are declared and among `fresh`, which
loses each class that is passed. -/
def chain (h : Hierarchy) (fresh : List ClassName) (c : ClassName) : List ClassName :=
  match h.superclass? c with
  | none => []
  | some p =>
    if hp : p ∈ fresh then
      have := Graph.length_without_lt hp
      if h.contains p then p :: chain h (Graph.without p fresh) p else []
    else []
termination_by fresh.length

/-- The superclasses of a class without the class itself, nearest first. The chain ends before the
first class that is not declared, and before a class that it has met. -/
def superclasses (h : Hierarchy) (c : ClassName) : List ClassName :=
  h.chain (Graph.without c h.types) c

/-- Every interface of a class, of its superclasses and of their interfaces, nearest first. -/
def allInterfaces (h : Hierarchy) (c : ClassName) : List ClassName :=
  Graph.explore h.interfaces h.types ((c :: h.superclasses c).flatMap h.interfaces)

/-- Every class that lies above a class, nearest first. -/
def ancestors (h : Hierarchy) (c : ClassName) : List ClassName :=
  Graph.explore h.supertypes h.types (h.supertypes c)

/-! ## Subtyping -/

/-- Whether a class is the other one or lies below it. Everything lies below the root class. -/
def isSubclass (h : Hierarchy) (sub sup : ClassName) : Bool :=
  sub = sup || sup.isObject || sup ∈ h.ancestors sub

/-- The fully qualified names of the two interfaces of arrays. -/
def arrayInterfaces : List String := ["java.lang.Cloneable", "java.io.Serializable"]

/-- Whether every array is of this class. -/
def isArraySuperclass (c : ClassName) : Bool := c.isObject || c.text ∈ arrayInterfaces

/-- Whether one type is the other one or a subtype of it. Arrays of references are covariant, and
the null type lies below every reference type. -/
def isSubtype (h : Hierarchy) (sub sup : Ty) : Bool :=
  sub = sup ||
    match sub, sup with
    | .null, sup => sup.isReference
    | .named sub, .named sup => h.isSubclass sub sup
    | .array _, .named sup => isArraySuperclass sup
    | .array sub, .array sup => sub.isReference && sup.isReference && h.isSubtype sub sup
    | _, _ => false

/-- Whether a method can override another: the same name and parameter types, and a result type
that is equal or a subtype. -/
def canOverride (h : Hierarchy) (called target : MethodSignature) : Bool :=
  called.sub.name = target.sub.name && called.sub.parameters = target.sub.parameters &&
    h.isSubtype target.sub.result called.sub.result

/-! ## Hierarchies of declarations -/

/-- The first declaration of a class. -/
def find? (classes : List ClassDeclaration) (c : ClassName) : Option ClassDeclaration :=
  classes.find? fun d => d.name = c

/-- The classes that name a class as superclass or interface, in ascending order. -/
def subtypesIn (classes : List ClassDeclaration) (c : ClassName) : List ClassName :=
  ascending ((classes.filter fun d => c ∈ d.supertypes).map (·.name))

theorem mem_of_mem_subtypesIn {classes : List ClassDeclaration} {a b : ClassName}
    (h : b ∈ subtypesIn classes a) : ∃ d ∈ classes, d.name = b := by
  obtain ⟨d, hd, rfl⟩ := List.mem_map.mp (mem_of_mem_ascending h)
  exact ⟨d, (List.mem_filter.mp hd).1, rfl⟩

/-- The edges that some declarations name. Of two declarations of one class the first one counts,
but both count as subtypes of what they name. -/
def ofClasses (classes : List ClassDeclaration) : Hierarchy where
  contains c := (find? classes c).isSome
  superclass? c := (find? classes c).bind (·.superclass?)
  interfaces c := ((find? classes c).map (·.interfaces)).getD []
  directSubtypes c := subtypesIn classes c
  types := classes.flatMap fun d => d.name :: d.supertypes
  superclass_mem a b h := by
    obtain ⟨d, hd, hb⟩ := Option.bind_eq_some_iff.mp h
    refine List.mem_flatMap.mpr ⟨d, List.mem_of_find?_eq_some hd, ?_⟩
    simp [ClassDeclaration.supertypes, hb]
  interface_mem a b h := by
    cases hd : find? classes a with
    | none => simp [hd] at h
    | some d =>
      refine List.mem_flatMap.mpr ⟨d, List.mem_of_find?_eq_some hd, ?_⟩
      simp only [hd, Option.map_some, Option.getD_some] at h
      simp [ClassDeclaration.supertypes, h]
  subtype_mem a b h := by
    obtain ⟨d, hd, rfl⟩ := mem_of_mem_subtypesIn h
    exact List.mem_flatMap.mpr ⟨d, hd, List.mem_cons_self⟩

end Hierarchy

end Devirt
