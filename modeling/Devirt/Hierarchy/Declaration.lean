import Devirt.Signature
import Devirt.Hierarchy.Modifiers

/-!
# Declarations of classes and methods

A class declares its methods in a table with one entry for each sub-signature, in the order in which
the sub-signatures were first added. Adding a method under a sub-signature that is there already
replaces the method and keeps its place.
-/

namespace Devirt

/-- A method as a class declares it. -/
structure MethodDeclaration where
  signature : MethodSignature
  modifiers : MethodModifiers
deriving DecidableEq

namespace MethodDeclaration

/-- The key under which a class holds the method. -/
def sub (m : MethodDeclaration) : SubSignature := m.signature.sub

def owner (m : MethodDeclaration) : ClassName := m.signature.owner

def isAbstract (m : MethodDeclaration) : Bool := MethodModifiers.abstractFlag.isSet m.modifiers.bits

/-- Whether only its own class sees the method. -/
def isPrivate (m : MethodDeclaration) : Bool := MethodModifiers.privateFlag.isSet m.modifiers.bits

def isStatic (m : MethodDeclaration) : Bool := MethodModifiers.staticFlag.isSet m.modifiers.bits

/-- Whether the method is implemented elsewhere. -/
def isNative (m : MethodDeclaration) : Bool := MethodModifiers.nativeFlag.isSet m.modifiers.bits

/-- Abstract and native methods have no body. -/
def hasBody (m : MethodDeclaration) : Bool := !m.isAbstract && !m.isNative

end MethodDeclaration

/-- What is wrong with declarations of classes. -/
inductive HierarchyError where
  /-- A method of another class is added to a class. -/
  | foreignMethod (owner : ClassName) (method : MethodSignature)
  | duplicateClass (name : ClassName)
  | inheritanceCycle (name : ClassName)
deriving DecidableEq

def HierarchyError.message : HierarchyError → String
  | foreignMethod owner method =>
    "method " ++ method.text ++ " cannot be added to class " ++ owner.text
  | duplicateClass name => "class " ++ name.text ++ " is declared more than once"
  | inheritanceCycle name => "inheritance cycle through " ++ name.text

/-- Puts a method into a table: in the place of the method with the same sub-signature or, if there
is none, at the end. -/
def insertMethod (m : MethodDeclaration) : List MethodDeclaration → List MethodDeclaration
  | [] => [m]
  | n :: rest => if n.sub = m.sub then m :: rest else n :: insertMethod m rest

theorem mem_insertMethod {m n : MethodDeclaration} {table : List MethodDeclaration}
    (h : n ∈ insertMethod m table) : n = m ∨ n ∈ table := by
  induction table with
  | nil => simpa [insertMethod] using h
  | cons a rest ih =>
    rw [insertMethod] at h
    split at h
    · simp only [List.mem_cons] at h ⊢
      rcases h with h | h
      · exact .inl h
      · exact .inr (.inr h)
    · simp only [List.mem_cons] at h ⊢
      rcases h with h | h
      · exact .inr (.inl h)
      · rcases ih h with h | h
        · exact .inl h
        · exact .inr (.inr h)

theorem nodup_insertMethod {m : MethodDeclaration} {table : List MethodDeclaration}
    (h : (table.map (·.sub)).Nodup) : ((insertMethod m table).map (·.sub)).Nodup := by
  induction table with
  | nil => simp [insertMethod]
  | cons a rest ih =>
    rw [List.map_cons, List.nodup_cons] at h
    rw [insertMethod]
    split
    · rename_i heq
      rw [List.map_cons, List.nodup_cons, ← heq]
      exact h
    · rename_i hne
      rw [List.map_cons, List.nodup_cons]
      refine ⟨?_, ih h.2⟩
      intro hmem
      obtain ⟨n, hn, hsub⟩ := List.mem_map.mp hmem
      rcases mem_insertMethod hn with rfl | hn
      · exact hne hsub.symm
      · exact h.1 (List.mem_map.mpr ⟨n, hn, hsub⟩)

/-- A class or interface as it is declared. Its methods are its own, with distinct
sub-signatures. -/
structure ClassDeclaration where
  name : ClassName
  modifiers : ClassModifiers
  superclass? : Option ClassName
  /-- Interfaces that a class implements or an interface extends, in order of declaration. -/
  interfaces : List ClassName
  methods : List MethodDeclaration := []
  methods_owner : ∀ m ∈ methods, m.owner = name := by simp
  methods_nodup : (methods.map (·.sub)).Nodup := by simp

namespace ClassDeclaration

/-- Adds a method, which must be one of this class. -/
def addMethod (c : ClassDeclaration) (m : MethodDeclaration) :
    Except HierarchyError ClassDeclaration :=
  if h : m.owner = c.name then
    .ok { c with
      methods := insertMethod m c.methods
      methods_owner := fun n hn => by
        rcases mem_insertMethod hn with rfl | hn
        · exact h
        · exact c.methods_owner n hn
      methods_nodup := nodup_insertMethod c.methods_nodup }
  else .error (.foreignMethod c.name m.signature)

def method? (c : ClassDeclaration) (sub : SubSignature) : Option MethodDeclaration :=
  c.methods.find? fun m => m.sub = sub

/-- Whether the declaration is one of an interface. -/
def isInterface (c : ClassDeclaration) : Bool :=
  ClassModifiers.interfaceFlag.isSet c.modifiers.bits

/-- Interfaces count as abstract. -/
def isAbstract (c : ClassDeclaration) : Bool :=
  c.isInterface || ClassModifiers.abstractFlag.isSet c.modifiers.bits

/-- The superclass, then the interfaces. -/
def supertypes (c : ClassDeclaration) : List ClassName := c.superclass?.toList ++ c.interfaces

end ClassDeclaration

end Devirt
