import Devirt.Graph.Cycle
import Devirt.Hierarchy.Basic

/-!
# Frozen universes of classes

Declarations are collected one by one and then frozen. Freezing fails if a class was declared twice
or if the declared classes inherit from each other in a circle. Classes that are named but not
declared are no reason to fail.
-/

namespace Devirt

/-- Declarations on their way to a universe. -/
structure UniverseBuilder where
  classes : List ClassDeclaration := []
  /-- The first class that was declared again. -/
  repeated? : Option ClassName := none
  nodup : (classes.map (·.name)).Nodup := by simp

namespace UniverseBuilder

def empty : UniverseBuilder := {}

def add (b : UniverseBuilder) (d : ClassDeclaration) : UniverseBuilder :=
  if h : d.name ∈ b.classes.map (·.name) then
    { b with repeated? := b.repeated?.or (some d.name) }
  else
    { b with
      classes := b.classes ++ [d]
      nodup := by
        rw [List.map_append, List.nodup_append]
        exact ⟨b.nodup, by simp, by
          intro x hx y hy hxy
          simp only [List.map_cons, List.map_nil, List.mem_singleton] at hy
          exact h (hy ▸ hxy ▸ hx)⟩ }

end UniverseBuilder

/-- A declared class on an inheritance cycle, if there is one. -/
def inheritanceCycle? (classes : List ClassDeclaration) : Option ClassName :=
  Graph.cycle? (classes.map (·.name)) (Hierarchy.ofClasses classes).supertypes

/-- Declarations of distinct classes without an inheritance cycle. -/
structure Universe where
  classes : List ClassDeclaration
  nodup : (classes.map (·.name)).Nodup
  acyclic : inheritanceCycle? classes = none

/-- Freezes the collected declarations. A class that was declared again is reported before a
cycle. -/
def UniverseBuilder.freeze (b : UniverseBuilder) : Except HierarchyError Universe :=
  match b.repeated? with
  | some c => .error (.duplicateClass c)
  | none =>
    match h : inheritanceCycle? b.classes with
    | some c => .error (.inheritanceCycle c)
    | none => .ok ⟨b.classes, b.nodup, h⟩

namespace Universe

def ofClasses (classes : List ClassDeclaration) : Except HierarchyError Universe :=
  (classes.foldl UniverseBuilder.add .empty).freeze

def size (u : Universe) : Nat := u.classes.length

def isEmpty (u : Universe) : Bool := u.classes.isEmpty

/-- The edges between the classes of the universe. -/
def hierarchy (u : Universe) : Hierarchy := .ofClasses u.classes

end Universe

end Devirt
