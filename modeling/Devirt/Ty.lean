import Devirt.ClassName

/-!
# Types

Primitive types, classes, arrays of any depth, and three types without values of their own: `void`,
the type of the null constant, and the unknown type.
-/

namespace Devirt

/-- Types of numbers, characters and truth values. -/
inductive Primitive where
  | boolean | byte | char | short | int | long | float | double
deriving DecidableEq, Hashable

namespace Primitive

def keyword : Primitive → String
  | boolean => "boolean"
  | byte => "byte"
  | char => "char"
  | short => "short"
  | int => "int"
  | long => "long"
  | float => "float"
  | double => "double"

/-- Every primitive type, in ascending order. -/
def all : List Primitive := [boolean, byte, char, short, int, long, float, double]

def ofKeyword? (word : String) : Option Primitive := all.find? fun p => p.keyword = word

/-- Place in the ascending order. -/
def rank : Primitive → Nat
  | boolean => 0
  | byte => 1
  | char => 2
  | short => 3
  | int => 4
  | long => 5
  | float => 6
  | double => 7

instance : Ord Primitive := ⟨compareOn rank⟩

end Primitive

/-- A type of locals, fields, parameters and results. -/
inductive Ty where
  | primitive (p : Primitive)
  | named (c : ClassName)
  | array (element : Ty)
  | void
  /-- The type of the null constant. -/
  | null
  | unknown
deriving DecidableEq, Hashable

namespace Ty

/-- The type of a class given by its dotted or internal name. -/
def ofName (qualified : String) : Ty := named (ClassName.parse qualified)

/-- Classes, arrays and the null type are references. -/
def isReference : Ty → Bool
  | named _ | array _ | null => true
  | _ => false

def className? : Ty → Option ClassName
  | named c => some c
  | _ => none

def element? : Ty → Option Ty
  | array t => some t
  | _ => none

def dimensions : Ty → Nat
  | array t => t.dimensions + 1
  | _ => 0

/-- The type that is left when every array dimension is taken away. -/
def innermost : Ty → Ty
  | array t => t.innermost
  | t => t

def text : Ty → String
  | primitive p => p.keyword
  | named c => c.text
  | array t => t.text ++ "[]"
  | void => "void"
  | null => "null_type"
  | unknown => "unknown"

/-- Place of a type's form in the ascending order. -/
def rank : Ty → Nat
  | primitive _ => 0
  | named _ => 1
  | array _ => 2
  | void => 3
  | null => 4
  | unknown => 5

/-- Types are ordered by form first, then by what the form holds. -/
def order : Ty → Ty → Ordering
  | primitive p, primitive q => compare p q
  | named c, named d => compare c d
  | array s, array t => order s t
  | s, t => compare s.rank t.rank

instance : Ord Ty := ⟨order⟩

end Ty

end Devirt
