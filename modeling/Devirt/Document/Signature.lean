import Devirt.Document.Basic
import Devirt.Position
import Devirt.Signature

/-!
# Types, signatures and positions as documents

Writing gives a record of named fields. Reading also takes a list of the field values in the same
order, and ignores fields that it does not know.
-/

namespace Devirt

namespace Primitive

def toDocument (p : Primitive) : Document := .text p.keyword

def ofDocument : Reader Primitive := fun d => do
  let word ← Document.unitVariant .json (all.map keyword) d
  match ofKeyword? word with
  | some p => return p
  | none => throw .mismatch

end Primitive

namespace ClassName

def toDocument (c : ClassName) : Document :=
  .record [("package", .text c.package), ("name", .text c.simple)]

def ofDocument : Reader ClassName := fun d => do
  let f ← d.fields .json [⟨"package", Reader.text.check⟩, ⟨"name", Reader.text.check⟩] .ignored
  return ⟨← f.required "package" .text, ← f.required "name" .text⟩

end ClassName

namespace Ty

def variants : List String := ["Primitive", "Class", "Array", "Void", "Null", "Unknown"]

/-- A type as a variant. -/
def toDocument : Ty → Document
  | primitive p => .record [("Primitive", p.toDocument)]
  | named c => .record [("Class", c.toDocument)]
  | array t => .record [("Array", t.toDocument)]
  | void => .text "Void"
  | null => .text "Null"
  | unknown => .text "Unknown"

/-- The type of a form without payload. -/
def ofUnitVariant (name : String) : Except DecodeError Ty :=
  if name = "Void" then .ok void
  else if name = "Null" then .ok null
  else if name = "Unknown" then .ok unknown
  else if name ∈ variants then .error .mismatch
  else .error (.unknownVariant name variants)

def ofDocument : Reader Ty
  | .text name => ofUnitVariant name
  | .record [(name, payload)] =>
    if name = "Primitive" then (Primitive.ofDocument payload).map primitive
    else if name = "Class" then (ClassName.ofDocument payload).map named
    else if name = "Array" then (ofDocument payload).map array
    else
      match ofUnitVariant name with
      | .ok t => if Format.json.isNoPayload payload then .ok t else .error .mismatch
      | .error e => .error e
  | _ => .error .mismatch

end Ty

namespace SubSignature

def toDocument (s : SubSignature) : Document :=
  .record [("name", .text s.name), ("parameter_types", .list (s.parameters.map Ty.toDocument)),
    ("return_type", s.result.toDocument)]

def ofDocument : Reader SubSignature := fun d => do
  let f ← d.fields .json [⟨"name", Reader.text.check⟩,
    ⟨"parameter_types", (Reader.list Ty.ofDocument).check⟩,
    ⟨"return_type", Reader.check Ty.ofDocument⟩] .ignored
  return ⟨← f.required "name" .text, ← f.required "parameter_types" (.list Ty.ofDocument),
    ← f.required "return_type" Ty.ofDocument⟩

end SubSignature

namespace MethodSignature

def toDocument (m : MethodSignature) : Document :=
  .record [("declaring_class", m.owner.toDocument), ("sub_signature", m.sub.toDocument)]

def ofDocument : Reader MethodSignature := fun d => do
  let f ← d.fields .json [⟨"declaring_class", Reader.check ClassName.ofDocument⟩,
    ⟨"sub_signature", Reader.check SubSignature.ofDocument⟩] .ignored
  return ⟨← f.required "declaring_class" ClassName.ofDocument,
    ← f.required "sub_signature" SubSignature.ofDocument⟩

end MethodSignature

namespace FieldSignature

def toDocument (s : FieldSignature) : Document :=
  .record [("declaring_class", s.owner.toDocument), ("name", .text s.name),
    ("ty", s.ty.toDocument)]

def ofDocument : Reader FieldSignature := fun d => do
  let f ← d.fields .json [⟨"declaring_class", Reader.check ClassName.ofDocument⟩,
    ⟨"name", Reader.text.check⟩, ⟨"ty", Reader.check Ty.ofDocument⟩] .ignored
  return ⟨← f.required "declaring_class" ClassName.ofDocument, ← f.required "name" .text,
    ← f.required "ty" Ty.ofDocument⟩

end FieldSignature

namespace Position

def toDocument (p : Position) : Document :=
  .record [("first_line", .int p.firstLine.toNat), ("first_col", .int p.firstColumn.toNat),
    ("last_line", .int p.lastLine.toNat), ("last_col", .int p.lastColumn.toNat)]

def ofDocument : Reader Position := fun d => do
  let f ← d.fields .json [⟨"first_line", Reader.uint32.check⟩, ⟨"first_col", Reader.uint32.check⟩,
    ⟨"last_line", Reader.uint32.check⟩, ⟨"last_col", Reader.uint32.check⟩] .ignored
  return ⟨← f.required "first_line" .uint32, ← f.required "first_col" .uint32,
    ← f.required "last_line" .uint32, ← f.required "last_col" .uint32⟩

end Position

end Devirt
