import Devirt.Signature

/-!
# Descriptors

The compact spelling of types and method signatures in class files: one letter for a primitive type,
`Lname;` for a class, a leading `[` for each array dimension, and `(parameters)result` for a method.
An error quotes the text that the failing reader was looking at.
-/

namespace Devirt

/-- A descriptor that does not follow the grammar, with the offending text. -/
structure DescriptorError where
  quoted : String
deriving DecidableEq

def DescriptorError.message (e : DescriptorError) : String := "invalid descriptor: " ++ e.quoted

namespace Descriptor

def refuse {α : Type} (text : List Char) : Except DescriptorError α := .error ⟨String.ofList text⟩

def primitive? : Char → Option Primitive
  | 'B' => some .byte
  | 'C' => some .char
  | 'D' => some .double
  | 'F' => some .float
  | 'I' => some .int
  | 'J' => some .long
  | 'S' => some .short
  | 'Z' => some .boolean
  | _ => none

/-- Reads one type from the front of a text and returns what follows it. An error quotes the text
from the innermost component type on. -/
def readType : List Char → Except DescriptorError (Ty × List Char)
  | [] => refuse []
  | c :: rest =>
    if c = '[' then
      match readType rest with
      | .ok (element, after) => .ok (.array element, after)
      | .error e => .error e
    else if c = 'L' then
      match rest.takeWhile (· ≠ ';'), rest.dropWhile (· ≠ ';') with
      | initial :: more, _ :: after => .ok (.ofName (String.ofList (initial :: more)), after)
      | _, _ => refuse (c :: rest)
    else
      match primitive? c with
      | some p => .ok (.primitive p, rest)
      | none => refuse (c :: rest)

/-- Reading a type consumes some of the text. -/
theorem readType_length_lt {cs rest : List Char} {t : Ty} (h : readType cs = .ok (t, rest)) :
    rest.length < cs.length := by
  induction cs generalizing t rest with
  | nil => simp [readType, refuse] at h
  | cons c cs ih =>
    unfold readType at h
    split at h
    · split at h
      · rename_i element after heq
        simp only [Except.ok.injEq, Prod.mk.injEq] at h
        have := ih heq
        simp only [← h.2, List.length_cons]
        omega
      · simp at h
    · split at h
      · split at h
        · rename_i x after _ hd
          simp only [Except.ok.injEq, Prod.mk.injEq] at h
          have hl := (List.dropWhile_suffix (l := cs) (· ≠ ';')).length_le
          rw [hd] at hl
          simp only [← h.2, List.length_cons] at hl ⊢
          omega
        · simp [refuse] at h
      · split at h
        · simp only [Except.ok.injEq, Prod.mk.injEq] at h
          simp [h.2]
        · simp [refuse] at h

/-- Reads parameter types up to the closing bracket and returns what follows it. A text that ends
before the bracket is refused as a `whole`. -/
def readParameters (whole : List Char) (cs : List Char) :
    Except DescriptorError (List Ty × List Char) :=
  match cs with
  | [] => refuse whole
  | ')' :: rest => .ok ([], rest)
  | c :: rest =>
    match h : readType (c :: rest) with
    | .error e => .error e
    | .ok (t, after) =>
      have : after.length < rest.length + 1 := readType_length_lt h
      match readParameters whole after with
      | .ok (ts, last) => .ok (t :: ts, last)
      | .error e => .error e
termination_by cs.length

/-- Reads the result type, which is the rest of a method descriptor. -/
def readResult (whole : List Char) : List Char → Except DescriptorError Ty
  | [] => refuse whole
  | 'V' :: rest => if rest.isEmpty then .ok .void else refuse whole
  | c :: rest =>
    match readType (c :: rest) with
    | .ok (t, []) => .ok t
    | .ok (_, _ :: _) => refuse whole
    | .error e => .error e

def parseField (descriptor : String) : Except DescriptorError Ty :=
  match readType descriptor.toList with
  | .ok (t, []) => .ok t
  | .ok (_, _ :: _) => refuse descriptor.toList
  | .error e => .error e

/-- Reads a method descriptor into parameter types and result type. -/
def parseMethod (descriptor : String) : Except DescriptorError (List Ty × Ty) :=
  match descriptor.toList with
  | '(' :: rest =>
    match readParameters descriptor.toList rest with
    | .error e => .error e
    | .ok (parameters, after) =>
      match readResult descriptor.toList after with
      | .ok result => .ok (parameters, result)
      | .error e => .error e
  | whole => refuse whole

end Descriptor

/-- The method with this name and this descriptor. -/
def SubSignature.ofDescriptor (name descriptor : String) : Except DescriptorError SubSignature :=
  match Descriptor.parseMethod descriptor with
  | .ok (parameters, result) => .ok ⟨name, parameters, result⟩
  | .error e => .error e

end Devirt
