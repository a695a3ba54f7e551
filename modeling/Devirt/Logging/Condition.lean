import Devirt.Decimal.Layout
import Devirt.Decimal.Literal
import Devirt.Pattern.Reading

/-!
# Conditions on fields

A condition names a field and may ask for its value. The value is of the first kind that its text
can be read as, and is written in the form of that kind.
-/

namespace Devirt.Logging

open Decimal (BinaryFormat Layout Number numeral?)

/-- What the value of a field has to be. -/
inductive FieldValue where
  | bool (value : Bool)
  | natural (value : Nat)
  | integer (value : Int)
  | real (value : Number)
  | pattern (text : List Char)
deriving DecidableEq

namespace FieldValue

/-- A number that fits into 64 bits without a sign. -/
def natural? (cs : List Char) : Option Nat :=
  (numeral? (if cs.head? = some '+' then cs.drop 1 else cs)).filter (· ≤ UInt64.size - 1)

/-- A number with a minus sign that fits into 64 bits. -/
def integer? : List Char → Option Int
  | '-' :: digits => ((numeral? digits).map fun n => -(n : Int)).filter (Int64.minValue.toInt ≤ ·)
  | _ => none

/-- Reads a value. What is of no other kind is a pattern, and has to be a valid one. -/
def parse? (cs : List Char) : Option FieldValue :=
  if cs = "true".toList then some (.bool true)
  else if cs = "false".toList then some (.bool false)
  else ((natural? cs).map natural).or <| ((integer? cs).map integer).or <|
    ((BinaryFormat.binary64.ofLiteral? cs).map real).or <|
      if (Pattern.parse? cs).any Pattern.isSupported then some (.pattern cs) else none

/-- Numbers are written without a power of ten, and whole numbers without a point. -/
def layout : Layout := ⟨-324, 309, false⟩

def text : FieldValue → String
  | bool value => if value then "true" else "false"
  | natural value => toString value
  | integer value => toString value
  | real value => layout.renderNumber .binary64 value
  | pattern text => String.ofList text

/-- The value without the sign of a zero. Two values ask for the same if these are equal. -/
def unsignedZero : FieldValue → FieldValue
  | real (.finite _ 0 exponent) => real (.finite false 0 exponent)
  | value => value

end FieldValue

/-- A condition on a field. -/
structure Condition where
  field : List Char
  value? : Option FieldValue
deriving DecidableEq

namespace Condition

/-- Reads a condition: a name, and a value between the first two equality signs. -/
def parse? (cs : List Char) : Option Condition := do
  match cs.splitOn '=' with
  | field :: value :: _ => return ⟨field, some (← FieldValue.parse? value)⟩
  | _ => return ⟨cs, none⟩

def text (c : Condition) : String :=
  String.ofList c.field ++
    match c.value? with
    | some value => "=" ++ value.text
    | none => ""

/-- The condition without the sign of a zero. -/
def unsignedZero (c : Condition) : Condition :=
  { c with value? := c.value?.map FieldValue.unsignedZero }

end Condition

end Devirt.Logging
