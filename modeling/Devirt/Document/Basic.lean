/-!
# Documents and how they are read

A document is data without a schema. Records are read from a document by field name, or by position
from a list of the field values; variants are read by name, with a payload where the variant has
one.
-/

namespace Devirt

/-- Data without a schema. The fields of a record keep their order. -/
inductive Document where
  | null
  | bool (b : Bool)
  | int (n : Int)
  /-- A number that is no integer, as it is written. -/
  | real (lexeme : String)
  | text (s : String)
  /-- A date, a time or both, as it is written. -/
  | moment (lexeme : String)
  | list (items : List Document)
  | record (fields : List (String × Document))

/-- Why a document does not have the expected shape. -/
inductive DecodeError where
  | missingField (name : String)
  | duplicateField (name : String)
  | unknownField (name : String) (expected : List String)
  | unknownVariant (name : String) (expected : List String)
  /-- Data of another kind, a number out of range or a list of another length. -/
  | mismatch
deriving DecidableEq

namespace DecodeError

def expectation (names : List String) : String :=
  let quoted := names.map fun n => "`" ++ n ++ "`"
  match quoted with
  | [] => "there are no names"
  | [a] => "expected " ++ a
  | [a, b] => "expected " ++ a ++ " or " ++ b
  | many => "expected one of " ++ ", ".intercalate many

/-- What is reported about an error in names. Other errors have no fixed wording. -/
def message? : DecodeError → Option String
  | missingField name => some ("missing field `" ++ name ++ "`")
  | duplicateField name => some ("duplicate field `" ++ name ++ "`")
  | unknownField name expected =>
    some ("unknown field `" ++ name ++ "`, " ++ expectation expected)
  | unknownVariant name expected =>
    some ("unknown variant `" ++ name ++ "`, " ++ expectation expected)
  | mismatch => none

end DecodeError

/-- What documents of one data format look like where the formats differ. -/
structure Format where
  /-- Whether a document stands for the payload of a variant without one. -/
  isNoPayload : Document → Bool
  /-- Whether a list that stands for a record may go on after the last field. -/
  allowsSurplus : Bool

namespace Format

/-- JSON can write nothing at all. -/
def json : Format where
  isNoPayload
    | .null => true
    | _ => false
  allowsSurplus := false

/-- TOML writes nothing as an empty table or array. -/
def toml : Format where
  isNoPayload
    | .record [] | .list [] => true
    | _ => false
  allowsSurplus := true

end Format

/-- Reads a value from a document. -/
abbrev Reader (α : Type) := Document → Except DecodeError α

namespace Reader

def text : Reader String
  | .text s => .ok s
  | _ => .error .mismatch

def bool : Reader Bool
  | .bool b => .ok b
  | _ => .error .mismatch

def uint32 : Reader UInt32
  | .int n => if 0 ≤ n ∧ n < UInt32.size then .ok (.ofNat n.toNat) else .error .mismatch
  | _ => .error .mismatch

def list {α : Type} (item : Reader α) : Reader (List α)
  | .list items => items.mapM item
  | _ => .error .mismatch

def check {α : Type} (reader : Reader α) : Reader Unit := fun d => (reader d).map fun _ => ()

end Reader

/-! ## Records -/

/-- A field that a record may have. -/
structure FieldRule where
  name : String
  check : Reader Unit

/-- The fields of one record. -/
structure Fields where
  entries : List (String × Document)
  /-- The error that reports a missing field. -/
  absent : String → DecodeError

namespace Fields

def required {α : Type} (f : Fields) (name : String) (reader : Reader α) : Except DecodeError α :=
  match f.entries.lookup name with
  | some d => reader d
  | none => .error (f.absent name)

def optional {α : Type} (f : Fields) (name : String) (reader : Reader α) (default : α) :
    Except DecodeError α :=
  match f.entries.lookup name with
  | some d => reader d
  | none => .ok default

end Fields

/-- What is done with fields that a record does not have. -/
inductive Foreign where
  | ignored | refused
deriving DecidableEq

namespace Document

/-- Checks the fields of a record in the order in which they stand. `seen` holds the names met
before. -/
def checkEntries (rules : List FieldRule) (foreign : Foreign) (seen : List String) :
    List (String × Document) → Except DecodeError Unit
  | [] => .ok ()
  | (name, d) :: rest =>
    match rules.find? (·.name = name) with
    | none =>
      if foreign = .refused then .error (.unknownField name (rules.map (·.name)))
      else checkEntries rules foreign seen rest
    | some rule =>
      if name ∈ seen then .error (.duplicateField name)
      else
        match rule.check d with
        | .error e => .error e
        | .ok () => checkEntries rules foreign (name :: seen) rest

/-- Where a record is expected, a date or time counts as a record of this one field. -/
def momentField : String := "$__toml_private_datetime"

/-- The fields of a record. A list gives them in the order of the rules; it may be too short, in
which case fields are missing, and in some formats too long. -/
def fields (format : Format) (rules : List FieldRule) (foreign : Foreign) (d : Document) :
    Except DecodeError Fields :=
  let keyed (entries : List (String × Document)) : Except DecodeError Fields :=
    match checkEntries rules foreign [] entries with
    | .ok () => .ok ⟨entries, .missingField⟩
    | .error e => .error e
  match d with
  | .record entries => keyed entries
  | .moment lexeme => keyed [(momentField, .text lexeme)]
  | .list items =>
    let entries := (rules.map (·.name)).zip items
    match checkEntries rules foreign [] entries with
    | .ok () =>
      if rules.length < items.length ∧ !format.allowsSurplus then .error .mismatch
      else .ok ⟨entries, fun _ => .mismatch⟩
    | .error e => .error e
  | _ => .error .mismatch

/-! ## Variants -/

/-- Reads one of some variants without payload: its name, or a record of its name and what the
format writes for no payload. -/
def unitVariant (format : Format) (names : List String) : Reader String
  | .text name => if name ∈ names then .ok name else .error (.unknownVariant name names)
  | .record [(name, payload)] =>
    if name ∉ names then .error (.unknownVariant name names)
    else if format.isNoPayload payload then .ok name
    else .error .mismatch
  | _ => .error .mismatch

end Document

end Devirt
