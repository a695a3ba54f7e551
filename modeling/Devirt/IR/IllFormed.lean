import Devirt.IR.Statement

/-!
# Ill-formed statements

What the checked constructors refuse and what queries for a missing part report, with the wording of
each.
-/

namespace Devirt

/-- A broken rule about statements, with the part that breaks it. -/
inductive IllFormed where
  /-- A value received on entry stands on the right of an assignment. -/
  | incomingAssigned (source : Operand)
  /-- Something else than a value received on entry stands on the right of a binding. -/
  | incomingExpected (source : Operand)
  | noCall (i : Instruction)
  | noElement (i : Instruction)
  | noField (i : Instruction)
  | receiverMissing (kind : CallKind) (method : MethodSignature)
  | receiverForbidden (kind : CallKind) (method : MethodSignature)
  /-- A branch tests something that is no condition. -/
  | conditionExpected (condition : Binary)
deriving DecidableEq

namespace IllFormed

def message : IllFormed → String
  | incomingAssigned source =>
    "illegal assignment statement: right hand side `" ++ source.text ++ "` is not a valid operand"
  | incomingExpected source =>
    "illegal identity statement: right hand side `" ++ source.text ++
      "` is not an identity reference"
  | noCall i => "invoke_expr() called with no invoke expression present in `" ++ i.text ++ "`"
  | noElement i => "array_ref() called with no array reference present in `" ++ i.text ++ "`"
  | noField i => "field_ref() called with no field reference present in `" ++ i.text ++ "`"
  | receiverMissing kind method =>
    kind.keyword ++ " invocation of " ++ method.text ++ " requires a receiver"
  | receiverForbidden kind method =>
    kind.keyword ++ " invocation of " ++ method.text ++ " must not have a receiver"
  | conditionExpected condition =>
    "if statement condition `" ++ condition.text ++ "` is not a comparison"

end IllFormed

namespace Instruction

/-- The call that an instruction makes, which must be there. -/
def requireCall (i : Instruction) : Except IllFormed Call :=
  match i.call? with
  | some c => .ok c
  | none => .error (.noCall i)

/-- The array element of an assignment, which must be there. -/
def requireElement (i : Instruction) : Except IllFormed Place :=
  match i.element? with
  | some p => .ok p
  | none => .error (.noElement i)

/-- The field of an assignment, which must be there. -/
def requireField (i : Instruction) : Except IllFormed Place :=
  match i.field? with
  | some p => .ok p
  | none => .error (.noField i)

end Instruction

end Devirt
