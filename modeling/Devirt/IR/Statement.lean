import Devirt.IR.Fragment
import Devirt.Position

/-!
# Statements

A statement is an instruction at a source position. Instructions are made by the checked
constructors of `Devirt.IR.Construction`, which refuse what `Instruction.WellFormed` forbids.
-/

namespace Devirt

/-- `target = source`. -/
structure Assignment where
  target : Target
  source : Operand
deriving DecidableEq, Hashable

/-- `target := source`, which names a value that the body receives on entry. -/
structure Binding where
  target : Local
  source : Incoming
deriving DecidableEq, Hashable

/-- What a statement does. Where a jump goes is recorded in the control-flow graph of the body. -/
inductive Instruction where
  | nop
  | assign (a : Assignment)
  | bind (b : Binding)
  | call (c : Call)
  | ret (value : Atom)
  | retVoid
  | raise (value : Atom)
  | goto
  | branch (condition : Binary)
deriving DecidableEq, Hashable

/-- An instruction at a source position. -/
structure Stmt where
  instr : Instruction
  position : Position
deriving DecidableEq

namespace Instruction

/-- Whether control may go on to the next statement. -/
def fallsThrough : Instruction → Bool
  | nop | assign _ | bind _ | call _ | branch _ => true
  | ret _ | retVoid | raise _ | goto => false

/-- Whether control may go to a statement other than the next. -/
def branches : Instruction → Bool
  | goto | branch _ => true
  | _ => false

def fragments : Instruction → List Fragment
  | nop => [.literal "nop"]
  | assign a => a.target.fragments ++ [.literal " = "] ++ a.source.fragments
  | bind b => [.loc b.target, .literal " := "] ++ b.source.fragments
  | call c => c.fragments
  | ret value => .literal "return " :: value.fragments
  | retVoid => [.literal "return"]
  | raise value => .literal "throw " :: value.fragments
  | goto => [.literal "goto"]
  | branch condition => .literal "if " :: condition.fragments

def text (i : Instruction) : String := Fragment.render Fragment.plain i.fragments

/-! ## What an instruction contains -/

def call? : Instruction → Option Call
  | assign a => a.source.call?
  | call c => some c
  | _ => none

/-- The array element that an assignment writes or, failing that, reads. -/
def element? : Instruction → Option Place
  | assign a => a.target.element?.or a.source.element?
  | _ => none

/-- The field that an assignment writes or, failing that, reads. -/
def field? : Instruction → Option Place
  | assign a => a.target.field?.or a.source.field?
  | _ => none

end Instruction

end Devirt
