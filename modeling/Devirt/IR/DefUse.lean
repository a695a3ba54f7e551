import Devirt.IR.Statement

/-!
# Definitions and uses

Which local a statement writes, and which locals it reads, in the order of its operands. The base of
a place that is written counts as read.
-/

namespace Devirt

/-- The locals of a place: its base, then its index. -/
def Place.locals : Place → List Local
  | staticField _ => []
  | instanceField base _ => [base]
  | element base index => base :: index.local?.toList

def Binary.locals (b : Binary) : List Local := b.left.local?.toList ++ b.right.local?.toList

/-- The locals of a call: its receiver, then its arguments. -/
def Call.locals (c : Call) : List Local := c.receiver.toList ++ c.arguments.filterMap Atom.local?

def Expr.locals : Expr → List Local
  | binary b => b.locals
  | unary _ operand | cast operand _ | instanceOf operand _ => operand.local?.toList
  | new _ => []
  | newArray _ size => size.local?.toList
  | call c => c.locals

def Operand.locals : Operand → List Local
  | atom a => a.local?.toList
  | ref (.place p) => p.locals
  | ref (.incoming _) => []
  | expr e => e.locals

/-- The locals that writing to a target reads. -/
def Target.locals : Target → List Local
  | loc _ => []
  | place p => p.locals

namespace Instruction

def defined? : Instruction → Option Local
  | assign a => a.target.local?
  | bind b => some b.target
  | _ => none

/-- The locals that an instruction reads, once for each occurrence. -/
def used : Instruction → List Local
  | assign a => a.target.locals ++ a.source.locals
  | call c => c.locals
  | ret value | raise value => value.local?.toList
  | branch condition => condition.locals
  | nop | bind _ | retVoid | goto => []

end Instruction

end Devirt
