import Devirt.IR.Statement

/-!
# Digests of statements

A 64-bit digest that does not look at positions, so statements that are equal up to their positions
have the same digest. It is built from digests of operands; any functions will do for those.
-/

namespace Devirt

/-- A digest for every kind of operand that an instruction holds. -/
structure OperandDigests where
  target : Target → UInt64
  source : Operand → UInt64
  loc : Local → UInt64
  incoming : Incoming → UInt64
  call : Call → UInt64
  atom : Atom → UInt64
  condition : Binary → UInt64

def OperandDigests.standard : OperandDigests := ⟨hash, hash, hash, hash, hash, hash, hash⟩

/-- Combines two digests. The order matters. -/
def mixDigests (a b : UInt64) : UInt64 := a + 31 * b

namespace Instruction

/-- The digest of an instruction. Instructions without operands have fixed digests. -/
def digest (d : OperandDigests) : Instruction → UInt64
  | nop => 42
  | assign a => mixDigests (d.target a.target) (d.source a.source)
  | bind b => mixDigests (d.loc b.target) (d.incoming b.source)
  | call c => d.call c
  | ret value => mixDigests 17 (d.atom value)
  | retVoid => 43
  | raise value => mixDigests 19 (d.atom value)
  | goto => 44
  | branch condition => d.condition condition

end Instruction

namespace Stmt

/-- The digest of a statement, whatever its position. -/
def digest (d : OperandDigests) (s : Stmt) : UInt64 := s.instr.digest d

end Stmt

end Devirt
