import Devirt.IR.Statement

/-!
# Comparison of statements

A comparator holds one test for every kind of node. Each test has a default that compares the parts
of two nodes by the tests for the parts, so a comparator that replaces one test changes the outcome
wherever a node of that kind occurs. With every default in place, two statements agree exactly if
they are equal up to their positions.
-/

namespace Devirt

/-! ## Agreement of nodes, given tests for their parts -/

/-- Two locals or two literals agree by the test for them. -/
def Atom.agree (locals : Local → Local → Bool) (constants : Constant → Constant → Bool) :
    Atom → Atom → Bool
  | .loc a, .loc b => locals a b
  | .lit a, .lit b => constants a b
  | _, _ => false

/-- Two places agree if they have the same form and field, and agreeing base and index. -/
def Place.agree (locals : Local → Local → Bool) (atoms : Atom → Atom → Bool) :
    Place → Place → Bool
  | .staticField f, .staticField g => f = g
  | .instanceField a f, .instanceField b g => f = g && locals a b
  | .element a i, .element b j => locals a b && atoms i j
  | _, _ => false

/-- Two references agree by the test for their form. -/
def Reference.agree (places : Place → Place → Bool) (incomings : Incoming → Incoming → Bool) :
    Reference → Reference → Bool
  | .place a, .place b => places a b
  | .incoming a, .incoming b => incomings a b
  | _, _ => false

/-- Two operations agree if they have the same operator and agreeing operands. -/
def Binary.agree (atoms : Atom → Atom → Bool) (a b : Binary) : Bool :=
  a.op = b.op && atoms a.left b.left && atoms a.right b.right

/-- Two receivers agree if both are there and agree, or both are missing. -/
def Call.agreeReceivers (locals : Local → Local → Bool) : Option Local → Option Local → Bool
  | some a, some b => locals a b
  | none, none => true
  | _, _ => false

/-- Two lists of arguments agree if they are equally long and agree position by position. -/
def Call.agreeArguments (atoms : Atom → Atom → Bool) : List Atom → List Atom → Bool
  | [], [] => true
  | a :: as, b :: bs => atoms a b && agreeArguments atoms as bs
  | _, _ => false

/-- Two calls agree if they have the same kind and method, and agreeing receiver and arguments. -/
def Call.agree (locals : Local → Local → Bool) (atoms : Atom → Atom → Bool) (a b : Call) : Bool :=
  a.kind = b.kind && a.method = b.method && agreeReceivers locals a.receiver b.receiver &&
    agreeArguments atoms a.arguments b.arguments

/-- Two expressions agree if they have the same form and types, and agreeing operands. -/
def Expr.agree (atoms : Atom → Atom → Bool) (binaries : Binary → Binary → Bool)
    (calls : Call → Call → Bool) : Expr → Expr → Bool
  | .binary a, .binary b => binaries a b
  | .unary op a, .unary op' b => op = op' && atoms a b
  | .cast a t, .cast b t' => t = t' && atoms a b
  | .instanceOf a t, .instanceOf b t' => t = t' && atoms a b
  | .new a, .new b => a = b
  | .newArray t a, .newArray t' b => t = t' && atoms a b
  | .call a, .call b => calls a b
  | _, _ => false

/-- Two operands agree by the test for their form. -/
def Operand.agree (atoms : Atom → Atom → Bool) (references : Reference → Reference → Bool)
    (exprs : Expr → Expr → Bool) : Operand → Operand → Bool
  | .atom a, .atom b => atoms a b
  | .ref a, .ref b => references a b
  | .expr a, .expr b => exprs a b
  | _, _ => false

/-- Two targets agree by the test for their form. -/
def Target.agree (locals : Local → Local → Bool) (places : Place → Place → Bool) :
    Target → Target → Bool
  | .loc a, .loc b => locals a b
  | .place a, .place b => places a b
  | _, _ => false

/-! ## Comparators -/

/-- A test for every kind of node. The tests for instructions take the parts of the left one and the
whole statement on the right; statements of different kinds never agree by default. -/
structure Comparator where
  locals : Local → Local → Bool := fun a b => a = b
  constants : Constant → Constant → Bool := fun a b => a = b
  atoms : Atom → Atom → Bool := Atom.agree locals constants
  places : Place → Place → Bool := Place.agree locals atoms
  incomings : Incoming → Incoming → Bool := fun a b => a = b
  references : Reference → Reference → Bool := Reference.agree places incomings
  binaries : Binary → Binary → Bool := Binary.agree atoms
  calls : Call → Call → Bool := Call.agree locals atoms
  exprs : Expr → Expr → Bool := Expr.agree atoms binaries calls
  operands : Operand → Operand → Bool := Operand.agree atoms references exprs
  targets : Target → Target → Bool := Target.agree locals places
  nop : Stmt → Bool := fun
    | ⟨.nop, _⟩ => true
    | _ => false
  assign : Assignment → Stmt → Bool := fun
    | a, ⟨.assign b, _⟩ => targets a.target b.target && operands a.source b.source
    | _, _ => false
  bind : Binding → Stmt → Bool := fun
    | a, ⟨.bind b, _⟩ => locals a.target b.target && incomings a.source b.source
    | _, _ => false
  call : Call → Stmt → Bool := fun
    | a, ⟨.call b, _⟩ => calls a b
    | _, _ => false
  ret : Atom → Stmt → Bool := fun
    | a, ⟨.ret b, _⟩ => atoms a b
    | _, _ => false
  retVoid : Stmt → Bool := fun
    | ⟨.retVoid, _⟩ => true
    | _ => false
  raise : Atom → Stmt → Bool := fun
    | a, ⟨.raise b, _⟩ => atoms a b
    | _, _ => false
  goto : Stmt → Bool := fun
    | ⟨.goto, _⟩ => true
    | _ => false
  branch : Binary → Stmt → Bool := fun
    | a, ⟨.branch b, _⟩ => binaries a b
    | _, _ => false

namespace Comparator

/-- Every default in place. -/
def structural : Comparator := {}

/-- Tests for the leaves only. -/
def ofLeaves (locals : Local → Local → Bool) (constants : Constant → Constant → Bool) :
    Comparator := { locals, constants }

/-- Locals of the same type agree, whatever their names. -/
def byLocalType : Comparator := { locals := fun a b => a.ty = b.ty }

/-- The kinds of nodes. -/
inductive Hook where
  | nop | assign | bind | call | ret | retVoid | raise | goto | branch
  | locals | constants | atoms | places | incomings | references | binaries | calls | exprs
  | operands | targets
deriving DecidableEq

/-- Every kind of node: statements first, then their parts. -/
def Hook.all : List Hook :=
  [nop, assign, bind, call, ret, retVoid, raise, goto, branch, locals, constants, atoms, places,
    incomings, references, binaries, calls, exprs, operands, targets]

/-- The comparator that answers the same for all nodes of one kind. -/
def constantly (answer : Bool) : Hook → Comparator
  | .nop => { nop := fun _ => answer }
  | .assign => { assign := fun _ _ => answer }
  | .bind => { bind := fun _ _ => answer }
  | .call => { call := fun _ _ => answer }
  | .ret => { ret := fun _ _ => answer }
  | .retVoid => { retVoid := fun _ => answer }
  | .raise => { raise := fun _ _ => answer }
  | .goto => { goto := fun _ => answer }
  | .branch => { branch := fun _ _ => answer }
  | .locals => { locals := fun _ _ => answer }
  | .constants => { constants := fun _ _ => answer }
  | .atoms => { atoms := fun _ _ => answer }
  | .places => { places := fun _ _ => answer }
  | .incomings => { incomings := fun _ _ => answer }
  | .references => { references := fun _ _ => answer }
  | .binaries => { binaries := fun _ _ => answer }
  | .calls => { calls := fun _ _ => answer }
  | .exprs => { exprs := fun _ _ => answer }
  | .operands => { operands := fun _ _ => answer }
  | .targets => { targets := fun _ _ => answer }

end Comparator

namespace Stmt

/-- Whether two statements agree. The kind of the left one selects the test. -/
def agrees (c : Comparator) (a b : Stmt) : Bool :=
  match a.instr with
  | .nop => c.nop b
  | .assign x => c.assign x b
  | .bind x => c.bind x b
  | .call x => c.call x b
  | .ret x => c.ret x b
  | .retVoid => c.retVoid b
  | .raise x => c.raise x b
  | .goto => c.goto b
  | .branch x => c.branch x b

/-- The kinds of nodes on which the outcome of a structural comparison hangs: answering for them the
opposite of the outcome gives the opposite outcome. -/
def decisive (a b : Stmt) : List Comparator.Hook :=
  let outcome := a.agrees .structural b
  Comparator.Hook.all.filter fun hook => a.agrees (.constantly (!outcome) hook) b != outcome

end Stmt

end Devirt
