import Devirt.IR.IllFormed

/-!
# Construction and edits of statements

Assignments, bindings, calls and branches have a checked constructor each. An edit replaces one part
of a statement or operand and gives a new one; where the part takes part in a rule, the rule is
checked again. An edit of a part that is not there changes nothing.
-/

namespace Devirt

/-! ## Checked constructors -/

/-- An assignment. Values received on entry may only be named by a binding. -/
def Assignment.make (target : Target) (source : Operand) : Except IllFormed Assignment :=
  if source.isIncoming then .error (.incomingAssigned source) else .ok ⟨target, source⟩

/-- A binding, whose source must be a value received on entry. -/
def Binding.make (target : Local) : Operand → Except IllFormed Binding
  | .ref (.incoming i) => .ok ⟨target, i⟩
  | source => .error (.incomingExpected source)

/-- A call, which has a receiver exactly if its kind asks for one. -/
def Call.make (kind : CallKind) (receiver : Option Local) (method : MethodSignature)
    (arguments : List Atom) : Except IllFormed Call :=
  match kind.hasReceiver, receiver.isSome with
  | true, false => .error (.receiverMissing kind method)
  | false, true => .error (.receiverForbidden kind method)
  | _, _ => .ok ⟨kind, receiver, method, arguments⟩

def Call.virtual (receiver : Local) (method : MethodSignature) (arguments : List Atom) : Call :=
  ⟨.virtual, some receiver, method, arguments⟩

def Call.interface (receiver : Local) (method : MethodSignature) (arguments : List Atom) : Call :=
  ⟨.interface, some receiver, method, arguments⟩

/-- A call of a constructor, of a private method or of a method of a superclass. -/
def Call.special (receiver : Local) (method : MethodSignature) (arguments : List Atom) : Call :=
  ⟨.special, some receiver, method, arguments⟩

def Call.static (method : MethodSignature) (arguments : List Atom) : Call :=
  ⟨.static, none, method, arguments⟩

/-- A conditional jump, whose operator must be a condition. -/
def Instruction.branchOn (condition : Binary) : Except IllFormed Instruction :=
  if condition.op.isCondition then .ok (.branch condition)
  else .error (.conditionExpected condition)

def Stmt.assign (target : Target) (source : Operand) (position : Position) :
    Except IllFormed Stmt :=
  (Assignment.make target source).map fun a => ⟨.assign a, position⟩

def Stmt.bind (target : Local) (source : Operand) (position : Position) : Except IllFormed Stmt :=
  (Binding.make target source).map fun b => ⟨.bind b, position⟩

def Stmt.branch (condition : Binary) (position : Position) : Except IllFormed Stmt :=
  (Instruction.branchOn condition).map fun i => ⟨i, position⟩

/-! ## Well-formed statements -/

/-- A call has a receiver exactly if its kind asks for one. -/
def Call.WellFormed (c : Call) : Prop := c.receiver.isSome = c.kind.hasReceiver

/-- Every call in an operand is well-formed. -/
def Operand.WellFormed (v : Operand) : Prop := ∀ c ∈ v.call?, c.WellFormed

/-- What holds of every instruction that the checked constructors make. A binding cannot break a
rule: its type admits nothing but values received on entry. -/
def Instruction.WellFormed : Instruction → Prop
  | .assign a => a.source.isIncoming = false ∧ a.source.WellFormed
  | .call c => c.WellFormed
  | .branch condition => condition.op.isCondition = true
  | _ => True

/-! ## Edits of operands -/

/-- One replaced part of an operand. -/
inductive OperandEdit where
  | name (name : String)
  | ty (t : Ty)
  | base (l : Local)
  | index (a : Atom)
  | method (m : MethodSignature)
  | arguments (as : List Atom)

/-- The place with another base, if it has a base. -/
def Place.withBase (base : Local) : Place → Place
  | staticField field => staticField field
  | instanceField _ field => instanceField base field
  | element _ index => element base index

def Operand.edit : OperandEdit → Operand → Operand
  | .name name, .atom (.loc l) => .atom (.loc { l with name })
  | .ty t, .atom (.loc l) => .atom (.loc { l with ty := t })
  | .base base, .ref (.place p) => .ref (.place (p.withBase base))
  | .index index, .ref (.place (.element base _)) => .ref (.place (.element base index))
  | .method method, .expr (.call c) => .expr (.call { c with method })
  | .arguments arguments, .expr (.call c) => .expr (.call { c with arguments })
  | _, v => v

/-! ## Edits of statements -/

/-- The target with another local: the target itself, or the base of the place. A static field has
no local and stays as it is. -/
def Target.redefine (l : Local) : Target → Target
  | .loc _ => .loc l
  | .place p => .place (p.withBase l)

namespace Assignment

def withTarget (a : Assignment) (target : Target) : Assignment := { a with target }

def withSource (a : Assignment) (source : Operand) : Except IllFormed Assignment :=
  make a.target source

/-- The assignment with the local of its target replaced. -/
def redefine (a : Assignment) (l : Local) : Assignment := a.withTarget (a.target.redefine l)

end Assignment

/-- One replaced part of a statement. -/
inductive Edit where
  | position (p : Position)
  /-- The target of an assignment. -/
  | target (t : Target)
  /-- The source of an assignment. -/
  | source (v : Operand)
  /-- The local of an assignment's target. -/
  | redefine (l : Local)
  /-- The target of a binding. -/
  | bind (l : Local)
  /-- The call of a call statement. -/
  | call (c : Call)
  /-- The value that is returned or thrown. -/
  | value (a : Atom)
  | condition (b : Binary)

namespace Stmt

def withPosition (s : Stmt) (position : Position) : Stmt := { s with position }

def edit (s : Stmt) : Edit → Except IllFormed Stmt
  | .position p => .ok (s.withPosition p)
  | .target t =>
    match s.instr with
    | .assign a => .ok { s with instr := .assign (a.withTarget t) }
    | _ => .ok s
  | .source v =>
    match s.instr with
    | .assign a => (a.withSource v).map fun a => { s with instr := .assign a }
    | _ => .ok s
  | .redefine l =>
    match s.instr with
    | .assign a => .ok { s with instr := .assign (a.redefine l) }
    | _ => .ok s
  | .bind l =>
    match s.instr with
    | .bind b => .ok { s with instr := .bind { b with target := l } }
    | _ => .ok s
  | .call c =>
    match s.instr with
    | .call _ => .ok { s with instr := .call c }
    | _ => .ok s
  | .value v =>
    match s.instr with
    | .ret _ => .ok { s with instr := .ret v }
    | .raise _ => .ok { s with instr := .raise v }
    | _ => .ok s
  | .condition b =>
    match s.instr with
    | .branch _ => (Instruction.branchOn b).map fun i => { s with instr := i }
    | _ => .ok s

end Stmt

end Devirt
