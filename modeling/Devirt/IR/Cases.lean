import Devirt.IR.Statement

/-!
# Case analysis with a fallback

An analysis that cares about a few forms only names those and leaves the rest to a fallback, which
receives the whole node.
-/

namespace Devirt

/-- What to do with each kind of statement. -/
structure StmtCases (ρ : Type) where
  otherwise : Stmt → ρ
  nop : Position → ρ := fun p => otherwise ⟨.nop, p⟩
  assign : Assignment → Position → ρ := fun a p => otherwise ⟨.assign a, p⟩
  bind : Binding → Position → ρ := fun b p => otherwise ⟨.bind b, p⟩
  call : Call → Position → ρ := fun c p => otherwise ⟨.call c, p⟩
  ret : Atom → Position → ρ := fun a p => otherwise ⟨.ret a, p⟩
  retVoid : Position → ρ := fun p => otherwise ⟨.retVoid, p⟩
  raise : Atom → Position → ρ := fun a p => otherwise ⟨.raise a, p⟩
  goto : Position → ρ := fun p => otherwise ⟨.goto, p⟩
  branch : Binary → Position → ρ := fun b p => otherwise ⟨.branch b, p⟩

/-- Runs the case for the kind of a statement. -/
def Stmt.byCases {ρ : Type} (c : StmtCases ρ) : Stmt → ρ
  | ⟨.nop, p⟩ => c.nop p
  | ⟨.assign a, p⟩ => c.assign a p
  | ⟨.bind b, p⟩ => c.bind b p
  | ⟨.call k, p⟩ => c.call k p
  | ⟨.ret a, p⟩ => c.ret a p
  | ⟨.retVoid, p⟩ => c.retVoid p
  | ⟨.raise a, p⟩ => c.raise a p
  | ⟨.goto, p⟩ => c.goto p
  | ⟨.branch b, p⟩ => c.branch b p

/-- What to do with each form of reference. -/
structure ReferenceCases (ρ : Type) where
  otherwise : Reference → ρ
  staticField : FieldSignature → ρ := fun f => otherwise (.place (.staticField f))
  instanceField : Local → FieldSignature → ρ := fun b f => otherwise (.place (.instanceField b f))
  element : Local → Atom → ρ := fun b i => otherwise (.place (.element b i))
  receiver : ClassName → ρ := fun c => otherwise (.incoming (.receiver c))
  parameter : UInt32 → Ty → ρ := fun i t => otherwise (.incoming (.parameter i t))
  caught : Ty → ρ := fun t => otherwise (.incoming (.caught t))

/-- Runs the case for the form of a reference. -/
def Reference.byCases {ρ : Type} (c : ReferenceCases ρ) : Reference → ρ
  | .place (.staticField f) => c.staticField f
  | .place (.instanceField b f) => c.instanceField b f
  | .place (.element b i) => c.element b i
  | .incoming (.receiver k) => c.receiver k
  | .incoming (.parameter i t) => c.parameter i t
  | .incoming (.caught t) => c.caught t

/-- What to do with each form of expression. -/
structure ExprCases (ρ : Type) where
  otherwise : Expr → ρ
  binary : Binary → ρ := fun b => otherwise (.binary b)
  unary : UnaryOp → Atom → ρ := fun op a => otherwise (.unary op a)
  cast : Atom → Ty → ρ := fun a t => otherwise (.cast a t)
  instanceOf : Atom → Ty → ρ := fun a t => otherwise (.instanceOf a t)
  new : ClassName → ρ := fun c => otherwise (.new c)
  newArray : Ty → Atom → ρ := fun t a => otherwise (.newArray t a)
  call : Call → ρ := fun c => otherwise (.call c)

/-- Runs the case for the form of an expression. -/
def Expr.byCases {ρ : Type} (c : ExprCases ρ) : Expr → ρ
  | .binary b => c.binary b
  | .unary op a => c.unary op a
  | .cast a t => c.cast a t
  | .instanceOf a t => c.instanceOf a t
  | .new k => c.new k
  | .newArray t a => c.newArray t a
  | .call k => c.call k

/-- What to do with each kind of literal. -/
structure ConstantCases (ρ : Type) where
  otherwise : Constant → ρ
  boolean : Bool → ρ := fun v => otherwise (.boolean v)
  int : Int32 → ρ := fun v => otherwise (.int v)
  long : Int64 → ρ := fun v => otherwise (.long v)
  float : UInt32 → ρ := fun v => otherwise (.float v)
  double : UInt64 → ρ := fun v => otherwise (.double v)
  string : String → ρ := fun v => otherwise (.string v)
  classOf : Ty → ρ := fun v => otherwise (.classOf v)
  null : ρ := otherwise .null

def Constant.byCases {ρ : Type} (c : ConstantCases ρ) : Constant → ρ
  | boolean v => c.boolean v
  | int v => c.int v
  | long v => c.long v
  | float v => c.float v
  | double v => c.double v
  | string v => c.string v
  | classOf v => c.classOf v
  | null => c.null

end Devirt
