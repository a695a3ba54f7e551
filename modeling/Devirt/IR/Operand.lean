import Devirt.Signature

/-!
# Operands of statements

What a statement of three-address code reads and writes: atoms, memory places, the values a method
body receives on entry, and expressions over atoms. Expressions do not nest, so no type here is
recursive.
-/

namespace Devirt

/-- A typed variable of a method body. -/
structure Local where
  name : String
  ty : Ty
deriving DecidableEq, Hashable

/-- A literal. Floating-point literals are kept as bits, so that equality is equality of bits. -/
inductive Constant where
  | boolean (value : Bool)
  | int (value : Int32)
  | long (value : Int64)
  | float (bits : UInt32)
  | double (bits : UInt64)
  | string (value : String)
  /-- A class literal such as `String.class`. -/
  | classOf (value : Ty)
  | null
deriving DecidableEq, Hashable

/-- An operand that needs no evaluation. -/
inductive Atom where
  | loc (l : Local)
  | lit (c : Constant)
deriving DecidableEq, Hashable

/-- A place in memory, which can be read and written. -/
inductive Place where
  | staticField (field : FieldSignature)
  | instanceField (base : Local) (field : FieldSignature)
  | element (base : Local) (index : Atom)
deriving DecidableEq, Hashable

/-- A value that a method body receives on entry. -/
inductive Incoming where
  | receiver (owner : ClassName)
  | parameter (index : UInt32) (ty : Ty)
  | caught (ty : Ty)
deriving DecidableEq, Hashable

/-- Anything that is referred to rather than computed. -/
inductive Reference where
  | place (p : Place)
  | incoming (i : Incoming)
deriving DecidableEq, Hashable

/-- Operators on two atoms. -/
inductive BinaryOp where
  | add | sub | mul | div | rem
  | and | or | xor | shl | shr | ushr
  | cmp | cmpl | cmpg
  | eq | ne | lt | le | gt | ge
deriving DecidableEq, Hashable

/-- An operator applied to two atoms. -/
structure Binary where
  op : BinaryOp
  left : Atom
  right : Atom
deriving DecidableEq, Hashable

/-- Operators on one atom. -/
inductive UnaryOp where
  | neg | length
deriving DecidableEq, Hashable

/-- How a method is called. -/
inductive CallKind where
  | virtual | interface | special | static | dynamic
deriving DecidableEq, Hashable

/-- A call of a method on a receiver or on none. -/
structure Call where
  kind : CallKind
  receiver : Option Local
  method : MethodSignature
  arguments : List Atom
deriving DecidableEq, Hashable

/-- A computation over atoms. -/
inductive Expr where
  | binary (b : Binary)
  | unary (op : UnaryOp) (operand : Atom)
  | cast (operand : Atom) (ty : Ty)
  | instanceOf (operand : Atom) (ty : Ty)
  | new (owner : ClassName)
  | newArray (element : Ty) (size : Atom)
  | call (c : Call)
deriving DecidableEq, Hashable

/-- Anything a statement can read. -/
inductive Operand where
  | atom (a : Atom)
  | ref (r : Reference)
  | expr (e : Expr)
deriving DecidableEq, Hashable

/-- Anything a statement can write. -/
inductive Target where
  | loc (l : Local)
  | place (p : Place)
deriving DecidableEq, Hashable

namespace BinaryOp

def all : List BinaryOp :=
  [add, sub, mul, div, rem, and, or, xor, shl, shr, ushr, cmp, cmpl, cmpg, eq, ne, lt, le, gt, ge]

def symbol : BinaryOp → String
  | add => "+"
  | sub => "-"
  | mul => "*"
  | div => "/"
  | rem => "%"
  | and => "&"
  | or => "|"
  | xor => "^"
  | shl => "<<"
  | shr => ">>"
  | ushr => ">>>"
  | cmp => "cmp"
  | cmpl => "cmpl"
  | cmpg => "cmpg"
  | eq => "=="
  | ne => "!="
  | lt => "<"
  | le => "<="
  | gt => ">"
  | ge => ">="

def ofSymbol? (symbol : String) : Option BinaryOp := all.find? fun op => op.symbol = symbol

def isCondition : BinaryOp → Bool
  | eq | ne | lt | le | gt | ge => true
  | _ => false

/-- Whether the operator compares its operands, to a sign or to a truth value. -/
def isComparison : BinaryOp → Bool
  | cmp | cmpl | cmpg => true
  | op => op.isCondition

end BinaryOp

namespace CallKind

def keyword : CallKind → String
  | virtual => "virtualinvoke"
  | interface => "interfaceinvoke"
  | special => "specialinvoke"
  | static => "staticinvoke"
  | dynamic => "dynamicinvoke"

/-- Whether a call of this kind has a receiver. -/
def hasReceiver : CallKind → Bool
  | virtual | interface | special => true
  | static | dynamic => false

end CallKind

/-! ## Types of operands -/

def Constant.ty : Constant → Ty
  | boolean _ => .primitive .boolean
  | int _ => .primitive .int
  | long _ => .primitive .long
  | float _ => .primitive .float
  | double _ => .primitive .double
  | string _ => .ofName "java.lang.String"
  | classOf _ => .ofName "java.lang.Class"
  | null => .null

namespace Atom

def ty : Atom → Ty
  | loc l => l.ty
  | lit c => c.ty

def local? : Atom → Option Local
  | loc l => some l
  | lit _ => none

end Atom

namespace Place

/-- The type of what a place holds. An element of something that is no array has no known type. -/
def ty : Place → Ty
  | staticField field => field.ty
  | instanceField _ field => field.ty
  | element base _ => base.ty.element?.getD .unknown

def field? : Place → Option FieldSignature
  | staticField field | instanceField _ field => some field
  | element _ _ => none

def isField (p : Place) : Bool := p.field?.isSome

def isElement (p : Place) : Bool := p.field?.isNone

end Place

def Incoming.ty : Incoming → Ty
  | receiver owner => .named owner
  | parameter _ t => t
  | caught t => t

namespace Reference

def ty : Reference → Ty
  | place p => p.ty
  | incoming i => i.ty

/-- Whether the reference is to a value received on entry. -/
def isIncoming : Reference → Bool
  | place _ => false
  | incoming _ => true

end Reference

/-- Comparisons give an integer; other operators give the type of their left operand. -/
def Binary.ty (b : Binary) : Ty := if b.op.isComparison then .primitive .int else b.left.ty

def Expr.ty : Expr → Ty
  | binary b => b.ty
  | unary .neg operand => operand.ty
  | unary .length _ => .primitive .int
  | cast _ t => t
  | instanceOf _ _ => .primitive .boolean
  | new owner => .named owner
  | newArray element _ => .array element
  | call c => c.method.sub.result

namespace Operand

def ty : Operand → Ty
  | atom a => a.ty
  | ref r => r.ty
  | expr e => e.ty

def isAtom : Operand → Bool
  | atom _ => true
  | _ => false

def isExpr : Operand → Bool
  | expr _ => true
  | _ => false

/-- The place in memory, if the operand is one. -/
def place? : Operand → Option Place
  | ref (.place p) => some p
  | _ => none

/-- Whether the operand is a value received on entry. -/
def isIncoming : Operand → Bool
  | ref r => r.isIncoming
  | _ => false

def call? : Operand → Option Call
  | expr (.call c) => some c
  | _ => none

def element? (v : Operand) : Option Place := v.place?.filter Place.isElement

def field? (v : Operand) : Option Place := v.place?.filter Place.isField

end Operand

namespace Target

def ty : Target → Ty
  | loc l => l.ty
  | place p => p.ty

def local? : Target → Option Local
  | loc l => some l
  | place _ => none

/-- The place in memory, if the target is one. -/
def place? : Target → Option Place
  | loc _ => none
  | place p => some p

def element? (t : Target) : Option Place := t.place?.filter Place.isElement

def field? (t : Target) : Option Place := t.place?.filter Place.isField

/-- Reading what a target holds. -/
def toOperand : Target → Operand
  | loc l => .atom (.loc l)
  | place p => .ref (.place p)

end Target

end Devirt
