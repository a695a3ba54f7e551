import Devirt.IR.Operand
import Devirt.Decimal.Layout
import Devirt.Text.Quoted

/-!
# The written form of operands

Operands describe themselves as a sequence of typed fragments, and a style decides how each fragment
is spelled. `Fragment.plain` spells everything in full.
-/

namespace Devirt

namespace Constant

/-- Floating-point literals are positional from `0.0001` on and below `10 ^ 16`, with a point in
each. -/
def layout : Decimal.Layout := ⟨-4, 16, true⟩

/-- The written form of a literal. The suffixes `L` and `F` tell the sizes of numbers apart. -/
def text : Constant → String
  | boolean value => if value then "true" else "false"
  | int value => toString value.toInt
  | long value => toString value.toInt ++ "L"
  | float bits =>
    layout.renderNumber .binary32 (Decimal.BinaryFormat.binary32.decode bits.toNat) ++ "F"
  | double bits => layout.renderNumber .binary64 (Decimal.BinaryFormat.binary64.decode bits.toNat)
  | string value => Text.quoted value
  | classOf t => "class \"" ++ t.text ++ "\""
  | null => "null"

end Constant

/-- A piece of a written form. -/
inductive Fragment where
  | literal (s : String)
  | loc (l : Local)
  | lit (c : Constant)
  | type (t : Ty)
  | method (m : MethodSignature)
  | field (f : FieldSignature)
  | lineBreak
deriving DecidableEq

namespace Fragment

def plain : Fragment → String
  | literal s => s
  | loc l => l.name
  | lit c => c.text
  | type t => t.text
  | method m => m.text
  | field f => f.text
  | lineBreak => "\n"

/-- Class types by their simple name, and everything else in full. -/
def short : Fragment → String
  | type (.named c) => c.simple
  | f => f.plain

/-- The text of a sequence of fragments in a style. -/
def render (style : Fragment → String) (fs : List Fragment) : String := String.join (fs.map style)

end Fragment

def Atom.fragments : Atom → List Fragment
  | .loc l => [.loc l]
  | .lit c => [.lit c]

def Place.fragments : Place → List Fragment
  | staticField f => [.field f]
  | instanceField base f => [.loc base, .literal ".", .field f]
  | element base index => [.loc base, .literal "["] ++ index.fragments ++ [.literal "]"]

def Incoming.fragments : Incoming → List Fragment
  | receiver owner => [.literal "@this: ", .type (.named owner)]
  | parameter index t => [.literal ("@parameter" ++ toString index.toNat ++ ": "), .type t]
  | caught _ => [.literal "@caughtexception"]

def Reference.fragments : Reference → List Fragment
  | place p => p.fragments
  | incoming i => i.fragments

/-- How an operator between two atoms is written. -/
def Binary.fragments (b : Binary) : List Fragment :=
  b.left.fragments ++ [.literal " ", .literal b.op.symbol, .literal " "] ++ b.right.fragments

def Call.fragments (c : Call) : List Fragment :=
  [.literal c.kind.keyword, .literal " "] ++
    (match c.receiver with
      | some l => [.loc l, .literal "."]
      | none => []) ++
    [.method c.method, .literal "("] ++
    [.literal ", "].intercalate (c.arguments.map Atom.fragments) ++ [.literal ")"]

def Expr.fragments : Expr → List Fragment
  | binary b => b.fragments
  | unary .neg operand => .literal "neg " :: operand.fragments
  | unary .length operand => .literal "lengthof " :: operand.fragments
  | cast operand t => [.literal "(", .type t, .literal ") "] ++ operand.fragments
  | instanceOf operand t => operand.fragments ++ [.literal " instanceof ", .type t]
  | new owner => [.literal "new ", .type (.named owner)]
  | newArray element size =>
    [.literal "newarray (", .type element, .literal ")["] ++ size.fragments ++ [.literal "]"]
  | call c => c.fragments

def Operand.fragments : Operand → List Fragment
  | atom a => a.fragments
  | ref r => r.fragments
  | expr e => e.fragments

def Target.fragments : Target → List Fragment
  | loc l => [.loc l]
  | place p => p.fragments

/-! ## Texts in full -/

def Atom.text (a : Atom) : String := Fragment.render Fragment.plain a.fragments

def Place.text (p : Place) : String := Fragment.render Fragment.plain p.fragments

def Reference.text (r : Reference) : String := Fragment.render Fragment.plain r.fragments

/-- The text of an operator between two atoms. -/
def Binary.text (b : Binary) : String := Fragment.render Fragment.plain b.fragments

def Call.text (c : Call) : String := Fragment.render Fragment.plain c.fragments

def Expr.text (e : Expr) : String := Fragment.render Fragment.plain e.fragments

def Operand.text (v : Operand) : String := Fragment.render Fragment.plain v.fragments

def Target.text (t : Target) : String := Fragment.render Fragment.plain t.fragments

end Devirt
