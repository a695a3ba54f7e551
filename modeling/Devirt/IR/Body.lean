import Devirt.IR.Statement

/-!
# Method bodies

The statements of a body are held by handles, which are told apart by identity: equal statements at
two places of a body have two handles. Replacing a statement looks its handle up by identity and
issues a new handle, so bodies that share the old one are not touched.
-/

namespace Devirt

/-- A statement with an identity. -/
structure Handle where
  id : Nat
  stmt : Stmt

namespace Handle

/-- Whether two handles have the same identity. -/
def same (a b : Handle) : Bool := a.id = b.id

def distinct (handles : List Handle) : Nat := (handles.map id).eraseDups.length

end Handle

/-- The identities that have not been issued: all from `next` on. -/
structure Supply where
  next : Nat

namespace Supply

def initial : Supply := ⟨0⟩

def issue (supply : Supply) (stmt : Stmt) : Handle × Supply :=
  (⟨supply.next, stmt⟩, ⟨supply.next + 1⟩)

/-- Handles for some statements, each with a new identity. -/
def issueAll (supply : Supply) : List Stmt → List Handle × Supply
  | [] => ([], supply)
  | stmt :: rest =>
    let (handle, supply) := supply.issue stmt
    let (handles, supply) := supply.issueAll rest
    (handle :: handles, supply)

end Supply

/-- The statements of one method, in program order. -/
structure Body where
  method : MethodSignature
  locals : List Local
  stmts : List Handle

namespace Body

/-- The body with these statements, each under a new handle. -/
def ofStmts (supply : Supply) (method : MethodSignature) (locals : List Local)
    (stmts : List Stmt) : Body × Supply :=
  let (handles, supply) := supply.issueAll stmts
  (⟨method, locals, handles⟩, supply)

def indexOf? (b : Body) (h : Handle) : Option Nat := b.stmts.findIdx? h.same

/-- Puts a new statement in the place of a handle and gives the handle that was there, or nothing if
the handle is not in the body. -/
def replace? (b : Body) (old : Handle) (new : Stmt) (supply : Supply) :
    Option (Handle × Body × Supply) := do
  let i ← b.indexOf? old
  let removed ← b.stmts[i]?
  let (handle, supply) := supply.issue new
  return (removed, { b with stmts := b.stmts.set i handle }, supply)

/-- Every statement that makes a call, with its call, in program order. -/
def callSites (b : Body) : List (Handle × Call) :=
  b.stmts.filterMap fun h => h.stmt.instr.call?.map fun c => (h, c)

/-- How a body is written: a heading, the locals, an empty line, and the statements. -/
def fragments (b : Body) : List Fragment :=
  [.method b.method, .literal " \x7b", .lineBreak] ++
    (b.locals.flatMap fun l =>
      [.literal "    ", .type l.ty, .literal " ", .loc l, .literal ";", .lineBreak]) ++
    (if b.locals.isEmpty || b.stmts.isEmpty then [] else [.lineBreak]) ++
    (b.stmts.flatMap fun h =>
      [.literal "    "] ++ h.stmt.instr.fragments ++ [.literal ";", .lineBreak]) ++
    [.literal "\x7d"]

def render (style : Fragment → String) (b : Body) : String := Fragment.render style b.fragments

end Body

end Devirt
