import Devirt.IR.Statement

/-!
# Leaves and shapes

The leaves of an instruction are its locals and literals. Replacing them leaves everything else as it is,
so an instruction is determined by its leaves and by what is left when each of them is replaced by a
marker, its shape.
-/

namespace Devirt

namespace Atom

/-- The atom with its local or literal replaced. -/
def map (f : Local → Local) (g : Constant → Constant) : Atom → Atom
  | .loc l => .loc (f l)
  | .lit c => .lit (g c)

def constant? : Atom → Option Constant
  | .loc _ => none
  | .lit c => some c

@[simp] theorem local?_loc (l : Local) : (Atom.loc l).local? = some l := rfl

@[simp] theorem local?_lit (c : Constant) : (Atom.lit c).local? = none := rfl

@[simp] theorem constant?_loc (l : Local) : (Atom.loc l).constant? = none := rfl

@[simp] theorem constant?_lit (c : Constant) : (Atom.lit c).constant? = some c := rfl

end Atom

/-- Nodes with leaves, which can be replaced and are listed in the order of the operands. -/
class HasLeaves (α : Type) where
  mapLeaves : (Local → Local) → (Constant → Constant) → α → α
  leaves : α → List Atom
  leaves_mapLeaves : ∀ f g a, leaves (mapLeaves f g a) = (leaves a).map (Atom.map f g)
  /-- Nothing but the leaves is lost when they are replaced. -/
  eq_of_leaves : ∀ f g a b, mapLeaves f g a = mapLeaves f g b → leaves a = leaves b → a = b

namespace HasLeaves

variable {α : Type} [HasLeaves α]

/-- The node with every local replaced by one marker and every literal by another. -/
def shape (a : α) : α := mapLeaves (fun _ => ⟨"", .unknown⟩) (fun _ => .null) a

theorem length_leaves_of_mapLeaves_eq {f : Local → Local} {g : Constant → Constant} {a b : α}
    (h : mapLeaves f g a = mapLeaves f g b) : (leaves a).length = (leaves b).length := by
  rw [← List.length_map (Atom.map f g), ← leaves_mapLeaves, h, leaves_mapLeaves, List.length_map]

/-- The locals of a node, once for each occurrence. -/
def locals (a : α) : List Local := (leaves a).filterMap Atom.local?

/-- The literals of a node, once for each occurrence. -/
def constants (a : α) : List Constant := (leaves a).filterMap Atom.constant?

end HasLeaves

open HasLeaves

/-! ## Operands -/

instance : HasLeaves Atom where
  mapLeaves := Atom.map
  leaves a := [a]
  leaves_mapLeaves _ _ _ := rfl
  eq_of_leaves _ _ _ _ _ h := List.singleton_inj.mp h

def Place.mapLeaves (f : Local → Local) (g : Constant → Constant) : Place → Place
  | .staticField field => .staticField field
  | .instanceField base field => .instanceField (f base) field
  | .element base index => .element (f base) (index.map f g)

def Place.leaves : Place → List Atom
  | .staticField _ => []
  | .instanceField base _ => [.loc base]
  | .element base index => [.loc base, index]

instance : HasLeaves Place where
  mapLeaves := Place.mapLeaves
  leaves := Place.leaves
  leaves_mapLeaves f g p := by cases p <;> rfl
  eq_of_leaves f g p q hmap hleaves := by
    cases p <;> cases q <;> simp_all [Place.mapLeaves, Place.leaves]

instance : HasLeaves Reference where
  mapLeaves f g
    | .place p => .place (p.mapLeaves f g)
    | .incoming i => .incoming i
  leaves
    | .place p => p.leaves
    | .incoming _ => []
  leaves_mapLeaves f g r := by
    cases r with
    | place p => exact leaves_mapLeaves f g p
    | incoming i => rfl
  eq_of_leaves f g r s hmap hleaves := by
    cases r with
    | place p =>
        cases s with
        | place q => rw [eq_of_leaves f g p q (Reference.place.inj hmap) hleaves]
        | incoming j => cases hmap
    | incoming i =>
        cases s with
        | place q => cases hmap
        | incoming j => exact hmap

instance : HasLeaves Binary where
  mapLeaves f g b := ⟨b.op, b.left.map f g, b.right.map f g⟩
  leaves b := [b.left, b.right]
  leaves_mapLeaves _ _ _ := rfl
  eq_of_leaves f g a b hmap hleaves := by
    cases a
    cases b
    simp_all

instance : HasLeaves Call where
  mapLeaves f g c := ⟨c.kind, c.receiver.map f, c.method, c.arguments.map (Atom.map f g)⟩
  leaves c := c.receiver.toList.map Atom.loc ++ c.arguments
  leaves_mapLeaves f g c := by
    cases c.receiver <;> simp [Atom.map]
  eq_of_leaves f g a b hmap hleaves := by
    obtain ⟨kind, receiver, method, arguments⟩ := a
    obtain ⟨kind', receiver', method', arguments'⟩ := b
    simp only [Call.mk.injEq] at hmap
    obtain ⟨rfl, hreceiver, rfl, _⟩ := hmap
    -- A receiver is there in both calls or in neither, so the lists start with it alike.
    cases receiver <;> cases receiver' <;> simp_all

def Expr.mapLeaves (f : Local → Local) (g : Constant → Constant) : Expr → Expr
  | .binary b => .binary (HasLeaves.mapLeaves f g b)
  | .unary op operand => .unary op (operand.map f g)
  | .cast operand t => .cast (operand.map f g) t
  | .instanceOf operand t => .instanceOf (operand.map f g) t
  | .new owner => .new owner
  | .newArray element size => .newArray element (size.map f g)
  | .call c => .call (HasLeaves.mapLeaves f g c)

def Expr.leaves : Expr → List Atom
  | .binary b => HasLeaves.leaves b
  | .unary _ operand | .cast operand _ | .instanceOf operand _ => [operand]
  | .new _ => []
  | .newArray _ size => [size]
  | .call c => HasLeaves.leaves c

instance : HasLeaves Expr where
  mapLeaves := Expr.mapLeaves
  leaves := Expr.leaves
  leaves_mapLeaves f g e := by
    cases e with
    | binary b => exact leaves_mapLeaves f g b
    | call c => exact leaves_mapLeaves f g c
    | _ => rfl
  eq_of_leaves f g a b hmap hleaves := by
    cases a with
    | binary a =>
        cases b with
        | binary b => rw [eq_of_leaves f g a b (Expr.binary.inj hmap) hleaves]
        | _ => cases hmap
    | call a =>
        cases b with
        | call b => rw [eq_of_leaves f g a b (Expr.call.inj hmap) hleaves]
        | _ => cases hmap
    | _ => cases b <;> simp_all [Expr.mapLeaves, Expr.leaves]

instance : HasLeaves Operand where
  mapLeaves f g
    | .atom a => .atom (a.map f g)
    | .ref r => .ref (mapLeaves f g r)
    | .expr e => .expr (mapLeaves f g e)
  leaves
    | .atom a => [a]
    | .ref r => leaves r
    | .expr e => leaves e
  leaves_mapLeaves f g v := by
    cases v with
    | atom a => rfl
    | ref r => exact leaves_mapLeaves f g r
    | expr e => exact leaves_mapLeaves f g e
  eq_of_leaves f g v w hmap hleaves := by
    cases v with
    | atom a =>
        cases w with
        | atom b => rw [List.singleton_inj.mp hleaves]
        | _ => cases hmap
    | ref r =>
        cases w with
        | ref s => rw [eq_of_leaves f g r s (Operand.ref.inj hmap) hleaves]
        | _ => cases hmap
    | expr e =>
        cases w with
        | expr e' => rw [eq_of_leaves f g e e' (Operand.expr.inj hmap) hleaves]
        | _ => cases hmap

instance : HasLeaves Target where
  mapLeaves f g
    | .loc l => .loc (f l)
    | .place p => .place (mapLeaves f g p)
  leaves
    | .loc l => [.loc l]
    | .place p => leaves p
  leaves_mapLeaves f g t := by
    cases t with
    | loc l => rfl
    | place p => exact leaves_mapLeaves f g p
  eq_of_leaves f g t t' hmap hleaves := by
    cases t with
    | loc l =>
        cases t' with
        | loc l' => simpa using hleaves
        | place p => cases hmap
    | place p =>
        cases t' with
        | loc l => cases hmap
        | place q => rw [eq_of_leaves f g p q (Target.place.inj hmap) hleaves]

/-! ## Instructions -/

instance : HasLeaves Assignment where
  mapLeaves f g a := ⟨mapLeaves f g a.target, mapLeaves f g a.source⟩
  leaves a := leaves a.target ++ leaves a.source
  leaves_mapLeaves f g a := by
    rw [leaves_mapLeaves, leaves_mapLeaves, List.map_append]
  eq_of_leaves f g a b hmap hleaves := by
    obtain ⟨htarget, hsource⟩ := Assignment.mk.inj hmap
    obtain ⟨htargets, hsources⟩ :=
      List.append_inj hleaves (length_leaves_of_mapLeaves_eq htarget)
    have htarget : a.target = b.target := eq_of_leaves f g _ _ htarget htargets
    have hsource : a.source = b.source := eq_of_leaves f g _ _ hsource hsources
    cases a
    cases b
    rw [Assignment.mk.injEq]
    exact ⟨htarget, hsource⟩

def Instruction.mapLeaves (f : Local → Local) (g : Constant → Constant) :
    Instruction → Instruction
  | .nop => .nop
  | .assign a => .assign (HasLeaves.mapLeaves f g a)
  | .bind b => .bind ⟨f b.target, b.source⟩
  | .call c => .call (HasLeaves.mapLeaves f g c)
  | .ret value => .ret (value.map f g)
  | .retVoid => .retVoid
  | .raise value => .raise (value.map f g)
  | .goto => .goto
  | .branch condition => .branch (HasLeaves.mapLeaves f g condition)

def Instruction.leaves : Instruction → List Atom
  | .assign a => HasLeaves.leaves a
  | .bind b => [.loc b.target]
  | .call c => HasLeaves.leaves c
  | .ret value | .raise value => [value]
  | .branch condition => HasLeaves.leaves condition
  | .nop | .retVoid | .goto => []

instance : HasLeaves Instruction where
  mapLeaves := Instruction.mapLeaves
  leaves := Instruction.leaves
  leaves_mapLeaves f g i := by
    cases i with
    | assign a => exact leaves_mapLeaves f g a
    | call c => exact leaves_mapLeaves f g c
    | branch condition => exact leaves_mapLeaves f g condition
    | _ => rfl
  eq_of_leaves f g i j hmap hleaves := by
    cases i with
    | assign a =>
        cases j with
        | assign b => rw [eq_of_leaves f g a b (Instruction.assign.inj hmap) hleaves]
        | _ => cases hmap
    | bind a =>
        cases j with
        | bind b =>
            cases a
            cases b
            simp_all [Instruction.mapLeaves, Instruction.leaves]
        | _ => cases hmap
    | call c =>
        cases j with
        | call d => rw [eq_of_leaves f g c d (Instruction.call.inj hmap) hleaves]
        | _ => cases hmap
    | branch a =>
        cases j with
        | branch b => rw [eq_of_leaves f g a b (Instruction.branch.inj hmap) hleaves]
        | _ => cases hmap
    | _ => cases j <;> simp_all [Instruction.mapLeaves, Instruction.leaves]

end Devirt
