import Devirt.IR.DefUse
import Devirt.Proofs.IR.Comparison

/-!
# Definitions and uses

What an instruction defines and what it uses are, one after the other, the locals that occur in it, and
that is also the order in which they are written out. So statements that differ in nothing but their
locals agree just if they define and use the same ones.
-/

namespace Devirt

open HasLeaves

/-! ## The locals of operands -/

theorem Atom.locals_eq (a : Atom) : locals a = a.local?.toList := by
  cases a <;> rfl

theorem Place.locals_eq (p : Place) : HasLeaves.locals p = p.locals := by
  cases p with
  | staticField field => rfl
  | instanceField base field => rfl
  | element base index => exact congrArg (base :: ·) index.locals_eq

theorem Binary.locals_eq (b : Binary) : HasLeaves.locals b = b.locals := by
  obtain ⟨op, left, right⟩ := b
  cases left <;> cases right <;> rfl

theorem Call.locals_eq (c : Call) : HasLeaves.locals c = c.locals := by
  calc HasLeaves.locals c
    _ = (c.receiver.toList.map Atom.loc).filterMap Atom.local? ++
        c.arguments.filterMap Atom.local? := List.filterMap_append
    _ = c.locals := by rw [List.filterMap_map, Call.locals]; cases c.receiver <;> rfl

theorem Expr.locals_eq (e : Expr) : HasLeaves.locals e = e.locals := by
  cases e with
  | binary b => exact b.locals_eq
  | unary op operand => exact operand.locals_eq
  | cast operand t => exact operand.locals_eq
  | instanceOf operand t => exact operand.locals_eq
  | new owner => rfl
  | newArray element size => exact size.locals_eq
  | call c => exact c.locals_eq

theorem Operand.locals_eq (v : Operand) : HasLeaves.locals v = v.locals := by
  cases v with
  | atom a => exact a.locals_eq
  | ref r =>
      cases r with
      | place p => exact p.locals_eq
      | incoming i => rfl
  | expr e => exact e.locals_eq

theorem Target.locals_eq (t : Target) : HasLeaves.locals t = t.local?.toList ++ t.locals := by
  cases t with
  | loc l => rfl
  | place p => exact p.locals_eq

/-- Nothing that occurs is left out, nothing is named twice, and the local that is written comes
first. -/
theorem Instruction.locals_eq (i : Instruction) :
    HasLeaves.locals i = i.defined?.toList ++ i.used := by
  cases i with
  | assign a =>
      calc HasLeaves.locals (Instruction.assign a)
        _ = HasLeaves.locals a.target ++ HasLeaves.locals a.source := List.filterMap_append
        _ = a.target.local?.toList ++ (a.target.locals ++ a.source.locals) := by
          rw [Target.locals_eq, Operand.locals_eq, List.append_assoc]
  | bind b => rfl
  | call c => exact c.locals_eq
  | ret value => exact value.locals_eq
  | raise value => exact value.locals_eq
  | branch condition => exact condition.locals_eq
  | nop | retVoid | goto => rfl

/-! ## The order of writing -/

def Fragment.local? : Fragment → Option Local
  | loc l => some l
  | _ => none

/-- The locals of a sequence of fragments, from left to right. -/
def Fragment.locals (fs : List Fragment) : List Local := fs.filterMap local?

namespace Fragment

@[simp] theorem locals_nil : locals [] = [] := rfl

@[simp] theorem locals_append (fs gs : List Fragment) : locals (fs ++ gs) = locals fs ++ locals gs :=
  List.filterMap_append

@[simp] theorem locals_loc (l : Local) (fs : List Fragment) : locals (.loc l :: fs) = l :: locals fs :=
  rfl

@[simp] theorem locals_literal (s : String) (fs : List Fragment) :
    locals (.literal s :: fs) = locals fs := rfl

@[simp] theorem locals_type (t : Ty) (fs : List Fragment) : locals (.type t :: fs) = locals fs := rfl

@[simp] theorem locals_method (m : MethodSignature) (fs : List Fragment) :
    locals (.method m :: fs) = locals fs := rfl

@[simp] theorem locals_field (f : FieldSignature) (fs : List Fragment) :
    locals (.field f :: fs) = locals fs := rfl

/-- What is written between the items of a sequence adds no local. -/
theorem locals_intercalate {separator : List Fragment} (h : locals separator = [])
    (items : List (List Fragment)) :
    locals (separator.intercalate items) = items.flatMap locals := by
  induction items with
  | nil => rfl
  | cons item items ih =>
      cases items with
      | nil => simp
      | cons next rest =>
          rw [List.intercalate_cons_cons, locals_append, locals_append, h, List.append_nil, ih]
          rfl

end Fragment

theorem Atom.locals_fragments (a : Atom) : Fragment.locals a.fragments = a.local?.toList := by
  cases a <;> rfl

theorem Place.locals_fragments (p : Place) : Fragment.locals p.fragments = p.locals := by
  cases p <;> simp [Place.fragments, Place.locals, Atom.locals_fragments]

theorem Binary.locals_fragments (b : Binary) : Fragment.locals b.fragments = b.locals := by
  simp [Binary.fragments, Binary.locals, Atom.locals_fragments]

theorem Call.locals_fragments (c : Call) : Fragment.locals c.fragments = c.locals := by
  obtain ⟨kind, receiver, method, arguments⟩ := c
  have harguments : (arguments.map Atom.fragments).flatMap Fragment.locals =
      arguments.filterMap Atom.local? := by
    rw [List.flatMap_map, funext Atom.locals_fragments, List.filterMap_eq_flatMap_toList]
  have hcommas : Fragment.locals ([.literal ", "].intercalate (arguments.map Atom.fragments)) =
      arguments.filterMap Atom.local? := (Fragment.locals_intercalate rfl _).trans harguments
  cases receiver <;> simp [Call.fragments, Call.locals, hcommas]

theorem Expr.locals_fragments (e : Expr) : Fragment.locals e.fragments = e.locals := by
  cases e with
  | binary b => exact b.locals_fragments
  | unary op operand => cases op <;> exact operand.locals_fragments
  | call c => exact c.locals_fragments
  | _ => simp [Expr.fragments, Expr.locals, Atom.locals_fragments]

theorem Operand.locals_fragments (v : Operand) : Fragment.locals v.fragments = v.locals := by
  cases v with
  | atom a => exact a.locals_fragments
  | ref r =>
      cases r with
      | place p => exact p.locals_fragments
      | incoming i => cases i <;> rfl
  | expr e => exact e.locals_fragments

theorem Target.locals_fragments (t : Target) :
    Fragment.locals t.fragments = t.local?.toList ++ t.locals := by
  cases t with
  | loc l => rfl
  | place p => exact p.locals_fragments

theorem Instruction.locals_fragments (i : Instruction) :
    Fragment.locals i.fragments = i.defined?.toList ++ i.used := by
  cases i with
  | assign a =>
      simp [Instruction.fragments, Instruction.defined?, Instruction.used, Target.locals_fragments,
        Operand.locals_fragments]
  | bind b => obtain ⟨target, source⟩ := b; cases source <;> rfl
  | call c => exact c.locals_fragments
  | ret value => exact value.locals_fragments
  | raise value => exact value.locals_fragments
  | branch condition => exact condition.locals_fragments
  | nop | retVoid | goto => rfl

/-! ## Statements that differ in nothing but their locals -/

/-- The node with every local replaced by one marker. -/
def HasLeaves.anonymous {α : Type} [HasLeaves α] (marker : Local) (a : α) : α :=
  mapLeaves (fun _ => marker) id a

theorem Atom.eq_of_map_eq (marker : Local) {as bs : List Atom}
    (hmap : as.map (Atom.map (fun _ => marker) id) = bs.map (Atom.map (fun _ => marker) id))
    (hlocals : as.filterMap local? = bs.filterMap local?) : as = bs := by
  induction as generalizing bs with
  | nil => exact (List.map_eq_nil_iff.mp hmap.symm).symm
  | cons a as ih =>
      obtain ⟨b, bs, rfl, hab, hrest⟩ := List.map_eq_cons_iff.mp hmap.symm
      -- markers stand where locals stood, so each step takes a local from both lists or from neither
      cases a with
      | loc l =>
          cases b with
          | loc m =>
              obtain ⟨rfl, hothers⟩ := List.cons.inj hlocals
              exact congrArg (loc l :: ·) (ih hrest.symm hothers)
          | lit d => cases hab
      | lit c =>
          cases b with
          | loc m => cases hab
          | lit d =>
              obtain rfl : d = c := Atom.lit.inj hab
              exact congrArg (lit d :: ·) (ih hrest.symm hlocals)

/-- A node is determined by its locals and by what is left when they are replaced. -/
theorem HasLeaves.eq_of_locals {α : Type} [HasLeaves α] {marker : Local} {a b : α}
    (hanonymous : anonymous marker a = anonymous marker b) (hlocals : locals a = locals b) :
    a = b := by
  refine eq_of_leaves _ _ a b hanonymous (Atom.eq_of_map_eq marker ?_ hlocals)
  calc (leaves a).map (Atom.map (fun _ => marker) id)
    _ = leaves (anonymous marker a) := (leaves_mapLeaves ..).symm
    _ = leaves (anonymous marker b) := congrArg leaves hanonymous
    _ = (leaves b).map (Atom.map (fun _ => marker) id) := leaves_mapLeaves ..

theorem Instruction.defined?_eq_some_iff {i : Instruction} {l : Local} :
    i.defined? = some l ↔
      (∃ source, i = .assign ⟨.loc l, source⟩) ∨ ∃ source, i = .bind ⟨l, source⟩ := by
  constructor
  · intro h
    cases i with
    | assign a =>
        obtain ⟨target, source⟩ := a
        cases target with
        | loc m =>
            obtain rfl : m = l := Option.some.inj h
            exact Or.inl ⟨source, rfl⟩
        | place p => cases h
    | bind b =>
        obtain rfl : b.target = l := Option.some.inj h
        exact Or.inr ⟨b.source, rfl⟩
    | _ => cases h
  · rintro (⟨source, rfl⟩ | ⟨source, rfl⟩) <;> rfl

/-- What an instruction defines and what it uses are all its locals, once for each occurrence and in the
order of its operands, from left to right as it is written. Defined is nothing but the target of an
assignment or of a binding. Statements that differ only in locals and positions agree just if they
define and use the same locals. -/
theorem Stmt.defined_used_complete :
    (∀ i : Instruction, i.defined?.toList ++ i.used = locals i) ∧
    (∀ i : Instruction, i.defined?.toList ++ i.used = Fragment.locals i.fragments) ∧
    (∀ (i : Instruction) (l : Local), i.defined? = some l ↔
      (∃ source, i = .assign ⟨.loc l, source⟩) ∨ ∃ source, i = .bind ⟨l, source⟩) ∧
    ∀ (marker : Local) (a b : Stmt), anonymous marker a.instr = anonymous marker b.instr →
      (a.agrees .structural b ↔
        a.instr.defined? = b.instr.defined? ∧ a.instr.used = b.instr.used) := by
  refine ⟨fun i => i.locals_eq.symm, fun i => i.locals_fragments.symm,
    fun i l => Instruction.defined?_eq_some_iff, fun marker a b hanonymous => ?_⟩
  rw [agrees_structural_iff_eq]
  constructor
  · intro h
    rw [h]
    exact ⟨rfl, rfl⟩
  · rintro ⟨hdefined, hused⟩
    refine eq_of_locals hanonymous ?_
    rw [Instruction.locals_eq, Instruction.locals_eq, hdefined, hused]

/-- Storing an element into its own array uses the array twice, first as the base of the target. -/
theorem Stmt.defined_used_complete_element :
    let r : Local := ⟨"r", .array .unknown⟩
    let i : Local := ⟨"i", .primitive .int⟩
    let j : Local := ⟨"j", .primitive .int⟩
    let store (index : Local) : Stmt :=
      ⟨.assign ⟨.place (.element r (.loc index)), .atom (.loc r)⟩, .none⟩
    (store i).instr.defined? = none ∧ (store i).instr.used = [r, i, r] ∧
      ¬ (store i).agrees .structural (store j) := by
  intro r i j store
  obtain ⟨hall, -, -, hagree⟩ := defined_used_complete
  have hdefined : (store i).instr.defined? = none := rfl
  have hused : (store i).instr.used = [r, i, r] := by
    have h := hall (store i).instr
    rwa [hdefined] at h
  refine ⟨hdefined, hused, fun h => ?_⟩
  exact absurd ((hagree r (store i) (store j) rfl).mp h).2 (by decide)

end Devirt
