import Devirt.IR.Construction
import Devirt.IR.DefUse
import Devirt.Proofs.IR.Comparison

/-!
# The local of a target

An assignment writes to a local or through one, the base of a place. The edit that replaces this local
changes that occurrence and no other, even where the same local is also an index or stands in the source.
-/

namespace Devirt

/-- The local that a place goes through. -/
def Place.base? : Place → Option Local
  | staticField _ => none
  | instanceField base _ | element base _ => some base

/-- What is written, apart from the local that it is or goes through. -/
inductive Slot where
  | loc
  | staticField (field : FieldSignature)
  | instanceField (field : FieldSignature)
  | element (index : Atom)

namespace Target

/-- The local that a target is or goes through. -/
def root? : Target → Option Local
  | loc l => some l
  | place p => p.base?

/-- The kind of a target, with the field or the index in it. -/
def slot : Target → Slot
  | loc _ => .loc
  | place (.staticField field) => .staticField field
  | place (.instanceField _ field) => .instanceField field
  | place (.element _ index) => .element index

/-- The local and the slot make up all of a target. -/
theorem eq_of_root?_slot {t t' : Target} (hroot : t.root? = t'.root?) (hslot : t.slot = t'.slot) :
    t = t' := by
  cases t with
  | loc l =>
      cases t' with
      | loc l' => exact congrArg loc (Option.some.inj hroot)
      | place p => cases p <;> cases hslot
  | place p =>
      cases t' with
      | loc l' => cases p <;> cases hslot
      | place q =>
          cases p <;> cases q <;> cases hslot <;> cases hroot <;> rfl

@[simp] theorem slot_redefine (t : Target) (l : Local) : (t.redefine l).slot = t.slot := by
  cases t with
  | loc m => rfl
  | place p => cases p <;> rfl

@[simp] theorem root?_redefine (t : Target) (l : Local) :
    (t.redefine l).root? = t.root?.map fun _ => l := by
  cases t with
  | loc m => rfl
  | place p => cases p <;> rfl

/-- A target stays as it is if it has no local, or if it has this one already. -/
theorem redefine_eq_self {t : Target} {l : Local} (h : t.root? = none ∨ t.root? = some l) :
    t.redefine l = t := by
  refine eq_of_root?_slot ?_ (slot_redefine t l)
  obtain h | h := h <;> rw [root?_redefine, h] <;> rfl

theorem redefine_redefine (t : Target) (l l' : Local) :
    (t.redefine l).redefine l' = t.redefine l' :=
  eq_of_root?_slot (by simp [Function.comp_def]) (by simp)

end Target

/-! ## Assignments -/

/-- `b` is `a` with `l` as the local of its target, and with nothing else changed. -/
structure Assignment.Redefined (a : Assignment) (l : Local) (b : Assignment) : Prop where
  source : b.source = a.source
  slot : b.target.slot = a.target.slot
  root : b.target.root? = a.target.root?.map fun _ => l

theorem Assignment.redefined_iff {a b : Assignment} {l : Local} :
    a.Redefined l b ↔ b = a.redefine l := by
  constructor
  · rintro ⟨hsource, hslot, hroot⟩
    obtain ⟨target, source⟩ := b
    obtain rfl : source = a.source := hsource
    obtain rfl : target = a.target.redefine l :=
      Target.eq_of_root?_slot (by rw [hroot, Target.root?_redefine])
        (by rw [hslot, Target.slot_redefine])
    rfl
  · rintro rfl
    exact ⟨rfl, Target.slot_redefine a.target l, Target.root?_redefine a.target l⟩

theorem Assignment.redefine_eq_self {a : Assignment} {l : Local}
    (h : a.target.root? = none ∨ a.target.root? = some l) : a.redefine l = a := by
  rw [redefine, withTarget, Target.redefine_eq_self h]

theorem Assignment.redefine_redefine (a : Assignment) (l l' : Local) :
    (a.redefine l).redefine l' = a.redefine l' :=
  congrArg a.withTarget (a.target.redefine_redefine l l')

/-- The base is the first local of a place, and the others do not depend on it. -/
theorem Place.exists_locals {p : Place} {base : Local} (h : p.base? = some base) :
    ∃ rest, p.locals = base :: rest ∧ ∀ l, (p.withBase l).locals = l :: rest := by
  cases p with
  | staticField field => cases h
  | instanceField b field =>
      obtain rfl : b = base := Option.some.inj h
      exact ⟨[], rfl, fun l => rfl⟩
  | element b index =>
      obtain rfl : b = base := Option.some.inj h
      exact ⟨index.local?.toList, rfl, fun l => rfl⟩

/-- The new source is all that is checked when the source is replaced. -/
theorem Assignment.withSource_redefine (a : Assignment) (l : Local) (v : Operand) :
    (a.redefine l).withSource v = (a.withSource v).map (·.redefine l) := by
  rw [withSource, withSource, make, make]
  split <;> rfl

/-! ## Statements -/

namespace Stmt

variable {a : Assignment} {p : Position} {l : Local}

theorem edit_redefine : (⟨.assign a, p⟩ : Stmt).edit (.redefine l) = .ok ⟨.assign (a.redefine l), p⟩ :=
  rfl

theorem edit_source_redefine (v : Operand) :
    ((⟨.assign a, p⟩ : Stmt).edit (.source v) >>= fun t => t.edit (.redefine l)) =
      (⟨.assign (a.redefine l), p⟩ : Stmt).edit (.source v) := by
  have hafter : (⟨.assign (a.redefine l), p⟩ : Stmt).edit (.source v) =
      ((a.withSource v).map (·.redefine l)).map fun b => ⟨.assign b, p⟩ := by
    rw [← Assignment.withSource_redefine]
    rfl
  rw [hafter]
  change ((a.withSource v).map fun b => (⟨.assign b, p⟩ : Stmt)) >>= _ = _
  cases a.withSource v <;> rfl

/-- An assignment to a local defines it and uses what the source uses. -/
theorem defined_used_redefine_loc {m : Local} (h : a.target = .loc m) :
    (Instruction.assign (a.redefine l)).defined? = some l ∧
      (Instruction.assign (a.redefine l)).used = (Instruction.assign a).used := by
  obtain ⟨target, source⟩ := a
  obtain rfl : target = .loc m := h
  exact ⟨rfl, rfl⟩

/-- The base of a place that is written comes first among the locals that are used. -/
theorem defined_used_redefine_place {place : Place} {base : Local} (h : a.target = .place place)
    (hbase : place.base? = some base) :
    (Instruction.assign a).defined? = none ∧ (Instruction.assign (a.redefine l)).defined? = none ∧
      ∃ rest, (Instruction.assign a).used = base :: rest ∧
        (Instruction.assign (a.redefine l)).used = l :: rest := by
  obtain ⟨target, source⟩ := a
  obtain rfl : target = .place place := h
  obtain ⟨rest, hlocals, hwithBase⟩ := Place.exists_locals hbase
  refine ⟨rfl, rfl, rest ++ source.locals, ?_, ?_⟩
  · exact congrArg (· ++ source.locals) hlocals
  · exact congrArg (· ++ source.locals) (hwithBase l)

/-- Replacing the local of an assignment's target changes nothing else. A local that was written gives way
to the new one as what is defined, and the base of a place as the first of what is used. A static field
stays, as does a target that has the local already. Of two replacements the later one holds, and it does not
matter whether the source or the position is replaced before or after. -/
theorem redefine_target (a : Assignment) (p q : Position) (l l' : Local) (v : Operand) :
    let s : Stmt := ⟨.assign a, p⟩
    let s' : Stmt := ⟨.assign (a.redefine l), p⟩
    s.edit (.redefine l) = .ok s' ∧
    (∀ b, a.Redefined l b ↔ b = a.redefine l) ∧
    (∀ m, a.target = .loc m → s'.instr.defined? = some l ∧ s'.instr.used = s.instr.used) ∧
    (∀ place base, a.target = .place place → place.base? = some base →
      s.instr.defined? = none ∧ s'.instr.defined? = none ∧
        ∃ rest, s.instr.used = base :: rest ∧ s'.instr.used = l :: rest) ∧
    (∀ field, a.target = .place (.staticField field) → s'.agrees .structural s) ∧
    (a.target.root? = some l → s'.agrees .structural s) ∧
    s'.edit (.redefine l') = s.edit (.redefine l') ∧
    (s.edit (.source v) >>= fun t => t.edit (.redefine l)) = s'.edit (.source v) ∧
    (s.edit (.position q) >>= fun t => t.edit (.redefine l)) = s'.edit (.position q) := by
  intro s s'
  have hsame : a.target.root? = none ∨ a.target.root? = some l → s'.agrees .structural s := fun h =>
    agrees_structural_iff_eq.mpr (congrArg Instruction.assign (Assignment.redefine_eq_self h))
  refine ⟨rfl, fun b => Assignment.redefined_iff, fun m => defined_used_redefine_loc,
    fun place base => defined_used_redefine_place, fun field hfield => ?_, fun hroot => ?_, ?_,
    edit_source_redefine v, rfl⟩
  · exact hsame (.inl (by rw [hfield]; rfl))
  · exact hsame (.inr hroot)
  · rw [edit_redefine, edit_redefine, Assignment.redefine_redefine]

/-- An array that is stored into itself at its own place keeps the index and the source. -/
theorem redefine_target_element :
    let r : Local := ⟨"r", .unknown⟩
    let l : Local := ⟨"l", .unknown⟩
    let a : Assignment := ⟨.place (.element r (.loc r)), .atom (.loc r)⟩
    let s : Stmt := ⟨.assign a, .none⟩
    ∃ b, s.edit (.redefine l) = .ok ⟨.assign b, .none⟩ ∧ s.instr.used = [r, r, r] ∧
      (Instruction.assign b).used = [l, r, r] ∧ b.source = a.source ∧
      (⟨.assign (a.redefine r), .none⟩ : Stmt).agrees .structural s := by
  intro r l a s
  obtain ⟨hedit, hall, -, hplace, -⟩ := redefine_target a .none .none l l (.atom (.loc l))
  obtain ⟨-, -, -, -, -, hself, -⟩ := redefine_target a .none .none r l (.atom (.loc l))
  obtain ⟨-, -, rest, hused, hused'⟩ := hplace (.element r (.loc r)) r rfl rfl
  obtain rfl : [r, r] = rest := (List.cons.inj hused).2
  exact ⟨a.redefine l, hedit, hused, hused', ((hall _).mpr rfl).source, hself rfl⟩

end Stmt

end Devirt
