import Devirt.IR.Comparator
import Devirt.IR.Digest
import Devirt.Proofs.IR.Leaves
import Mathlib.Data.List.Forall2

/-!
# Comparison leaf by leaf

A comparator that replaces nothing but the tests for locals and for literals decides whether two
statements have the same shape and whether their leaves agree one by one. This is shown for each kind of
node in turn. The tests for the leaves may be any relations; equality gives the structural comparison.
-/

namespace Devirt

open HasLeaves

variable {α : Type} [HasLeaves α] {R R' : Local → Local → Bool} {K K' : Constant → Constant → Bool}

/-- Two nodes have the same shape, and their leaves agree one by one. -/
def Matches (R : Local → Local → Bool) (K : Constant → Constant → Bool) (a b : α) : Prop :=
  shape a = shape b ∧ List.Forall₂ (fun x y => Atom.agree R K x y) (leaves a) (leaves b)

/-! ## Atoms -/

namespace Atom

theorem agree_loc {l m : Local} : agree R K (.loc l) (.loc m) = R l m := rfl

theorem agree_lit {c d : Constant} : agree R K (.lit c) (.lit d) = K c d := rfl

/-- Atoms that agree are both locals or both literals. -/
theorem shape_eq_of_agree : ∀ {a b : Atom}, a.agree R K b → shape a = shape b
  | .loc _, .loc _, _ => rfl
  | .lit _, .lit _, _ => rfl

theorem eq_of_agree :
    ∀ {a b : Atom}, a.agree (fun l m => l = m) (fun c d => c = d) b → a = b
  | .loc _, .loc _, h => congrArg loc (of_decide_eq_true h)
  | .lit _, .lit _, h => congrArg lit (of_decide_eq_true h)

theorem agree_refl (hR : ∀ l, R l l) (hK : ∀ c, K c c) : ∀ a : Atom, a.agree R K a
  | .loc l => hR l
  | .lit c => hK c

theorem agree_symm (hR : ∀ l m, R l m → R m l) (hK : ∀ c d, K c d → K d c) :
    ∀ {a b : Atom}, a.agree R K b → b.agree R K a
  | .loc l, .loc m, h => hR l m h
  | .lit c, .lit d, h => hK c d h

theorem agree_trans (hR : ∀ l m n, R l m → R m n → R l n)
    (hK : ∀ c d e, K c d → K d e → K c e) :
    ∀ {a b c : Atom}, a.agree R K b → b.agree R K c → a.agree R K c
  | .loc l, .loc m, .loc n, h, h' => hR l m n h h'
  | .lit c, .lit d, .lit e, h, h' => hK c d e h h'

theorem agree_mono (hR : ∀ l m, R l m → R' l m) (hK : ∀ c d, K c d → K' c d) :
    ∀ {a b : Atom}, a.agree R K b → a.agree R' K' b
  | .loc l, .loc m, h => hR l m h
  | .lit c, .lit d, h => hK c d h

end Atom

/-! ## Lists of atoms -/

theorem map_shape_eq_of_forall₂ {as bs : List Atom}
    (h : List.Forall₂ (fun x y => Atom.agree R K x y) as bs) : as.map shape = bs.map shape := by
  induction h with
  | nil => rfl
  | cons hab _ ih => rw [List.map_cons, List.map_cons, Atom.shape_eq_of_agree hab, ih]

theorem forall₂_append_iff {β : Type} {r : β → β → Prop} {as bs as' bs' : List β}
    (h : as.length = bs.length) :
    List.Forall₂ r (as ++ as') (bs ++ bs') ↔ List.Forall₂ r as bs ∧ List.Forall₂ r as' bs' := by
  induction as generalizing bs with
  | nil =>
      obtain rfl : bs = [] := List.eq_nil_of_length_eq_zero h.symm
      simp
  | cons a as ih =>
      obtain ⟨b, bs, rfl⟩ := List.exists_cons_of_length_eq_add_one h.symm
      simp [ih (Nat.succ.inj h), and_assoc]

theorem forall₂_trans {β : Type} {r : β → β → Prop} (h : ∀ a b c, r a b → r b c → r a c)
    {as bs cs : List β} (hab : List.Forall₂ r as bs) (hbc : List.Forall₂ r bs cs) :
    List.Forall₂ r as cs := by
  induction hab generalizing cs with
  | nil => exact hbc
  | cons hab _ ih =>
      obtain _ | ⟨hbc, hrest⟩ := hbc
      exact .cons (h _ _ _ hab hbc) (ih hrest)

/-- Two lists of atoms of the same shape agree if their locals agree and their literals do. -/
theorem forall₂_agree_iff {as bs : List Atom} (h : as.map shape = bs.map shape) :
    List.Forall₂ (fun x y => Atom.agree R K x y) as bs ↔
      List.Forall₂ (fun l m => R l m) (as.filterMap Atom.local?) (bs.filterMap Atom.local?) ∧
        List.Forall₂ (fun c d => K c d) (as.filterMap Atom.constant?)
          (bs.filterMap Atom.constant?) := by
  induction as generalizing bs with
  | nil =>
      obtain rfl : bs = [] := List.map_eq_nil_iff.mp h.symm
      simp
  | cons a as ih =>
      obtain ⟨b, bs, rfl, hab, hrest⟩ := List.map_eq_cons_iff.mp h.symm
      have ih := ih hrest.symm
      cases a with
      | loc l =>
          cases b with
          | loc m => simp [ih, Atom.agree_loc, List.filterMap_cons, and_assoc]
          | lit d => cases hab
      | lit c =>
          cases b with
          | loc m => cases hab
          | lit d => simp [ih, Atom.agree_lit, List.filterMap_cons, and_left_comm]

/-! ## One kind of node after the other -/

theorem Place.agree_iff {p q : Place} : p.agree R (Atom.agree R K) q ↔ Matches R K p q := by
  cases p <;> cases q <;>
    simp [Matches, Place.agree, Atom.agree_loc, shape, HasLeaves.mapLeaves, Place.mapLeaves,
      HasLeaves.leaves, Place.leaves]
  case element.element => exact fun _ h => Atom.shape_eq_of_agree h

theorem Reference.agree_iff {r s : Reference} :
    r.agree (Place.agree R (Atom.agree R K)) (fun i j => i = j) s ↔ Matches R K r s := by
  cases r <;> cases s <;> simp [Reference.agree, Place.agree_iff, Matches, shape, mapLeaves, leaves]

theorem Binary.agree_iff {a b : Binary} : a.agree (Atom.agree R K) b ↔ Matches R K a b := by
  have hagree : a.agree (Atom.agree R K) b ↔
      a.op = b.op ∧ a.left.agree R K b.left ∧ a.right.agree R K b.right := by
    simp [Binary.agree, and_assoc]
  have hmatches : Matches R K a b ↔
      (a.op = b.op ∧ shape a.left = shape b.left ∧ shape a.right = shape b.right) ∧
        a.left.agree R K b.left ∧ a.right.agree R K b.right := by
    simp [Matches, shape, mapLeaves, leaves]
  rw [hagree, hmatches]
  constructor
  · rintro ⟨hop, hleft, hright⟩
    exact ⟨⟨hop, Atom.shape_eq_of_agree hleft, Atom.shape_eq_of_agree hright⟩, hleft, hright⟩
  · rintro ⟨⟨hop, -, -⟩, hleft, hright⟩
    exact ⟨hop, hleft, hright⟩

theorem Call.agreeArguments_iff {atoms : Atom → Atom → Bool} {as bs : List Atom} :
    agreeArguments atoms as bs ↔ List.Forall₂ (fun x y => atoms x y) as bs := by
  induction as generalizing bs with
  | nil => cases bs <;> simp [agreeArguments]
  | cons a as ih => cases bs <;> simp [agreeArguments, ih]

theorem Call.agree_iff {c d : Call} : c.agree R (Atom.agree R K) d ↔ Matches R K c d := by
  obtain ⟨kind, receiver, method, arguments⟩ := c
  obtain ⟨kind', receiver', method', arguments'⟩ := d
  cases receiver <;> cases receiver' <;>
    simp [Call.agree, Matches, shape, mapLeaves, leaves, agreeReceivers, agreeArguments_iff,
      Atom.agree_loc]
  case none.none => exact fun h _ _ => map_shape_eq_of_forall₂ h
  case some.some =>
    constructor
    · rintro ⟨⟨⟨hkind, hmethod⟩, hreceiver⟩, harguments⟩
      exact ⟨⟨hkind, hmethod, map_shape_eq_of_forall₂ harguments⟩, hreceiver, harguments⟩
    · rintro ⟨⟨hkind, hmethod, -⟩, hreceiver, harguments⟩
      exact ⟨⟨⟨hkind, hmethod⟩, hreceiver⟩, harguments⟩

theorem Expr.agree_iff {a b : Expr} :
    a.agree (Atom.agree R K) (Binary.agree (Atom.agree R K)) (Call.agree R (Atom.agree R K)) b ↔
      Matches R K a b := by
  -- Expressions of different forms neither agree nor match.
  cases a <;> cases b <;> try (refine iff_of_false Bool.false_ne_true fun h => ?_; cases h.1)
  all_goals
    simp [Expr.agree, Matches, shape, HasLeaves.mapLeaves, Expr.mapLeaves, HasLeaves.leaves,
      Expr.leaves, Binary.agree_iff, Call.agree_iff]
  case unary.unary | cast.cast | instanceOf.instanceOf | newArray.newArray =>
    exact fun h _ => Atom.shape_eq_of_agree h

theorem Operand.agree_iff {v w : Operand} :
    v.agree (Comparator.ofLeaves R K).atoms (Comparator.ofLeaves R K).references
      (Comparator.ofLeaves R K).exprs w ↔ Matches R K v w := by
  cases v <;> cases w <;>
    simp [Operand.agree, Comparator.ofLeaves, Matches, shape, mapLeaves, leaves, Reference.agree_iff,
      Expr.agree_iff]
  case atom.atom => exact Atom.shape_eq_of_agree

theorem Target.agree_iff {t t' : Target} :
    t.agree R (Comparator.ofLeaves R K).places t' ↔ Matches R K t t' := by
  cases t <;> cases t' <;>
    simp [Target.agree, Comparator.ofLeaves, Matches, shape, mapLeaves, leaves, Place.agree_iff,
      Atom.agree_loc]

theorem Assignment.matches_iff {a b : Assignment} :
    Matches R K a b ↔ Matches R K a.target b.target ∧ Matches R K a.source b.source := by
  have hshape : shape a = shape b ↔
      shape a.target = shape b.target ∧ shape a.source = shape b.source := by
    rw [← Assignment.mk.injEq]
    rfl
  constructor
  · rintro ⟨hab, hleaves⟩
    obtain ⟨htarget, hsource⟩ := hshape.mp hab
    obtain ⟨htargets, hsources⟩ :=
      (forall₂_append_iff (length_leaves_of_mapLeaves_eq htarget)).mp hleaves
    exact ⟨⟨htarget, htargets⟩, ⟨hsource, hsources⟩⟩
  · rintro ⟨⟨htarget, htargets⟩, hsource, hsources⟩
    exact ⟨hshape.mpr ⟨htarget, hsource⟩, List.rel_append htargets hsources⟩

/-- A comparator with tests for the leaves alone decides whether two statements match. -/
theorem Stmt.agrees_iff_matches {a b : Stmt} :
    a.agrees (.ofLeaves R K) b ↔ Matches R K a.instr b.instr := by
  obtain ⟨i, p⟩ := a
  obtain ⟨j, q⟩ := b
  -- Statements of different kinds neither agree nor match.
  cases i <;> cases j <;> try (refine iff_of_false Bool.false_ne_true fun h => ?_; cases h.1)
  case assign.assign a b =>
    calc Stmt.agrees (.ofLeaves R K) ⟨.assign a, p⟩ ⟨.assign b, q⟩ = true
      _ ↔ Matches R K a.target b.target ∧ Matches R K a.source b.source := by
        rw [← Target.agree_iff, ← Operand.agree_iff, ← Bool.and_eq_true]
        rfl
      _ ↔ Matches R K a b := Assignment.matches_iff.symm
      _ ↔ Matches R K (Instruction.assign a) (.assign b) :=
        and_congr_left' (Iff.of_eq (Instruction.assign.injEq (shape a) (shape b))).symm
  all_goals
    simp [Stmt.agrees, Comparator.ofLeaves, Matches, shape, HasLeaves.mapLeaves, Instruction.mapLeaves,
      HasLeaves.leaves, Instruction.leaves, Binary.agree_iff, Call.agree_iff]
  case bind.bind => rw [Atom.agree_loc, and_comm]
  case ret.ret | raise.raise => exact Atom.shape_eq_of_agree

/-! ## Matching -/

namespace Matches

/-- The leaves agree one by one just if the locals do and the literals do. -/
theorem iff_locals_constants {a b : α} :
    Matches R K a b ↔ shape a = shape b ∧ List.Forall₂ (fun l m => R l m) (locals a) (locals b) ∧
      List.Forall₂ (fun c d => K c d) (constants a) (constants b) := by
  refine and_congr_right fun hshape => forall₂_agree_iff ?_
  calc (leaves a).map shape
    _ = leaves (shape a) := (leaves_mapLeaves ..).symm
    _ = leaves (shape b) := congrArg leaves hshape
    _ = (leaves b).map shape := leaves_mapLeaves ..

/-- Nodes with equal leaves match, and no others do. -/
theorem eq_iff {a b : α} : Matches (fun l m => l = m) (fun c d => c = d) a b ↔ a = b := by
  constructor
  · rintro ⟨hshape, hleaves⟩
    refine eq_of_leaves _ _ a b hshape ?_
    rw [← List.forall₂_eq_eq_eq]
    exact hleaves.imp fun x y => Atom.eq_of_agree
  · rintro rfl
    exact ⟨rfl, List.forall₂_same.mpr fun x _ => x.agree_refl (by simp) (by simp)⟩

variable {a b c : α}

theorem refl (hR : ∀ l, R l l) (hK : ∀ c, K c c) (a : α) : Matches R K a a :=
  ⟨rfl, List.forall₂_same.mpr fun x _ => x.agree_refl hR hK⟩

theorem symm (hR : ∀ l m, R l m → R m l) (hK : ∀ c d, K c d → K d c) (h : Matches R K a b) :
    Matches R K b a :=
  ⟨h.1.symm, (h.2.imp fun _ _ => Atom.agree_symm hR hK).flip⟩

theorem trans (hR : ∀ l m n, R l m → R m n → R l n) (hK : ∀ c d e, K c d → K d e → K c e)
    (hab : Matches R K a b) (hbc : Matches R K b c) : Matches R K a c := by
  refine ⟨hab.1.trans hbc.1, ?_⟩
  exact forall₂_trans (r := fun x y => Atom.agree R K x y)
    (fun _ _ _ => Atom.agree_trans hR hK) hab.2 hbc.2

theorem mono (hR : ∀ l m, R l m → R' l m) (hK : ∀ c d, K c d → K' c d) (h : Matches R K a b) :
    Matches R' K' a b :=
  ⟨h.1, h.2.imp fun _ _ => Atom.agree_mono hR hK⟩

end Matches

/-! ## Statements -/

namespace Stmt

/-- The structural comparison is the one with equality as the test for locals and for literals. -/
theorem agrees_structural_iff_eq {a b : Stmt} : a.agrees .structural b ↔ a.instr = b.instr :=
  agrees_iff_matches.trans Matches.eq_iff

/-- A comparator that replaces the tests for the leaves reaches every operand, pair by pair: two
statements agree just if they have the same shape, their locals agree and their literals do. So it
inherits the laws of the two tests. -/
theorem agrees_ofLeaves (R : Local → Local → Bool) (K : Constant → Constant → Bool) :
    (∀ a b : Stmt, a.agrees (.ofLeaves R K) b ↔
      shape a.instr = shape b.instr ∧
        List.Forall₂ (fun l m => R l m) (locals a.instr) (locals b.instr) ∧
        List.Forall₂ (fun c d => K c d) (constants a.instr) (constants b.instr)) ∧
    ((∀ l, R l l) → (∀ c, K c c) → ∀ a : Stmt, a.agrees (.ofLeaves R K) a) ∧
    ((∀ l m, R l m → R m l) → (∀ c d, K c d → K d c) →
      ∀ a b : Stmt, a.agrees (.ofLeaves R K) b → b.agrees (.ofLeaves R K) a) ∧
    ((∀ l m n, R l m → R m n → R l n) → (∀ c d e, K c d → K d e → K c e) →
      ∀ a b c : Stmt, a.agrees (.ofLeaves R K) b → b.agrees (.ofLeaves R K) c →
        a.agrees (.ofLeaves R K) c) ∧
    ∀ R' K', (∀ l m, R l m → R' l m) → (∀ c d, K c d → K' c d) →
      ∀ a b : Stmt, a.agrees (.ofLeaves R K) b → a.agrees (.ofLeaves R' K') b := by
  simp only [agrees_iff_matches]
  exact ⟨fun a b => Matches.iff_locals_constants, fun hR hK a => Matches.refl hR hK a.instr,
    fun hR hK a b => Matches.symm hR hK, fun hR hK a b c => Matches.trans hR hK,
    fun R' K' hR hK a b => Matches.mono hR hK⟩

/-- Two returns of locals with the same type agree up to the names of locals, in both directions. -/
theorem agrees_ofLeaves_ret :
    let R : Local → Local → Bool := fun l m => l.ty = m.ty
    let K : Constant → Constant → Bool := fun c d => c = d
    let a : Stmt := ⟨.ret (.loc ⟨"a", .null⟩), .none⟩
    let b : Stmt := ⟨.ret (.loc ⟨"b", .null⟩), .line 7 1 9⟩
    a.agrees (.ofLeaves R K) b ∧ b.agrees (.ofLeaves R K) a ∧ ¬ a.agrees .structural b := by
  intro R K a b
  obtain ⟨hiff, -, hsymm, -⟩ := agrees_ofLeaves R K
  have hab : a.agrees (.ofLeaves R K) b := (hiff a b).mpr ⟨rfl, .cons rfl .nil, .nil⟩
  refine ⟨hab, hsymm (fun l m h => ?_) (fun c d h => ?_) a b hab, by decide⟩
  · exact decide_eq_true (of_decide_eq_true h).symm
  · exact decide_eq_true (of_decide_eq_true h).symm

/-- Structural agreement is equality of what the statements do, wherever they stand, and statements
that agree have the same digest whatever the digests of the operands are. -/
theorem agrees_structural :
    (∀ a b : Stmt, a.agrees .structural b ↔ a.instr = b.instr) ∧
    (∀ a : Stmt, a.agrees .structural a) ∧
    (∀ a b : Stmt, a.agrees .structural b → b.agrees .structural a) ∧
    (∀ a b c : Stmt, a.agrees .structural b → b.agrees .structural c → a.agrees .structural c) ∧
    ∀ (d : OperandDigests) (a b : Stmt), a.agrees .structural b → a.digest d = b.digest d := by
  have heq : ∀ {a b : Stmt}, a.agrees .structural b ↔ a.instr = b.instr := agrees_structural_iff_eq
  refine ⟨fun a b => heq, fun a => heq.mpr rfl, fun a b h => heq.mpr (heq.mp h).symm,
    fun a b c h h' => heq.mpr ((heq.mp h).trans (heq.mp h')), fun d a b h => ?_⟩
  rw [digest, digest, heq.mp h]

/-- A literal is compared by its bits: zero agrees with itself at another position, and not with
negative zero. -/
theorem agrees_structural_zero :
    let a : Stmt := ⟨.ret (.lit (.float 0)), .none⟩
    let b : Stmt := ⟨.ret (.lit (.float 0)), .line 7 1 9⟩
    let c : Stmt := ⟨.ret (.lit (.float 0x80000000)), .none⟩
    a.agrees .structural b ∧ a.digest .standard = b.digest .standard ∧ ¬ a.agrees .structural c := by
  intro a b c
  obtain ⟨hiff, -, -, -, hdigest⟩ := agrees_structural
  have hab : a.agrees .structural b := (hiff a b).mpr rfl
  exact ⟨hab, hdigest .standard a b hab, fun hac => absurd ((hiff a c).mp hac) (by decide)⟩

end Stmt

end Devirt
