import Devirt.IR.Construction

/-!
# Statements made by constructors and edits

Operands and statements start from the constructors, some of which are checked, and are edited any number
of times. No such sequence breaks a rule. The checked operations refuse exactly what would break one, and
the others cannot: what they replace takes part in no rule.
-/

namespace Devirt

/-! ## Checked operations -/

/-- The outcome of a checked operation is the intended result if that keeps to the rule, and a failure
otherwise. -/
def Guards {α : Type} (rule : Prop) (result : α) (outcome : Except IllFormed α) : Prop :=
  (rule → outcome = .ok result) ∧ (¬ rule → ∃ e, outcome = .error e)

namespace Guards

variable {α β : Type} {rule rule' : Prop} {result x : α} {outcome : Except IllFormed α}

theorem of_rule (h : rule) : Guards rule result (.ok result) :=
  ⟨fun _ => rfl, fun hnot => absurd h hnot⟩

theorem of_not_rule {e : IllFormed} (h : ¬ rule) : Guards rule result (.error e) :=
  ⟨fun hrule => absurd hrule h, fun _ => ⟨e, rfl⟩⟩

theorem congr (h : Guards rule result outcome) (hrule : rule' ↔ rule) :
    Guards rule' result outcome :=
  ⟨fun hr => h.1 (hrule.mp hr), fun hr => h.2 (hr ∘ hrule.mpr)⟩

theorem map (f : α → β) (h : Guards rule result outcome) :
    Guards rule (f result) (outcome.map f) := by
  constructor
  · intro hrule
    rw [h.1 hrule]
    rfl
  · intro hrule
    obtain ⟨e, he⟩ := h.2 hrule
    exact ⟨e, by rw [he]; rfl⟩

/-- What a checked operation gives is the intended result, and it keeps to the rule. -/
theorem of_ok (h : Guards rule result outcome) (hx : outcome = .ok x) : rule ∧ x = result := by
  by_cases hrule : rule
  · rw [h.1 hrule, Except.ok.injEq] at hx
    exact ⟨hrule, hx.symm⟩
  · obtain ⟨e, he⟩ := h.2 hrule
    rw [he] at hx
    cases hx

end Guards

theorem Call.make_guards (kind : CallKind) (receiver : Option Local) (method : MethodSignature)
    (arguments : List Atom) :
    Guards (WellFormed ⟨kind, receiver, method, arguments⟩) ⟨kind, receiver, method, arguments⟩
      (make kind receiver method arguments) := by
  rw [make, WellFormed]
  cases kind.hasReceiver <;> cases receiver.isSome
  · exact .of_rule rfl
  · exact .of_not_rule nofun
  · exact .of_not_rule nofun
  · exact .of_rule rfl

theorem Assignment.make_guards (target : Target) {source : Operand} (h : source.WellFormed) :
    Guards (source.isIncoming = false ∧ source.WellFormed) ⟨target, source⟩
      (make target source) := by
  rw [make]
  cases source.isIncoming with
  | false => exact .of_rule ⟨rfl, h⟩
  | true => exact .of_not_rule nofun

theorem Instruction.branchOn_guards (condition : Binary) :
    Guards (condition.op.isCondition = true) (.branch condition) (branchOn condition) := by
  rw [branchOn]
  cases condition.op.isCondition with
  | false => exact .of_not_rule nofun
  | true => exact .of_rule rfl

/-! ## Sequences of constructions and edits -/

/-- The calls that constructors and edits lead to. -/
inductive Call.Built : Call → Prop
  | make {kind : CallKind} {receiver : Option Local} {method : MethodSignature}
      {arguments : List Atom} {c : Call} :
      Call.make kind receiver method arguments = .ok c → Built c
  | virtual (receiver : Local) (method : MethodSignature) (arguments : List Atom) :
      Built (.virtual receiver method arguments)
  | interface (receiver : Local) (method : MethodSignature) (arguments : List Atom) :
      Built (.interface receiver method arguments)
  | special (receiver : Local) (method : MethodSignature) (arguments : List Atom) :
      Built (.special receiver method arguments)
  | static (method : MethodSignature) (arguments : List Atom) : Built (.static method arguments)
  | edit {c c' : Call} {e : OperandEdit} :
      Built c → (Operand.expr (.call c)).edit e = .expr (.call c') → Built c'

/-- The operands that constructors and edits lead to. -/
inductive Operand.Built : Operand → Prop
  | atom (a : Atom) : Built (.atom a)
  | ref (r : Reference) : Built (.ref r)
  | binary (b : Binary) : Built (.expr (.binary b))
  | unary (op : UnaryOp) (operand : Atom) : Built (.expr (.unary op operand))
  | cast (operand : Atom) (t : Ty) : Built (.expr (.cast operand t))
  | instanceOf (operand : Atom) (t : Ty) : Built (.expr (.instanceOf operand t))
  | new (owner : ClassName) : Built (.expr (.new owner))
  | newArray (element : Ty) (size : Atom) : Built (.expr (.newArray element size))
  | call {c : Call} : c.Built → Built (.expr (.call c))
  | edit {v : Operand} (e : OperandEdit) : Built v → Built (v.edit e)

/-- The parts that an edit puts in are themselves made by constructors and edits. -/
def Edit.Built : Edit → Prop
  | .source v => v.Built
  | .call c => c.Built
  | _ => True

/-- The statements that constructors and edits lead to. -/
inductive Stmt.Built : Stmt → Prop
  | nop (p : Position) : Built ⟨.nop, p⟩
  | assign {target : Target} {source : Operand} {p : Position} {s : Stmt} :
      source.Built → Stmt.assign target source p = .ok s → Built s
  | binding (b : Binding) (p : Position) : Built ⟨.bind b, p⟩
  | bind {target : Local} {source : Operand} {p : Position} {s : Stmt} :
      source.Built → Stmt.bind target source p = .ok s → Built s
  | call {c : Call} (p : Position) : c.Built → Built ⟨.call c, p⟩
  | ret (value : Atom) (p : Position) : Built ⟨.ret value, p⟩
  | retVoid (p : Position) : Built ⟨.retVoid, p⟩
  | raise (value : Atom) (p : Position) : Built ⟨.raise value, p⟩
  | goto (p : Position) : Built ⟨.goto, p⟩
  | branch {condition : Binary} {p : Position} {s : Stmt} :
      Stmt.branch condition p = .ok s → Built s
  | edit {s s' : Stmt} {e : Edit} : Built s → e.Built → s.edit e = .ok s' → Built s'

/-! ## Operands -/

namespace Operand

theorem wellFormed_of_call?_eq_none {v : Operand} (h : v.call? = none) : v.WellFormed := by
  intro c hc
  rw [h] at hc
  cases hc

theorem wellFormed_call_iff {c : Call} : WellFormed (.expr (.call c)) ↔ c.WellFormed := by
  simp [WellFormed, call?]

/-- An edit leaves the kind and the receiver of a call as they are. -/
theorem WellFormed.edit {v : Operand} (h : v.WellFormed) (e : OperandEdit) :
    (v.edit e).WellFormed := by
  fun_cases Operand.edit e v with
  | case5 method c | case6 arguments c =>
      rw [wellFormed_call_iff] at h ⊢
      exact h
  | case7 => exact h
  | _ => exact wellFormed_of_call?_eq_none rfl

end Operand

theorem Call.Built.wellFormed {c : Call} (h : c.Built) : c.WellFormed := by
  induction h with
  | make h =>
      obtain ⟨hrule, rfl⟩ := (make_guards ..).of_ok h
      exact hrule
  | edit _ he ih =>
      rw [← Operand.wellFormed_call_iff] at ih ⊢
      rw [← he]
      exact ih.edit _
  | _ => rfl

theorem Operand.Built.wellFormed {v : Operand} (h : v.Built) : v.WellFormed := by
  induction h with
  | call hc => exact wellFormed_call_iff.mpr hc.wellFormed
  | edit e _ ih => exact ih.edit e
  | _ => exact wellFormed_of_call?_eq_none rfl

/-! ## Statements -/

/-- What an instruction is after an edit, if nothing is checked. -/
def Instruction.replace : Edit → Instruction → Instruction
  | .target t, .assign a => .assign (a.withTarget t)
  | .source v, .assign a => .assign { a with source := v }
  | .redefine l, .assign a => .assign (a.redefine l)
  | .bind l, .bind b => .bind { b with target := l }
  | .call c, .call _ => .call c
  | .value v, .ret _ => .ret v
  | .value v, .raise _ => .raise v
  | .condition b, .branch _ => .branch b
  | _, i => i

namespace Stmt

/-- What a statement is after an edit, if nothing is checked. -/
def replace (s : Stmt) : Edit → Stmt
  | .position p => s.withPosition p
  | e => { s with instr := s.instr.replace e }

theorem assign_guards (target : Target) {source : Operand} (p : Position)
    (h : source.WellFormed) :
    Guards (source.isIncoming = false ∧ source.WellFormed) ⟨.assign ⟨target, source⟩, p⟩
      (Stmt.assign target source p) :=
  (Assignment.make_guards target h).map fun a => (⟨.assign a, p⟩ : Stmt)

theorem branch_guards (condition : Binary) (p : Position) :
    Guards (condition.op.isCondition = true) ⟨.branch condition, p⟩ (Stmt.branch condition p) :=
  (Instruction.branchOn_guards condition).map fun i => (⟨i, p⟩ : Stmt)

/-- An edit of a well-formed statement gives what it is meant to give, unless that is ill-formed. -/
theorem edit_guards {s : Stmt} {e : Edit} (hs : s.instr.WellFormed) (he : e.Built) :
    Guards (s.replace e).instr.WellFormed (s.replace e) (s.edit e) := by
  obtain ⟨i, p⟩ := s
  cases e with
  | position q => exact .of_rule hs
  | source v =>
      cases i with
      | assign a => exact assign_guards a.target p he.wellFormed
      | _ => exact .of_rule hs
  | call c =>
      cases i with
      | call _ => exact .of_rule he.wellFormed
      | _ => exact .of_rule hs
  | condition b =>
      cases i with
      | branch _ => exact branch_guards b p
      | _ => exact .of_rule hs
  -- The other edits replace nothing that takes part in a rule.
  | target t | redefine l | bind l | value v => cases i <;> exact .of_rule hs

/-- A binding is made from any value received on entry, and from nothing else. -/
theorem bind_cases (target : Local) (source : Operand) (p : Position) :
    (∃ i, source = .ref (.incoming i) ∧ Stmt.bind target source p = .ok ⟨.bind ⟨target, i⟩, p⟩) ∨
      (∀ i, source ≠ .ref (.incoming i)) ∧
        Stmt.bind target source p = .error (.incomingExpected source) := by
  cases source with
  | atom a => exact Or.inr ⟨nofun, rfl⟩
  | ref r =>
      cases r with
      | place q => exact Or.inr ⟨nofun, rfl⟩
      | incoming i => exact Or.inl ⟨i, rfl, rfl⟩
  | expr e => exact Or.inr ⟨nofun, rfl⟩

theorem bind_eq_ok {target : Local} {source : Operand} {p : Position} {s : Stmt}
    (h : Stmt.bind target source p = .ok s) : ∃ b : Binding, s = ⟨.bind b, p⟩ := by
  rcases bind_cases target source p with ⟨i, -, hok⟩ | ⟨-, herror⟩
  · rw [hok, Except.ok.injEq] at h
    exact ⟨⟨target, i⟩, h.symm⟩
  · rw [herror] at h
    cases h

/-- By induction on how a statement was made: the checked operations keep to the rules, and nothing
else touches them. -/
theorem Built.wellFormed {s : Stmt} (h : s.Built) : s.instr.WellFormed := by
  induction h with
  | assign hsource h =>
      obtain ⟨hrule, rfl⟩ := (assign_guards _ _ hsource.wellFormed).of_ok h
      exact hrule
  | bind _ h =>
      obtain ⟨b, rfl⟩ := bind_eq_ok h
      trivial
  | call p hc => exact hc.wellFormed
  | branch h =>
      obtain ⟨hrule, rfl⟩ := (branch_guards _ _).of_ok h
      exact hrule
  | edit _ he h ih =>
      obtain ⟨hrule, rfl⟩ := (edit_guards ih he).of_ok h
      exact hrule
  | _ => trivial

end Stmt

/-! ## Parts -/

theorem Operand.exists_call_of_edit {v : Operand} {e : OperandEdit} {c : Call} :
    v.edit e = .expr (.call c) → ∃ d, v = .expr (.call d) := by
  fun_cases Operand.edit e v with
  | case5 method d | case6 arguments d => exact fun _ => ⟨d, rfl⟩
  | case7 => exact fun h => ⟨c, h⟩
  | _ => rintro ⟨⟩

/-- The call of an operand is made by constructors and edits if the operand is. -/
theorem Operand.Built.of_call {c : Call} (h : Built (.expr (.call c))) : c.Built := by
  generalize hv : Operand.expr (.call c) = v at h
  induction h generalizing c with
  | call hc =>
      cases hv
      exact hc
  | edit e _ ih =>
      obtain ⟨d, rfl⟩ := exists_call_of_edit hv.symm
      exact .edit (ih rfl) hv.symm
  | _ => cases hv

theorem Operand.eq_of_call? {v : Operand} {c : Call} (h : v.call? = some c) : v = .expr (.call c) := by
  unfold call? at h
  split at h
  · rw [Option.some.inj h]
  · cases h

/-- What can be read off an instruction and used again is made by constructors and edits. -/
def Instruction.PartsBuilt : Instruction → Prop
  | .assign a => a.source.Built
  | .call c => c.Built
  | _ => True

theorem Instruction.PartsBuilt.replace {i : Instruction} {e : Edit} (hi : i.PartsBuilt)
    (he : e.Built) : (i.replace e).PartsBuilt := by
  cases e with
  | source v =>
      cases i with
      | assign a => exact he
      | _ => exact hi
  | call c =>
      cases i with
      | call d => exact he
      | _ => exact hi
  | _ => cases i <;> exact hi

theorem Instruction.PartsBuilt.of_call? {i : Instruction} {c : Call} (hi : i.PartsBuilt)
    (hc : i.call? = some c) : c.Built := by
  cases i with
  | assign a =>
      have hsource : a.source = .expr (.call c) := Operand.eq_of_call? hc
      have hbuilt : a.source.Built := hi
      rw [hsource] at hbuilt
      exact hbuilt.of_call
  | call d =>
      obtain rfl : d = c := Option.some.inj hc
      exact hi
  | _ => cases hc

theorem Stmt.Built.partsBuilt {s : Stmt} (h : s.Built) : s.instr.PartsBuilt := by
  induction h with
  | assign hsource h =>
      obtain ⟨-, rfl⟩ := (assign_guards _ _ hsource.wellFormed).of_ok h
      exact hsource
  | bind _ h =>
      obtain ⟨b, rfl⟩ := bind_eq_ok h
      trivial
  | call p hc => exact hc
  | branch h =>
      obtain ⟨-, rfl⟩ := (branch_guards _ _).of_ok h
      trivial
  | @edit s _ e hs he h ih =>
      obtain ⟨-, rfl⟩ := (edit_guards hs.wellFormed he).of_ok h
      cases e with
      | position p => exact ih
      | _ => exact ih.replace he
  | _ => trivial

/-! ## The rules -/

theorem Operand.isIncoming_eq_false_iff {v : Operand} :
    v.isIncoming = false ↔ ∀ i, v ≠ .ref (.incoming i) := by
  cases v with
  | atom a => simp [isIncoming]
  | ref r => cases r <;> simp [isIncoming, Reference.isIncoming]
  | expr e => simp [isIncoming]

theorem BinaryOp.isCondition_iff {op : BinaryOp} :
    op.isCondition = true ↔ op ∈ [eq, ne, lt, le, gt, ge] := by
  cases op <;> decide

theorem Call.wellFormed_iff {c : Call} :
    c.WellFormed ↔ (c.receiver.isSome ↔ c.kind ∈ [CallKind.virtual, .interface, .special]) := by
  rw [WellFormed, Bool.eq_iff_iff]
  cases c.kind <;> simp [CallKind.hasReceiver]

namespace Stmt

/-- The rules for statements. -/
structure Rules (s : Stmt) : Prop where
  /-- No value received on entry stands on the right of an assignment. -/
  assigned : ∀ a, s.instr = .assign a → ∀ i, a.source ≠ .ref (.incoming i)
  /-- A value received on entry always stands on the right of a binding. -/
  bound : ∀ b, s.instr = .bind b →
    ∃ i, Stmt.bind b.target (.ref (.incoming i)) s.position = .ok s
  tested : ∀ c, s.instr = .branch c → c.op ∈ [BinaryOp.eq, .ne, .lt, .le, .gt, .ge]
  called : ∀ c ∈ s.instr.call?,
    (c.receiver.isSome ↔ c.kind ∈ [CallKind.virtual, .interface, .special])

theorem rules_iff {s : Stmt} : s.Rules ↔ s.instr.WellFormed := by
  obtain ⟨i, p⟩ := s
  constructor
  · intro h
    cases i with
    | assign a =>
        exact ⟨Operand.isIncoming_eq_false_iff.mpr (h.assigned a rfl),
          fun c hc => Call.wellFormed_iff.mpr (h.called c hc)⟩
    | call c => exact Call.wellFormed_iff.mpr (h.called c rfl)
    | branch c => exact BinaryOp.isCondition_iff.mpr (h.tested c rfl)
    | _ => trivial
  · intro h
    cases i with
    | assign a =>
        constructor
        case assigned => rintro _ ⟨⟩; exact Operand.isIncoming_eq_false_iff.mp h.1
        case called => exact fun c hc => Call.wellFormed_iff.mp (h.2 c hc)
        all_goals rintro _ ⟨⟩
    | bind b =>
        constructor
        case bound => rintro _ ⟨⟩; exact ⟨b.source, rfl⟩
        all_goals rintro _ ⟨⟩
    | call c =>
        constructor
        case called => rintro _ ⟨⟩; exact Call.wellFormed_iff.mp h
        all_goals rintro _ ⟨⟩
    | branch c =>
        constructor
        case tested => rintro _ ⟨⟩; exact BinaryOp.isCondition_iff.mp h
        all_goals rintro _ ⟨⟩
    | _ => constructor <;> rintro _ ⟨⟩

theorem exists_assign_iff {target : Target} {source : Operand} {p : Position} :
    (∃ s, Stmt.assign target source p = .ok s) ↔ source.isIncoming = false := by
  rw [Stmt.assign, Assignment.make]
  cases source.isIncoming <;> simp [Except.map]

theorem exists_bind_iff {target : Local} {source : Operand} {p : Position} :
    (∃ s, Stmt.bind target source p = .ok s) ↔ ¬ source.isIncoming = false := by
  rw [Operand.isIncoming_eq_false_iff]
  rcases bind_cases target source p with ⟨i, hi, hok⟩ | ⟨hnot, herror⟩
  · exact iff_of_true ⟨_, hok⟩ fun hnot => hnot i hi
  · refine iff_of_false ?_ (not_not_intro hnot)
    rintro ⟨s, hs⟩
    cases herror.symm.trans hs

/-- However statements are made and edited, they keep to the rules. The checked constructors and the edits
fail exactly if their result would break a rule, and a value can be assigned to a local or bound to
it, but not both. The source of an assignment and the call of a statement are made by constructors and
edits as well, so that statements put together from parts of others are no exception. -/
theorem built_rules :
    (∀ s : Stmt, s.Built → s.Rules) ∧
    (∀ kind receiver method arguments,
      Guards (receiver.isSome ↔ kind ∈ [CallKind.virtual, .interface, .special])
        ⟨kind, receiver, method, arguments⟩ (Call.make kind receiver method arguments)) ∧
    (∀ (target : Target) (source : Operand) (p : Position), source.Built →
      let s : Stmt := ⟨.assign ⟨target, source⟩, p⟩
      Guards s.Rules s (Stmt.assign target source p)) ∧
    (∀ (target : Local) (source : Operand) (p : Position),
      (∃ i, source = .ref (.incoming i) ∧ Stmt.bind target source p = .ok ⟨.bind ⟨target, i⟩, p⟩) ∨
        (∀ i, source ≠ .ref (.incoming i)) ∧
          Stmt.bind target source p = .error (.incomingExpected source)) ∧
    (∀ (condition : Binary) (p : Position),
      let s : Stmt := ⟨.branch condition, p⟩
      Guards s.Rules s (Stmt.branch condition p)) ∧
    (∀ (s : Stmt) (e : Edit), s.Built → e.Built → Guards (s.replace e).Rules (s.replace e) (s.edit e)) ∧
    (∀ (l : Local) (v : Operand) (p : Position),
      (∃ s, Stmt.assign (.loc l) v p = .ok s) ↔ ¬ ∃ s, Stmt.bind l v p = .ok s) ∧
    ∀ s : Stmt, s.Built →
      (∀ a, s.instr = .assign a → a.source.Built) ∧ ∀ c, s.instr.call? = some c → c.Built := by
  refine ⟨fun s hs => rules_iff.mpr hs.wellFormed, fun _ _ _ _ => ?_, fun target source p hsource => ?_,
    bind_cases, fun condition p => ?_, fun s e hs he => ?_, fun l v p => ?_,
    fun s hs => ⟨fun a ha => ?_, fun c => hs.partsBuilt.of_call?⟩⟩
  · exact (Call.make_guards ..).congr (Call.wellFormed_iff (c := ⟨_, _, _, _⟩)).symm
  · exact (assign_guards target p hsource.wellFormed).congr rules_iff
  · exact (branch_guards condition p).congr rules_iff
  · exact (edit_guards hs.wellFormed he).congr rules_iff
  · rw [exists_assign_iff, exists_bind_iff, Decidable.not_not]
  · have hparts := hs.partsBuilt
    rw [ha] at hparts
    exact hparts

/-- An assignment of a call takes the same call with an argument in its place, and refuses an exception
received on entry. -/
theorem built_rules_assign :
    let l : Local := ⟨"x", .unknown⟩
    let call : Operand := .expr (.call (.virtual l ⟨.object, "hashCode", [], .unknown⟩ []))
    let edited : Operand := call.edit (.arguments [.loc l])
    let s : Stmt := ⟨.assign ⟨.loc l, call⟩, .none⟩
    let s' : Stmt := ⟨.assign ⟨.loc l, edited⟩, .none⟩
    s.Built ∧ s.edit (.source edited) = .ok s' ∧ s'.Rules ∧
      ∃ e, s.edit (.source (.ref (.incoming (.caught .unknown)))) = .error e := by
  intro l call edited s s'
  obtain ⟨hrules, -, -, -, -, hedit, -⟩ := built_rules
  have hcall : call.Built := .call (.virtual ..)
  have hedited : Edit.Built (.source edited) := hcall.edit _
  have hreceived : Edit.Built (.source (.ref (.incoming (.caught .unknown)))) := Operand.Built.ref _
  have hassign : Stmt.assign (.loc l) call .none = .ok s := rfl
  have hsource : s.edit (.source edited) = .ok s' := rfl
  have hs : s.Built := .assign hcall hassign
  have hs' : s'.Built := .edit hs hedited hsource
  refine ⟨hs, hsource, hrules s' hs', (hedit s _ hs hreceived).2 fun hbad => ?_⟩
  exact hbad.assigned _ rfl _ rfl

end Stmt

end Devirt
