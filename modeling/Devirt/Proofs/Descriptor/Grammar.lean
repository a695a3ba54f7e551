import Devirt.Descriptor
import Devirt.Proofs.ClassName

/-!
# The grammar of descriptors

The forms of descriptors, with the text of each and the types that it denotes. A form is determined by its
text. It is also determined by what it denotes if the class names in it are in internal form.
-/

namespace Devirt.Descriptor

/-- The letter of a primitive type. -/
def letter : Primitive → Char
  | .byte => 'B'
  | .char => 'C'
  | .double => 'D'
  | .float => 'F'
  | .int => 'I'
  | .long => 'J'
  | .short => 'S'
  | .boolean => 'Z'

/-- A class name that can stand in a descriptor, where a semicolon ends it. -/
structure Name where
  chars : List Char
  ne_nil : chars ≠ []
  unterminated : ';' ∉ chars

/-- The descriptor of a type: a primitive type or a class, under any number of array dimensions. -/
inductive TypeForm where
  | primitive (p : Primitive)
  | named (n : Name)
  | array (element : TypeForm)

inductive ResultForm where
  | void
  | type (f : TypeForm)

structure MethodForm where
  parameters : List TypeForm
  result : ResultForm

namespace TypeForm

def text : TypeForm → List Char
  | primitive p => [letter p]
  | named n => 'L' :: n.chars ++ [';']
  | array element => '[' :: element.text

def ty : TypeForm → Ty
  | primitive p => .primitive p
  | named n => .ofName (String.ofList n.chars)
  | array element => .array element.ty

def names : TypeForm → List Name
  | primitive _ => []
  | named n => [n]
  | array element => element.names

end TypeForm

namespace ResultForm

def text : ResultForm → List Char
  | void => ['V']
  | type f => f.text

def ty : ResultForm → Ty
  | void => .void
  | type f => f.ty

def names : ResultForm → List Name
  | void => []
  | type f => f.names

end ResultForm

namespace MethodForm

def text (m : MethodForm) : List Char :=
  '(' :: m.parameters.flatMap TypeForm.text ++ ')' :: m.result.text

/-- The parameter types and the result type. -/
def types (m : MethodForm) : List Ty × Ty := (m.parameters.map TypeForm.ty, m.result.ty)

def names (m : MethodForm) : List Name := m.parameters.flatMap TypeForm.names ++ m.result.names

end MethodForm

/-! ## A form is determined by its text -/

theorem letter_inj {p q : Primitive} (h : letter p = letter q) : p = q := by
  cases p <;> cases q <;> first | rfl | exact absurd h (by decide)

theorem letter_ne {p : Primitive} {c : Char} (h : c ∈ [')', '[', 'L', 'V']) : letter p ≠ c := by
  rintro rfl
  cases p <;> revert h <;> decide

/-- A name goes as far as the first semicolon. -/
theorem eq_of_append_semicolon {cs ds rest rest' : List Char} (hcs : ';' ∉ cs) (hds : ';' ∉ ds)
    (h : cs ++ ';' :: rest = ds ++ ';' :: rest') : cs = ds ∧ rest = rest' := by
  induction cs generalizing ds with
  | nil =>
      cases ds with
      | nil => exact ⟨rfl, (List.cons.inj h).2⟩
      | cons d ds => exact absurd ((List.cons.inj h).1 ▸ List.mem_cons_self) hds
  | cons c cs ih =>
      cases ds with
      | nil => exact absurd ((List.cons.inj h).1 ▸ List.mem_cons_self) hcs
      | cons d ds =>
          obtain ⟨rfl, hothers⟩ := List.cons.inj h
          obtain ⟨rfl, hrest⟩ := ih (List.not_mem_of_not_mem_cons hcs)
            (List.not_mem_of_not_mem_cons hds) hothers
          exact ⟨rfl, hrest⟩

namespace TypeForm

/-- The text of a type starts with a character that has no other meaning in a descriptor. -/
theorem exists_cons (f : TypeForm) : ∃ c cs, f.text = c :: cs ∧ c ≠ ')' ∧ c ≠ 'V' := by
  cases f with
  | primitive p => exact ⟨letter p, [], rfl, letter_ne (by decide), letter_ne (by decide)⟩
  | named n => exact ⟨'L', _, rfl, by decide, by decide⟩
  | array element => exact ⟨'[', _, rfl, by decide, by decide⟩

/-- The text of a type can be cut off from what follows it in one way only. -/
theorem append_inj {f g : TypeForm} {rest rest' : List Char} (h : f.text ++ rest = g.text ++ rest') :
    f = g ∧ rest = rest' := by
  -- the first character tells which form it is, so forms of different kinds are ruled out by it
  induction f generalizing g with
  | primitive p =>
      cases g with
      | primitive q =>
          obtain ⟨hletter, hrest⟩ := List.cons.inj h
          exact ⟨congrArg primitive (letter_inj hletter), hrest⟩
      | named n => exact absurd (List.cons.inj h).1 (letter_ne (by decide))
      | array element => exact absurd (List.cons.inj h).1 (letter_ne (by decide))
  | named n =>
      cases g with
      | primitive q => exact absurd (List.cons.inj h).1.symm (letter_ne (by decide))
      | named m =>
          obtain ⟨cs, hne, hcs⟩ := n
          obtain ⟨ds, hne', hds⟩ := m
          have hname : cs ++ ';' :: rest = ds ++ ';' :: rest' := by simpa [text] using h
          obtain ⟨rfl, hrest⟩ := eq_of_append_semicolon hcs hds hname
          exact ⟨rfl, hrest⟩
      | array element => exact absurd (List.cons.inj h).1 (by decide)
  | array element ih =>
      cases g with
      | primitive q => exact absurd (List.cons.inj h).1.symm (letter_ne (by decide))
      | named n => exact absurd (List.cons.inj h).1 (by decide)
      | array element' =>
          obtain ⟨rfl, hrest⟩ := ih (List.cons.inj h).2
          exact ⟨rfl, hrest⟩

theorem flatMap_append_inj {fs gs : List TypeForm} {rest rest' : List Char}
    (h : fs.flatMap text ++ ')' :: rest = gs.flatMap text ++ ')' :: rest') :
    fs = gs ∧ rest = rest' := by
  induction fs generalizing gs with
  | nil =>
      cases gs with
      | nil => exact ⟨rfl, (List.cons.inj h).2⟩
      | cons g gs =>
          obtain ⟨c, cs, hg, hc, -⟩ := g.exists_cons
          rw [List.flatMap_cons, hg] at h
          exact absurd (List.cons.inj h).1.symm hc
  | cons f fs ih =>
      cases gs with
      | nil =>
          obtain ⟨c, cs, hf, hc, -⟩ := f.exists_cons
          rw [List.flatMap_cons, hf] at h
          exact absurd (List.cons.inj h).1 hc
      | cons g gs =>
          rw [List.flatMap_cons, List.flatMap_cons, List.append_assoc, List.append_assoc] at h
          obtain ⟨rfl, hothers⟩ := append_inj h
          obtain ⟨rfl, hrest⟩ := ih hothers
          exact ⟨rfl, hrest⟩

theorem text_inj {f g : TypeForm} (h : f.text = g.text) : f = g :=
  (append_inj (congrArg (· ++ []) h)).1

end TypeForm

theorem ResultForm.text_inj {r r' : ResultForm} (h : r.text = r'.text) : r = r' := by
  have htype : ∀ f : TypeForm, f.text ≠ ['V'] := by
    intro f hf
    obtain ⟨c, cs, hcons, -, hc⟩ := f.exists_cons
    exact hc (List.cons.inj (hcons.symm.trans hf)).1
  cases r with
  | void =>
      cases r' with
      | void => rfl
      | type g => exact absurd h.symm (htype g)
  | type f =>
      cases r' with
      | void => exact absurd h (htype f)
      | type g => exact congrArg type (TypeForm.text_inj h)

/-- A method descriptor can be taken apart in one way only. -/
theorem MethodForm.text_inj {m m' : MethodForm} (h : m.text = m'.text) : m = m' := by
  obtain ⟨parameters, result⟩ := m
  obtain ⟨parameters', result'⟩ := m'
  obtain ⟨rfl, hresult⟩ := TypeForm.flatMap_append_inj (List.cons.inj h).2
  obtain rfl : result = result' := ResultForm.text_inj hresult
  rfl

/-! ## A form in internal names is determined by what it denotes -/

/-- Every name in a form is in internal form. -/
def Internal (names : List Name) : Prop := ∀ n ∈ names, ClassName.Internal n.chars

theorem TypeForm.ty_inj {f g : TypeForm} (hf : Internal f.names) (hg : Internal g.names)
    (h : f.ty = g.ty) : f = g := by
  induction f generalizing g with
  | primitive p =>
      cases g with
      | primitive q => exact congrArg primitive (Ty.primitive.inj h)
      | named m => cases h
      | array element => cases h
  | named n =>
      cases g with
      | primitive q => cases h
      | named m =>
          obtain ⟨cs, hne, hcs⟩ := n
          obtain ⟨ds, hne', hds⟩ := m
          have hnames : cs = ds :=
            (hf _ List.mem_cons_self).parse_inj (hg _ List.mem_cons_self) (Ty.named.inj h)
          subst hnames
          rfl
      | array element => cases h
  | array element ih =>
      cases g with
      | primitive q => cases h
      | named m => cases h
      | array element' => exact congrArg array (ih hf hg (Ty.array.inj h))

theorem TypeForm.map_ty_inj {fs gs : List TypeForm} (hfs : Internal (fs.flatMap names))
    (hgs : Internal (gs.flatMap names)) (h : fs.map ty = gs.map ty) : fs = gs := by
  induction fs generalizing gs with
  | nil => exact (List.map_eq_nil_iff.mp h.symm).symm
  | cons f fs ih =>
      obtain ⟨g, gs, rfl, hg, hrest⟩ := List.map_eq_cons_iff.mp h.symm
      simp only [List.flatMap_cons, Internal, List.forall_mem_append] at hfs hgs
      rw [ty_inj hfs.1 hgs.1 hg.symm, ih hfs.2 hgs.2 hrest.symm]

theorem TypeForm.ty_ne_void (f : TypeForm) : f.ty ≠ .void := by
  cases f <;> exact nofun

theorem ResultForm.ty_inj {r r' : ResultForm} (hr : Internal r.names) (hr' : Internal r'.names)
    (h : r.ty = r'.ty) : r = r' := by
  cases r with
  | void =>
      cases r' with
      | void => rfl
      | type g => exact absurd h.symm g.ty_ne_void
  | type f =>
      cases r' with
      | void => exact absurd h f.ty_ne_void
      | type g => exact congrArg type (TypeForm.ty_inj hr hr' h)

theorem MethodForm.types_inj {m m' : MethodForm} (hm : Internal m.names) (hm' : Internal m'.names)
    (h : m.types = m'.types) : m = m' := by
  obtain ⟨parameters, result⟩ := m
  obtain ⟨parameters', result'⟩ := m'
  simp only [names, Internal, List.forall_mem_append] at hm hm'
  obtain ⟨hparameters, hresult⟩ := Prod.mk.inj h
  rw [TypeForm.map_ty_inj hm.1 hm'.1 hparameters, ResultForm.ty_inj hm.2 hm'.2 hresult]

end Devirt.Descriptor
