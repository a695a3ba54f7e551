import Devirt.Proofs.Hierarchy.Subtyping

/-!
# The order between types

Subtyping follows five rules. Where the classes are ordered, and nothing but the root class lies above
the two interfaces of arrays, the rules make a partial order of all types, and methods override each
other along it.
-/

namespace Devirt

open Relation Devirt.Graph

namespace Hierarchy

variable {h : Hierarchy} {r s t : Ty}

/-! ## The rules -/

/-- The rules by which one type is a subtype of another one. -/
inductive SubtypeOf (h : Hierarchy) : Ty → Ty → Prop
  | refl (t : Ty) : SubtypeOf h t t
  | null {t : Ty} : t.isReference → SubtypeOf h .null t
  | subclass {a b : ClassName} : h.isSubclass a b → SubtypeOf h (.named a) (.named b)
  | arrayClass {t : Ty} {c : ClassName} : isArraySuperclass c → SubtypeOf h (.array t) (.named c)
  | array {s t : Ty} : s.isReference → t.isReference → SubtypeOf h s t →
      SubtypeOf h (.array s) (.array t)

theorem subtypeOf_of_isSubtype (hst : h.isSubtype s t) : h.SubtypeOf s t := by
  fun_induction isSubtype h s t with
  | case1 s t ih =>
      rcases Bool.or_eq_true_iff.mp hst with heq | hrule
      · obtain rfl := of_decide_eq_true heq
        exact .refl s
      · split at hrule
        · exact .null hrule
        · exact .subclass hrule
        · exact .arrayClass hrule
        · rw [Bool.and_eq_true, Bool.and_eq_true] at hrule
          exact .array hrule.1.1 hrule.1.2 (ih hrule.2)
        · cases hrule

theorem isSubtype_iff : h.isSubtype s t ↔ h.SubtypeOf s t := by
  refine ⟨subtypeOf_of_isSubtype, fun hst => ?_⟩
  induction hst with
  | refl t => cases t <;> simp [isSubtype]
  | null href => simp [isSubtype, href]
  | subclass hab => simp [isSubtype, hab]
  | arrayClass hc => simp [isSubtype, hc]
  | array hs ht _ ih => simp [isSubtype, hs, ht, ih]

theorem isSubtype_refl (t : Ty) : h.isSubtype t t := isSubtype_iff.mpr (.refl t)

/-! ## The order laws -/

namespace SubtypeOf

/-- Above a reference type there are only reference types. -/
theorem isReference (hst : h.SubtypeOf s t) (hs : s.isReference) : t.isReference := by
  cases hst with
  | refl => exact hs
  | null href => exact href
  | subclass _ => rfl
  | arrayClass _ => rfl
  | array _ _ _ => rfl

theorem antisymm (ho : h.Ordered) (hst : h.SubtypeOf s t) (hts : h.SubtypeOf t s) : s = t := by
  induction hst with
  | refl => rfl
  | null _ =>
      -- Nothing but the null type lies below the null type.
      cases hts
      · rfl
      · rfl
  | subclass hab =>
      cases hts with
      | refl => rfl
      | subclass hba => rw [ho.isSubclass_antisymm hab hba]
  | arrayClass _ => cases hts
  | array _ _ _ ih =>
      cases hts with
      | refl => rfl
      | array _ _ hts => rw [ih hts]

end SubtypeOf

/-- What lies above a class that all arrays are of is another such class. -/
def ArraysClosed (h : Hierarchy) : Prop :=
  ∀ a b, isArraySuperclass a → h.isSubclass a b → isArraySuperclass b

theorem SubtypeOf.trans (ho : h.Ordered) (harrays : h.ArraysClosed) (hrs : h.SubtypeOf r s)
    (hst : h.SubtypeOf s t) : h.SubtypeOf r t := by
  induction hrs generalizing t with
  | refl => exact hst
  | null href => exact .null (hst.isReference href)
  | subclass hab =>
      cases hst with
      | refl => exact .subclass hab
      | subclass hbc => exact .subclass (ho.isSubclass_trans hab hbc)
  | arrayClass ha =>
      cases hst with
      | refl => exact .arrayClass ha
      | subclass hab => exact .arrayClass (harrays _ _ ha hab)
  | array hr hs hrs ih =>
      cases hst with
      | refl => exact .array hr hs hrs
      | arrayClass hc => exact .arrayClass hc
      | array _ ht hst => exact .array hr ht (ih hst)

theorem isSubtype_antisymm (ho : h.Ordered) (hst : h.isSubtype s t) (hts : h.isSubtype t s) :
    s = t :=
  (isSubtype_iff.mp hst).antisymm ho (isSubtype_iff.mp hts)

theorem isSubtype_trans (ho : h.Ordered) (harrays : h.ArraysClosed) (hrs : h.isSubtype r s)
    (hst : h.isSubtype s t) : h.isSubtype r t :=
  isSubtype_iff.mpr ((isSubtype_iff.mp hrs).trans ho harrays (isSubtype_iff.mp hst))

/-! ## Overriding -/

theorem canOverride_iff {m n : MethodSignature} :
    h.canOverride m n ↔ m.sub.name = n.sub.name ∧ m.sub.parameters = n.sub.parameters ∧
      h.isSubtype n.sub.result m.sub.result := by
  simp [canOverride, and_assoc]

theorem canOverride_refl (m : MethodSignature) : h.canOverride m m :=
  canOverride_iff.mpr ⟨rfl, rfl, isSubtype_refl _⟩

theorem canOverride_trans (ho : h.Ordered) (harrays : h.ArraysClosed) {l m n : MethodSignature}
    (hlm : h.canOverride l m) (hmn : h.canOverride m n) : h.canOverride l n := by
  obtain ⟨hname, hparameters, hresult⟩ := canOverride_iff.mp hlm
  obtain ⟨hname', hparameters', hresult'⟩ := canOverride_iff.mp hmn
  exact canOverride_iff.mpr ⟨hname.trans hname', hparameters.trans hparameters',
    isSubtype_trans ho harrays hresult' hresult⟩

end Hierarchy

/-! ## Universes -/

/-- The interfaces of arrays, where they are declared, name no supertype but the root class. -/
def Universe.ArrayInterfacesRooted (u : Universe) : Prop :=
  ∀ d ∈ u.classes, d.name.text ∈ Hierarchy.arrayInterfaces → ∀ s ∈ d.supertypes, s = .object

theorem Universe.arraysClosed {u : Universe} (hroot : u.Rooted)
    (harrays : u.ArrayInterfacesRooted) : u.hierarchy.ArraysClosed := by
  intro a b ha hab
  rcases Hierarchy.isSubclass_iff.mp hab with rfl | rfl | hbelow
  · exact ha
  · rfl
  · -- The first class on the way up is the root class, and nothing lies above it.
    obtain ⟨c, hac, hcb⟩ := TransGen.head'_iff.mp hbelow
    obtain ⟨d, hd, rfl, hc⟩ := (Hierarchy.mem_supertypes_ofClasses u.nodup).mp hac
    have hc : c = .object := by
      rcases Bool.or_eq_true_iff.mp ha with hobject | htext
      · have hname : d.name = .object := of_decide_eq_true hobject
        rw [hroot d hd hname] at hc
        simp at hc
      · exact harrays d hd (of_decide_eq_true htext) c hc
    subst hc
    rcases reflTransGen_iff_eq_or_transGen.mp hcb with rfl | habove
    · rfl
    · exact absurd habove hroot.ordered.not_below

/-- Subtyping is a partial order on all types, with primitive types, arrays of any depth and the types
without values among them. Overriding is reflexive and transitive. -/
theorem isSubtype_partialOrder (u : Universe) (hroot : u.Rooted)
    (harrays : u.ArrayInterfacesRooted) :
    (∀ t, u.hierarchy.isSubtype t t) ∧
    (∀ s t, u.hierarchy.isSubtype s t → u.hierarchy.isSubtype t s → s = t) ∧
    (∀ r s t, u.hierarchy.isSubtype r s → u.hierarchy.isSubtype s t → u.hierarchy.isSubtype r t) ∧
    (∀ m, u.hierarchy.canOverride m m) ∧
    (∀ l m n, u.hierarchy.canOverride l m → u.hierarchy.canOverride m n →
      u.hierarchy.canOverride l n) := by
  have ho : u.hierarchy.Ordered := hroot.ordered
  have hclosed : u.hierarchy.ArraysClosed := Universe.arraysClosed hroot harrays
  exact ⟨Hierarchy.isSubtype_refl, fun _ _ => Hierarchy.isSubtype_antisymm ho,
    fun _ _ _ => Hierarchy.isSubtype_trans ho hclosed, Hierarchy.canOverride_refl,
    fun _ _ _ => Hierarchy.canOverride_trans ho hclosed⟩

/-! ## A universe with the interfaces of arrays -/

namespace Arrays

def cloneable : ClassName := ⟨"java.lang", "Cloneable"⟩

def serializable : ClassName := ⟨"java.io", "Serializable"⟩

def shape : ClassName := ⟨"", "Shape"⟩

def classes : List ClassDeclaration :=
  [{ name := .object, modifiers := ⟨0x0001⟩, superclass? := none, interfaces := [] },
    { name := cloneable, modifiers := ⟨0x0601⟩, superclass? := some .object, interfaces := [] },
    { name := serializable, modifiers := ⟨0x0601⟩, superclass? := some .object, interfaces := [] },
    { name := shape, modifiers := ⟨0x0001⟩, superclass? := some .object, interfaces := [cloneable] }]

def whole : Universe := ⟨classes, by decide, by cbv⟩

end Arrays

/-- Two-dimensional arrays of shapes are arrays of what can be cloned, and these can be serialised. -/
theorem isSubtype_partialOrder_arrays :
    Arrays.whole.Rooted ∧ Arrays.whole.ArrayInterfacesRooted ∧
    Arrays.whole.hierarchy.isSubtype (.array (.array (.named Arrays.shape)))
      (.named Arrays.serializable) := by
  have hroot : Arrays.whole.Rooted := by
    unfold Universe.Rooted
    decide
  have harrays : Arrays.whole.ArrayInterfacesRooted := by
    unfold Universe.ArrayInterfacesRooted
    decide
  have hcloneable : Arrays.whole.hierarchy.isSubtype (.array (.array (.named Arrays.shape)))
      (.array (.named Arrays.cloneable)) :=
    Hierarchy.isSubtype_iff.mpr (.array rfl rfl (.arrayClass (by decide)))
  have hserializable : Arrays.whole.hierarchy.isSubtype (.array (.named Arrays.cloneable))
      (.named Arrays.serializable) :=
    Hierarchy.isSubtype_iff.mpr (.arrayClass (by decide))
  have htrans := (isSubtype_partialOrder Arrays.whole hroot harrays).2.2.1
  exact ⟨hroot, harrays, htrans _ _ _ hcloneable hserializable⟩

end Devirt
