import Devirt.Proofs.Dispatch.TargetSets
import Devirt.Proofs.Hierarchy.SharedClasses

/-!
# Calls of shared classes

The target of a call depends only on the declarations above its class, so it is the same in two
universes that share these. In particular a new class that nobody names changes no target, and it is
all that the sets of possible targets can gain.
-/

namespace Devirt

open Devirt.Graph Diamond

section

variable {h h' : Hierarchy} {candidates : List MethodDeclaration} {search : DefaultSearch}
  {start : ClassDeclaration} {m : MethodSignature} {policy : DiamondPolicy}

theorem Hierarchy.mostSpecific_congr
    (hsub : ∀ a ∈ candidates, ∀ c, h'.isSubclass a.owner c = h.isSubclass a.owner c) :
    h'.mostSpecific candidates = h.mostSpecific candidates := by
  refine List.filter_congr fun a _ => congrArg (!·) ?_
  rw [Bool.eq_iff_iff, List.any_eq_true, List.any_eq_true]
  exact exists_congr fun b => and_congr_right fun hb => by rw [hsub b hb]

theorem DefaultSearch.searchOutcome_congr
    (hsub : ∀ a ∈ search.candidates, ∀ c, h'.isSubclass a.owner c = h.isSubclass a.owner c) :
    View.searchOutcome h' policy start m search = View.searchOutcome h policy start m search := by
  have hdefaults : h'.mostSpecific search.defaults = h.mostSpecific search.defaults :=
    Hierarchy.mostSpecific_congr fun a ha => hsub a (List.mem_append_left _ ha)
  have hcandidates : h'.mostSpecific (search.defaults ++ search.abstracts) =
      h.mostSpecific (search.defaults ++ search.abstracts) := Hierarchy.mostSpecific_congr hsub
  simp only [View.searchOutcome, View.defaultOutcome, View.chooseDefault, hdefaults, hcandidates]

end

namespace Universe

variable {u u' : Universe} {s : Set ClassName} {a i : ClassName} {d start : ClassDeclaration}
  {m r : MethodSignature} {sub : SubSignature}

namespace Shares

variable (h : u.Shares u' s)
include h

theorem chain (hstart : u.view.class? a = some start) (ha : a ∈ s) :
    u'.view.chain start = u.view.chain start := by
  obtain rfl := View.name_of_class? hstart
  have hsuper : u'.view.hierarchy.superclasses start.name =
      u.view.hierarchy.superclasses start.name := h.superclasses ha
  rw [View.chain, View.chain, hsuper]
  refine congrArg (start :: ·) (List.filterMap_congr fun c hc => h.class? c ?_)
  exact h.mem_of_below (Hierarchy.below_of_mem_superclasses hc) ha

theorem mem_of_interface (hstart : u.view.class? a = some start) (ha : a ∈ s)
    (hi : i ∈ (u.view.chain start).flatMap (·.interfaces)) : i ∈ s := by
  obtain ⟨d, hd, hi⟩ := List.mem_flatMap.mp hi
  obtain ⟨b, hb, hd⟩ := (View.mem_chain hstart).mp hd
  have hbs : b ∈ s := by
    rcases List.mem_cons.mp hb with rfl | hb
    · exact ha
    · exact h.mem_of_below (Hierarchy.below_of_mem_superclasses hb) ha
  rw [u.view_agrees b d hd] at hi
  exact h.closed b hbs i (Hierarchy.mem_supertypes_of_mem_interfaces hi)

theorem searchedInterfaces (hstart : u.view.class? a = some start) (ha : a ∈ s) :
    u'.view.searchedInterfaces (u.view.chain start) sub =
      u.view.searchedInterfaces (u.view.chain start) sub := by
  refine explore_congr (fun c hc => ?_) (fun c hc i hi => ?_) (fun c hc => h.mem_names_iff hc)
    fun i hi => h.mem_of_interface hstart ha hi
  · rw [View.searchStep, View.searchStep, h.class? c hc]
  -- The search turns back at some interfaces, but it goes nowhere else.
  · have hi := View.searchStep_subset u.view_agrees c hi
    exact h.closed c hc i (Hierarchy.mem_supertypes_of_mem_interfaces hi)

theorem mem_of_searched (hstart : u.view.class? a = some start) (ha : a ∈ s)
    (hi : i ∈ u.view.searchedInterfaces (u.view.chain start) sub) : i ∈ s := by
  have hreach := View.reaches_of_mem_searchedInterfaces u.view_agrees hi
  exact h.mem_of_below (View.hasInterface_of_reaches u.view_agrees hstart hreach).below ha

theorem searchDefaults (hstart : u.view.class? a = some start) (ha : a ∈ s) :
    u'.view.searchDefaults (u.view.chain start) sub =
      u.view.searchDefaults (u.view.chain start) sub := by
  have hfound : u'.view.found (u.view.chain start) sub = u.view.found (u.view.chain start) sub := by
    rw [View.found, View.found, h.searchedInterfaces hstart ha]
    exact List.filterMap_congr fun i hi => h.method? (h.mem_of_searched hstart ha hi)
  rw [View.searchDefaults_eq, View.searchDefaults_eq, hfound]

/-- A call on a shared class has the same outcome in both universes. -/
theorem concreteTarget (hm : m.owner ∈ s) (policy : DiamondPolicy) :
    u'.view.concreteTarget policy m = u.view.concreteTarget policy m := by
  have hclass : u'.view.class? m.owner = u.view.class? m.owner := h.class? m.owner hm
  cases u.view.stage m with
  | unresolved hstart =>
      rw [View.concreteTarget_of_unresolved hstart,
        View.concreteTarget_of_unresolved (hclass.trans hstart)]
  | declared start d hstart hd =>
      have hd' : (u'.view.chain start).findSome? (·.method? m.sub) = some d := by
        rw [h.chain hstart hm, hd]
      rw [View.concreteTarget_of_declared hstart hd,
        View.concreteTarget_of_declared (hclass.trans hstart) hd']
  | searched start hstart hnone =>
      have hnone' : (u'.view.chain start).findSome? (·.method? m.sub) = none := by
        rw [h.chain hstart hm, hnone]
      rw [View.concreteTarget_of_searched hstart hnone,
        View.concreteTarget_of_searched (hclass.trans hstart) hnone', h.chain hstart hm,
        h.searchDefaults hstart hm]
      refine DefaultSearch.searchOutcome_congr fun d hd c => h.isSubclass ?_
      obtain ⟨i, hi, hd⟩ := View.mem_found.mp (View.mem_candidates.mp hd)
      rw [View.owner_of_method? hd]
      exact h.mem_of_searched hstart hm hi

theorem receives_iff (hm : m.owner ∈ s) : u'.view.Receives m ↔ u.view.Receives m := by
  rw [View.Receives, h.method? hm, View.Receives]

theorem implements_iff (hm : m.owner ∈ s) : u'.view.Implements m ↔ u.view.Implements m := by
  rw [View.Implements, h.method? hm, View.Implements]

end Shares

/-! ## Calls past a new leaf -/

namespace NewLeaf

variable (hleaf : u.NewLeaf d) (hes : u'.classes.Perm (d :: u.classes))
include hes

theorem method?_leaf : u'.view.method? (m.onClass d.name) = d.method? m.sub :=
  View.method?_of_class? (class?_leaf hes)

include hleaf

theorem mem_receivers_iff :
    (∃ c ∈ u'.hierarchy.subtypes m.owner, m.onClass c = r ∧ u'.view.Receives (m.onClass c)) ↔
      (∃ c ∈ u.hierarchy.subtypes m.owner, m.onClass c = r ∧ u.view.Receives (m.onClass c)) ∨
        d.name ∈ u'.hierarchy.subtypes m.owner ∧ m.onClass d.name = r ∧
          ∀ e, d.method? m.sub = some e → e.isAbstract = false := by
  rw [← method?_leaf hes]
  exact hleaf.exists_subtype_iff hes fun c hc =>
    and_congr_right fun _ => (hleaf.shares hes).receives_iff hc

theorem mem_overrides_iff :
    (∃ c ∈ u'.hierarchy.subtypes m.owner, m.onClass c = r ∧ u'.view.Implements (m.onClass c)) ↔
      (∃ c ∈ u.hierarchy.subtypes m.owner, m.onClass c = r ∧ u.view.Implements (m.onClass c)) ∨
        d.name ∈ u'.hierarchy.subtypes m.owner ∧
          ∃ e, d.method? m.sub = some e ∧ e.isAbstract = false ∧ e.signature = r := by
  have hold : ∀ c, c ≠ d.name →
      (m.onClass c = r ∧ u'.view.Implements (m.onClass c) ↔
        m.onClass c = r ∧ u.view.Implements (m.onClass c)) := fun c hc =>
    and_congr_right fun _ => (hleaf.shares hes).implements_iff hc
  rw [hleaf.exists_subtype_iff hes hold]
  refine or_congr_right (and_congr_right fun _ => ?_)
  rw [View.Implements, method?_leaf hes]
  constructor
  · rintro ⟨rfl, e, he, hconcrete⟩
    exact ⟨e, he, hconcrete, ClassDeclaration.signature_of_method? he⟩
  · rintro ⟨e, he, hconcrete, rfl⟩
    exact ⟨(ClassDeclaration.signature_of_method? he).symm, e, he, hconcrete⟩

end NewLeaf

end Universe

/-- A class that nobody declares or names can be declared at any place. Calls on the other classes have
the outcomes that they had. Their receivers gain the new class if it is a subtype and does not declare
the method abstract, and their overrides gain what it declares if it is a subtype and implements the
method. A new class is a subtype of what it names and of everything above that, so of the root class only
if edges lead there. -/
theorem newLeaf_dispatch (u : Universe) (d : ClassDeclaration) (hleaf : u.NewLeaf d)
    (before after : List ClassDeclaration) (hclasses : u.classes = before ++ after) :
    ∃ u', Universe.ofClasses (before ++ d :: after) = .ok u' ∧ u'.classes = before ++ d :: after ∧
      ∀ m : MethodSignature, m.owner ≠ d.name →
        (∀ policy, u'.view.concreteTarget policy m = u.view.concreteTarget policy m) ∧
        (d.name ∈ u'.hierarchy.subtypes m.owner ↔
          ∃ p ∈ d.supertypes, p = m.owner ∨ p ∈ u.hierarchy.subtypes m.owner) ∧
        ∃ all all' own own', u.view.receivers m = .ok all ∧ u'.view.receivers m = .ok all' ∧
          u.view.overrides m = .ok own ∧ u'.view.overrides m = .ok own' ∧
          (∀ r, r ∈ all' ↔ r ∈ all ∨ d.name ∈ u'.hierarchy.subtypes m.owner ∧
            m.onClass d.name = r ∧ ∀ e, d.method? m.sub = some e → e.isAbstract = false) ∧
          ∀ r, r ∈ own' ↔ r ∈ own ∨ d.name ∈ u'.hierarchy.subtypes m.owner ∧
            ∃ e, d.method? m.sub = some e ∧ e.isAbstract = false ∧ e.signature = r := by
  have hplace : (before ++ d :: after).Perm (d :: u.classes) := hclasses ▸ List.perm_middle
  obtain ⟨u', hu', hclasses'⟩ := hleaf.exists_ofClasses hplace
  have hes : u'.classes.Perm (d :: u.classes) := hclasses' ▸ hplace
  refine ⟨u', hu', hclasses', fun m hm =>
    ⟨(hleaf.shares hes).concreteTarget hm, hleaf.mem_subtypes_iff hes, ?_⟩⟩
  obtain ⟨all, hall, hreceiver⟩ := u.exists_receivers m
  obtain ⟨all', hall', hreceiver'⟩ := u'.exists_receivers m
  obtain ⟨own, hown, hoverride⟩ := u.exists_overrides m
  obtain ⟨own', hown', hoverride'⟩ := u'.exists_overrides m
  refine ⟨all, all', own, own', hall, hall', hown, hown', fun r => ?_, fun r => ?_⟩
  · rw [hreceiver', hreceiver]
    exact hleaf.mem_receivers_iff hes
  · rw [hoverride', hoverride]
    exact hleaf.mem_overrides_iff hes

namespace Diamond

def leaf : ClassDeclaration :=
  declare (name "Leaf") 0x0001 (name "Derived") [name "Missing"] (some 0x0001)

end Diamond

/-- Declared among the others, a class below `Derived` leaves the target of `Derived` as it is, and
becomes the one override of `Right`. -/
theorem newLeaf_dispatch_diamond :
    whole.NewLeaf leaf ∧
    ∃ u', Universe.ofClasses (classes.take 2 ++ leaf :: classes.drop 2) = .ok u' ∧
      u'.view.concreteTarget .strict ⟨name "Derived", run⟩ = .ok (some ⟨name "Left", run⟩) ∧
      ∃ own, u'.view.overrides ⟨name "Right", run⟩ = .ok own ∧
        ∀ r, r ∈ own ↔ r = ⟨name "Leaf", run⟩ := by
  have hleaf : whole.NewLeaf leaf := ⟨by decide, by decide, by decide⟩
  obtain ⟨⟨_, nodup, acyclic⟩, hu', rfl, hcalls⟩ :=
    newLeaf_dispatch whole leaf hleaf (classes.take 2) (classes.drop 2) rfl
  obtain ⟨htarget, _⟩ := hcalls ⟨name "Derived", run⟩ (by decide)
  obtain ⟨_, hsubtype, _, _, own, own', _, _, hown, hown', _, hoverride⟩ :=
    hcalls ⟨name "Right", run⟩ (by decide)
  have hbefore : whole.view.concreteTarget .strict ⟨name "Derived", run⟩ =
      .ok (some ⟨name "Left", run⟩) := by cbv
  have hnone : whole.view.overrides ⟨name "Right", run⟩ = .ok [] := by cbv
  have hright : whole.hierarchy.subtypes (name "Right") = [name "Base", name "Derived"] := by cbv
  have hmem := hsubtype.mpr ⟨name "Derived", by decide, Or.inr (by simp [hright])⟩
  have hmethod : leaf.method? run = some (method (name "Leaf") 0x0001) := by cbv
  obtain rfl : [] = own := Except.ok.inj (hnone.symm.trans hown)
  refine ⟨hleaf, _, hu', (htarget .strict).trans hbefore, own', hown', fun r => ?_⟩
  rw [hoverride, hmethod]
  constructor
  · rintro (hr | ⟨_, e, he, _, rfl⟩)
    · cases hr
    · cases he
      rfl
  · rintro rfl
    exact Or.inr ⟨hmem, _, rfl, by decide, rfl⟩

end Devirt
