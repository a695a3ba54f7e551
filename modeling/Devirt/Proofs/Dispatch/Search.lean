import Devirt.Dispatch.Concrete
import Devirt.Proofs.Dispatch.Specificity

/-!
# What the search for default methods finds

The search goes through the interfaces above a class and turns back at each one that declares the
method. Every declaration that it misses lies behind one that it found, and is less specific.
-/

namespace Devirt

open Relation Devirt.Graph

namespace View

variable {v : View} {chain : List ClassDeclaration} {sub : SubSignature}

/-! ## The chain of a call -/

theorem mem_chain {a start d} (hstart : v.class? a = some start) :
    d ∈ v.chain start ↔ ∃ b ∈ a :: v.hierarchy.superclasses a, v.class? b = some d := by
  obtain rfl := name_of_class? hstart
  simp only [chain, List.mem_cons, List.mem_filterMap]
  constructor
  · rintro (rfl | ⟨b, hb, hd⟩)
    · exact ⟨d.name, Or.inl rfl, hstart⟩
    · exact ⟨b, Or.inr hb, hd⟩
  · rintro ⟨b, rfl | hb, hd⟩
    · exact Or.inl (Option.some.inj (hd.symm.trans hstart))
    · exact Or.inr ⟨b, hb, hd⟩

theorem chain_declares_nothing {a start} (hstart : v.class? a = some start) :
    (v.chain start).findSome? (·.method? sub) = none ↔
      ∀ b ∈ a :: v.hierarchy.superclasses a, v.method? ⟨b, sub⟩ = none := by
  rw [List.findSome?_eq_none_iff]
  constructor
  · intro hchain b hb
    cases hd : v.class? b with
    | none => simp [method?, hd]
    | some d =>
        rw [method?_of_class? hd]
        exact hchain d ((mem_chain hstart).mpr ⟨b, hb, hd⟩)
  · intro hnone d hd
    obtain ⟨b, hb, hd⟩ := (mem_chain hstart).mp hd
    rw [← method?_of_class? hd]
    exact hnone b hb

/-- The classes that the view does not resolve are passed over. -/
theorem findSome?_chain {a start} (hstart : v.class? a = some start) :
    (v.chain start).findSome? (·.method? sub) =
      (a :: v.hierarchy.superclasses a).findSome? fun b => v.method? ⟨b, sub⟩ := by
  obtain rfl := name_of_class? hstart
  rw [chain, List.findSome?_cons, List.findSome?_cons, method?_of_class? hstart,
    ← List.head?_filterMap, List.filterMap_filterMap, List.head?_filterMap]
  rfl

theorem declared_in_chain {a start d} (hstart : v.class? a = some start)
    (hd : (v.chain start).findSome? (·.method? sub) = some d) :
    ∃ b ∈ a :: v.hierarchy.superclasses a, v.method? ⟨b, sub⟩ = some d := by
  obtain ⟨c, hc, hd⟩ := List.exists_of_findSome?_eq_some hd
  obtain ⟨b, hb, hc⟩ := (mem_chain hstart).mp hc
  exact ⟨b, hb, by rw [method?_of_class? hc, hd]⟩

/-! ## What is found -/

/-- The declarations that a search finds, in the order of discovery. -/
def found (v : View) (chain : List ClassDeclaration) (sub : SubSignature) :
    List MethodDeclaration :=
  (v.searchedInterfaces chain sub).filterMap fun c => v.method? ⟨c, sub⟩

theorem searchDefaults_eq : v.searchDefaults chain sub =
    ⟨(v.found chain sub).filter (!·.isAbstract), (v.found chain sub).filter (·.isAbstract)⟩ := rfl

theorem mem_found {d} : d ∈ v.found chain sub ↔
    ∃ i ∈ v.searchedInterfaces chain sub, v.method? ⟨i, sub⟩ = some d :=
  List.mem_filterMap

theorem mem_defaults {d} : d ∈ (v.searchDefaults chain sub).defaults ↔
    d ∈ v.found chain sub ∧ d.isAbstract = false := by
  simp [searchDefaults_eq]

theorem mem_abstracts {d} : d ∈ (v.searchDefaults chain sub).abstracts ↔
    d ∈ v.found chain sub ∧ d.isAbstract = true := by
  simp [searchDefaults_eq]

theorem mem_candidates {d} :
    d ∈ (v.searchDefaults chain sub).defaults ++ (v.searchDefaults chain sub).abstracts ↔
      d ∈ v.found chain sub := by
  rw [List.mem_append, mem_defaults, mem_abstracts]
  cases d.isAbstract <;> simp

/-! ## Declarations are told apart by their interfaces -/

/-- The declarations that the view resolves under one sub-signature. -/
def declarations (v : View) (sub : SubSignature) : Set MethodDeclaration :=
  {d | v.method? ⟨d.owner, sub⟩ = some d}

theorem mem_declarations {i d} (h : v.method? ⟨i, sub⟩ = some d) : d ∈ v.declarations sub := by
  have howner := owner_of_method? h
  show v.method? ⟨d.owner, sub⟩ = some d
  rwa [howner]

theorem byOwner_declarations : Hierarchy.ByOwner (v.declarations sub) := by
  intro a ha b hb hab
  have ha : v.method? ⟨a.owner, sub⟩ = some a := ha
  have hb : v.method? ⟨b.owner, sub⟩ = some b := hb
  rw [hab, hb] at ha
  exact (Option.some.inj ha).symm

theorem found_subset_declarations {d} (h : d ∈ v.found chain sub) : d ∈ v.declarations sub := by
  obtain ⟨i, _, hd⟩ := mem_found.mp h
  exact mem_declarations hd

theorem nodup_found : (v.found chain sub).Nodup := by
  refine nodup_explore.filterMap fun i j d hi hj => ?_
  exact (owner_of_method? hi).symm.trans (owner_of_method? hj)

theorem nodup_candidates :
    ((v.searchDefaults chain sub).defaults ++ (v.searchDefaults chain sub).abstracts).Nodup := by
  refine List.nodup_append.mpr ⟨nodup_found.filter _, nodup_found.filter _, ?_⟩
  rintro a ha b hb rfl
  have hdefault := (mem_defaults.mp ha).2
  have habstract := (mem_abstracts.mp hb).2
  simp [hdefault] at habstract

/-! ## Where the search goes -/

theorem searchStep_subset (hv : v.Agrees) (c : ClassName) :
    v.searchStep sub c ⊆ v.hierarchy.interfaces c := by
  unfold searchStep
  split
  · rename_i d hd
    split
    · simp
    · rw [hv c d hd]
      exact fun _ h => h
  · simp

theorem searchStep_of_undeclared (hv : v.Agrees) {c} (hc : c ∈ v.classes.map (·.name))
    (hnone : v.method? ⟨c, sub⟩ = none) : v.searchStep sub c = v.hierarchy.interfaces c := by
  obtain ⟨d, hd⟩ := mem_names_iff.mp hc
  rw [method?_of_class? hd] at hnone
  simp [searchStep, hd, hnone, hv c d hd]

/-- The interfaces above some classes that paths through resolved interfaces lead to. -/
def Reaches (v : View) (chain : List ClassDeclaration) (i : ClassName) : Prop :=
  ∃ j ∈ chain.flatMap (·.interfaces), j ∈ v.classes.map (·.name) ∧
    ReflTransGen (EdgeWithin v.hierarchy.interfaces (v.classes.map (·.name))) j i

theorem reaches_of_mem_searchedInterfaces (hv : v.Agrees) {i}
    (hi : i ∈ v.searchedInterfaces chain sub) : v.Reaches chain i := by
  obtain ⟨j, hj, hjn, hpath⟩ := mem_explore.mp hi
  refine ⟨j, hj, hjn, ReflTransGen.mono (fun a b hab => ?_) _ _ hpath⟩
  exact ⟨searchStep_subset hv a hab.1, hab.2⟩

theorem hasInterface_of_reaches (hv : v.Agrees) {a start i}
    (hstart : v.class? a = some start) (hi : v.Reaches (v.chain start) i) :
    v.hierarchy.HasInterface a i := by
  obtain ⟨j, hj, _, hpath⟩ := hi
  obtain ⟨d, hd, hjd⟩ := List.mem_flatMap.mp hj
  obtain ⟨b, hb, hd⟩ := (mem_chain hstart).mp hd
  rw [hv b d hd] at hjd
  exact ⟨b, hb, j, hjd, ReflTransGen.mono (fun _ _ => EdgeWithin.edge) _ _ hpath⟩

/-- A path that leads to a declaration leads past a first one, up to which the search follows it. -/
theorem exists_first_declaration (hv : v.Agrees) {j i} (hj : j ∈ v.classes.map (·.name))
    (hpath : ReflTransGen (EdgeWithin v.hierarchy.interfaces (v.classes.map (·.name))) j i)
    {d} (hd : v.method? ⟨i, sub⟩ = some d) :
    ∃ k e, ReflTransGen (EdgeWithin (v.searchStep sub) (v.classes.map (·.name))) j k ∧
      v.method? ⟨k, sub⟩ = some e ∧ ReflTransGen (Edge v.hierarchy.interfaces) k i := by
  induction hpath using ReflTransGen.head_induction_on with
  | refl => exact ⟨i, d, .refl, hd, .refl⟩
  | @head a b hab hbi ih =>
      cases ha : v.method? ⟨a, sub⟩ with
      | some e =>
          have hbi := ReflTransGen.mono (fun _ _ => EdgeWithin.edge) _ _ hbi
          exact ⟨a, e, .refl, ha, .head hab.edge hbi⟩
      | none =>
          obtain ⟨k, e, hbk, he, hki⟩ := ih hab.2
          have hstep : EdgeWithin (v.searchStep sub) (v.classes.map (·.name)) a b := by
            refine ⟨?_, hab.2⟩
            rw [searchStep_of_undeclared hv hj ha]
            exact hab.1
          exact ⟨k, e, .head hstep hbk, he, hki⟩

/-- Some declaration that the search finds is as specific as any that lies above. -/
theorem exists_found (hv : v.Agrees) {i d} (hi : v.Reaches chain i)
    (hd : v.method? ⟨i, sub⟩ = some d) :
    ∃ e ∈ v.found chain sub, v.hierarchy.isSubclass e.owner d.owner := by
  obtain ⟨j, hj, hjn, hpath⟩ := hi
  obtain ⟨k, e, hjk, he, hki⟩ := exists_first_declaration hv hjn hpath hd
  refine ⟨e, mem_found.mpr ⟨k, mem_explore.mpr ⟨j, hj, hjn, hjk⟩, he⟩, ?_⟩
  rw [owner_of_method? he, owner_of_method? hd]
  exact Hierarchy.isSubclass_of_interface_path hki

/-- Nothing is found exactly if no interface above declares the method. -/
theorem found_eq_nil_iff (hv : v.Agrees) :
    v.found chain sub = [] ↔ ∀ i, v.Reaches chain i → v.method? ⟨i, sub⟩ = none := by
  constructor
  · intro hnil i hi
    cases hd : v.method? ⟨i, sub⟩ with
    | none => rfl
    | some d =>
        obtain ⟨e, he, _⟩ := exists_found hv hi hd
        simp [hnil] at he
  · intro hnone
    refine List.eq_nil_iff_forall_not_mem.mpr fun d hd => ?_
    obtain ⟨i, hi, hd⟩ := mem_found.mp hd
    simp [hnone i (reaches_of_mem_searchedInterfaces hv hi)] at hd

end View

end Devirt
