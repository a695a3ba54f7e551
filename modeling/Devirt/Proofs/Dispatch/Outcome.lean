import Devirt.Proofs.Dispatch.Search

/-!
# The stages of a virtual call

A call ends at one of three stages: its class is not resolved, a class of the chain declares the
method, or the interfaces are searched. Only the search depends on the policy, and only where it found
a default method. Under the strict policy the declarations that it found then compete.
-/

namespace Devirt

theorem abstractOutcome_ne_some {start : ClassDeclaration} {d : MethodDeclaration} {t} :
    View.abstractOutcome start d ≠ .ok (some t) := by
  unfold View.abstractOutcome
  split <;> simp

theorem abstractOutcome_ne_noConcrete {start : ClassDeclaration} {d : MethodDeclaration} {n} :
    View.abstractOutcome start d ≠ .error (.noConcreteImplementation n) := by
  unfold View.abstractOutcome
  split <;> simp

theorem chooseDefault_ne_noConcrete {h : Hierarchy} {policy : DiamondPolicy} {m n ds} :
    View.chooseDefault h policy m ds ≠ .error (.noConcreteImplementation n) := by
  unfold View.chooseDefault
  dsimp only
  split <;> simp

theorem eq_of_classOutcome_eq_some {start : ClassDeclaration} {d : MethodDeclaration} {t}
    (h : View.classOutcome start d = .ok (some t)) : d.isAbstract = false ∧ d.signature = t := by
  unfold View.classOutcome at h
  split at h
  · rename_i hd
    simp only [Except.ok.injEq, Option.some.injEq] at h
    exact ⟨by simpa using hd, h⟩
  · split at h <;> simp at h

theorem classOutcome_of_concrete {start : ClassDeclaration} {d : MethodDeclaration}
    (hd : d.isAbstract = false) : View.classOutcome start d = .ok (some d.signature) := by
  simp [View.classOutcome, hd]

namespace View

variable {v : View} {m : MethodSignature} {policy : DiamondPolicy}

/-- Where the resolution of a call ends. -/
inductive Stage (v : View) (m : MethodSignature) : Prop
  | unresolved : v.class? m.owner = none → Stage v m
  | declared (start d) : v.class? m.owner = some start →
      (v.chain start).findSome? (·.method? m.sub) = some d → Stage v m
  | searched (start) : v.class? m.owner = some start →
      (v.chain start).findSome? (·.method? m.sub) = none → Stage v m

theorem stage (v : View) (m : MethodSignature) : v.Stage m := by
  cases hstart : v.class? m.owner with
  | none => exact .unresolved hstart
  | some start =>
      cases hd : (v.chain start).findSome? (·.method? m.sub) with
      | none => exact .searched start hstart hd
      | some d => exact .declared start d hstart hd

theorem concreteTarget_of_unresolved (h : v.class? m.owner = none) :
    v.concreteTarget policy m = .error (.classNotInView m.owner) := by
  simp [concreteTarget, h]

theorem concreteTarget_of_declared {start d} (hstart : v.class? m.owner = some start)
    (hd : (v.chain start).findSome? (·.method? m.sub) = some d) :
    v.concreteTarget policy m = classOutcome start d := by
  simp [concreteTarget, hstart, hd]

theorem concreteTarget_of_searched {start} (hstart : v.class? m.owner = some start)
    (hnone : (v.chain start).findSome? (·.method? m.sub) = none) :
    v.concreteTarget policy m =
      searchOutcome v.hierarchy policy start m (v.searchDefaults (v.chain start) m.sub) := by
  simp [concreteTarget, hstart, hnone]

end View

/-! ## Outcomes of a search -/

namespace DefaultSearch

variable {search : DefaultSearch} {h : Hierarchy} {start : ClassDeclaration} {m : MethodSignature}
  {policy : DiamondPolicy}

/-- What a search found: nothing, only abstract declarations, or a default method. -/
inductive Finding (search : DefaultSearch) : Prop
  | nothing : search.defaults = [] → search.abstracts = [] → Finding search
  | onlyAbstract (d) : search.defaults = [] → search.abstracts.head? = some d → Finding search
  | defaults : search.defaults ≠ [] → Finding search

theorem finding (search : DefaultSearch) : search.Finding := by
  by_cases hdefaults : search.defaults = []
  · cases habstracts : search.abstracts with
    | nil => exact .nothing hdefaults habstracts
    | cons d rest => exact .onlyAbstract d hdefaults (by simp [habstracts])
  · exact .defaults hdefaults

theorem searchOutcome_of_nothing (hdefaults : search.defaults = [])
    (habstracts : search.abstracts = []) :
    View.searchOutcome h policy start m search = .error (.noConcreteImplementation m) := by
  simp [View.searchOutcome, hdefaults, habstracts]

theorem searchOutcome_of_onlyAbstract {d} (hdefaults : search.defaults = [])
    (hd : search.abstracts.head? = some d) :
    View.searchOutcome h policy start m search = View.abstractOutcome start d := by
  simp [View.searchOutcome, hdefaults, hd]

theorem searchOutcome_of_defaults (hdefaults : search.defaults ≠ []) :
    View.searchOutcome h policy start m search = View.defaultOutcome h policy start m search := by
  simp [View.searchOutcome, hdefaults]

theorem defaultOutcome_discoveryOrder :
    View.defaultOutcome h .discoveryOrder start m search =
      .ok ((h.mostSpecific search.defaults).head?.map (·.signature)) := by
  simp [View.defaultOutcome, View.chooseDefault]

/-- By order of discovery some default method is always taken. -/
theorem exists_default_target (ho : h.Ordered) (hdefaults : search.defaults ≠ []) :
    ∃ d ∈ search.defaults,
      View.defaultOutcome h .discoveryOrder start m search = .ok (some d.signature) := by
  rw [defaultOutcome_discoveryOrder]
  cases hbest : h.mostSpecific search.defaults with
  | nil => exact absurd hbest (ho.mostSpecific_ne_nil hdefaults)
  | cons best rest =>
      have hmem : best ∈ h.mostSpecific search.defaults := hbest ▸ List.mem_cons_self
      exact ⟨best, Hierarchy.mem_of_mem_mostSpecific hmem, rfl⟩

theorem chooseDefault_of_singleton {ds best} (hbest : h.mostSpecific ds = [best]) :
    View.chooseDefault h policy m ds = .ok (some best.signature) := by
  simp [View.chooseDefault, hbest]

def candidates (search : DefaultSearch) : List MethodDeclaration :=
  search.defaults ++ search.abstracts

theorem defaultOutcome_ne_noConcrete {n} :
    View.defaultOutcome h policy start m search ≠ .error (.noConcreteImplementation n) := by
  cases policy with
  | discoveryOrder => simp [defaultOutcome_discoveryOrder]
  | strict =>
      unfold View.defaultOutcome
      dsimp only
      split
      · exact chooseDefault_ne_noConcrete
      · split
        · exact abstractOutcome_ne_noConcrete
        · exact chooseDefault_ne_noConcrete
      · simp

/-- A method has no implementation exactly if the search found no declaration at all. -/
theorem searchOutcome_eq_noConcrete_iff {n} :
    View.searchOutcome h policy start m search = .error (.noConcreteImplementation n) ↔
      n = m ∧ search.candidates = [] := by
  cases search.finding with
  | nothing hdefaults habstracts =>
      rw [searchOutcome_of_nothing hdefaults habstracts]
      simp [candidates, hdefaults, habstracts, eq_comm]
  | onlyAbstract d hdefaults hd =>
      rw [searchOutcome_of_onlyAbstract hdefaults hd]
      have habstracts : search.abstracts ≠ [] := by
        rintro hnil
        simp [hnil] at hd
      simp [candidates, habstracts, abstractOutcome_ne_noConcrete]
  | defaults hdefaults =>
      rw [searchOutcome_of_defaults hdefaults]
      simp [candidates, hdefaults, defaultOutcome_ne_noConcrete]

/-! ## Competition under the strict policy -/

/-- What every search through interfaces finds: distinct declarations of distinct interfaces, split
into those with an implementation and those without one. -/
structure Sound (search : DefaultSearch) : Prop where
  defaults_concrete : ∀ d ∈ search.defaults, d.isAbstract = false
  abstracts_abstract : ∀ d ∈ search.abstracts, d.isAbstract = true
  nodup : search.candidates.Nodup
  byOwner : Hierarchy.ByOwner {d | d ∈ search.candidates}

theorem Sound.mem_defaults (hs : search.Sound) {d} (hd : d ∈ search.candidates)
    (hconcrete : d.isAbstract = false) : d ∈ search.defaults := by
  rcases List.mem_append.mp hd with hd | hd
  · exact hd
  · have habstract := hs.abstracts_abstract d hd
    simp [hconcrete] at habstract

/-- The most specific declaration, if it is unique and implemented, is also the most specific one
among the default methods. -/
theorem Sound.mostSpecific_defaults (hs : search.Sound) (ho : h.Ordered) {best}
    (hbest : h.mostSpecific search.candidates = [best]) (hconcrete : best.isAbstract = false) :
    h.mostSpecific search.defaults = [best] := by
  have hmem : best ∈ search.candidates := Hierarchy.mem_of_mostSpecific_eq_singleton hbest
  have hsub : ∀ d ∈ search.defaults, d ∈ search.candidates := fun _ hd =>
    List.mem_append_left _ hd
  refine ho.mostSpecific_eq_singleton (List.nodup_append.mp hs.nodup).1 ?_
    (hs.mem_defaults hmem hconcrete) fun d hd => ho.least_of_mostSpecific hbest (hsub d hd)
  exact fun a ha b hb => hs.byOwner a (hsub a ha) b (hsub b hb)

/-- How the competition ends. -/
inductive Competition (h : Hierarchy) (search : DefaultSearch) : Prop
  | implemented (best) : h.mostSpecific search.candidates = [best] → best.isAbstract = false →
      Competition h search
  | unimplemented (best) : h.mostSpecific search.candidates = [best] → best.isAbstract = true →
      Competition h search
  | several (a b rest) : h.mostSpecific search.candidates = a :: b :: rest → Competition h search

theorem competition (ho : h.Ordered) (hne : search.defaults ≠ []) : search.Competition h := by
  match hbest : h.mostSpecific search.candidates with
  | [] =>
      have hcandidates : search.candidates ≠ [] := List.append_ne_nil_of_left_ne_nil hne _
      exact absurd hbest (ho.mostSpecific_ne_nil hcandidates)
  | [best] =>
      cases habstract : best.isAbstract with
      | false => exact .implemented best hbest habstract
      | true => exact .unimplemented best hbest habstract
  | a :: b :: rest => exact .several a b rest hbest

theorem Sound.defaultOutcome_of_implemented (hs : search.Sound) (ho : h.Ordered) {best}
    (hbest : h.mostSpecific search.candidates = [best]) (hconcrete : best.isAbstract = false) :
    View.defaultOutcome h .strict start m search = .ok (some best.signature) := by
  have hchoice : View.chooseDefault h .strict m search.defaults = .ok (some best.signature) :=
    chooseDefault_of_singleton (hs.mostSpecific_defaults ho hbest hconcrete)
  rw [candidates] at hbest
  simp [View.defaultOutcome, hbest, hconcrete, hchoice]

theorem defaultOutcome_of_unimplemented {best} (hbest : h.mostSpecific search.candidates = [best])
    (habstract : best.isAbstract = true) :
    View.defaultOutcome h .strict start m search = View.abstractOutcome start best := by
  rw [candidates] at hbest
  simp [View.defaultOutcome, hbest, habstract]

theorem defaultOutcome_of_several {a b rest}
    (hbest : h.mostSpecific search.candidates = a :: b :: rest) :
    View.defaultOutcome h .strict start m search =
      .error (.ambiguousDefaultMethod m ((h.mostSpecific search.candidates).map (·.signature))) := by
  rw [hbest]
  rw [candidates] at hbest
  simp [View.defaultOutcome, hbest]

theorem Sound.nodup_signatures (hs : search.Sound) :
    ((h.mostSpecific search.candidates).map (·.signature)).Nodup := by
  refine List.Nodup.map_on (fun a ha b hb hab => ?_) (Hierarchy.nodup_mostSpecific hs.nodup)
  refine hs.byOwner a (Hierarchy.mem_of_mem_mostSpecific ha) b
    (Hierarchy.mem_of_mem_mostSpecific hb) ?_
  rw [MethodDeclaration.owner, hab, MethodDeclaration.owner]

/-- A single best declaration decides the call. -/
theorem Sound.defaultOutcome_of_singleton (hs : search.Sound) (ho : h.Ordered) {best}
    (hbest : h.mostSpecific search.candidates = [best]) :
    View.defaultOutcome h .strict start m search =
      if best.isAbstract then View.abstractOutcome start best else .ok (some best.signature) := by
  split
  · rename_i habstract
    exact defaultOutcome_of_unimplemented hbest habstract
  · rename_i hconcrete
    exact hs.defaultOutcome_of_implemented ho hbest (by simpa using hconcrete)

/-- Without a single best declaration the call is ambiguous between all the best ones. -/
theorem Sound.defaultOutcome_of_not_singleton (hs : search.Sound) (ho : h.Ordered)
    (hdefaults : search.defaults ≠ []) (hbest : ∀ d, h.mostSpecific search.candidates ≠ [d]) :
    ∃ signatures, View.defaultOutcome h .strict start m search =
        .error (.ambiguousDefaultMethod m signatures) ∧
      signatures.Nodup ∧ 2 ≤ signatures.length ∧
      ∀ s, s ∈ signatures ↔ ∃ d ∈ h.mostSpecific search.candidates, d.signature = s := by
  cases competition ho hdefaults with
  | implemented d hone _ => exact absurd hone (hbest d)
  | unimplemented d hone _ => exact absurd hone (hbest d)
  | several a b rest hseveral =>
      exact ⟨_, defaultOutcome_of_several hseveral, hs.nodup_signatures, by simp [hseveral],
        fun _ => List.mem_map⟩

theorem Sound.abstract_of_no_default (hs : search.Sound) (hdefaults : search.defaults = []) {d}
    (hd : d ∈ search.candidates) : d.isAbstract = true := by
  rw [candidates, hdefaults, List.nil_append] at hd
  exact hs.abstracts_abstract d hd

/-- Where only abstract declarations were found, one of them decides the call. -/
theorem exists_searchOutcome_of_no_default (hdefaults : search.defaults = [])
    (hne : search.candidates ≠ []) :
    ∃ d ∈ search.candidates,
      View.searchOutcome h policy start m search = View.abstractOutcome start d := by
  cases search.finding with
  | nothing _ habstracts => simp [candidates, hdefaults, habstracts] at hne
  | onlyAbstract d _ hd =>
      exact ⟨d, List.mem_append_right _ (List.mem_of_mem_head? hd),
        searchOutcome_of_onlyAbstract hdefaults hd⟩
  | defaults hdefault => exact absurd hdefaults hdefault

end DefaultSearch

theorem View.candidates_eq_nil_iff {v : View} {chain sub} :
    (v.searchDefaults chain sub).candidates = [] ↔ v.found chain sub = [] := by
  simp only [List.eq_nil_iff_forall_not_mem, DefaultSearch.candidates, mem_candidates]

theorem View.searchDefaults_sound (v : View) (chain : List ClassDeclaration) (sub : SubSignature) :
    (v.searchDefaults chain sub).Sound where
  defaults_concrete _ hd := (mem_defaults.mp hd).2
  abstracts_abstract _ hd := (mem_abstracts.mp hd).2
  nodup := nodup_candidates
  byOwner a ha b hb := byOwner_declarations a (found_subset_declarations (mem_candidates.mp ha)) b
    (found_subset_declarations (mem_candidates.mp hb))

/-! ## A diamond of interfaces

`Left` implements the method that `Top` declares, and `Right` passes it on. `Base` inherits both, and
`Derived` names `Top` once more. -/

namespace Diamond

def name (simple : String) : ClassName := ⟨"", simple⟩

def run : SubSignature := ⟨"run", [], .void⟩

def method (owner : ClassName) (bits : UInt16) : MethodDeclaration := ⟨⟨owner, run⟩, ⟨bits⟩⟩

def declare (owner : ClassName) (bits : UInt16) (superclass : ClassName)
    (interfaces : List ClassName) (method? : Option UInt16) : ClassDeclaration where
  name := owner
  modifiers := ⟨bits⟩
  superclass? := some superclass
  interfaces := interfaces
  methods := method?.toList.map (method owner)
  methods_owner := by simp [method, MethodDeclaration.owner]
  methods_nodup := by cases method? <;> simp

def classes : List ClassDeclaration :=
  [declare (name "Top") 0x0601 .object [] (some 0x0401),
    declare (name "Left") 0x0601 .object [name "Top"] (some 0x0001),
    declare (name "Right") 0x0601 .object [name "Top"] none,
    declare (name "Base") 0x0001 .object [name "Right", name "Left"] none,
    declare (name "Derived") 0x0001 (name "Base") [name "Top"] none]

def whole : Universe := ⟨classes, by decide, by cbv⟩

theorem rooted : whole.Rooted := by
  unfold Universe.Rooted
  decide

end Diamond

end Devirt
