import Devirt.Proofs.Graph.Acyclicity
import Devirt.Proofs.Hierarchy.Lookup

/-!
# Freezing declarations

Declarations freeze to a universe exactly if no class is declared twice and none inherits from itself
through declared classes. Otherwise the error names the first class that was declared again, or a class
on a cycle. Supertypes that nobody declares make no difference.
-/

namespace Devirt

open Relation Devirt.Graph

variable {ds : List ClassDeclaration} {c : ClassName} {b : UniverseBuilder}

/-! ## Repeated classes -/

/-- A name repeats an earlier one, and no name before it does. -/
def FirstRepeat (names : List ClassName) (c : ClassName) : Prop :=
  ∃ before after, names = before ++ c :: after ∧ before.Nodup ∧ c ∈ before

theorem FirstRepeat.not_nodup {names : List ClassName} (h : FirstRepeat names c) : ¬ names.Nodup := by
  obtain ⟨before, after, rfl, _, hc⟩ := h
  intro hnodup
  exact (List.nodup_append.mp hnodup).2.2 c hc c List.mem_cons_self rfl

theorem nodup_or_firstRepeat (names : List ClassName) :
    names.Nodup ∨ ∃ c, FirstRepeat names c := by
  -- The names are passed one by one, as the builder does, and those behind are free of repetitions.
  suffices hsplit : ∀ after before : List ClassName, before.Nodup →
      (before ++ after).Nodup ∨ ∃ c, FirstRepeat (before ++ after) c from hsplit names [] .nil
  intro after
  induction after with
  | nil =>
      intro before hbefore
      rw [List.append_nil]
      exact Or.inl hbefore
  | cons c rest ih =>
      intro before hbefore
      by_cases hc : c ∈ before
      · exact Or.inr ⟨c, before, rest, rfl, hbefore, hc⟩
      · have hsnoc : (before ++ [c]).Nodup := by
          rw [← List.concat_eq_append]
          exact hbefore.concat hc
        have hrest := ih (before ++ [c]) hsnoc
        rwa [List.append_assoc] at hrest

namespace UniverseBuilder

theorem add_of_new {d : ClassDeclaration} (hd : d.name ∉ b.classes.map (·.name)) :
    (b.add d).classes = b.classes ++ [d] ∧ (b.add d).repeated? = b.repeated? := by
  simp only [add, dif_neg hd, and_self]

theorem add_of_repeated {d : ClassDeclaration} (hd : d.name ∈ b.classes.map (·.name)) :
    (b.add d).classes = b.classes ∧ (b.add d).repeated? = b.repeated?.or (some d.name) := by
  simp only [add, dif_pos hd, and_self]

/-- Declarations of new classes are all kept, in order. -/
theorem foldl_add_of_nodup (h : ((b.classes ++ ds).map (·.name)).Nodup) :
    (ds.foldl add b).classes = b.classes ++ ds ∧ (ds.foldl add b).repeated? = b.repeated? := by
  induction ds generalizing b with
  | nil => simp
  | cons d rest ih =>
      have hd : d.name ∉ b.classes.map (·.name) := by
        rw [List.map_append, List.nodup_append] at h
        exact fun hmem => h.2.2 _ hmem _ List.mem_cons_self rfl
      obtain ⟨hclasses, hrepeated⟩ := add_of_new hd
      have hrest := ih (b := b.add d) (by rwa [hclasses, List.append_assoc])
      rwa [hclasses, hrepeated, List.append_assoc] at hrest

/-- The first class that is declared again stays the one to be reported. -/
theorem repeated?_foldl_add (h : b.repeated? = some c) :
    (ds.foldl add b).repeated? = some c := by
  induction ds generalizing b with
  | nil => exact h
  | cons d rest ih =>
      refine ih ?_
      by_cases hd : d.name ∈ b.classes.map (·.name)
      · rw [(add_of_repeated hd).2, h, Option.some_or]
      · rw [(add_of_new hd).2, h]

theorem repeated?_of_firstRepeat (h : FirstRepeat (ds.map (·.name)) c) :
    (ds.foldl add .empty).repeated? = some c := by
  obtain ⟨before, after, hnames, hnodup, hc⟩ := h
  obtain ⟨known, rest, rfl, rfl, hrest⟩ := List.map_eq_append_iff.mp hnames
  obtain ⟨d, later, rfl, rfl, rfl⟩ := List.map_eq_cons_iff.mp hrest
  obtain ⟨hclasses, hnone⟩ := foldl_add_of_nodup (b := .empty) hnodup
  rw [List.foldl_append, List.foldl_cons]
  refine repeated?_foldl_add ?_
  rw [(add_of_repeated (by rwa [hclasses])).2, hnone]
  rfl

theorem freeze_of_repeated (h : b.repeated? = some c) :
    b.freeze = .error (.duplicateClass c) := by
  simp [freeze, h]

theorem freeze_of_cycle (hnone : b.repeated? = none) (h : inheritanceCycle? b.classes = some c) :
    b.freeze = .error (.inheritanceCycle c) := by
  unfold freeze
  rw [hnone]
  dsimp only
  split
  · rename_i a ha
    rw [Option.some.inj (h.symm.trans ha)]
  · rename_i ha
    simp [h] at ha

theorem freeze_of_acyclic (hnone : b.repeated? = none) (h : inheritanceCycle? b.classes = none) :
    b.freeze = .ok ⟨b.classes, b.nodup, h⟩ := by
  unfold freeze
  rw [hnone]
  dsimp only
  split
  · rename_i a ha
    simp [h] at ha
  · rfl

end UniverseBuilder

/-! ## Cycles -/

/-- A declared class names a declared class as its superclass or among its interfaces. -/
def Inherits (ds : List ClassDeclaration) (a b : ClassName) : Prop :=
  (∃ d ∈ ds, d.name = a ∧ b ∈ d.supertypes) ∧ b ∈ ds.map (·.name)

theorem edgeWithin_ofClasses (hnodup : (ds.map (·.name)).Nodup) :
    EdgeWithin (Hierarchy.ofClasses ds).supertypes (ds.map (·.name)) = Inherits ds := by
  funext a b
  exact propext (and_congr_left fun _ => Hierarchy.mem_supertypes_ofClasses hnodup)

theorem cycle_of_inheritanceCycle? (hnodup : (ds.map (·.name)).Nodup)
    (h : inheritanceCycle? ds = some c) : TransGen (Inherits ds) c c := by
  rw [← edgeWithin_ofClasses hnodup]
  exact (cycle_of_cycle?_eq_some h).2

theorem not_cycle_of_inheritanceCycle? (hnodup : (ds.map (·.name)).Nodup)
    (h : inheritanceCycle? ds = none) (a : ClassName) : ¬ TransGen (Inherits ds) a a := by
  intro hcycle
  obtain ⟨_, _, hlast⟩ := TransGen.tail'_iff.mp hcycle
  rw [← edgeWithin_ofClasses hnodup] at hcycle
  exact not_cycle_of_cycle?_eq_none h hlast.2 hcycle

/-! ## Outcomes -/

namespace Universe

theorem ofClasses_of_firstRepeat (h : FirstRepeat (ds.map (·.name)) c) :
    ofClasses ds = .error (.duplicateClass c) :=
  UniverseBuilder.freeze_of_repeated (UniverseBuilder.repeated?_of_firstRepeat h)

theorem builder_of_nodup (hnodup : (ds.map (·.name)).Nodup) :
    (ds.foldl UniverseBuilder.add .empty).classes = ds ∧
      (ds.foldl UniverseBuilder.add .empty).repeated? = none :=
  UniverseBuilder.foldl_add_of_nodup (b := .empty) hnodup

theorem ofClasses_of_cycle (hnodup : (ds.map (·.name)).Nodup) (h : inheritanceCycle? ds = some c) :
    ofClasses ds = .error (.inheritanceCycle c) := by
  obtain ⟨hclasses, hnone⟩ := builder_of_nodup hnodup
  exact UniverseBuilder.freeze_of_cycle hnone (by rwa [hclasses])

theorem exists_ofClasses_of_acyclic (hnodup : (ds.map (·.name)).Nodup)
    (h : inheritanceCycle? ds = none) : ∃ u, ofClasses ds = .ok u ∧ u.classes = ds := by
  obtain ⟨hclasses, hnone⟩ := builder_of_nodup hnodup
  exact ⟨_, UniverseBuilder.freeze_of_acyclic hnone (by rwa [hclasses]), hclasses⟩

/-- What becomes of some declarations. -/
inductive Freezing (ds : List ClassDeclaration) : Prop
  | repeated (c : ClassName) : FirstRepeat (ds.map (·.name)) c →
      ofClasses ds = .error (.duplicateClass c) → Freezing ds
  | cyclic (c : ClassName) : (ds.map (·.name)).Nodup → TransGen (Inherits ds) c c →
      ofClasses ds = .error (.inheritanceCycle c) → Freezing ds
  | frozen (u : Universe) : (ds.map (·.name)).Nodup → (∀ a, ¬ TransGen (Inherits ds) a a) →
      ofClasses ds = .ok u → u.classes = ds → Freezing ds

theorem freezing (ds : List ClassDeclaration) : Freezing ds := by
  rcases nodup_or_firstRepeat (ds.map (·.name)) with hnodup | ⟨c, hc⟩
  · cases hcycle : inheritanceCycle? ds with
    | some c =>
        exact .cyclic c hnodup (cycle_of_inheritanceCycle? hnodup hcycle)
          (ofClasses_of_cycle hnodup hcycle)
    | none =>
        obtain ⟨u, hu, hclasses⟩ := exists_ofClasses_of_acyclic hnodup hcycle
        exact .frozen u hnodup (not_cycle_of_inheritanceCycle? hnodup hcycle) hu hclasses
  · exact .repeated c hc (ofClasses_of_firstRepeat hc)

theorem ofClasses_eq_duplicateClass_iff :
    ofClasses ds = .error (.duplicateClass c) ↔ FirstRepeat (ds.map (·.name)) c := by
  refine ⟨fun h => ?_, ofClasses_of_firstRepeat⟩
  cases freezing ds with
  | repeated a ha houtcome =>
      rw [houtcome] at h
      cases h
      exact ha
  | cyclic a _ _ houtcome => simp [houtcome] at h
  | frozen u _ _ houtcome _ => simp [houtcome] at h

theorem cycle_of_ofClasses (h : ofClasses ds = .error (.inheritanceCycle c)) :
    (ds.map (·.name)).Nodup ∧ TransGen (Inherits ds) c c := by
  cases freezing ds with
  | repeated a _ houtcome => simp [houtcome] at h
  | cyclic a hnodup hcycle houtcome =>
      rw [houtcome] at h
      cases h
      exact ⟨hnodup, hcycle⟩
  | frozen u _ _ houtcome _ => simp [houtcome] at h

theorem exists_inheritanceCycle_iff :
    (∃ c, ofClasses ds = .error (.inheritanceCycle c)) ↔
      (ds.map (·.name)).Nodup ∧ ∃ a, TransGen (Inherits ds) a a := by
  refine ⟨fun ⟨c, hc⟩ => ⟨(cycle_of_ofClasses hc).1, c, (cycle_of_ofClasses hc).2⟩, ?_⟩
  rintro ⟨hnodup, a, ha⟩
  cases freezing ds with
  | repeated c hc _ => exact absurd hnodup hc.not_nodup
  | cyclic c _ _ houtcome => exact ⟨c, houtcome⟩
  | frozen u _ hacyclic _ _ => exact absurd ha (hacyclic a)

theorem ofClasses_eq_ok {u : Universe} (h : ofClasses ds = .ok u) :
    u.classes = ds ∧ (ds.map (·.name)).Nodup ∧ ∀ a, ¬ TransGen (Inherits ds) a a := by
  cases freezing ds with
  | repeated a _ houtcome => simp [houtcome] at h
  | cyclic a _ _ houtcome => simp [houtcome] at h
  | frozen u hnodup hacyclic houtcome hclasses =>
      rw [houtcome] at h
      cases h
      exact ⟨hclasses, hnodup, hacyclic⟩

theorem exists_ofClasses_iff :
    (∃ u, ofClasses ds = .ok u) ↔
      (ds.map (·.name)).Nodup ∧ ∀ a, ¬ TransGen (Inherits ds) a a := by
  refine ⟨fun ⟨u, hu⟩ => (ofClasses_eq_ok hu).2, ?_⟩
  rintro ⟨hnodup, hacyclic⟩
  cases freezing ds with
  | repeated c hc _ => exact absurd hnodup hc.not_nodup
  | cyclic c _ hcycle _ => exact absurd hcycle (hacyclic c)
  | frozen u _ _ houtcome _ => exact ⟨u, houtcome⟩

end Universe

/-! ## Undeclared supertypes -/

/-- The declaration without the supertypes that are not among some classes. -/
def ClassDeclaration.within (names : List ClassName) (d : ClassDeclaration) : ClassDeclaration :=
  { d with
    superclass? := d.superclass?.filter (· ∈ names)
    interfaces := d.interfaces.filter (· ∈ names) }

theorem ClassDeclaration.supertypes_within (names : List ClassName) (d : ClassDeclaration) :
    (d.within names).supertypes = d.supertypes.filter (· ∈ names) := by
  simp [supertypes, within, List.filter_append, Option.toList_filter]

theorem map_name_within (names : List ClassName) :
    (ds.map (·.within names)).map (·.name) = ds.map (·.name) := by
  simp [ClassDeclaration.within]

theorem Hierarchy.supertypes_within (names : List ClassName) (a : ClassName) :
    (Hierarchy.ofClasses (ds.map (·.within names))).supertypes a =
      ((Hierarchy.ofClasses ds).supertypes a).filter (· ∈ names) := by
  have hfind : Hierarchy.find? (ds.map (·.within names)) a =
      (Hierarchy.find? ds a).map (·.within names) := List.find?_map
  rw [supertypes_ofClasses, supertypes_ofClasses, hfind]
  cases Hierarchy.find? ds a with
  | none => rfl
  | some d => exact d.supertypes_within names

theorem inheritanceCycle?_within :
    inheritanceCycle? (ds.map (·.within (ds.map (·.name)))) = inheritanceCycle? ds := by
  have hedges : (Hierarchy.ofClasses (ds.map (·.within (ds.map (·.name))))).supertypes =
      fun a => ((Hierarchy.ofClasses ds).supertypes a).filter (· ∈ ds.map (·.name)) := by
    funext a
    exact Hierarchy.supertypes_within _ a
  rw [inheritanceCycle?, map_name_within, hedges, cycle?_filter, inheritanceCycle?]

namespace Universe

theorem ofClasses_within_eq_error_iff {e : HierarchyError} :
    ofClasses (ds.map (·.within (ds.map (·.name)))) = .error e ↔ ofClasses ds = .error e := by
  have hnames : (ds.map (·.within (ds.map (·.name)))).map (·.name) = ds.map (·.name) :=
    map_name_within _
  rcases nodup_or_firstRepeat (ds.map (·.name)) with hnodup | ⟨c, hc⟩
  · have hnodup' := hnames.symm ▸ hnodup
    cases hcycle : inheritanceCycle? ds with
    | some c =>
        rw [ofClasses_of_cycle hnodup hcycle,
          ofClasses_of_cycle hnodup' (inheritanceCycle?_within.trans hcycle)]
    | none =>
        obtain ⟨u, hu, _⟩ := exists_ofClasses_of_acyclic hnodup hcycle
        obtain ⟨u', hu', _⟩ :=
          exists_ofClasses_of_acyclic hnodup' (inheritanceCycle?_within.trans hcycle)
        simp [hu, hu']
  · rw [ofClasses_of_firstRepeat hc, ofClasses_of_firstRepeat (hnames.symm ▸ hc)]

end Universe

/-- Freezing accepts exactly the declarations of distinct classes without an inheritance cycle, and
keeps them as they are. The first class that is declared again is reported before any cycle, and a
cycle is reported at a class that lies on it. Without the supertypes that are not declared the same
declarations are refused, for the same reason. -/
theorem ofClasses_accepts (ds : List ClassDeclaration) :
    let names := ds.map (·.name)
    let OnCycle := fun a => TransGen (Inherits ds) a a
    Universe.ofClasses ds = (ds.foldl UniverseBuilder.add .empty).freeze ∧
    ((∃ c, FirstRepeat names c) ↔ ¬ names.Nodup) ∧
    (∀ c, Universe.ofClasses ds = .error (.duplicateClass c) ↔ FirstRepeat names c) ∧
    ((∃ c, Universe.ofClasses ds = .error (.inheritanceCycle c)) ↔
      names.Nodup ∧ ∃ a, OnCycle a) ∧
    (∀ c, Universe.ofClasses ds = .error (.inheritanceCycle c) → OnCycle c) ∧
    ((∃ u, Universe.ofClasses ds = .ok u) ↔ names.Nodup ∧ ∀ a, ¬ OnCycle a) ∧
    (∀ u, Universe.ofClasses ds = .ok u → u.classes = ds) ∧
    ∀ e, Universe.ofClasses (ds.map (·.within names)) = .error e ↔
      Universe.ofClasses ds = .error e := by
  intro names OnCycle
  have hrepeat : (∃ c, FirstRepeat names c) ↔ ¬ names.Nodup :=
    ⟨fun ⟨_, hc⟩ => hc.not_nodup, (nodup_or_firstRepeat names).resolve_left⟩
  exact ⟨rfl, hrepeat, fun _ => Universe.ofClasses_eq_duplicateClass_iff,
    Universe.exists_inheritanceCycle_iff, fun _ hc => (Universe.cycle_of_ofClasses hc).2,
    Universe.exists_ofClasses_iff, fun _ hu => (Universe.ofClasses_eq_ok hu).1,
    fun _ => Universe.ofClasses_within_eq_error_iff⟩

end Devirt
