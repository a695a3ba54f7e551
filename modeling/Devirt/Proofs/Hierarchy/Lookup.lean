import Devirt.Hierarchy.View
import Mathlib.Data.List.Nodup

/-!
# Looking up classes and methods

A lookup answers with a declaration of what was asked for: a class is found under its own name, and a
method under its own signature. A view that hides classes answers as the whole view does, or not at
all.
-/

namespace Devirt

theorem Hierarchy.name_of_find? {classes c d} (h : Hierarchy.find? classes c = some d) :
    d.name = c := by
  simpa using List.find?_some h

/-- Where no class is declared twice, every declaration is found. -/
theorem Hierarchy.find?_of_mem {classes : List ClassDeclaration} {d}
    (hnodup : (classes.map (·.name)).Nodup) (hd : d ∈ classes) :
    Hierarchy.find? classes d.name = some d := by
  cases hfound : Hierarchy.find? classes d.name with
  | none =>
      have hmiss := List.find?_eq_none.mp hfound d hd
      simp at hmiss
  | some e =>
      rw [List.inj_on_of_nodup_map hnodup (List.mem_of_find?_eq_some hfound) hd
        (Hierarchy.name_of_find? hfound)]

theorem Hierarchy.find?_eq_some_iff {classes : List ClassDeclaration} {c d}
    (hnodup : (classes.map (·.name)).Nodup) :
    Hierarchy.find? classes c = some d ↔ d ∈ classes ∧ d.name = c := by
  constructor
  · exact fun hd => ⟨List.mem_of_find?_eq_some hd, name_of_find? hd⟩
  · rintro ⟨hd, rfl⟩
    exact find?_of_mem hnodup hd

/-- Where no class is declared twice, a class is found under its name in whatever order the
declarations stand. -/
theorem Hierarchy.find?_of_perm {classes classes' : List ClassDeclaration}
    (hnodup : (classes.map (·.name)).Nodup) (h : classes'.Perm classes) (c : ClassName) :
    Hierarchy.find? classes' c = Hierarchy.find? classes c := by
  have hnodup' : (classes'.map (·.name)).Nodup := (h.map (·.name)).nodup_iff.mpr hnodup
  refine Option.ext fun d => ?_
  rw [find?_eq_some_iff hnodup', find?_eq_some_iff hnodup, h.mem_iff]

theorem Hierarchy.supertypes_ofClasses (classes : List ClassDeclaration) (a : ClassName) :
    (Hierarchy.ofClasses classes).supertypes a =
      ((Hierarchy.find? classes a).map (·.supertypes)).getD [] := by
  cases hd : Hierarchy.find? classes a with
  | none => simp [Hierarchy.supertypes, Hierarchy.ofClasses, hd]
  | some d => simp [Hierarchy.supertypes, Hierarchy.ofClasses, hd, ClassDeclaration.supertypes]

/-- Where no class is declared twice, an edge is what some declaration names. -/
theorem Hierarchy.mem_supertypes_ofClasses {classes : List ClassDeclaration} {a b}
    (hnodup : (classes.map (·.name)).Nodup) :
    b ∈ (Hierarchy.ofClasses classes).supertypes a ↔
      ∃ d ∈ classes, d.name = a ∧ b ∈ d.supertypes := by
  rw [supertypes_ofClasses]
  constructor
  · intro hb
    cases hd : Hierarchy.find? classes a with
    | none => simp [hd] at hb
    | some d =>
        refine ⟨d, List.mem_of_find?_eq_some hd, Hierarchy.name_of_find? hd, ?_⟩
        simpa [hd] using hb
  · rintro ⟨d, hd, rfl, hb⟩
    simpa [find?_of_mem hnodup hd] using hb

theorem ClassDeclaration.signature_of_method? {c : ClassDeclaration} {sub m}
    (h : c.method? sub = some m) : m.signature = ⟨c.name, sub⟩ := by
  have howner : m.signature.owner = c.name := c.methods_owner m (List.mem_of_find?_eq_some h)
  have hsub : m.sub = sub := by simpa using List.find?_some h
  subst hsub
  show m.signature = ⟨c.name, m.signature.sub⟩
  rw [← howner]

namespace View

variable {v : View}

theorem name_of_class? {c d} (h : v.class? c = some d) : d.name = c :=
  Hierarchy.name_of_find? h

theorem mem_names_iff {c} : c ∈ v.classes.map (·.name) ↔ ∃ d, v.class? c = some d := by
  constructor
  · intro hc
    obtain ⟨d, hd, hname⟩ := List.mem_map.mp hc
    exact Option.isSome_iff_exists.mp (List.find?_isSome.mpr ⟨d, hd, by simpa using hname⟩)
  · rintro ⟨d, hd⟩
    obtain rfl := name_of_class? hd
    exact List.mem_map_of_mem (List.mem_of_find?_eq_some hd)

theorem method?_of_class? {c d sub} (h : v.class? c = some d) :
    v.method? ⟨c, sub⟩ = d.method? sub := by
  simp [method?, h]

/-- A declared method is a method of a class that the view resolves. -/
theorem method?_eq_some_iff {m : MethodSignature} {d : MethodDeclaration} :
    v.method? m = some d ↔ ∃ c, v.class? m.owner = some c ∧ c.method? m.sub = some d :=
  Option.bind_eq_some_iff

theorem signature_of_method? {m : MethodSignature} {d} (h : v.method? m = some d) :
    d.signature = m := by
  obtain ⟨c, hc, hd⟩ := method?_eq_some_iff.mp h
  rw [ClassDeclaration.signature_of_method? hd, name_of_class? hc]

theorem owner_of_method? {m : MethodSignature} {d} (h : v.method? m = some d) :
    d.owner = m.owner := by
  rw [MethodDeclaration.owner, signature_of_method? h]

theorem class?_hide (v : View) (hidden : ClassName → Bool) (c : ClassName) :
    (v.hide hidden).class? c = if hidden c then none else v.class? c := by
  simp only [class?, Hierarchy.find?, hide, List.find?_filter]
  split
  · rename_i hc
    refine List.find?_eq_none.mpr fun d _ => ?_
    simp only [Bool.not_eq_true', decide_eq_true_eq, not_and]
    rintro hd rfl
    simp [hc] at hd
  · rename_i hc
    congr 1
    funext d
    by_cases hd : d.name = c
    · simp [hd, hc]
    · simp [hd]

theorem class?_of_hide {hidden : ClassName → Bool} {c d} (h : (v.hide hidden).class? c = some d) :
    v.class? c = some d := by
  rw [class?_hide] at h
  split at h
  · cases h
  · exact h

/-- The view knows the same interfaces of a class as its hierarchy. -/
def Agrees (v : View) : Prop :=
  ∀ c d, v.class? c = some d → d.interfaces = v.hierarchy.interfaces c

theorem Agrees.hide (h : v.Agrees) (hidden : ClassName → Bool) : (v.hide hidden).Agrees :=
  fun c d hd => h c d (class?_of_hide hd)

end View

theorem Universe.view_agrees (u : Universe) : u.view.Agrees := by
  intro c d h
  have hd : Hierarchy.find? u.classes c = some d := h
  show d.interfaces = ((Hierarchy.find? u.classes c).map (·.interfaces)).getD []
  simp [hd]

end Devirt
