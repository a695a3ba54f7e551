import Devirt.Proofs.Hierarchy.Rounds

/-!
# The chain of superclasses as a recursion

The superclass loop stops before a class that it has met. In a universe it meets none again, since all
that it has met lies below the class where it stands. So the chain of a class is its superclass with the
chain of that, up to the first class whose superclass is missing.
-/

namespace Devirt

open Relation StateTransition Devirt.Graph

/-! ## The loop without its checks for cycles -/

namespace Climb

variable {h : Hierarchy} {u : Universe} {bottom p : ClassName} {w w' : Climb}

/-- One round of a loop that asks no more of a superclass than that it is declared. -/
def unguardedRound (h : Hierarchy) (w : Climb) : Option Climb :=
  match h.superclass? w.current with
  | none => none
  | some p => if h.contains p then some ⟨p, w.passed ++ [p]⟩ else none

theorem round_eq_some_iff :
    round h bottom w = some w' ↔ ∃ p, h.superclass? w.current = some p ∧ h.contains p = true ∧
      p ∉ bottom :: w.passed ∧ ⟨p, w.passed ++ [p]⟩ = w' := by
  obtain ⟨current, passed⟩ := w
  cases hp : h.superclass? current with
  | none => simp [round_of_root hp]
  | some p =>
      by_cases hcontains : h.contains p = true
      · by_cases hmet : p ∈ bottom :: passed
        · rw [round_of_met hp hmet]
          simp [-List.mem_cons, hmet]
        · rw [round_of_unmet hp hcontains hmet]
          simp [-List.mem_cons, hcontains, hmet]
      · rw [round_of_undeclared hp hcontains]
        simp [hcontains]

/-- All classes that the loop has met lead to where it stands. -/
def Upward (h : Hierarchy) (bottom : ClassName) (w : Climb) : Prop :=
  ∀ c ∈ bottom :: w.passed, ReflTransGen (Edge h.supertypes) c w.current

theorem Upward.round (hw : Upward h bottom w) (hround : round h bottom w = some w') :
    Upward h bottom w' := by
  obtain ⟨p, hp, _, _, rfl⟩ := round_eq_some_iff.mp hround
  have hedge : Edge h.supertypes w.current p := Hierarchy.mem_supertypes_of_superclass? hp
  intro c hc
  rw [← List.cons_append] at hc
  rcases List.mem_append.mp hc with hc | hc
  · exact (hw c hc).tail hedge
  · obtain rfl := List.mem_singleton.mp hc
    exact .refl

theorem upward_of_reaches (hw : Reaches (round h bottom) ⟨bottom, []⟩ w) : Upward h bottom w := by
  induction hw with
  | refl =>
      intro c hc
      obtain rfl := List.mem_singleton.mp hc
      exact .refl
  | tail _ hround ih => exact ih.round hround

theorem Upward.not_met (hw : Upward u.hierarchy bottom w)
    (hp : u.hierarchy.superclass? w.current = some p) : p ∉ bottom :: w.passed := fun hmet =>
  u.not_below_self p (.tail' (hw p hmet) (Hierarchy.mem_supertypes_of_superclass? hp))

/-- In a universe the loop never stops before a class because it has met it. -/
theorem round_eq_unguardedRound (hw : Reaches (round u.hierarchy bottom) ⟨bottom, []⟩ w) :
    round u.hierarchy bottom w = unguardedRound u.hierarchy w := by
  obtain ⟨current, passed⟩ := w
  cases hp : u.hierarchy.superclass? current with
  | none => simp [round, unguardedRound, hp]
  | some p =>
      have hmet : p ∉ bottom :: passed := (upward_of_reaches hw).not_met hp
      by_cases hcontains : u.hierarchy.contains p = true
      · rw [round_of_unmet hp hcontains hmet]
        simp [unguardedRound, hp, hcontains]
      · rw [round_of_undeclared hp hcontains]
        simp [unguardedRound, hp, hcontains]

end Climb

/-! ## The top of the chain -/

theorem Hierarchy.contains_of_mem_chain {h : Hierarchy} {a b : ClassName} {fresh : List ClassName}
    (hb : b ∈ h.chain fresh a) : h.contains b = true := by
  fun_induction chain h fresh a with
  | case1 => simp at hb
  | case2 fresh a p hp hfresh _ hcontains ih =>
      rcases List.mem_cons.mp hb with rfl | hb
      · exact hcontains
      · exact ih hb
  | case3 => simp at hb
  | case4 => simp at hb

/-- A class has no superclass, or one that is not declared. -/
def Hierarchy.AtTop (h : Hierarchy) (a : ClassName) : Prop :=
  ∀ p, h.superclass? a = some p → h.contains p = false

namespace Universe

variable {u : Universe} {a p : ClassName}

theorem contains_iff : u.hierarchy.contains a = true ↔ a ∈ u.classes.map (·.name) :=
  Option.isSome_iff_exists.trans (View.mem_names_iff (v := u.view)).symm

theorem superclasses_eq_nil_iff : u.hierarchy.superclasses a = [] ↔ u.hierarchy.AtTop a := by
  constructor
  · intro hnil p hp
    by_contra hcontains
    rw [superclasses_eq_cons hp (by simpa using hcontains)] at hnil
    cases hnil
  · intro htop
    cases hchain : u.hierarchy.superclasses a with
    | nil => rfl
    | cons p rest =>
        obtain ⟨hp, hcontains, _⟩ := superclasses_eq_cons_iff.mp hchain
        simp [htop p hp] at hcontains

theorem superclasses_eq (u : Universe) (a : ClassName) :
    u.hierarchy.superclasses a =
      match u.hierarchy.superclass? a with
      | none => []
      | some p => if u.hierarchy.contains p then p :: u.hierarchy.superclasses p else [] := by
  cases hp : u.hierarchy.superclass? a with
  | none => exact superclasses_eq_nil_iff.mpr fun p h => by simp [hp] at h
  | some p =>
      dsimp only
      split
      · rename_i hcontains
        exact superclasses_eq_cons hp hcontains
      · rename_i hcontains
        refine superclasses_eq_nil_iff.mpr fun q hq => ?_
        obtain rfl : p = q := Option.some.inj (hp.symm.trans hq)
        simpa using hcontains

/-- The chain goes on from every class but its last one. -/
theorem exists_top (u : Universe) (a : ClassName) :
    ∃ below top, a :: u.hierarchy.superclasses a = below ++ [top] ∧ u.hierarchy.AtTop top ∧
      ∀ c ∈ below, ¬ u.hierarchy.AtTop c := by
  induction hchain : u.hierarchy.superclasses a generalizing a with
  | nil => exact ⟨[], a, rfl, superclasses_eq_nil_iff.mp hchain, by simp⟩
  | cons p rest ih =>
      obtain ⟨hp, hcontains, rfl⟩ := superclasses_eq_cons_iff.mp hchain
      obtain ⟨below, top, hsplit, htop, hbelow⟩ := ih p rfl
      refine ⟨a :: below, top, by rw [hsplit, List.cons_append], htop, fun c hc => ?_⟩
      rcases List.mem_cons.mp hc with rfl | hc
      · intro hat
        simp [hat p hp] at hcontains
      · exact hbelow c hc

end Universe

/-- In a universe the loop up the superclasses is never stopped by its checks for cycles, and its answer
is the plain recursion: nothing above a class without a superclass or with one that is not declared, or
else the superclass and what is above that. So nothing is met twice, nor the class itself, all that is
met is declared, and the chain ends with the first class whose superclass is missing. -/
theorem superclasses_recursion (u : Universe) (t : ClassName) :
    let h := u.hierarchy
    let chain := h.superclasses t
    h.superclassesLoop t = .some chain ∧
    (∀ w, Reaches (Climb.round h t) ⟨t, []⟩ w → Climb.round h t w = Climb.unguardedRound h w) ∧
    (chain = match h.superclass? t with
      | none => []
      | some p => if h.contains p then p :: h.superclasses p else []) ∧
    chain.Nodup ∧ t ∉ chain ∧
    (∀ p ∈ chain, p ∈ u.classes.map (·.name)) ∧
    ∃ below top, t :: chain = below ++ [top] ∧ h.AtTop top ∧ ∀ c ∈ below, ¬ h.AtTop c := by
  intro h chain
  obtain ⟨hself, hnodup⟩ := List.nodup_cons.mp (h.nodup_superclasses t)
  exact ⟨h.superclassesLoop_eq t, fun _ => Climb.round_eq_unguardedRound, u.superclasses_eq t, hnodup,
    hself, fun _ hp => Universe.contains_iff.mp (Hierarchy.contains_of_mem_chain hp), u.exists_top t⟩

end Devirt
