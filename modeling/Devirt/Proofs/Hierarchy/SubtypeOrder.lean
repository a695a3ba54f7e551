import Devirt.Proofs.Graph.Discovery
import Devirt.Proofs.Hierarchy.Subtypes
import Mathlib.Data.Nat.Find
import Mathlib.Order.Bounds.Basic

/-!
# The order of the subtypes

The walk down from a class lists what lies below it, nearest first. Classes at the same distance stand
in the order of their parents, which stand one step nearer, and the classes under one parent ascend.
-/

namespace Devirt

open Relation Devirt.Graph

namespace Hierarchy

variable {h : Hierarchy} {a b c p q t : ClassName} {k n : Nat}

/-! ## Distances -/

/-- A path of `n` superclass and interface edges leads up from one class to another one. -/
inductive ClimbsIn (h : Hierarchy) : Nat → ClassName → ClassName → Prop
  | stay (a : ClassName) : ClimbsIn h 0 a a
  | step {n : Nat} {a b c : ClassName} : b ∈ h.supertypes a → ClimbsIn h n b c →
      ClimbsIn h (n + 1) a c

/-- The shortest path up from one class to another one has `n` edges. -/
def Distance (h : Hierarchy) (a t : ClassName) (n : Nat) : Prop := IsLeast {n | h.ClimbsIn n a t} n

theorem exists_climbsIn_of_below (hat : h.Below a t) : ∃ n, h.ClimbsIn (n + 1) a t := by
  induction hat using TransGen.head_induction_on with
  | single hab => exact ⟨0, .step hab (.stay t)⟩
  | head hab _ ih =>
      obtain ⟨n, hn⟩ := ih
      exact ⟨n + 1, .step hab hn⟩

theorem ClimbsIn.exists_distance (hn : h.ClimbsIn n a t) : ∃ k, h.Distance a t k := by
  classical
  have hsome : ∃ k, h.ClimbsIn k a t := ⟨n, hn⟩
  exact ⟨Nat.find hsome, Nat.find_spec hsome, fun _ hk => Nat.find_min' hsome hk⟩

theorem Distance.unique (hk : h.Distance a t k) (hn : h.Distance a t n) : k = n :=
  IsLeast.unique hk hn

theorem Distance.le_succ (hn : h.Distance a t n) (hb : b ∈ h.supertypes a) (hk : h.Distance b t k) :
    n ≤ k + 1 :=
  hn.2 (ClimbsIn.step hb hk.1)

theorem Distance.ne (hn : h.Distance a t (n + 1)) : a ≠ t := by
  rintro rfl
  exact Nat.not_succ_le_zero n (hn.2 (ClimbsIn.stay a))

theorem Distance.exists_previous (hn : h.Distance a t (n + 1)) :
    ∃ b ∈ h.supertypes a, h.Distance b t n := by
  obtain ⟨hclimb, hleast⟩ := hn
  cases hclimb with
  | step hb hclimb =>
      exact ⟨_, hb, hclimb, fun k hk => Nat.le_of_succ_le_succ (hleast (ClimbsIn.step hb hk))⟩

/-! ## The list of the subtypes -/

theorem cons_subtypes (h : Hierarchy) (t : ClassName) :
    t :: h.subtypes t = explore h.directSubtypes (t :: h.types) [t] := by
  rw [explore, dif_pos List.mem_cons_self, List.nil_append, subtypes]
  simp [without]

/-- The parent under which a class stands in the list of the subtypes of `t`. The class is `n + 1` steps
below `t`, and of its supertypes at `n` steps the parent is the one listed first, where `t` counts as
standing in front of the list. -/
structure FirstParent (h : Hierarchy) (t : ClassName) (n : Nat) (c p : ClassName) : Prop where
  distance : h.Distance c t (n + 1)
  supertype : p ∈ h.supertypes c
  previous : h.Distance p t n
  first : ∀ q ∈ h.supertypes c, h.Distance q t n →
    (t :: h.subtypes t).idxOf p ≤ (t :: h.subtypes t).idxOf q

end Hierarchy

namespace Universe

variable {u : Universe} {a b c p q t : ClassName} {k n : Nat}

theorem reachedIn_iff_climbsIn :
    ReachedIn u.hierarchy.directSubtypes (t :: u.hierarchy.types) [t] n c ↔
      u.hierarchy.ClimbsIn n c t := by
  constructor
  · intro h
    induction h with
    | queued hqueue _ =>
        obtain rfl := List.mem_singleton.mp hqueue
        exact .stay _
    | step _ hb _ ih => exact .step (mem_directSubtypes.mp hb) ih
  · intro h
    induction h with
    | stay a => exact .queued List.mem_cons_self List.mem_cons_self
    | step hb _ ih =>
        have hdown := mem_directSubtypes.mpr hb
        exact ih.step hdown (List.mem_cons_of_mem _ (u.hierarchy.subtype_mem _ _ hdown))

theorem mem_cons_subtypes : c ∈ t :: u.hierarchy.subtypes t ↔ ∃ n, u.hierarchy.ClimbsIn n c t := by
  rw [Hierarchy.cons_subtypes, mem_explore_iff_reachedIn]
  exact exists_congr fun _ => reachedIn_iff_climbsIn

theorem pairwise_cons_subtypes :
    (t :: u.hierarchy.subtypes t).Pairwise fun a b =>
      ∀ k n, u.hierarchy.Distance a t k → u.hierarchy.Distance b t n → k ≤ n := by
  rw [Hierarchy.cons_subtypes]
  exact pairwise_explore_isLeast fun _ _ => reachedIn_iff_climbsIn.symm

theorem exists_distance_of_mem_subtypes (hc : c ∈ u.hierarchy.subtypes t) :
    ∃ n, u.hierarchy.Distance c t (n + 1) := by
  have hbelow := mem_subtypes_iff_below.mp hc
  obtain ⟨n, hn⟩ := Hierarchy.exists_climbsIn_of_below hbelow
  obtain ⟨k, hk⟩ := hn.exists_distance
  cases k with
  | succ k => exact ⟨k, hk⟩
  | zero =>
      cases hk.1
      exact absurd hbelow (u.not_below_self _)

/-! ## First parents -/

theorem exists_find?_of_supertype (hp : p ∈ u.hierarchy.supertypes c)
    (hn : u.hierarchy.Distance p t n) :
    ∃ q, (t :: u.hierarchy.subtypes t).find? (c ∈ u.hierarchy.directSubtypes ·) = some q := by
  refine Option.isSome_iff_exists.mp (List.find?_isSome.mpr ⟨p, mem_cons_subtypes.mpr ⟨n, hn.1⟩, ?_⟩)
  simpa using mem_directSubtypes.mpr hp

/-- The supertype that is listed first of all is one step nearer. -/
theorem firstParent_of_find? (hc : u.hierarchy.Distance c t (n + 1))
    (hp : (t :: u.hierarchy.subtypes t).find? (c ∈ u.hierarchy.directSubtypes ·) = some p) :
    u.hierarchy.FirstParent t n c p := by
  have hmem : p ∈ t :: u.hierarchy.subtypes t := List.mem_of_find?_eq_some hp
  have hsuper : p ∈ u.hierarchy.supertypes c :=
    mem_directSubtypes.mp (by simpa using List.find?_some hp)
  have hfirst : ∀ q ∈ u.hierarchy.supertypes c,
      (t :: u.hierarchy.subtypes t).idxOf p ≤ (t :: u.hierarchy.subtypes t).idxOf q := fun q hq =>
    idxOf_le_of_find? hp (by simpa using mem_directSubtypes.mpr hq)
  obtain ⟨l, hl⟩ := mem_cons_subtypes.mp hmem
  obtain ⟨k, hk⟩ := hl.exists_distance
  obtain ⟨r, hr, hrn⟩ := hc.exists_previous
  -- The list does not come back to smaller distances, so the first supertype is at most as far as one
  -- on a shortest path.
  have hkn : k ≤ n := by
    rcases Nat.lt_or_eq_of_le (hfirst r hr) with hlt | heq
    · have hrmem := mem_cons_subtypes.mpr ⟨n, hrn.1⟩
      exact rel_of_idxOf_lt pairwise_cons_subtypes hmem hrmem hlt k n hk hrn
    · obtain rfl := (List.idxOf_inj hmem).mp heq
      exact (hk.unique hrn).le
  have hnk : n + 1 ≤ k + 1 := hc.le_succ hsuper hk
  obtain rfl : k = n := by omega
  exact ⟨hc, hsuper, hk, fun q hq _ => hfirst q hq⟩

theorem exists_firstParent (hc : u.hierarchy.Distance c t (n + 1)) :
    ∃ p, u.hierarchy.FirstParent t n c p := by
  obtain ⟨r, hr, hrn⟩ := hc.exists_previous
  obtain ⟨p, hp⟩ := exists_find?_of_supertype hr hrn
  exact ⟨p, firstParent_of_find? hc hp⟩

theorem find?_of_firstParent (hp : u.hierarchy.FirstParent t n c p) :
    (t :: u.hierarchy.subtypes t).find? (c ∈ u.hierarchy.directSubtypes ·) = some p := by
  obtain ⟨q, hq⟩ := exists_find?_of_supertype hp.supertype hp.previous
  have hq' := firstParent_of_find? hp.distance hq
  have heq := Nat.le_antisymm (hq'.first p hp.supertype hp.previous)
    (hp.first q hq'.supertype hq'.previous)
  obtain rfl := (List.idxOf_inj (List.mem_of_find?_eq_some hq)).mp heq
  exact hq

/-! ## Siblings -/

theorem pairwise_directSubtypes (u : Universe) (a : ClassName) :
    (u.hierarchy.directSubtypes a).Pairwise fun b c => compare b c = .lt :=
  pairwise_ascending _

theorem idxOf_directSubtypes_lt_iff (ha : p ∈ u.hierarchy.supertypes a)
    (hb : p ∈ u.hierarchy.supertypes b) :
    (u.hierarchy.directSubtypes p).idxOf a < (u.hierarchy.directSubtypes p).idxOf b ↔
      compare a b = .lt := by
  refine idxOf_lt_iff_of_pairwise (fun a b hab hba => ?_) (u.pairwise_directSubtypes p)
    (mem_directSubtypes.mpr ha) (mem_directSubtypes.mpr hb)
  have hgt : compare b a = .gt := Std.OrientedCmp.gt_of_lt hab
  rw [hba] at hgt
  cases hgt

theorem idxOf_subtypes_lt_iff (hp : u.hierarchy.FirstParent t k a p)
    (hq : u.hierarchy.FirstParent t n b q) :
    (u.hierarchy.subtypes t).idxOf a < (u.hierarchy.subtypes t).idxOf b ↔
      (t :: u.hierarchy.subtypes t).idxOf p < (t :: u.hierarchy.subtypes t).idxOf q ∨
        p = q ∧ compare a b = .lt := by
  have hsame : p = q ∧ compare a b = .lt ↔ p = q ∧
      (u.hierarchy.directSubtypes p).idxOf a < (u.hierarchy.directSubtypes p).idxOf b := by
    refine and_congr_right fun heq => ?_
    subst heq
    exact (idxOf_directSubtypes_lt_iff hp.supertype hq.supertype).symm
  have ha : a ∈ t :: u.hierarchy.subtypes t := mem_cons_subtypes.mpr ⟨_, hp.distance.1⟩
  have hb : b ∈ t :: u.hierarchy.subtypes t := mem_cons_subtypes.mpr ⟨_, hq.distance.1⟩
  have hfind := find?_of_firstParent hp
  have hfind' := find?_of_firstParent hq
  rw [← idxOf_cons_lt_iff hp.distance.ne.symm hq.distance.ne.symm, hsame]
  rw [Hierarchy.cons_subtypes] at ha hb hfind hfind' ⊢
  exact idxOf_explore_lt_iff_of_parents ha hb (by simpa using hp.distance.ne)
    (by simpa using hq.distance.ne) hfind hfind'

end Universe

/-- The walk down from a class lists exactly the declared classes below it, each once, and by their
distance. Each of them has a first parent, one step nearer. Of two classes at the same distance the one
comes first whose first parent does, and classes under the same parent ascend. -/
theorem subtypes_breadthFirst (u : Universe) (t : ClassName) :
    let h := u.hierarchy
    let listed := h.subtypes t
    (∀ c, c ∈ listed ↔ c ∈ u.classes.map (·.name) ∧ TransGen (Edge h.supertypes) c t) ∧
    listed.Nodup ∧ t ∉ listed ∧
    (listed.Pairwise fun a b => ∀ k n, h.Distance a t k → h.Distance b t n → k ≤ n) ∧
    (∀ c ∈ listed, ∃ n p, h.FirstParent t n c p) ∧
    ∀ n a b p q, h.FirstParent t n a p → h.FirstParent t n b q →
      (listed.idxOf a < listed.idxOf b ↔
        (t :: listed).idxOf p < (t :: listed).idxOf q ∨ p = q ∧ compare a b = .lt) := by
  intro h listed
  have hmem : ∀ c, c ∈ listed ↔ h.Below c t := fun c => Universe.mem_subtypes_iff_below
  refine ⟨fun c => ?_, nodup_explore, fun ht => u.not_below_self t ((hmem t).mp ht),
    (List.pairwise_cons.mp Universe.pairwise_cons_subtypes).2, fun c hc => ?_,
    fun _ _ _ _ _ hp hq => Universe.idxOf_subtypes_lt_iff hp hq⟩
  · rw [hmem]
    exact ⟨fun hbelow => ⟨Universe.mem_names_of_below hbelow, hbelow⟩, And.right⟩
  · obtain ⟨n, hn⟩ := Universe.exists_distance_of_mem_subtypes hc
    obtain ⟨p, hp⟩ := Universe.exists_firstParent hn
    exact ⟨n, p, hp⟩

/-- `Yak` comes before `Ant`, since `Bird` comes before `Cow`, and it is not listed again under `Ant`. -/
example :
    let beast (name : String) (kinds : List String) : ClassDeclaration :=
      { name := ⟨"", name⟩, modifiers := ⟨0x0601⟩, superclass? := none
        interfaces := kinds.map fun kind => ⟨"", kind⟩ }
    let h := Hierarchy.ofClasses [beast "Yak" ["Ant", "Bird"], beast "Ant" ["Cow"],
      beast "Cow" ["Beast"], beast "Bird" ["Beast"]]
    (h.subtypes ⟨"", "Beast"⟩).map (·.simple) = ["Bird", "Cow", "Yak", "Ant"] := by
  cbv

end Devirt
