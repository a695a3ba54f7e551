import Devirt.Proofs.Graph.Exploration
import Mathlib.Order.Bounds.Defs

/-!
# The order of an exploration

An exploration visits its nodes level by level. First come the fresh nodes of the queue, then those that
these lead to, and so on, so that no node is visited before one that a shorter path leads to.
-/

namespace Devirt.Graph

open Relation

/-- A path of `n` edges through fresh nodes leads from the queue to a node. -/
inductive ReachedIn {α : Type} (next : α → List α) (fresh queue : List α) : Nat → α → Prop
  | queued {a : α} : a ∈ queue → a ∈ fresh → ReachedIn next fresh queue 0 a
  | step {n : Nat} {a b : α} : ReachedIn next fresh queue n a → b ∈ next a → b ∈ fresh →
      ReachedIn next fresh queue (n + 1) b

variable {α : Type} {next : α → List α} {fresh queue : List α} {a b : α} {n : Nat}

namespace ReachedIn

theorem zero_iff : ReachedIn next fresh queue 0 a ↔ a ∈ queue ∧ a ∈ fresh := by
  constructor
  · intro h
    cases h with
    | queued hqueue hfresh => exact ⟨hqueue, hfresh⟩
  · rintro ⟨hqueue, hfresh⟩
    exact .queued hqueue hfresh

theorem exists_path (h : ReachedIn next fresh queue n b) :
    ∃ a ∈ queue, a ∈ fresh ∧ ReflTransGen (EdgeWithin next fresh) a b := by
  induction h with
  | queued hqueue hfresh => exact ⟨_, hqueue, hfresh, .refl⟩
  | step _ hnext hfresh ih =>
      obtain ⟨a, ha, haf, hpath⟩ := ih
      exact ⟨a, ha, haf, hpath.tail ⟨hnext, hfresh⟩⟩

theorem exists_of_path (ha : a ∈ queue) (hfresh : a ∈ fresh)
    (hpath : ReflTransGen (EdgeWithin next fresh) a b) : ∃ n, ReachedIn next fresh queue n b := by
  induction hpath with
  | refl => exact ⟨0, .queued ha hfresh⟩
  | tail _ hlast ih =>
      obtain ⟨n, hn⟩ := ih
      exact ⟨n + 1, hn.step hlast.1 hlast.2⟩

end ReachedIn

variable [DecidableEq α]

theorem mem_explore_iff_reachedIn :
    b ∈ explore next fresh queue ↔ ∃ n, ReachedIn next fresh queue n b := by
  rw [mem_explore]
  constructor
  · rintro ⟨a, ha, hfresh, hpath⟩
    exact ReachedIn.exists_of_path ha hfresh hpath
  · rintro ⟨n, hn⟩
    exact hn.exists_path

/-! ## The first level -/

/-- The nodes of the queue that are visited before all that they lead to: the fresh ones, each where it
comes first. -/
def level (fresh queue : List α) : List α := (queue.filter (· ∈ fresh)).eraseDups

/-- The fresh nodes that are left after the first level. -/
def beyond (fresh queue : List α) : List α := fresh.filter (· ∉ level fresh queue)

theorem mem_level : a ∈ level fresh queue ↔ a ∈ queue ∧ a ∈ fresh := by
  simp [level, List.mem_eraseDups]

theorem mem_beyond : a ∈ beyond fresh queue ↔ a ∈ fresh ∧ a ∉ level fresh queue := by
  simp [beyond]

theorem level_cons_of_mem (h : a ∈ fresh) :
    level fresh (a :: queue) = a :: level (without a fresh) queue := by
  rw [level, List.filter_cons_of_pos (by simpa using h), List.eraseDups_cons, List.filter_filter,
    level]
  congr 3
  funext b
  rw [Bool.eq_iff_iff]
  simp [mem_without, and_comm]

theorem level_cons_of_not_mem (h : a ∉ fresh) : level fresh (a :: queue) = level fresh queue := by
  rw [level, List.filter_cons_of_neg (by simpa using h), level]

theorem beyond_cons_of_mem (h : a ∈ fresh) :
    beyond fresh (a :: queue) = beyond (without a fresh) queue := by
  rw [beyond, beyond, level_cons_of_mem h, without, List.filter_filter]
  refine List.filter_congr fun b _ => ?_
  rw [Bool.eq_iff_iff]
  simp [and_comm]

/-- An exploration visits the first part of its queue before anything that comes behind it. -/
theorem explore_append (later : List α) :
    explore next fresh (queue ++ later) = level fresh queue ++
      explore next (beyond fresh queue) (later ++ (level fresh queue).flatMap next) := by
  induction queue generalizing fresh later with
  | nil =>
      have hbeyond : beyond fresh [] = fresh := List.filter_eq_self.mpr (by simp [level])
      rw [hbeyond]
      simp [level]
  | cons a queue ih =>
      by_cases ha : a ∈ fresh
      · rw [List.cons_append, explore, dif_pos ha, level_cons_of_mem ha, beyond_cons_of_mem ha,
          List.append_assoc, ih, List.flatMap_cons, List.cons_append, List.append_assoc]
      · rw [List.cons_append, explore, dif_neg ha, ih, beyond, beyond, level_cons_of_not_mem ha]

theorem explore_eq_level_append :
    explore next fresh queue = level fresh queue ++
      explore next (beyond fresh queue) ((level fresh queue).flatMap next) := by
  have h := @explore_append α next fresh queue _ []
  rwa [List.append_nil, List.nil_append] at h

/-! ## Later levels -/

theorem ReachedIn.of_beyond
    (h : ReachedIn next (beyond fresh queue) ((level fresh queue).flatMap next) n b) :
    ReachedIn next fresh queue (n + 1) b := by
  induction h with
  | queued hqueue hfresh =>
      obtain ⟨a, ha, hb⟩ := List.mem_flatMap.mp hqueue
      exact .step (zero_iff.mpr (mem_level.mp ha)) hb (mem_beyond.mp hfresh).1
  | step _ hnext hfresh ih => exact ih.step hnext (mem_beyond.mp hfresh).1

/-- A path that leads past the first level is shorter from there. -/
theorem ReachedIn.level_or_beyond (h : ReachedIn next fresh queue n b) :
    b ∈ level fresh queue ∨
      ∃ k < n, ReachedIn next (beyond fresh queue) ((level fresh queue).flatMap next) k b := by
  induction h with
  | queued hqueue hfresh => exact Or.inl (mem_level.mpr ⟨hqueue, hfresh⟩)
  | @step n a b _ hnext hfresh ih =>
      by_cases hb : b ∈ level fresh queue
      · exact Or.inl hb
      · have hbeyond : b ∈ beyond fresh queue := mem_beyond.mpr ⟨hfresh, hb⟩
        rcases ih with ha | ⟨k, hk, ha⟩
        · have hqueue : b ∈ (level fresh queue).flatMap next := List.mem_flatMap.mpr ⟨a, ha, hnext⟩
          exact Or.inr ⟨0, Nat.succ_pos n, .queued hqueue hbeyond⟩
        · exact Or.inr ⟨k + 1, Nat.succ_lt_succ hk, ha.step hnext hbeyond⟩

/-- One node is at most as far from the queue as another. -/
def NoFarther (next : α → List α) (fresh queue : List α) (a b : α) : Prop :=
  ∀ n, ReachedIn next fresh queue n b → ∃ k ≤ n, ReachedIn next fresh queue k a

theorem noFarther_of_mem_level (ha : a ∈ level fresh queue) : NoFarther next fresh queue a b :=
  fun n _ => ⟨0, Nat.zero_le n, ReachedIn.zero_iff.mpr (mem_level.mp ha)⟩

theorem NoFarther.of_beyond (hb : b ∉ level fresh queue)
    (h : NoFarther next (beyond fresh queue) ((level fresh queue).flatMap next) a b) :
    NoFarther next fresh queue a b := by
  intro n hn
  obtain ⟨k, hk, hbk⟩ := hn.level_or_beyond.resolve_left hb
  obtain ⟨j, hj, haj⟩ := h k hbk
  exact ⟨j + 1, by omega, haj.of_beyond⟩

theorem length_beyond_lt (h : level fresh queue ≠ []) :
    (beyond fresh queue).length < fresh.length := by
  obtain ⟨a, ha⟩ := List.exists_mem_of_ne_nil _ h
  exact List.length_filter_lt_length_iff_exists.mpr ⟨a, (mem_level.mp ha).2, by simpa using ha⟩

/-- No node is visited before one that is nearer to the queue. -/
theorem pairwise_explore : (explore next fresh queue).Pairwise (NoFarther next fresh queue) := by
  -- By induction on the fresh nodes, of which each level takes some away.
  induction hlength : fresh.length using Nat.strongRecOn generalizing fresh queue with
  | ind n ih =>
      by_cases hlevel : level fresh queue = []
      · rw [explore_eq_level_append, hlevel, List.flatMap_nil, explore, List.append_nil]
        exact .nil
      · have hfewer : (beyond fresh queue).length < n := hlength ▸ length_beyond_lt hlevel
        rw [explore_eq_level_append, List.pairwise_append]
        refine ⟨?_, (ih _ hfewer rfl).imp_of_mem fun _ hb hab => ?_, fun a ha b _ =>
          noFarther_of_mem_level ha⟩
        · exact List.pairwise_of_forall_mem_list fun a ha b _ => noFarther_of_mem_level ha
        · exact hab.of_beyond (mem_beyond.mp (mem_fresh_of_mem_explore hb)).2

/-- The visits follow the lengths of shortest paths, in whatever terms these paths are given. -/
theorem pairwise_explore_isLeast {P : Nat → α → Prop}
    (hP : ∀ n a, P n a ↔ ReachedIn next fresh queue n a) :
    (explore next fresh queue).Pairwise fun a b =>
      ∀ k n, IsLeast {n | P n a} k → IsLeast {n | P n b} n → k ≤ n := by
  refine pairwise_explore.imp fun hab k n hk hn => ?_
  obtain ⟨l, hl, ha⟩ := hab n ((hP _ _).mp hn.1)
  exact Nat.le_trans (hk.2 ((hP _ _).mpr ha)) hl

theorem exists_explore_eq_level_append :
    ∃ rest, explore next fresh queue = level fresh queue ++ rest ∧
      ∀ a ∈ rest, ¬ ReachedIn next fresh queue 0 a := by
  refine ⟨_, explore_eq_level_append, fun a ha hzero => ?_⟩
  have hbeyond := mem_beyond.mp (mem_fresh_of_mem_explore ha)
  exact hbeyond.2 (mem_level.mpr (ReachedIn.zero_iff.mp hzero))

end Devirt.Graph
