import Devirt.Proofs.Graph.Exploration
import Mathlib.Computability.StateTransition

/-!
# Breadth-first loops

A loop takes the first node off a queue in every round, passes over it if it has met it before, and puts
what the node leads to at the end of the queue. Nothing bounds the number of rounds: nodes are queued
more than once, and a cycle queues its own nodes again. Where the edges lead to finitely many nodes the
loop ends all the same, and what it has visited is what the exploration visits.
-/

namespace Devirt.Graph

open Relation StateTransition

/-! ## Rounds -/

section

variable {σ : Type} {round : σ → Option σ} {w w' : σ}

theorem eval_of_round (h : round w = some w') : eval round w = eval round w' :=
  reaches_eval (.single h)

theorem eval_of_end (h : round w = none) : eval round w = .some w :=
  Part.eq_some_iff.mpr (mem_eval.mpr ⟨.refl, h⟩)

end

variable {α : Type} {next : α → List α} {nodes fresh queue seen : List α} {a : α}

theorem queue_subset (hnext : ∀ a b, b ∈ next a → b ∈ nodes) (hqueue : a :: queue ⊆ nodes) :
    queue ++ next a ⊆ nodes :=
  List.append_subset.mpr ⟨List.subset_of_cons_subset hqueue, hnext a⟩

/-- Those of some nodes that a loop has not met are fresh to an exploration. -/
def Unseen (nodes seen fresh : List α) : Prop := ∀ a, a ∈ fresh ↔ a ∈ nodes ∧ a ∉ seen

namespace Unseen

theorem nothing_seen : Unseen nodes [] nodes := fun _ => by simp

theorem not_mem_seen (h : Unseen nodes seen fresh) (ha : a ∈ fresh) : a ∉ seen := ((h a).mp ha).2

theorem mem_seen (h : Unseen nodes seen fresh) (hnode : a ∈ nodes) (ha : a ∉ fresh) : a ∈ seen := by
  by_contra hseen
  exact ha ((h a).mpr ⟨hnode, hseen⟩)

theorem perm {seen' : List α} (h : Unseen nodes seen fresh) (hperm : seen'.Perm seen) :
    Unseen nodes seen' fresh := by
  intro a
  rw [h a, hperm.mem_iff]

variable [DecidableEq α]

theorem singleton_seen : Unseen nodes [a] (without a nodes) := fun _ => by
  rw [mem_without, List.mem_singleton]

/-- What is visited is seen from then on, and fresh no longer. -/
theorem visit (h : Unseen nodes seen fresh) (a : α) :
    Unseen nodes (a :: seen) (without a fresh) := by
  intro b
  rw [mem_without, h b, List.mem_cons, not_or, and_assoc, and_comm (a := b ∉ seen)]

end Unseen

variable [DecidableEq α]

/-! ## All that a queue leads to -/

/-- A breadth-first loop between two rounds. -/
structure BreadthFirst (α : Type) where
  queue : List α
  seen : List α
  visited : List α

namespace BreadthFirst

/-- One round, unless the queue is empty. -/
def round (next : α → List α) (w : BreadthFirst α) : Option (BreadthFirst α) :=
  match w.queue with
  | [] => none
  | a :: queue =>
    if a ∈ w.seen then some { w with queue := queue }
    else some ⟨queue ++ next a, a :: w.seen, w.visited ++ [a]⟩

variable {visited : List α}

theorem round_of_seen (h : a ∈ seen) :
    round next ⟨a :: queue, seen, visited⟩ = some ⟨queue, seen, visited⟩ := if_pos h

theorem round_of_unseen (h : a ∉ seen) :
    round next ⟨a :: queue, seen, visited⟩ =
      some ⟨queue ++ next a, a :: seen, visited ++ [a]⟩ := if_neg h

/-- The loop ends, after it has visited what the exploration visits. -/
theorem eval_round (hnext : ∀ a b, b ∈ next a → b ∈ nodes)
    (hqueue : queue ⊆ nodes) (hunseen : Unseen nodes seen fresh) :
    (eval (round next) ⟨queue, seen, visited⟩).map (·.visited) =
      .some (visited ++ explore next fresh queue) := by
  fun_induction explore next fresh queue generalizing seen visited with
  | case1 =>
      rw [eval_of_end rfl, Part.map_some, List.append_nil]
  | case2 fresh a queue ha _ ih =>
      rw [eval_of_round (round_of_unseen (hunseen.not_mem_seen ha)),
        ih (queue_subset hnext hqueue) (hunseen.visit a), List.append_assoc, List.singleton_append]
  | case3 fresh a queue ha ih =>
      have hseen : a ∈ seen := hunseen.mem_seen (hqueue List.mem_cons_self) ha
      rw [eval_of_round (round_of_seen hseen), ih (List.subset_of_cons_subset hqueue) hunseen]

end BreadthFirst

/-! ## An edge to a given node -/

/-- A breadth-first loop that ends as soon as it finds an edge to a given node, between two rounds. -/
structure TargetSearch (α : Type) where
  queue : List α
  seen : List α
  found : Bool

namespace TargetSearch

/-- One round, unless the node is found or the queue is empty. -/
def round (next : α → List α) (target : α) (w : TargetSearch α) : Option (TargetSearch α) :=
  match w.found, w.queue with
  | true, _ => none
  | false, [] => none
  | false, a :: queue =>
    if a ∈ w.seen then some { w with queue := queue }
    else if target ∈ next a then some ⟨queue, a :: w.seen, true⟩
    else some ⟨queue ++ next a, a :: w.seen, false⟩

variable {target : α}

theorem round_of_seen (h : a ∈ seen) :
    round next target ⟨a :: queue, seen, false⟩ = some ⟨queue, seen, false⟩ := if_pos h

theorem round_of_target (h : a ∉ seen) (htarget : target ∈ next a) :
    round next target ⟨a :: queue, seen, false⟩ = some ⟨queue, a :: seen, true⟩ :=
  (if_neg h).trans (if_pos htarget)

theorem round_of_unseen (h : a ∉ seen) (htarget : target ∉ next a) :
    round next target ⟨a :: queue, seen, false⟩ = some ⟨queue ++ next a, a :: seen, false⟩ :=
  (if_neg h).trans (if_neg htarget)

/-- The loop ends. It has found the node if the exploration visits one with an edge to it. -/
theorem eval_round (hnext : ∀ a b, b ∈ next a → b ∈ nodes) (hqueue : queue ⊆ nodes)
    (hunseen : Unseen nodes seen fresh) :
    (eval (round next target) ⟨queue, seen, false⟩).map (·.found) =
      .some ((explore next fresh queue).any (target ∈ next ·)) := by
  fun_induction explore next fresh queue generalizing seen with
  | case1 => rw [eval_of_end rfl, Part.map_some, List.any_nil]
  | case2 fresh a queue ha _ ih =>
      have hseen : a ∉ seen := hunseen.not_mem_seen ha
      rw [List.any_cons]
      by_cases htarget : target ∈ next a
      · rw [eval_of_round (round_of_target hseen htarget), eval_of_end rfl, Part.map_some,
          decide_eq_true htarget, Bool.true_or]
      · rw [eval_of_round (round_of_unseen hseen htarget), ih (queue_subset hnext hqueue)
          (hunseen.visit a), decide_eq_false htarget, Bool.false_or]
  | case3 fresh a queue ha ih =>
      have hseen : a ∈ seen := hunseen.mem_seen (hqueue List.mem_cons_self) ha
      rw [eval_of_round (round_of_seen hseen), ih (List.subset_of_cons_subset hqueue) hunseen]

/-- A loop from a single node ends. It has found what a path of at least one edge leads to. -/
theorem eval_round_singleton (a target : α) (hnext : ∀ a b, b ∈ next a → b ∈ nodes) :
    ∃ found, (eval (round next target) ⟨[a], [], false⟩).map (·.found) = .some found ∧
      (found = true ↔ TransGen (Edge next) a target) := by
  have hnext' : ∀ b c, c ∈ next b → c ∈ a :: nodes := fun b c hc =>
    List.mem_cons_of_mem a (hnext b c hc)
  have hqueue : [a] ⊆ a :: nodes := List.cons_subset_cons a (List.nil_subset nodes)
  refine ⟨_, eval_round hnext' hqueue .nothing_seen, ?_⟩
  simp only [List.any_eq_true, decide_eq_true_eq, mem_explore_of_closed hnext' hqueue,
    List.mem_singleton, exists_eq_left, TransGen.tail'_iff]
  rfl

end TargetSearch

end Devirt.Graph
