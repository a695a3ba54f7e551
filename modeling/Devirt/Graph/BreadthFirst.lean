/-!
# Breadth-first exploration

Visits the nodes of a queue and what they lead to, nearest first and each node once. The nodes still
to be visited are given as a list that shrinks with every visit, so exploration ends on every graph,
with cycles or without.
-/

namespace Devirt.Graph

variable {α : Type} [DecidableEq α]

def without (a : α) (l : List α) : List α := l.filter (· ≠ a)

theorem mem_without {a b : α} {l : List α} : b ∈ without a l ↔ b ∈ l ∧ b ≠ a := by
  simp [without]

theorem length_without_lt {a : α} {l : List α} (h : a ∈ l) : (without a l).length < l.length :=
  List.length_filter_lt_length_iff_exists.mpr ⟨a, h, by simp⟩

/-- The nodes visited from a queue, in order of the visits. Only `fresh` nodes are visited; visiting
one puts what it leads to at the end of the queue. -/
def explore (next : α → List α) (fresh : List α) : List α → List α
  | [] => []
  | a :: queue =>
    if h : a ∈ fresh then
      have := length_without_lt h
      a :: explore next (without a fresh) (queue ++ next a)
    else explore next fresh queue
termination_by queue => (fresh.length, queue.length)

end Devirt.Graph
