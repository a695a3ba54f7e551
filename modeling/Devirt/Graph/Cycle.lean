/-!
# Search for a cycle

A depth-first walk that keeps the path to the current node and the nodes that are finished. A node
that leads back to its own path closes a cycle.
-/

namespace Devirt.Graph

variable {α : Type} [DecidableEq α]

/-- Walks through some nodes and everything below them. `path` holds the nodes that the walk came
through, and `finished` those that lead to no cycle. The answer is the first node that is met on the
path to it, or else all finished nodes. Nodes that are not among `nodes` are passed over. -/
def walk (nodes : List α) (next : α → List α) (path finished : List α) :
    List α → Except α (List α)
  | [] => .ok finished
  | a :: rest =>
    if a ∉ nodes ∨ a ∈ finished then walk nodes next path finished rest
    else if a ∈ path then .error a
    else
      match walk nodes next (a :: path) finished (next a) with
      | .error c => .error c
      | .ok finished => walk nodes next path (a :: finished) rest
termination_by todo => ((nodes.filter (· ∉ path)).length, todo.length)
decreasing_by
  · apply Prod.Lex.right
    simp
  · apply Prod.Lex.left
    have hmem : a ∈ nodes.filter (· ∉ path) := by
      simp_all
    have hsub : nodes.filter (· ∉ a :: path) = (nodes.filter (· ∉ path)).filter (· ≠ a) := by
      simp [List.filter_filter]
    rw [hsub]
    exact List.length_filter_lt_length_iff_exists.mpr ⟨a, hmem, by simp⟩
  · apply Prod.Lex.right
    simp

/-- A node on a cycle of the graph, if there is a cycle. Edges to nodes outside the graph are no
part of one. -/
def cycle? (nodes : List α) (next : α → List α) : Option α :=
  match walk nodes next [] [] nodes with
  | .ok _ => none
  | .error a => some a

end Devirt.Graph
