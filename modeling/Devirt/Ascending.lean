/-!
# Ascending lists without repetitions

Result sets are lists in ascending order that hold every element once. `ascending` makes one out of
any list.
-/

namespace Devirt

/-- Drops each element that compares equal to the one kept just before it. -/
def dropRepeats {α : Type} [Ord α] : List α → List α
  | [] => []
  | [a] => [a]
  | a :: b :: rest =>
    if compare a b = .eq then dropRepeats (a :: rest) else a :: dropRepeats (b :: rest)

theorem mem_of_mem_dropRepeats {α : Type} [Ord α] {a : α} {l : List α} (h : a ∈ dropRepeats l) :
    a ∈ l := by
  fun_induction dropRepeats l with
  | case1 => exact h
  | case2 => exact h
  | case3 b c rest _ ih =>
    rcases List.mem_cons.mp (ih h) with h | h
    · exact h ▸ List.mem_cons_self
    · exact List.mem_cons_of_mem _ (List.mem_cons_of_mem _ h)
  | case4 b c rest _ ih =>
    rcases List.mem_cons.mp h with h | h
    · exact h ▸ List.mem_cons_self
    · exact List.mem_cons_of_mem _ (ih h)

/-- The elements of a list in ascending order, each once. -/
def ascending {α : Type} [Ord α] (l : List α) : List α :=
  dropRepeats (l.mergeSort fun a b => (compare a b).isLE)

theorem mem_of_mem_ascending {α : Type} [Ord α] {a : α} {l : List α} (h : a ∈ ascending l) :
    a ∈ l :=
  List.mem_mergeSort.mp (mem_of_mem_dropRepeats h)

end Devirt
