import Devirt.Proofs.Graph.Levels
import Mathlib.Data.List.Basic

/-!
# Where a node is discovered

All that an exploration puts into its queue, from the beginning to the end, is its history. The nodes
are visited in the order in which the history has them first. So of two nodes that single edges lead to
from visited nodes, the one that an earlier visited node leads to comes first, and behind one node its
list of edges decides.
-/

namespace Devirt.Graph

variable {α : Type} [DecidableEq α]

/-! ## First places in a list -/

section

variable {l : List α} {a b p q x : α} {f : α → List α}

theorem idxOf_cons_lt_iff (ha : x ≠ a) (hb : x ≠ b) :
    (x :: l).idxOf a < (x :: l).idxOf b ↔ l.idxOf a < l.idxOf b := by
  rw [List.idxOf_cons_ne _ ha, List.idxOf_cons_ne _ hb, Nat.succ_lt_succ_iff]

theorem rel_of_idxOf_lt {r : α → α → Prop} (hl : l.Pairwise r) (ha : a ∈ l) (hb : b ∈ l)
    (hlt : l.idxOf a < l.idxOf b) : r a b := by
  have hab := List.pairwise_iff_getElem.mp hl (l.idxOf a) (l.idxOf b)
    (List.idxOf_lt_length_of_mem ha) (List.idxOf_lt_length_of_mem hb) hlt
  rwa [List.getElem_idxOf, List.getElem_idxOf] at hab

theorem idxOf_lt_iff_of_pairwise {r : α → α → Prop} (hasymm : ∀ a b, r a b → ¬ r b a)
    (hl : l.Pairwise r) (ha : a ∈ l) (hb : b ∈ l) : l.idxOf a < l.idxOf b ↔ r a b := by
  refine ⟨rel_of_idxOf_lt hl ha hb, fun hab => ?_⟩
  by_contra hge
  rcases Nat.lt_or_eq_of_le (Nat.not_lt.mp hge) with hlt | heq
  · exact hasymm a b hab (rel_of_idxOf_lt hl hb ha hlt)
  · obtain rfl := (List.idxOf_inj hb).mp heq
    exact hasymm b b hab hab

theorem idxOf_le_of_getElem? {k : Nat} (h : l[k]? = some a) : l.idxOf a ≤ k := by
  obtain ⟨hk, rfl⟩ := List.getElem?_eq_some_iff.mp h
  by_contra hgt
  exact absurd (List.not_of_lt_findIdx (Nat.not_le.mp hgt)) (by simp)

theorem idxOf_le_of_find? {P : α → Bool} (hp : l.find? P = some p) (hq : P q = true) :
    l.idxOf p ≤ l.idxOf q := by
  induction l with
  | nil => simp at hp
  | cons x l ih =>
      by_cases hx : P x = true
      · obtain rfl : x = p := by simpa [hx] using hp
        rw [List.idxOf_cons_self]
        exact Nat.zero_le _
      · have hxq : x ≠ q := fun h => hx (h ▸ hq)
        have hxp : x ≠ p := fun h => hx (h ▸ List.find?_some hp)
        rw [List.idxOf_cons_ne _ hxp, List.idxOf_cons_ne _ hxq]
        exact Nat.succ_le_succ (ih (by simpa [hx] using hp))

/-- In a list that is put together from pieces, what an earlier piece holds comes first. Within one
piece the piece decides. -/
theorem idxOf_flatMap_lt_iff (hp : l.find? (a ∈ f ·) = some p) (hq : l.find? (b ∈ f ·) = some q) :
    (l.flatMap f).idxOf a < (l.flatMap f).idxOf b ↔
      l.idxOf p < l.idxOf q ∨ p = q ∧ (f p).idxOf a < (f p).idxOf b := by
  have hap : a ∈ f p := by simpa using List.find?_some hp
  have hbq : b ∈ f q := by simpa using List.find?_some hq
  -- By induction on the pieces: the first piece settles the matter as soon as it holds one of the two.
  induction l with
  | nil => simp at hp
  | cons x l ih =>
      rw [List.flatMap_cons]
      by_cases hax : a ∈ f x
      · obtain rfl : x = p := by simpa [hax] using hp
        have hlt := List.idxOf_lt_length_of_mem hax
        by_cases hbx : b ∈ f x
        · obtain rfl : x = q := by simpa [hbx] using hq
          rw [List.idxOf_append_of_mem hax, List.idxOf_append_of_mem hbx]
          simp
        · have hxq : x ≠ q := fun h => hbx (h ▸ hbq)
          rw [List.idxOf_append_of_mem hax, List.idxOf_append_of_notMem hbx, List.idxOf_cons_self,
            List.idxOf_cons_ne _ hxq]
          omega
      · have hxp : x ≠ p := fun h => hax (h ▸ hap)
        by_cases hbx : b ∈ f x
        · obtain rfl : x = q := by simpa [hbx] using hq
          have hlt := List.idxOf_lt_length_of_mem hbx
          rw [List.idxOf_append_of_notMem hax, List.idxOf_append_of_mem hbx, List.idxOf_cons_self,
            List.idxOf_cons_ne _ hxp]
          simp only [hxp.symm, false_and, or_false]
          omega
        · have hxq : x ≠ q := fun h => hbx (h ▸ hbq)
          have hrest := ih (by simpa [hax] using hp) (by simpa [hbx] using hq)
          rw [List.idxOf_append_of_notMem hax, List.idxOf_append_of_notMem hbx,
            Nat.add_lt_add_iff_left, idxOf_cons_lt_iff hxp hxq]
          exact hrest

end

/-! ## The history of an exploration -/

variable {next : α → List α} {fresh queue : List α} {a b p q : α}

/-- All that comes into the queue of an exploration, in order. -/
def history (next : α → List α) (fresh queue : List α) : List α :=
  queue ++ (explore next fresh queue).flatMap next

theorem history_cons_of_mem (ha : a ∈ fresh) :
    history next fresh (a :: queue) = a :: history next (without a fresh) (queue ++ next a) := by
  rw [history, history, explore, dif_pos ha]
  simp

theorem history_cons_of_not_mem (ha : a ∉ fresh) :
    history next fresh (a :: queue) = a :: history next fresh queue := by
  rw [history, history, explore, dif_neg ha]
  simp

theorem pairwise_explore_history :
    (explore next fresh queue).Pairwise fun a b =>
      (history next fresh queue).idxOf a < (history next fresh queue).idxOf b := by
  fun_induction explore next fresh queue with
  | case1 => exact .nil
  | case2 fresh c queue hc _ ih =>
      have hne : ∀ a ∈ explore next (without c fresh) (queue ++ next c), c ≠ a := fun a ha h =>
        (mem_without.mp (mem_fresh_of_mem_explore ha)).2 h.symm
      rw [history_cons_of_mem hc]
      -- The history begins with the visited node, which is not visited again.
      refine List.pairwise_cons.mpr ⟨fun a ha => ?_, ih.imp_of_mem fun {a b} ha hb hab => ?_⟩
      · rw [List.idxOf_cons_self, List.idxOf_cons_ne _ (hne a ha)]
        exact Nat.succ_pos _
      · exact (idxOf_cons_lt_iff (hne a ha) (hne b hb)).mpr hab
  | case3 fresh c queue hc ih =>
      have hne : ∀ a ∈ explore next fresh queue, c ≠ a := fun a ha h =>
        hc (h ▸ mem_fresh_of_mem_explore ha)
      rw [history_cons_of_not_mem hc]
      exact ih.imp_of_mem fun {a b} ha hb hab => (idxOf_cons_lt_iff (hne a ha) (hne b hb)).mpr hab

theorem idxOf_explore_lt_iff (ha : a ∈ explore next fresh queue) (hb : b ∈ explore next fresh queue) :
    (explore next fresh queue).idxOf a < (explore next fresh queue).idxOf b ↔
      (history next fresh queue).idxOf a < (history next fresh queue).idxOf b :=
  idxOf_lt_iff_of_pairwise (fun _ _ => Nat.lt_asymm) pairwise_explore_history ha hb

/-- Of two nodes that were not in the queue at the beginning, the one comes first that an earlier node
leads to. -/
theorem idxOf_explore_lt_iff_of_parents (ha : a ∈ explore next fresh queue)
    (hb : b ∈ explore next fresh queue) (haq : a ∉ queue) (hbq : b ∉ queue)
    (hp : (explore next fresh queue).find? (a ∈ next ·) = some p)
    (hq : (explore next fresh queue).find? (b ∈ next ·) = some q) :
    (explore next fresh queue).idxOf a < (explore next fresh queue).idxOf b ↔
      (explore next fresh queue).idxOf p < (explore next fresh queue).idxOf q ∨
        p = q ∧ (next p).idxOf a < (next p).idxOf b := by
  rw [idxOf_explore_lt_iff ha hb, history, List.idxOf_append_of_notMem haq,
    List.idxOf_append_of_notMem hbq, Nat.add_lt_add_iff_left, idxOf_flatMap_lt_iff hp hq]

end Devirt.Graph
