import Devirt.Graph.BreadthFirst
import Mathlib.Logic.Relation

/-!
# What an exploration visits

An exploration visits exactly the nodes that paths through fresh nodes lead to from its queue, each of
them once. A visited node is fresh no longer, so the proof has to lead every path around it: what
leads through the visited node can as well start from the nodes that it put into the queue.
-/

namespace Devirt.Graph

open Relation

variable {α : Type}

/-- An edge of a graph. -/
def Edge (next : α → List α) (a b : α) : Prop := b ∈ next a

/-- An edge to one of some nodes. -/
def EdgeWithin (next : α → List α) (nodes : List α) (a b : α) : Prop := b ∈ next a ∧ b ∈ nodes

theorem EdgeWithin.edge {next : α → List α} {nodes a b} (h : EdgeWithin next nodes a b) :
    Edge next a b := h.1

theorem EdgeWithin.mono {next : α → List α} {nodes nodes'} (hsub : nodes ⊆ nodes') {a b}
    (h : EdgeWithin next nodes a b) : EdgeWithin next nodes' a b := ⟨h.1, hsub h.2⟩

theorem edgeWithin_of_closed {next : α → List α} {nodes} (hnext : ∀ a b, b ∈ next a → b ∈ nodes) :
    EdgeWithin next nodes = Edge next := by
  funext a b
  exact propext ⟨And.left, fun h => ⟨h, hnext a b h⟩⟩

theorem mem_of_path {next : α → List α} {nodes a b} (h : ReflTransGen (EdgeWithin next nodes) a b)
    (ha : a ∈ nodes) : b ∈ nodes := by
  cases h with
  | refl => exact ha
  | tail _ hlast => exact hlast.2

variable [DecidableEq α]

theorem without_subset {a : α} {nodes : List α} : without a nodes ⊆ nodes := fun _ h =>
  (mem_without.mp h).1

/-- A path ends at a given node, or it avoids the node, or its end is also reached from the node by a
path that does not come back to it. -/
theorem path_around {next : α → List α} {nodes a b} (c : α)
    (h : ReflTransGen (EdgeWithin next nodes) a b) :
    b = c ∨ (a ≠ c ∧ ReflTransGen (EdgeWithin next (without c nodes)) a b) ∨
      ∃ d ∈ next c, d ∈ without c nodes ∧
        ReflTransGen (EdgeWithin next (without c nodes)) d b := by
  induction h with
  | refl =>
      by_cases hac : a = c
      · exact Or.inl hac
      · exact Or.inr (Or.inl ⟨hac, .refl⟩)
  | @tail x y _ hlast ih =>
      by_cases hyc : y = c
      · exact Or.inl hyc
      · have hy : y ∈ without c nodes := mem_without.mpr ⟨hlast.2, hyc⟩
        rcases ih with rfl | ⟨hac, hpath⟩ | ⟨d, hd, hdn, hpath⟩
        · exact Or.inr (Or.inr ⟨y, hlast.1, hy, .refl⟩)
        · exact Or.inr (Or.inl ⟨hac, hpath.tail ⟨hlast.1, hy⟩⟩)
        · exact Or.inr (Or.inr ⟨d, hd, hdn, hpath.tail ⟨hlast.1, hy⟩⟩)

/-- The visited nodes are those that fresh paths lead to from a fresh node of the queue. -/
theorem mem_explore {next : α → List α} {fresh queue : List α} {b : α} :
    b ∈ explore next fresh queue ↔
      ∃ a ∈ queue, a ∈ fresh ∧ ReflTransGen (EdgeWithin next fresh) a b := by
  fun_induction explore next fresh queue with
  | case1 => simp
  | case2 fresh c queue hc _ ih =>
      rw [List.mem_cons, ih]
      constructor
      · rintro (rfl | ⟨a, ha, haf, hpath⟩)
        · exact ⟨b, List.mem_cons_self, hc, .refl⟩
        · have hpath := ReflTransGen.mono (fun _ _ => EdgeWithin.mono without_subset) _ _ hpath
          rcases List.mem_append.mp ha with ha | ha
          · exact ⟨a, List.mem_cons_of_mem _ ha, without_subset haf, hpath⟩
          · exact ⟨c, List.mem_cons_self, hc, .head ⟨ha, without_subset haf⟩ hpath⟩
      · rintro ⟨a, ha, haf, hpath⟩
        rcases path_around c hpath with rfl | ⟨hac, hpath⟩ | ⟨d, hd, hdf, hpath⟩
        · exact Or.inl rfl
        · have ha := (List.mem_cons.mp ha).resolve_left hac
          exact Or.inr ⟨a, List.mem_append_left _ ha, mem_without.mpr ⟨haf, hac⟩, hpath⟩
        · exact Or.inr ⟨d, List.mem_append_right _ hd, hdf, hpath⟩
  | case3 fresh c queue hc ih =>
      rw [ih]
      constructor
      · rintro ⟨a, ha, haf, hpath⟩
        exact ⟨a, List.mem_cons_of_mem _ ha, haf, hpath⟩
      · rintro ⟨a, ha, haf, hpath⟩
        rcases List.mem_cons.mp ha with rfl | ha
        · exact absurd haf hc
        · exact ⟨a, ha, haf, hpath⟩

theorem mem_fresh_of_mem_explore {next : α → List α} {fresh queue : List α} {b : α}
    (h : b ∈ explore next fresh queue) : b ∈ fresh := by
  obtain ⟨a, _, ha, hpath⟩ := mem_explore.mp h
  exact mem_of_path hpath ha

/-- No node is visited twice. -/
theorem nodup_explore {next : α → List α} {fresh queue : List α} :
    (explore next fresh queue).Nodup := by
  fun_induction explore next fresh queue with
  | case1 => exact List.nodup_nil
  | case2 fresh c queue _ _ ih =>
      refine List.nodup_cons.mpr ⟨fun h => ?_, ih⟩
      exact (mem_without.mp (mem_fresh_of_mem_explore h)).2 rfl
  | case3 _ _ _ _ ih => exact ih

/-- An exploration depends only on the edges of the nodes that it can come to, and on which of these are
fresh. -/
theorem explore_congr {next next' : α → List α} {s : Set α} {fresh fresh' queue : List α}
    (hnext : ∀ a ∈ s, next' a = next a) (hclosed : ∀ a ∈ s, ∀ b ∈ next a, b ∈ s)
    (hfresh : ∀ a ∈ s, a ∈ fresh' ↔ a ∈ fresh) (hqueue : ∀ a ∈ queue, a ∈ s) :
    explore next' fresh' queue = explore next fresh queue := by
  fun_induction explore next fresh queue generalizing fresh' with
  | case1 => rw [explore]
  | case2 fresh c queue hc _ ih =>
      have hcs : c ∈ s := hqueue c List.mem_cons_self
      have hrest : ∀ a ∈ s, a ∈ without c fresh' ↔ a ∈ without c fresh := by
        intro a ha
        rw [mem_without, mem_without, hfresh a ha]
      have hqueue' : ∀ a ∈ queue ++ next c, a ∈ s := by
        intro a ha
        rcases List.mem_append.mp ha with ha | ha
        · exact hqueue a (List.mem_cons_of_mem _ ha)
        · exact hclosed c hcs a ha
      rw [explore, dif_pos ((hfresh c hcs).mpr hc), hnext c hcs, ih hrest hqueue']
  | case3 fresh c queue hc ih =>
      have hcs : c ∈ s := hqueue c List.mem_cons_self
      rw [explore, dif_neg (fun hc' => hc ((hfresh c hcs).mp hc')),
        ih hfresh fun a ha => hqueue a (List.mem_cons_of_mem _ ha)]

/-- Where no edge leaves the fresh nodes, everything that the queue leads to is visited. -/
theorem mem_explore_of_closed {next : α → List α} {fresh queue : List α} {b : α}
    (hnext : ∀ a b, b ∈ next a → b ∈ fresh) (hqueue : queue ⊆ fresh) :
    b ∈ explore next fresh queue ↔ ∃ a ∈ queue, ReflTransGen (Edge next) a b := by
  rw [mem_explore, edgeWithin_of_closed hnext]
  constructor
  · rintro ⟨a, ha, _, hpath⟩
    exact ⟨a, ha, hpath⟩
  · rintro ⟨a, ha, hpath⟩
    exact ⟨a, ha, hqueue ha, hpath⟩

end Devirt.Graph
