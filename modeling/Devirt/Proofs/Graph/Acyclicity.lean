import Devirt.Graph.Cycle
import Devirt.Proofs.Graph.Exploration

/-!
# The search for a cycle

A walk that meets no node on the path to it leaves behind the finished nodes in an order in which every
edge leads backwards. Such an order excludes cycles. A walk that does meet one has followed a cycle,
since every node of the path leads to what is still to be walked through.
-/

namespace Devirt.Graph

open Relation

variable {α : Type} {nodes : List α} {next : α → List α}

/-- Every edge of the listed nodes leads to a node that is listed further down. -/
def Backwards (nodes : List α) (next : α → List α) : List α → Prop
  | [] => True
  | a :: rest => a ∉ rest ∧ (∀ b, EdgeWithin next nodes a b → b ∈ rest) ∧ Backwards nodes next rest

theorem Backwards.closed {l : List α} (h : Backwards nodes next l) {a b} (ha : a ∈ l)
    (hab : EdgeWithin next nodes a b) : b ∈ l := by
  induction l with
  | nil => simp at ha
  | cons c rest ih =>
      rcases List.mem_cons.mp ha with rfl | ha
      · exact List.mem_cons_of_mem _ (h.2.1 b hab)
      · exact List.mem_cons_of_mem _ (ih h.2.2 ha)

theorem Backwards.closed_path {l : List α} (h : Backwards nodes next l) {a b} (ha : a ∈ l)
    (hab : ReflTransGen (EdgeWithin next nodes) a b) : b ∈ l := by
  induction hab with
  | refl => exact ha
  | tail _ hlast ih => exact h.closed ih hlast

theorem Backwards.not_cycle {l : List α} (h : Backwards nodes next l) {a} (ha : a ∈ l) :
    ¬ TransGen (EdgeWithin next nodes) a a := by
  intro hcycle
  induction l with
  | nil => simp at ha
  | cons c rest ih =>
      rcases List.mem_cons.mp ha with rfl | ha
      · obtain ⟨b, hab, hba⟩ := TransGen.head'_iff.mp hcycle
        exact h.1 (h.2.2.closed_path (h.2.1 b hab) hba)
      · exact ih h.2.2 ha

/-- Every node of a path leads to each of the nodes that are still to be walked through. -/
def Leads (nodes : List α) (next : α → List α) (path todo : List α) : Prop :=
  ∀ p ∈ path, ∀ a ∈ todo, a ∈ nodes → TransGen (EdgeWithin next nodes) p a

theorem Leads.rest {path rest : List α} {a} (h : Leads nodes next path (a :: rest)) :
    Leads nodes next path rest :=
  fun p hp b hb => h p hp b (List.mem_cons_of_mem _ hb)

theorem Leads.below {path rest : List α} {a} (h : Leads nodes next path (a :: rest))
    (ha : a ∈ nodes) : Leads nodes next (a :: path) (next a) := by
  intro p hp b hb hbn
  have hab : EdgeWithin next nodes a b := ⟨hb, hbn⟩
  rcases List.mem_cons.mp hp with rfl | hp
  · exact .single hab
  · exact (h p hp a List.mem_cons_self ha).tail hab

theorem mem_of_not_passed {finished : List α} {a} (h : ¬ (a ∉ nodes ∨ a ∈ finished)) : a ∈ nodes :=
  Classical.not_not.mp fun ha => h (Or.inl ha)

variable [DecidableEq α]

/-- What was finished before stays finished, and nothing on the path to here is finished. -/
theorem mem_finished_of_walk {path finished todo out : List α}
    (h : walk nodes next path finished todo = .ok out) :
    finished ⊆ out ∧ ∀ a ∈ out, a ∈ finished ∨ a ∉ path := by
  fun_induction walk nodes next path finished todo generalizing out with
  | case1 path finished =>
      cases h
      exact ⟨fun _ ha => ha, fun _ ha => Or.inl ha⟩
  | case2 path finished a rest hpass ih => exact ih h
  | case3 path finished a rest hnew hpath => cases h
  | case4 path finished a rest hnew hpath c hc _ => cases h
  | case5 path finished a rest hnew hpath below hbelow ihBelow ihRest =>
      obtain ⟨hsubBelow, hoffBelow⟩ := ihBelow hbelow
      obtain ⟨hsub, hoff⟩ := ihRest h
      refine ⟨fun b hb => hsub (List.mem_cons_of_mem _ (hsubBelow hb)), fun b hb => ?_⟩
      rcases hoff b hb with hb | hb
      · rcases List.mem_cons.mp hb with rfl | hb
        · exact Or.inr hpath
        · rcases hoffBelow b hb with hb | hb
          · exact Or.inl hb
          · exact Or.inr fun h => hb (List.mem_cons_of_mem _ h)
      · exact Or.inr hb

/-- A walk that finds no cycle finishes all of its nodes, and the finished nodes stay in an order in
which edges lead backwards. -/
theorem backwards_of_walk {path finished todo out : List α}
    (h : walk nodes next path finished todo = .ok out) (hfinished : Backwards nodes next finished) :
    Backwards nodes next out ∧ ∀ a ∈ todo, a ∈ nodes → a ∈ out := by
  fun_induction walk nodes next path finished todo generalizing out with
  | case1 path finished =>
      cases h
      exact ⟨hfinished, by simp⟩
  | case2 path finished a rest hpass ih =>
      obtain ⟨hback, hall⟩ := ih h hfinished
      refine ⟨hback, fun b hb hbn => ?_⟩
      rcases List.mem_cons.mp hb with rfl | hb
      · exact (mem_finished_of_walk h).1 (hpass.resolve_left fun hn => hn hbn)
      · exact hall b hb hbn
  | case3 path finished a rest hnew hpath => cases h
  | case4 path finished a rest hnew hpath c hc _ => cases h
  | case5 path finished a rest hnew hpath below hbelow ihBelow ihRest =>
      obtain ⟨hbackBelow, hallBelow⟩ := ihBelow hbelow hfinished
      -- The node itself was on the path while everything below it was walked.
      have ha : a ∉ below := by
        intro hmem
        rcases (mem_finished_of_walk hbelow).2 a hmem with hmem | hmem
        · exact hnew (Or.inr hmem)
        · exact hmem List.mem_cons_self
      have hedges : ∀ b, EdgeWithin next nodes a b → b ∈ below := fun b hb => hallBelow b hb.1 hb.2
      obtain ⟨hback, hall⟩ := ihRest h ⟨ha, hedges, hbackBelow⟩
      refine ⟨hback, fun b hb hbn => ?_⟩
      rcases List.mem_cons.mp hb with rfl | hb
      · exact (mem_finished_of_walk h).1 List.mem_cons_self
      · exact hall b hb hbn

/-- Where no cycle is found, there is none. -/
theorem not_cycle_of_cycle?_eq_none (h : cycle? nodes next = none) {a} (ha : a ∈ nodes) :
    ¬ TransGen (EdgeWithin next nodes) a a := by
  unfold cycle? at h
  split at h
  · rename_i out hwalk
    obtain ⟨hback, hall⟩ := backwards_of_walk hwalk trivial
    exact hback.not_cycle (hall a ha ha)
  · cases h

/-! ## A node that is met again -/

theorem cycle_of_walk {path finished todo : List α} {c}
    (h : walk nodes next path finished todo = .error c) (hleads : Leads nodes next path todo) :
    c ∈ nodes ∧ TransGen (EdgeWithin next nodes) c c := by
  fun_induction walk nodes next path finished todo with
  | case1 path finished => cases h
  | case2 path finished a rest hpass ih => exact ih h hleads.rest
  | case3 path finished a rest hnew hpath =>
      have ha := mem_of_not_passed hnew
      cases h
      exact ⟨ha, hleads _ hpath _ List.mem_cons_self ha⟩
  | case4 path finished a rest hnew hpath c hc ih =>
      have ha := mem_of_not_passed hnew
      cases h
      exact ih hc (hleads.below ha)
  | case5 path finished a rest hnew hpath below hbelow _ ihRest => exact ihRest h hleads.rest

/-- A node that is reported lies on a cycle. -/
theorem cycle_of_cycle?_eq_some {c} (h : cycle? nodes next = some c) :
    c ∈ nodes ∧ TransGen (EdgeWithin next nodes) c c := by
  unfold cycle? at h
  split at h
  · cases h
  · rename_i a hwalk
    cases h
    exact cycle_of_walk hwalk fun p hp => absurd hp List.not_mem_nil

/-! ## Edges that leave the graph -/

theorem walk_filter {path finished todo : List α} :
    walk nodes (fun a => (next a).filter (· ∈ nodes)) path finished (todo.filter (· ∈ nodes)) =
      walk nodes next path finished todo := by
  fun_induction walk nodes next path finished todo with
  | case1 path finished => rw [List.filter_nil, walk]
  | case2 path finished a rest hpass ih =>
      by_cases ha : a ∈ nodes
      · rw [List.filter_cons_of_pos (by simpa using ha), walk, if_pos hpass, ih]
      · rw [List.filter_cons_of_neg (by simpa using ha), ih]
  | case3 path finished a rest hnew hpath =>
      have ha := mem_of_not_passed hnew
      rw [List.filter_cons_of_pos (by simpa using ha), walk, if_neg hnew, if_pos hpath]
  | case4 path finished a rest hnew hpath c hc ih =>
      have ha := mem_of_not_passed hnew
      rw [List.filter_cons_of_pos (by simpa using ha), walk, if_neg hnew, if_neg hpath, ih, hc]
  | case5 path finished a rest hnew hpath below hbelow ihBelow ihRest =>
      have ha := mem_of_not_passed hnew
      rw [List.filter_cons_of_pos (by simpa using ha), walk, if_neg hnew, if_neg hpath, ihBelow,
        hbelow]
      exact ihRest

/-- Edges to nodes outside the graph have no part in the search. -/
theorem cycle?_filter :
    cycle? nodes (fun a => (next a).filter (· ∈ nodes)) = cycle? nodes next := by
  have hnodes : nodes.filter (· ∈ nodes) = nodes := List.filter_eq_self.mpr (by simp)
  have hwalk := @walk_filter α nodes next _ [] [] nodes
  rw [hnodes] at hwalk
  rw [cycle?, cycle?, hwalk]

end Devirt.Graph
