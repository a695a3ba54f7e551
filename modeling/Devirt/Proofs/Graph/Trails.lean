import Devirt.Proofs.Graph.Discovery
import Mathlib.Data.List.Shortlex

/-!
# Trails

A trail describes a path from the queue by places in lists: where in the queue the path begins, and then
which edge it takes from each node. Shorter trails are smaller, and trails of one length are compared
lexicographically. An exploration visits its nodes in the order of their smallest trails.
-/

namespace Devirt.Graph

/-- A path through fresh nodes leads from the queue to a node, along the places of a trail. -/
inductive Trail {α : Type} (next : α → List α) (fresh queue : List α) : List Nat → α → Prop
  | queued {k : Nat} {a : α} : queue[k]? = some a → a ∈ fresh → Trail next fresh queue [k] a
  | step {t : List Nat} {k : Nat} {a b : α} : Trail next fresh queue t a → (next a)[k]? = some b →
      b ∈ fresh → Trail next fresh queue (t ++ [k]) b

/-! ## Smaller trails -/

section

variable {s t : List Nat}

theorem lex_append_append (hlength : s.length = t.length) (h : List.Lex (· < ·) s t) (u v : List Nat) :
    List.Lex (· < ·) (s ++ u) (t ++ v) := by
  induction h with
  | nil => simp at hlength
  | rel hlt => exact .rel hlt
  | cons _ ih => exact .cons (ih (Nat.succ.inj hlength))

/-- What is appended to a smaller trail and to a greater one does not matter. -/
theorem shortlex_append_singleton (h : List.Shortlex (· < ·) s t) (i j : Nat) :
    List.Shortlex (· < ·) (s ++ [i]) (t ++ [j]) := by
  rcases List.shortlex_def.mp h with hlt | ⟨hlength, hlex⟩
  · exact .of_length_lt (by simpa using hlt)
  · exact .of_lex (by simpa using hlength) (lex_append_append hlength hlex _ _)

theorem shortlex_append_of_lt {i j : Nat} (h : i < j) :
    List.Shortlex (· < ·) (t ++ [i]) (t ++ [j]) :=
  List.Shortlex.append_left ((List.shortlex_singleton_iff i j).mpr h) t

end

/-! ## Trails and paths -/

variable {α : Type} {next : α → List α} {fresh queue : List α} {a b c : α} {t : List Nat} {n : Nat}

theorem Trail.ne_nil (h : Trail next fresh queue t a) : t ≠ [] := by
  cases h with
  | queued => simp
  | step => simp

theorem Trail.exists_reachedIn (h : Trail next fresh queue t a) :
    ∃ n, ReachedIn next fresh queue n a := by
  induction h with
  | queued hk hfresh => exact ⟨0, .queued (List.mem_of_getElem? hk) hfresh⟩
  | step _ hk hfresh ih =>
      obtain ⟨n, hn⟩ := ih
      exact ⟨n + 1, hn.step (List.mem_of_getElem? hk) hfresh⟩

theorem ReachedIn.exists_trail (h : ReachedIn next fresh queue n a) :
    ∃ t, Trail next fresh queue t a := by
  induction h with
  | queued hqueue hfresh =>
      obtain ⟨k, hk⟩ := List.mem_iff_getElem?.mp hqueue
      exact ⟨[k], .queued hk hfresh⟩
  | step _ hnext hfresh ih =>
      obtain ⟨t, ht⟩ := ih
      obtain ⟨k, hk⟩ := List.mem_iff_getElem?.mp hnext
      exact ⟨t ++ [k], ht.step hk hfresh⟩

/-! ## The order of the visits -/

variable [DecidableEq α]

theorem mem_explore_iff_trail : a ∈ explore next fresh queue ↔ ∃ t, Trail next fresh queue t a := by
  rw [mem_explore_iff_reachedIn]
  constructor
  · rintro ⟨n, hn⟩
    exact hn.exists_trail
  · rintro ⟨t, ht⟩
    exact ht.exists_reachedIn

theorem idxOf_queue_lt_of_mem (ha : a ∈ explore next fresh queue) (hb : b ∈ explore next fresh queue)
    (hlt : (explore next fresh queue).idxOf a < (explore next fresh queue).idxOf b) (hqueue : b ∈ queue) :
    a ∈ queue ∧ queue.idxOf a < queue.idxOf b := by
  rw [idxOf_explore_lt_iff ha hb, history, List.idxOf_append_of_mem hqueue] at hlt
  by_cases haq : a ∈ queue
  · rw [List.idxOf_append_of_mem haq] at hlt
    exact ⟨haq, hlt⟩
  · have hplace := List.idxOf_lt_length_of_mem hqueue
    rw [List.idxOf_append_of_notMem haq] at hlt
    omega

theorem exists_find?_of_not_mem (ha : a ∈ explore next fresh queue) (hqueue : a ∉ queue) :
    ∃ p, (explore next fresh queue).find? (a ∈ next ·) = some p := by
  obtain ⟨t, ht⟩ := mem_explore_iff_trail.mp ha
  cases ht with
  | queued hk => exact absurd (List.mem_of_getElem? hk) hqueue
  | step hp hk =>
      have hsome : ∃ p ∈ explore next fresh queue, decide (a ∈ next p) = true :=
        ⟨_, mem_explore_iff_trail.mpr ⟨_, hp⟩, by simpa using List.mem_of_getElem? hk⟩
      exact Option.isSome_iff_exists.mp (List.find?_isSome.mpr hsome)

/-- A node that was not in the queue has an edge from a node that is visited before any node with an
edge to a later one, or from that node itself, where it stands first. -/
theorem exists_parent_before (ha : a ∈ explore next fresh queue) (hb : b ∈ explore next fresh queue)
    (hc : c ∈ explore next fresh queue) (hcb : b ∈ next c) (haq : a ∉ queue)
    (hlt : (explore next fresh queue).idxOf a < (explore next fresh queue).idxOf b) :
    ∃ p ∈ explore next fresh queue, a ∈ next p ∧
      ((explore next fresh queue).idxOf p < (explore next fresh queue).idxOf c ∨
        p = c ∧ (next c).idxOf a < (next c).idxOf b) := by
  have hbq : b ∉ queue := fun hbq => haq (idxOf_queue_lt_of_mem ha hb hlt hbq).1
  obtain ⟨p, hp⟩ := exists_find?_of_not_mem ha haq
  obtain ⟨q, hq⟩ := exists_find?_of_not_mem hb hbq
  have hmem : p ∈ explore next fresh queue := List.mem_of_find?_eq_some hp
  have hqc : (explore next fresh queue).idxOf q ≤ (explore next fresh queue).idxOf c :=
    idxOf_le_of_find? hq (by simpa using hcb)
  refine ⟨p, hmem, by simpa using List.find?_some hp, ?_⟩
  rcases (idxOf_explore_lt_iff_of_parents ha hb haq hbq hp hq).mp hlt with hpq | ⟨rfl, hplace⟩
  · exact Or.inl (Nat.lt_of_lt_of_le hpq hqc)
  · rcases Nat.lt_or_eq_of_le hqc with hpc | heq
    · exact Or.inl hpc
    · obtain rfl := (List.idxOf_inj hmem).mp heq
      exact Or.inr ⟨rfl, hplace⟩

/-- A node that is visited earlier has a smaller trail. By induction on the greater trail: an earlier
node stands further in front in the queue or has an edge from an earlier parent, or both have one parent
and its edges decide. -/
theorem Trail.exists_smaller (ht : Trail next fresh queue t b) (ha : a ∈ explore next fresh queue)
    (hlt : (explore next fresh queue).idxOf a < (explore next fresh queue).idxOf b) :
    ∃ s, Trail next fresh queue s a ∧ List.Shortlex (· < ·) s t := by
  have hafresh : a ∈ fresh := mem_fresh_of_mem_explore ha
  have hb : b ∈ explore next fresh queue := mem_explore_iff_trail.mpr ⟨t, ht⟩
  induction ht generalizing a with
  | @queued k b hk _ =>
      obtain ⟨haq, hplace⟩ := idxOf_queue_lt_of_mem ha hb hlt (List.mem_of_getElem? hk)
      have hbefore : queue.idxOf a < k := Nat.lt_of_lt_of_le hplace (idxOf_le_of_getElem? hk)
      exact ⟨[queue.idxOf a], .queued (List.getElem?_idxOf haq) hafresh,
        (List.shortlex_singleton_iff _ _).mpr hbefore⟩
  | @step t k c b htc hk _ ih =>
      have hc : c ∈ explore next fresh queue := mem_explore_iff_trail.mpr ⟨t, htc⟩
      by_cases haq : a ∈ queue
      · refine ⟨[queue.idxOf a], .queued (List.getElem?_idxOf haq) hafresh, .of_length_lt ?_⟩
        simpa [List.length_pos_iff] using htc.ne_nil
      · obtain ⟨p, hp, hap, hearlier | ⟨rfl, hplace⟩⟩ :=
          exists_parent_before ha hb hc (List.mem_of_getElem? hk) haq hlt
        · obtain ⟨s, hs, hst⟩ := ih hp hearlier (mem_fresh_of_mem_explore hp) hc
          exact ⟨s ++ [(next p).idxOf a], hs.step (List.getElem?_idxOf hap) hafresh,
            shortlex_append_singleton hst _ _⟩
        · have hbefore : (next p).idxOf a < k := Nat.lt_of_lt_of_le hplace (idxOf_le_of_getElem? hk)
          exact ⟨t ++ [(next p).idxOf a], htc.step (List.getElem?_idxOf hap) hafresh,
            shortlex_append_of_lt hbefore⟩

/-- The visits follow the trails: to each trail of a node that is visited later, a node that is visited
earlier has a smaller one. -/
theorem pairwise_explore_trail :
    (explore next fresh queue).Pairwise fun a b =>
      ∀ t, Trail next fresh queue t b → ∃ s, Trail next fresh queue s a ∧ List.Shortlex (· < ·) s t :=
  pairwise_explore_history.imp_of_mem fun ha hb hab _ ht =>
    ht.exists_smaller ha ((idxOf_explore_lt_iff ha hb).mpr hab)

end Devirt.Graph
