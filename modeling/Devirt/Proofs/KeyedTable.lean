import Mathlib.Data.List.Induction

/-!
# Tables with keys

A table holds one value under each of its keys. What is put under a key takes the place of what was
there, and under a new key it comes last. So the keys stand in the order in which they were first used,
while a lookup finds what was put last.
-/

namespace Devirt.KeyedTable

variable {κ α β : Type} [DecidableEq κ] {k k' : κ} {a : α} {t : List (κ × α)}

def put (k : κ) (a : α) : List (κ × α) → List (κ × α)
  | [] => [(k, a)]
  | e :: rest => if e.1 = k then (k, a) :: rest else e :: put k a rest

/-- The table into which some entries were put, one after the other. -/
def ofEntries (es : List (κ × α)) : List (κ × α) := es.foldl (fun t e => put e.1 e.2 t) []

/-! ## One entry -/

theorem keys_put : (put k a t).map Prod.fst =
    if k ∈ t.map Prod.fst then t.map Prod.fst else t.map Prod.fst ++ [k] := by
  induction t with
  | nil => rfl
  | cons e rest ih =>
      rw [put]
      by_cases he : e.1 = k
      · simp [he]
      · have hk : k ∈ (e :: rest).map Prod.fst ↔ k ∈ rest.map Prod.fst := by
          simp [Ne.symm he]
        rw [if_neg he, List.map_cons, ih]
        simp only [hk]
        split <;> rfl

theorem lookup_cons : ((k, a) :: t).lookup k' = if k' = k then some a else t.lookup k' := by
  by_cases hk : k' = k
  · simp [hk]
  · rw [List.lookup_cons, beq_false_of_ne hk, if_neg hk]

theorem lookup_put : (put k a t).lookup k' = if k' = k then some a else t.lookup k' := by
  induction t with
  | nil => exact lookup_cons
  | cons e rest ih =>
      obtain ⟨k₀, a₀⟩ := e
      rw [put]
      by_cases hk₀ : k₀ = k
      · rw [if_pos hk₀, hk₀, lookup_cons, lookup_cons]
        split <;> rfl
      · rw [if_neg hk₀, lookup_cons, lookup_cons, ih]
        split
        · rename_i heq
          rw [if_neg (heq ▸ hk₀)]
        · rfl

/-! ## All entries -/

theorem ofEntries_append_singleton (es : List (κ × α)) (e : κ × α) :
    ofEntries (es ++ [e]) = put e.1 e.2 (ofEntries es) := by
  rw [ofEntries, List.foldl_append]
  rfl

theorem keys_ofEntries (es : List (κ × α)) :
    (ofEntries es).map Prod.fst = (es.map Prod.fst).eraseDups := by
  induction es using List.reverseRecOn with
  | nil => rfl
  | append_singleton es e ih =>
      rw [ofEntries_append_singleton, keys_put, ih, List.map_append, List.eraseDups_append]
      by_cases he : e.1 ∈ es.map Prod.fst
      · simp [List.removeAll, he]
      · simp [List.removeAll, he]
        rfl

theorem lookup_ofEntries (es : List (κ × α)) (k : κ) :
    (ofEntries es).lookup k = es.reverse.lookup k := by
  induction es using List.reverseRecOn with
  | nil => rfl
  | append_singleton es e ih =>
      rw [ofEntries_append_singleton, lookup_put, ih, List.reverse_concat, lookup_cons]

/-! ## Lists under keys -/

/-- Adds to the end of the list under a key. -/
def push (k : κ) (b : β) (t : List (κ × List β)) : List (κ × List β) :=
  put k ((t.lookup k).getD [] ++ [b]) t

theorem getD_lookup_push {b : β} {t : List (κ × List β)} :
    ((push k b t).lookup k').getD [] = (t.lookup k').getD [] ++ if k' = k then [b] else [] := by
  rw [push, lookup_put]
  split
  · rename_i heq
    rw [heq]
    rfl
  · rw [List.append_nil]

/-- What was added under a key stands there in the order in which it came. -/
theorem getD_lookup_foldl_push (es : List (κ × β)) (t : List (κ × List β)) (k : κ) :
    ((es.foldl (fun t e => push e.1 e.2 t) t).lookup k).getD [] =
      (t.lookup k).getD [] ++ (es.filter (·.1 = k)).map Prod.snd := by
  induction es generalizing t with
  | nil => simp
  | cons e rest ih =>
      rw [List.foldl_cons, ih, getD_lookup_push, List.append_assoc]
      by_cases he : e.1 = k
      · simp [he]
      · simp [he, Ne.symm he]

theorem lookup_map_snd {γ : Type} (f : α → γ) (t : List (κ × α)) (k : κ) :
    (t.map fun e => (e.1, f e.2)).lookup k = (t.lookup k).map f := by
  induction t with
  | nil => rfl
  | cons e rest ih =>
      obtain ⟨k', a⟩ := e
      rw [List.map_cons, lookup_cons, lookup_cons, ih]
      split <;> rfl

end Devirt.KeyedTable
