import Devirt.Proofs.Dispatch.Outcome
import Devirt.Proofs.Hierarchy.Rounds
import Devirt.Proofs.Hierarchy.Subtypes

/-!
# The search for default methods as a loop

The search keeps a queue of declarations and the names of those that it has processed. Like the walks of
a hierarchy it needs no bound, whatever the interfaces of the declarations are.
-/

namespace Devirt

open Relation StateTransition Devirt.Graph Diamond

variable {v : View} {sub : SubSignature}

/-! ## What is collected -/

/-- A found declaration goes to the end of those of its kind. -/
def DefaultSearch.add (s : DefaultSearch) (d : MethodDeclaration) : DefaultSearch :=
  if d.isAbstract then { s with abstracts := s.abstracts ++ [d] }
  else { s with defaults := s.defaults ++ [d] }

theorem DefaultSearch.foldl_add (s : DefaultSearch) (found : List MethodDeclaration) :
    found.foldl add s =
      ⟨s.defaults ++ found.filter (!·.isAbstract), s.abstracts ++ found.filter (·.isAbstract)⟩ := by
  induction found generalizing s with
  | nil => simp
  | cons d found ih =>
      rw [List.foldl_cons, ih]
      cases hd : d.isAbstract <;> simp [add, hd]

/-! ## The loop -/

/-- The interfaces of a class that the view resolves. -/
def View.resolvedInterfaces (v : View) (c : ClassDeclaration) : List ClassDeclaration :=
  c.interfaces.filterMap v.class?

/-- The loop that searches interfaces for a method, between two rounds. -/
structure InterfaceSearch where
  queue : List ClassDeclaration
  processed : List ClassName
  search : DefaultSearch

namespace InterfaceSearch

variable {i : ClassDeclaration} {c : ClassName} {queue processed fresh : List ClassName}
  {search : DefaultSearch}

/-- One round, unless the queue is empty. -/
def round (v : View) (sub : SubSignature) (w : InterfaceSearch) : Option InterfaceSearch :=
  match w.queue with
  | [] => none
  | i :: queue =>
    if i.name ∈ w.processed then some { w with queue := queue }
    else
      match i.method? sub with
      | some d => some ⟨queue, i.name :: w.processed, w.search.add d⟩
      | none => some ⟨queue ++ v.resolvedInterfaces i, i.name :: w.processed, w.search⟩

theorem round_of_processed {rest : List ClassDeclaration} (h : i.name ∈ processed) :
    round v sub ⟨i :: rest, processed, search⟩ = some ⟨rest, processed, search⟩ := if_pos h

theorem round_of_declared (hi : v.class? c = some i) (hc : c ∉ processed) {d}
    (hd : v.method? ⟨c, sub⟩ = some d) :
    round v sub ⟨i :: queue.filterMap v.class?, processed, search⟩ =
      some ⟨(queue ++ v.searchStep sub c).filterMap v.class?, c :: processed, search.add d⟩ := by
  rw [View.method?_of_class? hi] at hd
  obtain rfl := View.name_of_class? hi
  simp [round, hc, hd, View.searchStep, hi]

theorem round_of_undeclared (hi : v.class? c = some i) (hc : c ∉ processed)
    (hnone : v.method? ⟨c, sub⟩ = none) :
    round v sub ⟨i :: queue.filterMap v.class?, processed, search⟩ =
      some ⟨(queue ++ v.searchStep sub c).filterMap v.class?, c :: processed, search⟩ := by
  rw [View.method?_of_class? hi] at hnone
  obtain rfl := View.name_of_class? hi
  simp [round, hc, hnone, View.searchStep, hi, View.resolvedInterfaces]

/-- The loop ends, after it has collected what the visited interfaces declare. The exploration passes
over names that the view does not resolve, which never come into the queue of the loop. -/
theorem eval_round (hunseen : Unseen (v.classes.map (·.name)) processed fresh) :
    (eval (round v sub) ⟨queue.filterMap v.class?, processed, search⟩).map (·.search) =
      .some (((explore (v.searchStep sub) fresh queue).filterMap
        fun c => v.method? ⟨c, sub⟩).foldl .add search) := by
  fun_induction explore (v.searchStep sub) fresh queue generalizing processed search with
  | case1 =>
      rw [List.filterMap_nil, eval_of_end rfl, Part.map_some, List.filterMap_nil, List.foldl_nil]
  | case2 fresh c queue hc _ ih =>
      obtain ⟨i, hi⟩ := View.mem_names_iff.mp ((hunseen c).mp hc).1
      have hprocessed : c ∉ processed := hunseen.not_mem_seen hc
      rw [List.filterMap_cons_some hi]
      cases hd : v.method? ⟨c, sub⟩ with
      | some d =>
          rw [eval_of_round (round_of_declared hi hprocessed hd), ih (hunseen.visit c)]
          simp only [List.filterMap_cons, hd, List.foldl_cons]
      | none =>
          rw [eval_of_round (round_of_undeclared hi hprocessed hd), ih (hunseen.visit c)]
          simp only [List.filterMap_cons, hd]
  | case3 fresh c queue hc ih =>
      cases hi : v.class? c with
      | some i =>
          have hprocessed : c ∈ processed := hunseen.mem_seen (View.mem_names_iff.mpr ⟨i, hi⟩) hc
          rw [← View.name_of_class? hi] at hprocessed
          rw [List.filterMap_cons_some hi, eval_of_round (round_of_processed hprocessed), ih hunseen]
      | none =>
          rw [List.filterMap_cons_none hi, ih hunseen]

end InterfaceSearch

/-- The search from the interfaces of some classes. -/
def View.searchLoop (v : View) (chain : List ClassDeclaration) (sub : SubSignature) :
    Part DefaultSearch :=
  (eval (InterfaceSearch.round v sub) ⟨chain.flatMap v.resolvedInterfaces, [], ⟨[], []⟩⟩).map
    (·.search)

theorem View.searchLoop_eq (v : View) (chain : List ClassDeclaration) (sub : SubSignature) :
    v.searchLoop chain sub = .some (v.searchDefaults chain sub) := by
  have hqueue : chain.flatMap v.resolvedInterfaces =
      (chain.flatMap (·.interfaces)).filterMap v.class? := by
    rw [List.filterMap_flatMap]
    rfl
  rw [searchLoop, hqueue, InterfaceSearch.eval_round .nothing_seen, DefaultSearch.foldl_add]
  simp only [List.nil_append]
  rfl

/-- Whatever the edges of a hierarchy are, with cycles and with classes that are not declared, each of
its walks ends as a loop, with the answer that the walk has, and so does the search for default methods.
No walk meets a class twice, and the walks down and up do not come back to where they began. The walk
down finds all that the edges downwards lead to. A class is a subclass of those that its edges upwards
lead to, of itself, and of the root class. -/
theorem walks_end_exact (v : View) (s t : ClassName) (chain : List ClassDeclaration)
    (sub : SubSignature) :
    let h := v.hierarchy
    h.subtypesLoop t = .some (h.subtypes t) ∧
    h.superclassesLoop t = .some (h.superclasses t) ∧
    h.allInterfacesLoop t = .some (h.allInterfaces t) ∧
    h.isSubclassLoop s t = .some (h.isSubclass s t) ∧
    v.searchLoop chain sub = .some (v.searchDefaults chain sub) ∧
    (t :: h.subtypes t).Nodup ∧ (t :: h.superclasses t).Nodup ∧ (h.allInterfaces t).Nodup ∧
    (∀ b, b ∈ h.subtypes t ↔ b ≠ t ∧ ReflTransGen (Edge h.directSubtypes) t b) ∧
    (h.isSubclass s t = true ↔ s = t ∨ t = .object ∨ TransGen (Edge h.supertypes) s t) := by
  intro h
  have hsubtypes : (t :: h.subtypes t).Nodup :=
    List.nodup_cons.mpr ⟨fun ht => (Hierarchy.mem_subtypes.mp ht).1 rfl, nodup_explore⟩
  exact ⟨h.subtypesLoop_eq t, h.superclassesLoop_eq t, h.allInterfacesLoop_eq t,
    h.isSubclassLoop_eq s t, v.searchLoop_eq chain sub, hsubtypes, h.nodup_superclasses t,
    nodup_explore, fun _ => Hierarchy.mem_subtypes, Hierarchy.isSubclass_iff⟩

/-- Two classes that extend each other, of which one names itself as an interface, twice. -/
example :
    let h := Hierarchy.ofClasses
      [declare (name "Chicken") 0x0001 (name "Egg") [name "Chicken", name "Chicken"] none,
        declare (name "Egg") 0x0001 (name "Chicken") [] none]
    h.subtypes (name "Chicken") = [name "Egg"] ∧ h.superclasses (name "Chicken") = [name "Egg"] ∧
    h.allInterfaces (name "Egg") = [name "Chicken"] ∧ h.isSubclass (name "Egg") (name "Egg") := by
  cbv

end Devirt
