import Devirt.Hierarchy.Declaration
import Devirt.Proofs.KeyedTable
import Mathlib.Data.List.Nodup

/-!
# The methods of a class

Methods are offered to a declaration one after the other, and those of other classes are refused. What
the declaration then holds is the table into which the others were put under their sub-signatures: in the
order of the first method for each, and with the last one.
-/

namespace Devirt

open KeyedTable

variable {m : MethodDeclaration} {sub : SubSignature} {calls : List MethodDeclaration}

/-- Methods under their sub-signatures. -/
def methodEntries (ms : List MethodDeclaration) : List (SubSignature × MethodDeclaration) :=
  ms.map fun m => (m.sub, m)

theorem methodEntries_cons (m : MethodDeclaration) (ms : List MethodDeclaration) :
    methodEntries (m :: ms) = (m.sub, m) :: methodEntries ms := rfl

theorem methodEntries_insertMethod (m : MethodDeclaration) (ms : List MethodDeclaration) :
    methodEntries (insertMethod m ms) = put m.sub m (methodEntries ms) := by
  induction ms with
  | nil => rfl
  | cons n rest ih =>
      rw [insertMethod, methodEntries_cons, put]
      split
      · rfl
      · rw [methodEntries_cons, ih]

theorem lookup_methodEntries (ms : List MethodDeclaration) (sub : SubSignature) :
    (methodEntries ms).lookup sub = ms.find? (·.sub = sub) := by
  induction ms with
  | nil => rfl
  | cons n rest ih =>
      rw [methodEntries_cons, lookup_cons, ih, List.find?_cons]
      by_cases hsub : n.sub = sub
      · simp [hsub]
      · simp [hsub, Ne.symm hsub]

namespace ClassDeclaration

variable {c : ClassDeclaration}

/-- What a declaration says besides its methods. -/
def heading (c : ClassDeclaration) :
    ClassName × ClassModifiers × Option ClassName × List ClassName :=
  (c.name, c.modifiers, c.superclass?, c.interfaces)

/-- The declaration after a method was offered to it. If it is refused, nothing changes. -/
def offer (c : ClassDeclaration) (m : MethodDeclaration) : ClassDeclaration :=
  (c.addMethod m).toOption.getD c

def offerAll (c : ClassDeclaration) (calls : List MethodDeclaration) : ClassDeclaration :=
  calls.foldl offer c

/-- A method is found under its own sub-signature only. -/
theorem method?_eq_some_iff :
    c.method? sub = some m ↔ m ∈ c.methods ∧ m.sub = sub := by
  constructor
  · intro hm
    exact ⟨List.mem_of_find?_eq_some hm, by simpa using List.find?_some hm⟩
  · rintro ⟨hm, rfl⟩
    cases hfound : c.method? m.sub with
    | none => simpa using List.find?_eq_none.mp hfound m hm
    | some n =>
        have hsub : n.sub = m.sub := by simpa using List.find?_some hfound
        rw [List.inj_on_of_nodup_map c.methods_nodup (List.mem_of_find?_eq_some hfound) hm hsub]

/-! ## One method -/

theorem addMethod_of_foreign (h : m.owner ≠ c.name) :
    c.addMethod m = .error (.foreignMethod c.name m.signature) :=
  dif_neg h

theorem offer_of_foreign (h : m.owner ≠ c.name) : c.offer m = c := by
  rw [offer, addMethod_of_foreign h]
  rfl

theorem addMethod_of_owner (h : m.owner = c.name) :
    c.addMethod m = .ok (c.offer m) ∧ (c.offer m).methods = insertMethod m c.methods ∧
      (c.offer m).heading = c.heading := by
  rw [offer, addMethod, dif_pos h]
  exact ⟨rfl, rfl, rfl⟩

theorem heading_offer (c : ClassDeclaration) (m : MethodDeclaration) :
    (c.offer m).heading = c.heading := by
  by_cases h : m.owner = c.name
  · exact (addMethod_of_owner h).2.2
  · rw [offer_of_foreign h]

theorem addMethod_eq (c : ClassDeclaration) (m : MethodDeclaration) :
    c.addMethod m =
      if m.owner = c.name then .ok (c.offer m) else .error (.foreignMethod c.name m.signature) := by
  split
  · rename_i h
    exact (addMethod_of_owner h).1
  · rename_i h
    exact addMethod_of_foreign h

/-! ## All methods -/

theorem offerAll_append_singleton (c : ClassDeclaration) (calls : List MethodDeclaration)
    (m : MethodDeclaration) : c.offerAll (calls ++ [m]) = (c.offerAll calls).offer m := by
  rw [offerAll, List.foldl_append]
  rfl

theorem heading_offerAll (c : ClassDeclaration) (calls : List MethodDeclaration) :
    (c.offerAll calls).heading = c.heading := by
  induction calls using List.reverseRecOn with
  | nil => rfl
  | append_singleton calls m ih => rw [offerAll_append_singleton, heading_offer, ih]

theorem name_offerAll (c : ClassDeclaration) (calls : List MethodDeclaration) :
    (c.offerAll calls).name = c.name :=
  congrArg Prod.fst (c.heading_offerAll calls)

/-- What an empty declaration holds is the table of the methods that were not refused. -/
theorem methodEntries_offerAll (hempty : c.methods = []) (calls : List MethodDeclaration) :
    methodEntries (c.offerAll calls).methods =
      ofEntries (methodEntries (calls.filter (·.owner = c.name))) := by
  induction calls using List.reverseRecOn with
  | nil =>
      rw [offerAll, List.foldl_nil, hempty]
      rfl
  | append_singleton calls m ih =>
      rw [offerAll_append_singleton, List.filter_append]
      by_cases h : m.owner = c.name
      · have hadded := addMethod_of_owner (h.trans (c.name_offerAll calls).symm)
        have hown : [m].filter (·.owner = c.name) = [m] := by simp [h]
        rw [hadded.2.1, methodEntries_insertMethod, ih, hown, methodEntries, methodEntries,
          List.map_append]
        exact (ofEntries_append_singleton _ (m.sub, m)).symm
      · rw [offer_of_foreign (by rwa [name_offerAll]), ih]
        simp [h]

/-- A chain of calls breaks off at the first method that is refused. -/
theorem foldlM_addMethod (c : ClassDeclaration) (calls : List MethodDeclaration) :
    calls.foldlM addMethod c =
      match calls.find? (·.owner ≠ c.name) with
      | none => .ok (c.offerAll calls)
      | some m => .error (.foreignMethod c.name m.signature) := by
  induction calls generalizing c with
  | nil => rfl
  | cons m rest ih =>
      rw [List.foldlM_cons, addMethod_eq]
      by_cases h : m.owner = c.name
      · have hname : (c.offer m).name = c.name := congrArg Prod.fst (c.heading_offer m)
        rw [if_pos h, List.find?_cons_of_neg (by simpa using h), ← hname]
        exact ih (c.offer m)
      · rw [if_neg h, List.find?_cons_of_pos (by simpa using h)]
        rfl

end ClassDeclaration

/-- A class that is declared without methods, and to which methods are offered in turn, holds the table
of those that are its own under their sub-signatures. Each is found under its own sub-signature, the
sub-signatures are distinct and stand as they first came, and the method found under one of them is the
last of those that came. At any time the next method is added if it is one of the class, and refused by
name if it is not, and a chain of calls succeeds up to the first that is refused. Nothing but the methods
changes. -/
theorem methods_wellKeyed (name : ClassName) (modifiers : ClassModifiers)
    (superclass? : Option ClassName) (interfaces : List ClassName)
    (calls : List MethodDeclaration) :
    let new : ClassDeclaration := { name, modifiers, superclass?, interfaces }
    let c := new.offerAll calls
    let added := calls.filter (·.owner = name)
    methodEntries c.methods = ofEntries (methodEntries added) ∧
    (∀ m ∈ c.methods, m.owner = name) ∧
    (∀ sub m, c.method? sub = some m ↔ m ∈ c.methods ∧ m.sub = sub) ∧
    (c.methods.map (·.sub)).Nodup ∧
    c.methods.map (·.sub) = (added.map (·.sub)).eraseDups ∧
    (∀ sub, c.method? sub = added.reverse.find? (·.sub = sub)) ∧
    (∀ m, c.addMethod m =
      if m.owner = name then .ok (new.offerAll (calls ++ [m]))
      else .error (.foreignMethod name m.signature)) ∧
    (calls.foldlM ClassDeclaration.addMethod new =
      match calls.find? (·.owner ≠ name) with
      | none => .ok c
      | some m => .error (.foreignMethod name m.signature)) ∧
    c.heading = (name, modifiers, superclass?, interfaces) := by
  intro new c added
  have htable : methodEntries c.methods = ofEntries (methodEntries added) :=
    ClassDeclaration.methodEntries_offerAll rfl calls
  have hname : c.name = name := new.name_offerAll calls
  have hkeys : ∀ ms : List MethodDeclaration, (methodEntries ms).map Prod.fst = ms.map (·.sub) :=
    fun ms => List.map_map
  refine ⟨htable, fun m hm => (c.methods_owner m hm).trans hname,
    fun _ _ => ClassDeclaration.method?_eq_some_iff, c.methods_nodup, ?_, fun sub => ?_,
    fun m => ?_, new.foldlM_addMethod calls, new.heading_offerAll calls⟩
  · rw [← hkeys, htable, keys_ofEntries, hkeys]
  · rw [ClassDeclaration.method?, ← lookup_methodEntries, htable, lookup_ofEntries,
      ← lookup_methodEntries, methodEntries, methodEntries, List.map_reverse]
  · rw [c.addMethod_eq, hname, new.offerAll_append_singleton]

/-- The second `run` replaces the first one and stays in front of `stop`. The one of `B` is refused. -/
theorem methods_wellKeyed_replaced :
    let a : ClassName := ⟨"p", "A"⟩
    let method := fun (owner : ClassName) (name : String) (bits : UInt16) =>
      (⟨⟨owner, name, [], .void⟩, ⟨bits⟩⟩ : MethodDeclaration)
    let new : ClassDeclaration :=
      { name := a, modifiers := ⟨0x0001⟩, superclass? := none, interfaces := [] }
    let c := new.offerAll [method a "run" 0x0001, method a "stop" 0x0001,
      method ⟨"p", "B"⟩ "run" 0x0001, method a "run" 0x0401]
    c.methods = [method a "run" 0x0401, method a "stop" 0x0001] ∧
      method a "stop" 0x0001 ∈ c.methods ∧ (method a "stop" 0x0001).owner = a := by
  intro a method new c
  have hmethods : c.methods = [method a "run" 0x0401, method a "stop" 0x0001] := by decide
  have hstop : method a "stop" 0x0001 ∈ c.methods := by simp [hmethods]
  obtain ⟨-, howner, -⟩ := methods_wellKeyed a ⟨0x0001⟩ none []
    [method a "run" 0x0001, method a "stop" 0x0001, method ⟨"p", "B"⟩ "run" 0x0001,
      method a "run" 0x0401]
  exact ⟨hmethods, hstop, howner _ hstop⟩

end Devirt
