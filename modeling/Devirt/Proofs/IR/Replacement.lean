import Devirt.IR.Body
import Mathlib.Data.List.Nodup

/-!
# Bodies under replacement

Bodies and handles that exist side by side, and the calls that lead from one such state to another. However
many statements are replaced, in whatever bodies and by whatever handles, no body holds two handles with
one identity. So a replacement finds the one entry that it is meant for, and nothing else changes.
-/

namespace Devirt

theorem Handle.same_iff {a b : Handle} : a.same b ↔ a.id = b.id :=
  decide_eq_true_iff

/-! ## Issuing handles -/

theorem Supply.map_id_issueAll (supply : Supply) (stmts : List Stmt) :
    (supply.issueAll stmts).1.map Handle.id = List.range' supply.next stmts.length := by
  induction stmts generalizing supply with
  | nil => rfl
  | cons stmt rest ih => exact congrArg (supply.next :: ·) (ih ⟨supply.next + 1⟩)

/-! ## One body -/

namespace Body

/-- No two handles of the body have one identity. -/
def Distinct (b : Body) : Prop := (b.stmts.map Handle.id).Nodup

variable {b : Body} {old : Handle} {k : Nat}

theorem indexOf?_eq_none_iff : b.indexOf? old = none ↔ ∀ h ∈ b.stmts, ¬ old.same h := by
  simp [indexOf?, List.findIdx?_eq_none_iff]

theorem indexOf?_eq_some (h : b.indexOf? old = some k) :
    ∃ found, b.stmts[k]? = some found ∧ old.same found := by
  obtain ⟨hk, hsame, -⟩ := List.findIdx?_eq_some_iff_getElem.mp h
  exact ⟨b.stmts[k], List.getElem?_eq_getElem hk, hsame⟩

theorem replace?_of_indexOf?_eq_none (h : b.indexOf? old = none) (new : Stmt) (supply : Supply) :
    b.replace? old new supply = none := by
  rw [replace?, h]
  rfl

theorem replace?_of_indexOf?_eq_some (h : b.indexOf? old = some k) {found : Handle}
    (hfound : b.stmts[k]? = some found) (new : Stmt) (supply : Supply) :
    b.replace? old new supply =
      some (found, { b with stmts := b.stmts.set k ⟨supply.next, new⟩ }, ⟨supply.next + 1⟩) := by
  rw [replace?, h]
  simp only [bind, Option.bind, hfound]
  rfl

/-- An identity stands at one place only. -/
theorem Distinct.eq_of_same (hb : b.Distinct) {i j : Nat} {x y : Handle} (hx : b.stmts[i]? = some x)
    (hy : b.stmts[j]? = some y) (hsame : x.id = y.id) : i = j := by
  have hi : i < (b.stmts.map Handle.id).length := by
    rw [List.length_map]
    exact (List.getElem?_eq_some_iff.mp hx).1
  refine (List.getElem?_inj hi hb).mp ?_
  rw [List.getElem?_map, List.getElem?_map, hx, hy, Option.map_some, Option.map_some, hsame]

theorem Distinct.set (hb : b.Distinct) {n : Nat} (hn : ∀ h ∈ b.stmts, h.id ≠ n) (k : Nat)
    (new : Stmt) : Distinct { b with stmts := b.stmts.set k ⟨n, new⟩ } := by
  rw [Distinct, List.map_set]
  refine List.Nodup.set hb fun hmem => ?_
  obtain ⟨h, hh, hid⟩ := List.mem_map.mp hmem
  exact hn h hh hid

theorem distinct_ofStmts (supply : Supply) (method : MethodSignature) (locals : List Local)
    (stmts : List Stmt) : (ofStmts supply method locals stmts).1.Distinct := by
  have hids : (ofStmts supply method locals stmts).1.stmts.map Handle.id =
      List.range' supply.next stmts.length := supply.map_id_issueAll stmts
  rw [Distinct, hids]
  exact List.nodup_range'

/-- One entry of a body makes way for a statement under a new handle. -/
structure Replaced (b : Body) (k : Nat) (new : Handle) (b' : Body) : Prop where
  method : b'.method = b.method
  locals : b'.locals = b.locals
  length : b'.stmts.length = b.stmts.length
  entry : b'.stmts[k]? = some new
  others : ∀ j, j ≠ k → b'.stmts[j]? = b.stmts[j]?

theorem replaced_set (hk : k < b.stmts.length) (new : Handle) :
    b.Replaced k new { b with stmts := b.stmts.set k new } where
  method := rfl
  locals := rfl
  length := List.length_set
  entry := by rw [List.getElem?_set_self hk]
  others _ hj := List.getElem?_set_ne (Ne.symm hj)

/-- What has been replaced is not found again. -/
theorem Replaced.indexOf?_eq_none {new found : Handle} {b' : Body} (h : b.Replaced k new b')
    (hb : b.Distinct) (hfound : b.stmts[k]? = some found) (hsame : old.same found)
    (hnew : found.id ≠ new.id) : b'.indexOf? old = none := by
  rw [Handle.same_iff] at hsame
  rw [indexOf?_eq_none_iff]
  intro x hx hold
  rw [Handle.same_iff] at hold
  obtain ⟨j, hj⟩ := List.mem_iff_getElem?.mp hx
  -- at `k` the identity is the new one, and at no other place did the old one stand
  by_cases hjk : j = k
  · rw [hjk, h.entry, Option.some.injEq] at hj
    exact hnew (by rw [hj, ← hold, hsame])
  · rw [h.others j hjk] at hj
    exact hjk (hb.eq_of_same hj hfound (hold.symm.trans hsame))

end Body

/-! ## Bodies side by side -/

/-- Bodies that exist at one time, and handles that are kept outside them. Bodies may share handles. -/
structure Workspace where
  bodies : List Body
  kept : List Handle

namespace Workspace

/-- The handles in use. -/
def handles (w : Workspace) : List Handle := w.bodies.flatMap Body.stmts ++ w.kept

/-- None of the next identities of a supply is one of a handle in use. -/
def Fresh (w : Workspace) (supply : Supply) (count : Nat) : Prop :=
  ∀ h ∈ w.handles, h.id ∉ List.range' supply.next count

/-- Replaces a statement in one of the bodies. The answer is the handle that was there. -/
def replace (w : Workspace) (i : Nat) (old : Handle) (new : Stmt) (supply : Supply) :
    Option Handle × Workspace :=
  match w.bodies[i]?.bind (·.replace? old new supply) with
  | some (removed, b, _) => (some removed, ⟨w.bodies.set i b, removed :: w.kept⟩)
  | none => (none, w)

/-- What calls lead to. Identities that are no longer in use may be issued again. -/
inductive Reachable : Workspace → Prop
  | empty : Reachable ⟨[], []⟩
  | make {w : Workspace} (supply : Supply) (method : MethodSignature) (locals : List Local)
      (stmts : List Stmt) : Reachable w → w.Fresh supply stmts.length →
      Reachable { w with bodies := (Body.ofStmts supply method locals stmts).1 :: w.bodies }
  | issue {w : Workspace} (supply : Supply) (stmt : Stmt) : Reachable w → w.Fresh supply 1 →
      Reachable { w with kept := (supply.issue stmt).1 :: w.kept }
  /-- Bodies are cloned and dropped, handles are taken out of bodies and dropped. -/
  | select {w w' : Workspace} : Reachable w → w'.bodies ⊆ w.bodies → w'.kept ⊆ w.handles →
      Reachable w'
  | replace {w : Workspace} (i : Nat) (old : Handle) (new : Stmt) (supply : Supply) :
      Reachable w → w.Fresh supply 1 → Reachable (w.replace i old new supply).2

/-- What holds of every reachable workspace. -/
structure Sound (w : Workspace) : Prop where
  distinct : ∀ b ∈ w.bodies, b.Distinct
  /-- An identity stands for one statement. -/
  coherent : ∀ h ∈ w.handles, ∀ h' ∈ w.handles, h.id = h'.id → h = h'

variable {w w' : Workspace} {b : Body} {h : Handle}

theorem mem_handles : h ∈ w.handles ↔ (∃ b ∈ w.bodies, h ∈ b.stmts) ∨ h ∈ w.kept := by
  rw [handles, List.mem_append, List.mem_flatMap]

theorem mem_handles_of_mem_body (hb : b ∈ w.bodies) (hh : h ∈ b.stmts) : h ∈ w.handles :=
  mem_handles.mpr (Or.inl ⟨b, hb, hh⟩)

theorem Fresh.id_ne {supply : Supply} (hfresh : w.Fresh supply 1) (hh : h ∈ w.handles) :
    h.id ≠ supply.next := by
  rintro heq
  exact hfresh h hh (by simp [heq])

/-- New handles under distinct identities that are not in use break nothing. -/
theorem Sound.of_issued (hw : w.Sound) (issued : List Handle) (hissued : (issued.map Handle.id).Nodup)
    (hnew : ∀ h ∈ w.handles, h.id ∉ issued.map Handle.id) (hbodies : ∀ b ∈ w'.bodies, b.Distinct)
    (hhandles : ∀ h ∈ w'.handles, h ∈ w.handles ∨ h ∈ issued) : w'.Sound := by
  refine ⟨hbodies, fun x hx y hy hid => ?_⟩
  rcases hhandles x hx with hx | hx
  · rcases hhandles y hy with hy | hy
    · exact hw.coherent x hx y hy hid
    · exact absurd (hid ▸ List.mem_map_of_mem hy) (hnew x hx)
  · rcases hhandles y hy with hy | hy
    · exact absurd (hid ▸ List.mem_map_of_mem hx) (hnew y hy)
    · exact List.inj_on_of_nodup_map hissued hx hy hid

theorem Sound.make (hw : w.Sound) {supply : Supply} (method : MethodSignature)
    (locals : List Local) {stmts : List Stmt} (hfresh : w.Fresh supply stmts.length) :
    Sound { w with bodies := (Body.ofStmts supply method locals stmts).1 :: w.bodies } := by
  have hids := supply.map_id_issueAll stmts
  refine hw.of_issued (supply.issueAll stmts).1 ?_ ?_ ?_ ?_
  · rw [hids]
    exact List.nodup_range'
  · rw [hids]
    exact hfresh
  · exact List.forall_mem_cons.mpr ⟨Body.distinct_ofStmts .., hw.distinct⟩
  · intro h hh
    rw [mem_handles, List.exists_mem_cons_iff, or_assoc, ← mem_handles] at hh
    exact hh.symm

theorem Sound.issue (hw : w.Sound) {supply : Supply} (stmt : Stmt) (hfresh : w.Fresh supply 1) :
    Sound { w with kept := (supply.issue stmt).1 :: w.kept } := by
  refine hw.of_issued [(supply.issue stmt).1] (List.nodup_singleton _) hfresh
    hw.distinct fun h hh => ?_
  rw [mem_handles, List.mem_cons] at hh
  rcases hh with hbody | hnew | hkept
  · exact Or.inl (mem_handles.mpr (Or.inl hbody))
  · exact Or.inr (List.mem_singleton.mpr hnew)
  · exact Or.inl (mem_handles.mpr (Or.inr hkept))

theorem Sound.select (hw : w.Sound) (hbodies : w'.bodies ⊆ w.bodies) (hkept : w'.kept ⊆ w.handles) :
    w'.Sound := by
  refine hw.of_issued [] List.nodup_nil (fun _ _ => List.not_mem_nil)
    (fun b hb => hw.distinct b (hbodies hb)) fun h hh => Or.inl ?_
  rcases mem_handles.mp hh with ⟨b, hb, hh⟩ | hh
  · exact mem_handles_of_mem_body (hbodies hb) hh
  · exact hkept hh

/-! ## One call -/

theorem replace_of_indexOf?_eq_none {i : Nat} {old : Handle} (hb : w.bodies[i]? = some b)
    (hindex : b.indexOf? old = none) (new : Stmt) (supply : Supply) :
    w.replace i old new supply = (none, w) := by
  rw [replace, hb, Option.bind_some, Body.replace?_of_indexOf?_eq_none hindex]

theorem replace_of_indexOf?_eq_some {i k : Nat} {old found : Handle} (hb : w.bodies[i]? = some b)
    (hindex : b.indexOf? old = some k) (hfound : b.stmts[k]? = some found) (new : Stmt)
    (supply : Supply) :
    w.replace i old new supply = (some found,
      ⟨w.bodies.set i { b with stmts := b.stmts.set k ⟨supply.next, new⟩ }, found :: w.kept⟩) := by
  rw [replace, hb, Option.bind_some, Body.replace?_of_indexOf?_eq_some hindex hfound]

/-- A replacement brings no handle into use but the new one. -/
theorem mem_handles_of_mem_set {i k : Nat} {found new : Handle} (hb : b ∈ w.bodies)
    (hfound : found ∈ b.stmts)
    (hh : h ∈ handles ⟨w.bodies.set i { b with stmts := b.stmts.set k new }, found :: w.kept⟩) :
    h ∈ w.handles ∨ h = new := by
  rcases mem_handles.mp hh with ⟨c, hc, hh⟩ | hh
  · rcases List.mem_or_eq_of_mem_set hc with hc | rfl
    · exact Or.inl (mem_handles_of_mem_body hc hh)
    · exact (List.mem_or_eq_of_mem_set hh).imp_left (mem_handles_of_mem_body hb)
  · rcases List.mem_cons.mp hh with rfl | hh
    · exact Or.inl (mem_handles_of_mem_body hb hfound)
    · exact Or.inl (mem_handles.mpr (Or.inr hh))

theorem Sound.replace (hw : w.Sound) (i : Nat) (old : Handle) (new : Stmt) {supply : Supply}
    (hfresh : w.Fresh supply 1) : (w.replace i old new supply).2.Sound := by
  cases hb : w.bodies[i]? with
  | none =>
      rw [Workspace.replace, hb]
      exact hw
  | some b =>
      cases hindex : b.indexOf? old with
      | none =>
          rw [replace_of_indexOf?_eq_none hb hindex]
          exact hw
      | some k =>
          obtain ⟨found, hfound, -⟩ := Body.indexOf?_eq_some hindex
          rw [replace_of_indexOf?_eq_some hb hindex hfound]
          have hmem : b ∈ w.bodies := List.mem_of_getElem? hb
          refine hw.of_issued [⟨supply.next, new⟩] (List.nodup_singleton _) hfresh ?_ fun h hh =>
            (mem_handles_of_mem_set hmem (List.mem_of_getElem? hfound) hh).imp_right
              List.mem_singleton.mpr
          intro c hc
          rcases List.mem_or_eq_of_mem_set hc with hc | rfl
          · exact hw.distinct c hc
          · exact (hw.distinct b hmem).set
              (fun h hh => hfresh.id_ne (mem_handles_of_mem_body hmem hh)) k new

theorem Reachable.sound (hw : w.Reachable) : w.Sound := by
  induction hw with
  | empty =>
      exact ⟨fun _ hb => absurd hb List.not_mem_nil, fun _ hh => absurd hh List.not_mem_nil⟩
  | make supply method locals stmts _ hfresh ih => exact ih.make method locals hfresh
  | issue supply stmt _ hfresh ih => exact ih.issue stmt hfresh
  | select _ hbodies hkept ih => exact ih.select hbodies hkept
  | replace i old new supply _ hfresh ih => exact ih.replace i old new hfresh

end Workspace

/-! ## Call sites -/

/-- The instruction makes the call, either on its own or as the source of an assignment. -/
inductive Instruction.Makes : Instruction → Call → Prop
  | call (c : Call) : Makes (.call c) c
  | assign (target : Target) (c : Call) : Makes (.assign ⟨target, .expr (.call c)⟩) c

theorem Instruction.call?_eq_some_iff {i : Instruction} {c : Call} :
    i.call? = some c ↔ i.Makes c := by
  constructor
  · intro h
    cases i with
    | assign a =>
        obtain ⟨target, source⟩ := a
        cases source with
        | expr e =>
            cases e with
            | call d =>
                cases h
                exact .assign target c
            | _ => cases h
        | _ => cases h
    | call d =>
        cases h
        exact .call c
    | _ => cases h
  · rintro (_ | _) <;> rfl

namespace Body

variable {b : Body}

theorem mem_callSites {h : Handle} {c : Call} :
    (h, c) ∈ b.callSites ↔ h ∈ b.stmts ∧ h.stmt.instr.Makes c := by
  rw [callSites, List.mem_filterMap]
  constructor
  · rintro ⟨x, hx, hsite⟩
    obtain ⟨d, hd, heq⟩ := Option.map_eq_some_iff.mp hsite
    obtain ⟨rfl, rfl⟩ := Prod.mk.inj heq
    exact ⟨hx, Instruction.call?_eq_some_iff.mp hd⟩
  · rintro ⟨hh, hc⟩
    exact ⟨h, hh, by rw [Instruction.call?_eq_some_iff.mpr hc]; rfl⟩

/-- Call sites are listed in program order. -/
theorem callSites_sublist : (b.callSites.map Prod.fst).Sublist b.stmts := by
  rw [callSites]
  induction b.stmts with
  | nil => exact .slnil
  | cons h rest ih =>
      rw [List.filterMap_cons]
      cases h.stmt.instr.call? with
      | none => exact ih.cons h
      | some c => exact ih.cons_cons h

end Body

namespace Workspace

/-- In every reachable workspace the handles of a body are pairwise distinct. A replacement by a handle that
is not in the body does nothing. By one that is there, it gives that handle back and puts the new
statement in its place, under an identity that was not in use; the rest of the body and the other bodies
stay as they are, and a repetition does nothing. The call sites of a body are its calls, in program order. -/
theorem replace_exact {w : Workspace} (hw : w.Reachable) {i : Nat} {b : Body}
    (hb : w.bodies[i]? = some b) :
    b.stmts.Pairwise (fun h h' => ¬ h.same h') ∧
    (∀ old new supply, (¬ ∃ h ∈ b.stmts, old.same h) → w.replace i old new supply = (none, w)) ∧
    (∀ old new supply, (∃ h ∈ b.stmts, old.same h) → w.Fresh supply 1 →
      ∃ k found b' w', b.indexOf? old = some k ∧ b.stmts[k]? = some found ∧ old.same found ∧
        (old ∈ w.handles → found = old) ∧ w.replace i old new supply = (some found, w') ∧
        w'.bodies[i]? = some b' ∧ b.Replaced k ⟨supply.next, new⟩ b' ∧
        (∀ j, j ≠ i → w'.bodies[j]? = w.bodies[j]?) ∧ b'.indexOf? old = none ∧
        ∀ again supply', w'.replace i old again supply' = (none, w')) ∧
    (b.callSites.map Prod.fst).Sublist b.stmts ∧
    ∀ h c, (h, c) ∈ b.callSites ↔ h ∈ b.stmts ∧ h.stmt.instr.Makes c := by
  have hmem : b ∈ w.bodies := List.mem_of_getElem? hb
  have hi : i < w.bodies.length := (List.getElem?_eq_some_iff.mp hb).1
  have hdistinct : b.Distinct := hw.sound.distinct b hmem
  refine ⟨?_, fun old new supply hold => ?_, fun old new supply hold hfresh => ?_,
    b.callSites_sublist, fun h c => Body.mem_callSites⟩
  · refine (List.pairwise_map.mp hdistinct).imp fun hid => ?_
    rwa [Handle.same_iff]
  · refine replace_of_indexOf?_eq_none hb (Body.indexOf?_eq_none_iff.mpr fun h hh hsame => ?_) ..
    exact hold ⟨h, hh, hsame⟩
  · cases hindex : b.indexOf? old with
    | none =>
        obtain ⟨h, hh, hsame⟩ := hold
        exact absurd hsame (Body.indexOf?_eq_none_iff.mp hindex h hh)
    | some k =>
        obtain ⟨found, hfound, hsame⟩ := Body.indexOf?_eq_some hindex
        have hk : k < b.stmts.length := (List.getElem?_eq_some_iff.mp hfound).1
        have hin : found ∈ w.handles := mem_handles_of_mem_body hmem (List.mem_of_getElem? hfound)
        have hreplaced := b.replaced_set hk ⟨supply.next, new⟩
        have hgone := hreplaced.indexOf?_eq_none hdistinct hfound hsame (hfresh.id_ne hin)
        have hcall := replace_of_indexOf?_eq_some hb hindex hfound new supply
        refine ⟨k, found, _, _, rfl, hfound, hsame, fun hlive => ?_, hcall, List.getElem?_set_self hi,
          hreplaced, fun j hj => List.getElem?_set_ne (Ne.symm hj), hgone, fun again supply' => ?_⟩
        · exact hw.sound.coherent found hin old hlive (Handle.same_iff.mp hsame).symm
        · exact replace_of_indexOf?_eq_none (List.getElem?_set_self hi) hgone again supply'

/-- Of two equal statements the second makes way, and not in the clone of the body. -/
theorem replace_exact_clone :
    let nop : Stmt := ⟨.nop, .none⟩
    let goto : Stmt := ⟨.goto, .none⟩
    let b := (Body.ofStmts .initial ⟨.object, "hashCode", [], .unknown⟩ [] [nop, nop]).1
    let w : Workspace := ⟨[b, b], []⟩
    w.Reachable ∧ w.bodies[0]? = some b ∧ w.Fresh ⟨2⟩ 1 ∧
      ∃ b' w', w.replace 0 ⟨1, nop⟩ goto ⟨2⟩ = (some ⟨1, nop⟩, w') ∧ w'.bodies[0]? = some b' ∧
        b.Replaced 1 ⟨2, goto⟩ b' ∧ w'.bodies[1]? = some b ∧
        w'.replace 0 ⟨1, nop⟩ goto ⟨3⟩ = (none, w') := by
  intro nop goto b w
  have hempty : Fresh ⟨[], []⟩ .initial 2 := fun _ hh => absurd hh List.not_mem_nil
  have hmade : Reachable ⟨[b], []⟩ := .make .initial _ [] [nop, nop] .empty hempty
  have hw : w.Reachable := .select hmade (by simp [w]) (List.nil_subset _)
  have hfresh : w.Fresh ⟨2⟩ 1 := by
    intro h hh
    have hh : h ∈ [⟨0, nop⟩, ⟨1, nop⟩, ⟨0, nop⟩, ⟨1, nop⟩] := hh
    simp only [List.mem_cons, List.not_mem_nil, or_false] at hh
    rcases hh with rfl | rfl | rfl | rfl <;> decide
  obtain ⟨-, -, hreplace, -⟩ := replace_exact hw (i := 0) (b := b) rfl
  obtain ⟨k, found, b', w', hk, hfound, -, -, hcall, hb', hreplaced, hothers, -, hrepeat⟩ :=
    hreplace ⟨1, nop⟩ goto ⟨2⟩ ⟨⟨1, nop⟩, List.mem_cons_of_mem _ List.mem_cons_self, rfl⟩ hfresh
  obtain rfl : 1 = k := Option.some.inj hk
  obtain rfl : ⟨1, nop⟩ = found := Option.some.inj hfound
  exact ⟨hw, rfl, hfresh, b', w', hcall, hb', hreplaced, hothers 1 (by decide), hrepeat goto ⟨3⟩⟩

end Workspace

end Devirt
