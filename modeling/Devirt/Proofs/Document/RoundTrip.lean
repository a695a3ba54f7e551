import Devirt.Document.Signature
import Devirt.Proofs.Document.Spelling

/-!
# Documents read back

Types, signatures and positions are read back from their documents, in every spelling of these.
-/

namespace Devirt

open Document

/-- What is written is read back in every spelling, so two values never have the same document. -/
structure RoundTrip {α : Type} (write : α → Document) (read : Reader α) : Prop where
  read_write : ∀ a, read (write a) = .ok a
  read_respelled : ∀ a d, Respelled (write a) d → read d = .ok a
  write_injective : Function.Injective write

theorem RoundTrip.of_respelled {α : Type} {write : α → Document} {read : Reader α}
    (h : ∀ a d, Respelled (write a) d → read d = .ok a) : RoundTrip write read where
  read_write a := h a _ (.same _)
  read_respelled := h
  write_injective a b hab := by
    have ha : read (write b) = .ok a := hab ▸ h a _ (.same _)
    exact Except.ok.inj (ha.symm.trans (h b _ (.same _)))

/-! ## Readers of parts -/

theorem Reader.check_eq_ok {α : Type} {reader : Reader α} {d : Document} {a : α}
    (h : reader d = .ok a) : reader.check d = .ok () := by
  rw [Reader.check, h]
  rfl

theorem Fields.required_eq_ok {α : Type} {f : Fields} {name : String} {reader : Reader α}
    {d : Document} {a : α} (hlookup : f.entries.lookup name = some d) (h : reader d = .ok a) :
    f.required name reader = .ok a := by
  rw [Fields.required, hlookup]
  exact h

/-- A record is read if its parts are, whatever is made of them afterwards. -/
theorem read_record {α : Type} {rules : List FieldRule} {values : List Document} {d : Document}
    {make : Fields → Except DecodeError α} {a : α} (hrules : (rules.map (·.name)).Nodup)
    (hgives : Gives (rules.map (·.name)) values d)
    (hchecks : List.Forall₂ (fun rule v => rule.check v = .ok ()) rules values)
    (hmake : ∀ f : Fields, (∀ name v, (name, v) ∈ (rules.map (·.name)).zip values →
      f.entries.lookup name = some v) → make f = .ok a) :
    (d.fields .json rules .ignored >>= make) = .ok a := by
  obtain ⟨f, hf, hlookup⟩ := fields_of_gives hrules hgives hchecks
  rw [hf]
  exact hmake f hlookup

theorem Reader.text_eq_ok {s : String} {d : Document} (h : Respelled (.text s) d) :
    Reader.text d = .ok s := by
  rw [h.of_text]
  rfl

theorem Reader.uint32_eq_ok {n : UInt32} {d : Document} (h : Respelled (.int n.toNat) d) :
    Reader.uint32 d = .ok n := by
  rw [h.of_int]
  have hrange : 0 ≤ (n.toNat : Int) ∧ (n.toNat : Int) < UInt32.size :=
    ⟨Int.natCast_nonneg _, Int.ofNat_lt.mpr n.toNat_lt⟩
  rw [Reader.uint32, if_pos hrange, Int.toNat_natCast, UInt32.ofNat_toNat]

theorem Reader.mapM_eq_ok {α : Type} {item : Reader α} {write : α → Document}
    (hitem : ∀ a d, Respelled (write a) d → item d = .ok a) {as : List α} {items : List Document}
    (h : List.Forall₂ Respelled (as.map write) items) : items.mapM item = .ok as := by
  induction as generalizing items with
  | nil =>
      cases h
      rfl
  | cons a as ih =>
      obtain _ | ⟨ha, has⟩ := h
      rw [List.mapM_cons, hitem a _ ha, ih has]
      rfl

theorem Reader.list_eq_ok {α : Type} {item : Reader α} {write : α → Document}
    (hitem : ∀ a d, Respelled (write a) d → item d = .ok a) {as : List α} {d : Document}
    (h : Respelled (.list (as.map write)) d) : Reader.list item d = .ok as := by
  obtain ⟨items, rfl, hitems⟩ := h.of_list
  exact Reader.mapM_eq_ok hitem hitems

/-! ## One type after the other -/

theorem Primitive.ofDocument_eq_ok {p : Primitive} {d : Document} (h : Respelled p.toDocument d) :
    ofDocument d = .ok p := by
  rw [h.of_text]
  cases p <;> rfl

theorem ClassName.ofDocument_eq_ok {c : ClassName} {d : Document} (h : Respelled c.toDocument d) :
    ofDocument d = .ok c := by
  obtain ⟨values, hvalues, hgives⟩ := h.of_record (by simp [recordNames])
  obtain _ | ⟨hpackage, _ | ⟨hsimple, _ | _⟩⟩ := hvalues
  replace hpackage := Reader.text_eq_ok hpackage
  replace hsimple := Reader.text_eq_ok hsimple
  rw [ofDocument]
  refine read_record (by decide) hgives
    (.cons (Reader.check_eq_ok hpackage) (.cons (Reader.check_eq_ok hsimple) .nil))
    fun f hlookup => ?_
  rw [Fields.required_eq_ok (hlookup "package" _ (by simp)) hpackage,
    Fields.required_eq_ok (hlookup "name" _ (by simp)) hsimple]
  rfl

theorem Ty.ofDocument_eq_ok {t : Ty} {d : Document} (h : Respelled t.toDocument d) :
    ofDocument d = .ok t := by
  induction t generalizing d with
  | primitive p =>
      obtain ⟨payload, rfl, hpayload⟩ := h.of_variant
      rw [ofDocument, if_pos rfl, Primitive.ofDocument_eq_ok hpayload]
      rfl
  | named c =>
      obtain ⟨payload, rfl, hpayload⟩ := h.of_variant
      rw [ofDocument, if_neg (by decide), if_pos rfl, ClassName.ofDocument_eq_ok hpayload]
      rfl
  | array t ih =>
      obtain ⟨payload, rfl, hpayload⟩ := h.of_variant
      rw [ofDocument, if_neg (by decide), if_neg (by decide), if_pos rfl, ih hpayload]
      rfl
  | void =>
      rw [h.of_text]
      rfl
  | null =>
      rw [h.of_text]
      rfl
  | unknown =>
      rw [h.of_text]
      rfl

theorem SubSignature.ofDocument_eq_ok {s : SubSignature} {d : Document}
    (h : Respelled s.toDocument d) : ofDocument d = .ok s := by
  obtain ⟨values, hvalues, hgives⟩ := h.of_record (by simp [recordNames])
  obtain _ | ⟨hname, _ | ⟨hparameters, _ | ⟨hresult, _ | _⟩⟩⟩ := hvalues
  replace hname := Reader.text_eq_ok hname
  replace hparameters := Reader.list_eq_ok (fun _ _ => Ty.ofDocument_eq_ok) hparameters
  replace hresult := Ty.ofDocument_eq_ok hresult
  rw [ofDocument]
  refine read_record (by decide) hgives
    (.cons (Reader.check_eq_ok hname) (.cons (Reader.check_eq_ok hparameters)
      (.cons (Reader.check_eq_ok hresult) .nil)))
    fun f hlookup => ?_
  rw [Fields.required_eq_ok (hlookup "name" _ (by simp)) hname,
    Fields.required_eq_ok (hlookup "parameter_types" _ (by simp)) hparameters,
    Fields.required_eq_ok (hlookup "return_type" _ (by simp)) hresult]
  rfl

theorem MethodSignature.ofDocument_eq_ok {m : MethodSignature} {d : Document}
    (h : Respelled m.toDocument d) : ofDocument d = .ok m := by
  obtain ⟨values, hvalues, hgives⟩ := h.of_record (by simp [recordNames])
  obtain _ | ⟨howner, _ | ⟨hsub, _ | _⟩⟩ := hvalues
  replace howner := ClassName.ofDocument_eq_ok howner
  replace hsub := SubSignature.ofDocument_eq_ok hsub
  rw [ofDocument]
  refine read_record (by decide) hgives
    (.cons (Reader.check_eq_ok howner) (.cons (Reader.check_eq_ok hsub) .nil)) fun f hlookup => ?_
  rw [Fields.required_eq_ok (hlookup "declaring_class" _ (by simp)) howner,
    Fields.required_eq_ok (hlookup "sub_signature" _ (by simp)) hsub]
  rfl

theorem FieldSignature.ofDocument_eq_ok {s : FieldSignature} {d : Document}
    (h : Respelled s.toDocument d) : ofDocument d = .ok s := by
  obtain ⟨values, hvalues, hgives⟩ := h.of_record (by simp [recordNames])
  obtain _ | ⟨howner, _ | ⟨hname, _ | ⟨hty, _ | _⟩⟩⟩ := hvalues
  replace howner := ClassName.ofDocument_eq_ok howner
  replace hname := Reader.text_eq_ok hname
  replace hty := Ty.ofDocument_eq_ok hty
  rw [ofDocument]
  refine read_record (by decide) hgives
    (.cons (Reader.check_eq_ok howner) (.cons (Reader.check_eq_ok hname)
      (.cons (Reader.check_eq_ok hty) .nil)))
    fun f hlookup => ?_
  rw [Fields.required_eq_ok (hlookup "declaring_class" _ (by simp)) howner,
    Fields.required_eq_ok (hlookup "name" _ (by simp)) hname,
    Fields.required_eq_ok (hlookup "ty" _ (by simp)) hty]
  rfl

theorem Position.ofDocument_eq_ok {p : Position} {d : Document} (h : Respelled p.toDocument d) :
    ofDocument d = .ok p := by
  obtain ⟨values, hvalues, hgives⟩ := h.of_record (by simp [recordNames])
  obtain _ | ⟨hline, _ | ⟨hcolumn, _ | ⟨hline', _ | ⟨hcolumn', _ | _⟩⟩⟩⟩ := hvalues
  replace hline := Reader.uint32_eq_ok hline
  replace hcolumn := Reader.uint32_eq_ok hcolumn
  replace hline' := Reader.uint32_eq_ok hline'
  replace hcolumn' := Reader.uint32_eq_ok hcolumn'
  rw [ofDocument]
  refine read_record (by decide) hgives
    (.cons (Reader.check_eq_ok hline) (.cons (Reader.check_eq_ok hcolumn)
      (.cons (Reader.check_eq_ok hline') (.cons (Reader.check_eq_ok hcolumn') .nil))))
    fun f hlookup => ?_
  rw [Fields.required_eq_ok (hlookup "first_line" _ (by simp)) hline,
    Fields.required_eq_ok (hlookup "first_col" _ (by simp)) hcolumn,
    Fields.required_eq_ok (hlookup "last_line" _ (by simp)) hline',
    Fields.required_eq_ok (hlookup "last_col" _ (by simp)) hcolumn']
  rfl

/-- Every value is read back from its document and from every spelling of it, in which records may be
given by fields in any order, with others among them, or by the list of their values. -/
theorem documents_read_back :
    RoundTrip Primitive.toDocument Primitive.ofDocument ∧
    RoundTrip ClassName.toDocument ClassName.ofDocument ∧
    RoundTrip Ty.toDocument Ty.ofDocument ∧
    RoundTrip SubSignature.toDocument SubSignature.ofDocument ∧
    RoundTrip MethodSignature.toDocument MethodSignature.ofDocument ∧
    RoundTrip FieldSignature.toDocument FieldSignature.ofDocument ∧
    RoundTrip Position.toDocument Position.ofDocument :=
  ⟨.of_respelled fun _ _ => Primitive.ofDocument_eq_ok,
    .of_respelled fun _ _ => ClassName.ofDocument_eq_ok,
    .of_respelled fun _ _ => Ty.ofDocument_eq_ok,
    .of_respelled fun _ _ => SubSignature.ofDocument_eq_ok,
    .of_respelled fun _ _ => MethodSignature.ofDocument_eq_ok,
    .of_respelled fun _ _ => FieldSignature.ofDocument_eq_ok,
    .of_respelled fun _ _ => Position.ofDocument_eq_ok⟩

/-- Classes as lists inside records with their fields in reverse and a foreign one in front. -/
theorem documents_read_back_mixed :
    let c : ClassName := ⟨"p", "A"⟩
    let m : MethodSignature := ⟨c, "m", [.array (.named c)], .void⟩
    let owner : Document := .list [.text "p", .text "A"]
    let parameters : Document := .list [.record [("Array", .record [("Class", owner)])]]
    let sub : Document := .record [("note", .null), ("return_type", .text "Void"),
      ("parameter_types", parameters), ("name", .text "m")]
    let d : Document := .record [("sub_signature", sub), ("declaring_class", owner)]
    Respelled m.toDocument d ∧ MethodSignature.ofDocument d = .ok m := by
  intro c m owner parameters sub d
  have howner : Respelled c.toDocument owner :=
    .record (by simp [recordNames]) (.cons (.same _) (.cons (.same _) .nil)) .positional
  have hparameters : Respelled (.list (m.sub.parameters.map Ty.toDocument)) parameters :=
    .list (.cons (.variant "Array" (.variant "Class" howner)) .nil)
  have hsubParts : Gives ["name", "parameter_types", "return_type"]
      [.text "m", parameters, .text "Void"] sub :=
    .keyed (List.reverse_perm (["name", "parameter_types", "return_type"].zip
      [.text "m", parameters, .text "Void"] ++ [("note", Document.null)])) (by simp)
  have hsub : Respelled m.sub.toDocument sub :=
    .record (by simp [recordNames])
      (.cons (.same _) (.cons hparameters (.cons (.same _) .nil))) hsubParts
  have hparts : Gives ["declaring_class", "sub_signature"] [owner, sub] d :=
    @Gives.keyed _ _ _ [] (List.Perm.swap _ _ []) fun _ he => absurd he List.not_mem_nil
  have hd : Respelled m.toDocument d :=
    .record (by simp [recordNames]) (.cons howner (.cons hsub .nil)) hparts
  obtain ⟨-, -, -, -, hmethod, -⟩ := documents_read_back
  exact ⟨hd, hmethod.read_respelled m d hd⟩

end Devirt
