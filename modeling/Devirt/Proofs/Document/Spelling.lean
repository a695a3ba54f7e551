import Devirt.Document.Basic
import Mathlib.Data.List.Forall2
import Mathlib.Data.List.Nodup

/-!
# Spellings of documents

A record with named parts can be spelled in several ways: its fields may stand in any order and among
others, and a list may give their values instead. A reader of records does not tell these spellings apart.
-/

namespace Devirt

namespace Document

/-- The records with named parts, by the names of their fields in order. -/
def recordNames : List (List String) :=
  [["package", "name"], ["name", "parameter_types", "return_type"],
    ["declaring_class", "sub_signature"], ["declaring_class", "name", "ty"],
    ["first_line", "first_col", "last_line", "last_col"]]

/-- The document gives these values, by name or by position. -/
inductive Gives (names : List String) (values : List Document) : Document → Prop
  | keyed {entries foreign : List (String × Document)} :
      entries.Perm (names.zip values ++ foreign) → (∀ e ∈ foreign, e.1 ∉ names) →
      Gives names values (.record entries)
  | positional : Gives names values (.list values)

/-- The second document is another spelling of the first: in it any records with named parts, however
deep, are given in another way. -/
inductive Respelled : Document → Document → Prop
  | same (d : Document) : Respelled d d
  | list {items items' : List Document} :
      List.Forall₂ Respelled items items' → Respelled (.list items) (.list items')
  | variant (name : String) {payload payload' : Document} :
      Respelled payload payload' →
      Respelled (.record [(name, payload)]) (.record [(name, payload')])
  | record {fields : List (String × Document)} {values : List Document} {d : Document} :
      fields.map Prod.fst ∈ recordNames → List.Forall₂ Respelled (fields.map Prod.snd) values →
      Gives (fields.map Prod.fst) values d → Respelled (.record fields) d

namespace Respelled

theorem of_text {s : String} {d : Document} (h : Respelled (.text s) d) : d = .text s := by
  cases h
  rfl

theorem of_int {n : Int} {d : Document} (h : Respelled (.int n) d) : d = .int n := by
  cases h
  rfl

theorem of_list {items : List Document} {d : Document} (h : Respelled (.list items) d) :
    ∃ items', d = .list items' ∧ List.Forall₂ Respelled items items' := by
  cases h with
  | same => exact ⟨items, rfl, List.forall₂_same.mpr fun item _ => same item⟩
  | list hitems => exact ⟨_, rfl, hitems⟩

theorem of_variant {name : String} {payload d : Document}
    (h : Respelled (.record [(name, payload)]) d) :
    ∃ payload', d = .record [(name, payload')] ∧ Respelled payload payload' := by
  cases h with
  | same => exact ⟨payload, rfl, same payload⟩
  | variant _ hpayload => exact ⟨_, rfl, hpayload⟩
  | record hnames => simp [recordNames] at hnames

theorem of_record {fields : List (String × Document)} {d : Document}
    (h : Respelled (.record fields) d) (hnames : fields.map Prod.fst ∈ recordNames) :
    ∃ values, List.Forall₂ Respelled (fields.map Prod.snd) values ∧
      Gives (fields.map Prod.fst) values d := by
  cases h with
  | same =>
      have hfields : fields.Perm ((fields.map Prod.fst).zip (fields.map Prod.snd) ++ []) := by
        rw [List.append_nil, ← List.unzip_fst, ← List.unzip_snd, List.zip_unzip]
      exact ⟨fields.map Prod.snd, List.forall₂_same.mpr fun item _ => same item,
        .keyed hfields (fun _ he => absurd he List.not_mem_nil)⟩
  | variant name => simp [recordNames] at hnames
  | record _ hvalues hgives => exact ⟨_, hvalues, hgives⟩

end Respelled

/-! ## Reading fields -/

variable {names : List String} {values : List Document} {rules : List FieldRule}
  {entries foreign : List (String × Document)}

/-- The names of the fields that stand in a record, as far as they are among these. -/
def known (names : List String) (entries : List (String × Document)) : List String :=
  (entries.map Prod.fst).filter (· ∈ names)

theorem known_cons_of_mem {e : String × Document} (he : e.1 ∈ names) :
    known names (e :: entries) = e.1 :: known names entries := by
  simp [known, he]

theorem known_cons_of_not_mem {e : String × Document} (he : e.1 ∉ names) :
    known names (e :: entries) = known names entries := by
  simp [known, he]

theorem mem_known {name : String} {d : Document} (hmem : (name, d) ∈ entries)
    (hname : name ∈ names) : name ∈ known names entries := by
  simp only [known, List.mem_filter, decide_eq_true_eq]
  exact ⟨List.mem_map_of_mem hmem, hname⟩

theorem nodup_known (hnames : names.Nodup) (hlength : names.length = values.length)
    (hforeign : ∀ e ∈ foreign, e.1 ∉ names)
    (hentries : entries.Perm (names.zip values ++ foreign)) : (known names entries).Nodup := by
  have hperm : (known names entries).Perm (known names (names.zip values ++ foreign)) :=
    (hentries.map Prod.fst).filter _
  have hnone : (foreign.map Prod.fst).filter (· ∈ names) = [] := by
    simpa using fun n d he => hforeign (n, d) he
  rw [hperm.nodup_iff, known, List.map_append, List.filter_append, hnone, List.append_nil,
    List.map_fst_zip (Nat.le_of_eq hlength)]
  exact hnames.filter _

/-- A field is found under its name if its name stands once. -/
theorem lookup_eq_some {name : String} {d : Document} (hnodup : (known names entries).Nodup)
    (hname : name ∈ names) (hmem : (name, d) ∈ entries) : entries.lookup name = some d := by
  induction entries with
  | nil => cases hmem
  | cons e rest ih =>
      rcases List.mem_cons.mp hmem with rfl | hrest
      · simp
      · have hne : name ≠ e.1 := by
          rintro rfl
          rw [known_cons_of_mem hname, List.nodup_cons] at hnodup
          exact hnodup.1 (mem_known hrest hname)
        have hknown : (known names rest).Nodup := by
          refine hnodup.sublist ?_
          exact (List.sublist_cons_self e.1 _).filter _
        obtain ⟨n, d'⟩ := e
        rw [List.lookup_cons, beq_false_of_ne hne]
        exact ih hknown hrest

/-- Fields of which each is in order and none stands twice pass the check. -/
theorem checkEntries_eq_ok {seen : List String}
    (hnodup : (known (rules.map (·.name)) entries ++ seen).Nodup)
    (hchecks : ∀ e ∈ entries, ∀ rule ∈ rules, rule.name = e.1 → rule.check e.2 = .ok ()) :
    checkEntries rules .ignored seen entries = .ok () := by
  -- a known name moves from the entries to `seen`, and together they stay distinct
  induction entries generalizing seen with
  | nil => rfl
  | cons e rest ih =>
      obtain ⟨name, d⟩ := e
      have hothers := (List.forall_mem_cons.mp hchecks).2
      rw [checkEntries]
      cases hfind : rules.find? (·.name = name) with
      | none =>
          have hforeign : name ∉ rules.map (·.name) := by
            intro hmem
            obtain ⟨rule, hrule, hname⟩ := List.mem_map.mp hmem
            simpa [hname] using List.find?_eq_none.mp hfind rule hrule
          rw [known_cons_of_not_mem hforeign] at hnodup
          exact ih hnodup hothers
      | some rule =>
          have hrule : rule ∈ rules := List.mem_of_find?_eq_some hfind
          have hname : rule.name = name := by simpa using List.find?_some hfind
          have hmem : name ∈ rules.map (·.name) := List.mem_map.mpr ⟨rule, hrule, hname⟩
          rw [known_cons_of_mem hmem, List.cons_append, ← List.nodup_middle] at hnodup
          have hseen : name ∉ seen := by
            intro hin
            rw [List.nodup_middle, List.nodup_cons] at hnodup
            exact hnodup.1 (List.mem_append_right _ hin)
          simp only [if_neg hseen, hchecks (name, d) List.mem_cons_self rule hrule hname]
          exact ih hnodup hothers

/-- However the values are given, a reader that checks them finds each under its name. -/
theorem fields_of_gives {d : Document} (hrules : (rules.map (·.name)).Nodup)
    (hd : Gives (rules.map (·.name)) values d)
    (hchecks : List.Forall₂ (fun rule v => rule.check v = .ok ()) rules values) :
    ∃ f, d.fields .json rules .ignored = .ok f ∧
      ∀ name v, (name, v) ∈ (rules.map (·.name)).zip values → f.entries.lookup name = some v := by
  obtain ⟨hlength, hzip⟩ := List.forall₂_iff_zip.mp hchecks
  have hlength' : (rules.map (·.name)).length = values.length := by rw [List.length_map, hlength]
  have hvalues : ∀ e ∈ (rules.map (·.name)).zip values, ∀ rule ∈ rules, rule.name = e.1 →
      rule.check e.2 = .ok () := by
    intro e he rule hrule hname
    rw [List.zip_map_left] at he
    obtain ⟨⟨rule', v⟩, hrule', rfl⟩ := List.mem_map.mp he
    obtain rfl : rule = rule' :=
      List.inj_on_of_nodup_map hrules hrule (List.of_mem_zip hrule').1 hname
    exact hzip hrule'
  cases hd with
  | @keyed entries foreign hentries hforeign =>
      have hnodup := nodup_known hrules hlength' hforeign hentries
      have hall : ∀ e ∈ entries, ∀ rule ∈ rules, rule.name = e.1 → rule.check e.2 = .ok () := by
        intro e he rule hrule hname
        rcases List.mem_append.mp (hentries.mem_iff.mp he) with he | he
        · exact hvalues e he rule hrule hname
        · exact absurd (List.mem_map.mpr ⟨rule, hrule, hname⟩) (hforeign e he)
      refine ⟨⟨entries, .missingField⟩, ?_, fun name v hmem => ?_⟩
      · simp only [fields]
        rw [checkEntries_eq_ok (by rwa [List.append_nil]) hall]
      · exact lookup_eq_some hnodup (List.of_mem_zip hmem).1
          (hentries.mem_iff.mpr (List.mem_append_left _ hmem))
  | positional =>
      have hnodup : (known (rules.map (·.name)) ((rules.map (·.name)).zip values)).Nodup :=
        nodup_known hrules hlength' (fun _ he => absurd he List.not_mem_nil) (by rw [List.append_nil])
      refine ⟨⟨(rules.map (·.name)).zip values, fun _ => .mismatch⟩, ?_, fun name v hmem => ?_⟩
      · simp only [fields]
        rw [checkEntries_eq_ok (by rwa [List.append_nil]) hvalues, if_neg (by omega)]
      · exact lookup_eq_some hnodup (List.of_mem_zip hmem).1 hmem

end Document

end Devirt
