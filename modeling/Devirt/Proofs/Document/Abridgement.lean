import Devirt.Proofs.Document.RoundTrip

/-!
# Abridged documents

A document can leave out what a reader fills in by itself. A reader that knows the defaults reads an
abridged document as it reads the full one. A reader that refuses foreign fields refuses a document as
soon as one is put into any of its tables.
-/

namespace Devirt

namespace Document

variable {default full d d' v : Document} {defaults fields kept entries before after :
  List (String × Document)} {name table : String} {path : List String}
  {R : Document → Document → Document → Prop}

/-- Some fields are kept, with their values abridged, and fields with their default values are left
out. -/
inductive AbridgedFields (R : Document → Document → Document → Prop) :
    List (String × Document) → List (String × Document) → List (String × Document) → Prop
  | nil : AbridgedFields R [] [] []
  | keep (name : String) {default full d : Document}
      {defaults fields kept : List (String × Document)} :
      R default full d → AbridgedFields R defaults fields kept →
      AbridgedFields R ((name, default) :: defaults) ((name, full) :: fields) ((name, d) :: kept)
  | leaveOut (name : String) (full : Document) {defaults fields kept : List (String × Document)} :
      AbridgedFields R defaults fields kept →
      AbridgedFields R ((name, full) :: defaults) ((name, full) :: fields) kept

/-- The third document says what the second one says to a reader that takes from the first one what is
left out. In every record, however deep, fields with default values may be left out, and those that are
kept stand in any order. -/
inductive Abridged : Document → Document → Document → Prop
  | same (default full : Document) : Abridged default full full
  | record {defaults fields kept entries : List (String × Document)} :
      AbridgedFields Abridged defaults fields kept → entries.Perm kept →
      Abridged (.record defaults) (.record fields) (.record entries)

/-- A field is put into the table at the end of a path, anywhere among the fields that are there. -/
inductive Extended (name : String) (value : Document) :
    List String → Document → Document → Prop
  | here (before after : List (String × Document)) :
      Extended name value [] (.record (before ++ after)) (.record (before ++ (name, value) :: after))
  | inside (table : String) (before after : List (String × Document)) {path : List String}
      {d d' : Document} : Extended name value path d d' →
      Extended name value (table :: path) (.record (before ++ (table, d) :: after))
        (.record (before ++ (table, d') :: after))

/-! ## What an abridged record holds -/

namespace AbridgedFields

theorem refl (hnames : defaults.map Prod.fst = fields.map Prod.fst) :
    AbridgedFields Abridged defaults fields fields := by
  induction fields generalizing defaults with
  | nil =>
      obtain rfl := List.map_eq_nil_iff.mp hnames
      exact .nil
  | cons field fields ih =>
      obtain ⟨⟨name, default⟩, defaults, rfl, hname, hrest⟩ := List.map_eq_cons_iff.mp hnames
      obtain ⟨_, full⟩ := field
      obtain rfl : name = _ := hname
      exact .keep name (.same default full) (ih hrest)

theorem names_sublist (h : AbridgedFields R defaults fields kept) :
    (kept.map Prod.fst).Sublist (fields.map Prod.fst) := by
  induction h with
  | nil => exact .slnil
  | keep name _ _ ih => exact ih.cons_cons name
  | leaveOut name _ _ ih => exact ih.cons name

theorem exists_of_mem (h : AbridgedFields R defaults fields kept) (hd : (name, d) ∈ kept) :
    ∃ default full, (name, default) ∈ defaults ∧ (name, full) ∈ fields ∧ R default full d := by
  induction h with
  | nil => cases hd
  | keep name' hfield _ ih =>
      rcases List.mem_cons.mp hd with heq | hd
      · cases heq
        exact ⟨_, _, List.mem_cons_self, List.mem_cons_self, hfield⟩
      · obtain ⟨default, full, hdefault, hfull, hR⟩ := ih hd
        exact ⟨default, full, List.mem_cons_of_mem _ hdefault, List.mem_cons_of_mem _ hfull, hR⟩
  | leaveOut name' full' _ ih =>
      obtain ⟨default, full, hdefault, hfull, hR⟩ := ih hd
      exact ⟨default, full, List.mem_cons_of_mem _ hdefault, List.mem_cons_of_mem _ hfull, hR⟩

theorem mem_defaults (h : AbridgedFields R defaults fields kept) (hfull : (name, full) ∈ fields)
    (hname : name ∉ kept.map Prod.fst) : (name, full) ∈ defaults := by
  induction h with
  | nil => cases hfull
  | keep name' _ _ ih =>
      rw [List.map_cons, List.mem_cons, not_or] at hname
      rcases List.mem_cons.mp hfull with heq | hfull
      · cases heq
        exact absurd rfl hname.1
      · exact List.mem_cons_of_mem _ (ih hfull hname.2)
  | leaveOut name' full' _ ih =>
      rcases List.mem_cons.mp hfull with heq | hfull
      · exact heq ▸ List.mem_cons_self
      · exact List.mem_cons_of_mem _ (ih hfull hname)

end AbridgedFields

theorem Abridged.of_text {s : String} (h : Abridged default (.text s) d) : d = .text s := by
  cases h
  rfl

theorem Abridged.of_bool {b : Bool} (h : Abridged default (.bool b) d) : d = .bool b := by
  cases h
  rfl

/-- What the fields of an abridged record are: each abridges one of the full record, and what is left
out has its default value. -/
structure Abridges (defaults fields entries : List (String × Document)) : Prop where
  nodup : (entries.map Prod.fst).Nodup
  exists_of_mem : ∀ name d, (name, d) ∈ entries →
    ∃ default full, (name, default) ∈ defaults ∧ (name, full) ∈ fields ∧ Abridged default full d
  mem_defaults : ∀ name full, (name, full) ∈ fields → name ∉ entries.map Prod.fst →
    (name, full) ∈ defaults

theorem Abridged.of_record (h : Abridged (.record defaults) (.record fields) d)
    (hnames : defaults.map Prod.fst = fields.map Prod.fst) (hnodup : (fields.map Prod.fst).Nodup) :
    ∃ entries, d = .record entries ∧ Abridges defaults fields entries := by
  obtain ⟨kept, entries, rfl, hperm, hkept⟩ : ∃ kept entries, d = .record entries ∧
      entries.Perm kept ∧ AbridgedFields Abridged defaults fields kept := by
    cases h with
    | same => exact ⟨fields, fields, rfl, .refl _, .refl hnames⟩
    | record hkept hperm => exact ⟨_, _, rfl, hperm, hkept⟩
  refine ⟨entries, rfl, ?_, fun _ _ hd => hkept.exists_of_mem (hperm.mem_iff.mp hd),
    fun name full hfull hname => hkept.mem_defaults hfull fun hin => ?_⟩
  · exact (hperm.map Prod.fst).nodup_iff.mpr (hnodup.sublist hkept.names_sublist)
  · exact hname ((hperm.map Prod.fst).mem_iff.mpr hin)

/-! ## Checking fields -/

variable {rules : List FieldRule} {rule : FieldRule} {seen : List String} {policy : Foreign}
  {e : DecodeError}

/-- Fields that a record may have, each once and with a value that passes. -/
structure Fits (rules : List FieldRule) (entries : List (String × Document)) : Prop where
  nodup : (entries.map Prod.fst).Nodup
  passes : ∀ name d, (name, d) ∈ entries →
    ∃ rule, rules.find? (·.name = name) = some rule ∧ rule.check d = .ok ()

theorem Fits.of_append (h : Fits rules (before ++ after)) : Fits rules before where
  nodup := by
    have hnodup := h.nodup
    rw [List.map_append] at hnodup
    exact hnodup.of_append_left
  passes name d hd := h.passes name d (List.mem_append_left _ hd)

theorem checkEntries_append (h : Fits rules before) (hseen : ∀ n ∈ seen, n ∉ before.map Prod.fst) :
    checkEntries rules policy seen (before ++ after) =
      checkEntries rules policy ((before.map Prod.fst).reverse ++ seen) after := by
  -- every field that passes joins those that were seen
  induction before generalizing seen with
  | nil => rfl
  | cons field rest ih =>
      obtain ⟨name, d⟩ := field
      obtain ⟨rule, hrule, hcheck⟩ := h.passes name d List.mem_cons_self
      obtain ⟨hname, hnodup⟩ := List.nodup_cons.mp h.nodup
      have hrest : Fits rules rest :=
        ⟨hnodup, fun name d hd => h.passes name d (List.mem_cons_of_mem _ hd)⟩
      have hnew : name ∉ seen := fun hin => hseen name hin List.mem_cons_self
      have hseen' : ∀ n ∈ name :: seen, n ∉ rest.map Prod.fst := by
        intro n hn
        rcases List.mem_cons.mp hn with rfl | hn
        · exact hname
        · exact fun hin => hseen n hn (List.mem_cons_of_mem _ hin)
      rw [List.cons_append, checkEntries, hrule]
      simp only [if_neg hnew, hcheck]
      rw [ih hrest hseen']
      simp

theorem checkEntries_of_fits (h : Fits rules entries) :
    checkEntries rules policy [] entries = .ok () := by
  rw [← entries.append_nil, checkEntries_append h (by simp)]
  rfl

theorem checkEntries_of_foreign (h : Fits rules before) (hname : name ∉ rules.map (·.name)) :
    checkEntries rules .refused [] (before ++ (name, v) :: after) =
      .error (.unknownField name (rules.map (·.name))) := by
  have hnone : rules.find? (·.name = name) = none := by
    refine List.find?_eq_none.mpr fun rule hrule heq => hname ?_
    exact List.mem_map.mpr ⟨rule, hrule, by simpa using heq⟩
  rw [checkEntries_append h (by simp), checkEntries, hnone]
  rfl

theorem checkEntries_of_refused (h : Fits rules (before ++ (name, d) :: after))
    (hrule : rules.find? (·.name = name) = some rule) (he : rule.check d' = .error e) :
    checkEntries rules policy [] (before ++ (name, d') :: after) = .error e := by
  have hnew : name ∉ (before.map Prod.fst).reverse ++ [] := by
    have hnodup := h.nodup
    rw [List.map_append, List.map_cons, List.nodup_append] at hnodup
    simpa using fun hin => hnodup.2.2 name hin name List.mem_cons_self rfl
  rw [checkEntries_append h.of_append (by simp), checkEntries, hrule]
  simp only [if_neg hnew, he]

/-! ## Reading records -/

/-- What is written is read back, abridged or not. -/
def ReadsAbridged {α : Type} (write : α → Document) (reader : Reader α) (default : α) : Prop :=
  ∀ a d, Abridged (write default) (write a) d → reader d = .ok a

/-- The rules for the distinct fields of a record, with the default of each field and its value. -/
inductive Columns :
    List FieldRule → List (String × Document) → List (String × Document) → Prop
  | nil : Columns [] [] []
  | cons (name : String) {α : Type} {write : α → Document} {reader : Reader α} {default : α} (a : α)
      {rules : List FieldRule} {defaults fields : List (String × Document)} :
      name ∉ rules.map (·.name) → ReadsAbridged write reader default →
      Columns rules defaults fields →
      Columns (⟨name, reader.check⟩ :: rules) ((name, write default) :: defaults)
        ((name, write a) :: fields)

section

variable {α : Type} {write : α → Document} {reader : Reader α} {initial a : α}

theorem ReadsAbridged.injective (h : ReadsAbridged write reader initial) :
    Function.Injective write := by
  intro b c hbc
  have hb : reader (write c) = .ok b := h b _ (hbc ▸ .same _ _)
  exact Except.ok.inj (hb.symm.trans (h c _ (.same _ _)))

namespace Columns

variable (hcolumns : Columns rules defaults fields)
include hcolumns

theorem names : defaults.map Prod.fst = rules.map (·.name) ∧
    fields.map Prod.fst = rules.map (·.name) := by
  induction hcolumns with
  | nil => exact ⟨rfl, rfl⟩
  | cons name _ _ _ _ ih => simp [ih.1, ih.2]

theorem nodup : (rules.map (·.name)).Nodup := by
  induction hcolumns with
  | nil => exact .nil
  | cons name _ hname _ _ ih => exact .cons (by simpa using hname) ih

theorem default_unique (hd : (name, d) ∈ defaults) (hd' : (name, d') ∈ defaults) : d = d' := by
  have hnodup := hcolumns.nodup
  rw [← hcolumns.names.1] at hnodup
  exact congrArg Prod.snd (List.inj_on_of_nodup_map hnodup hd hd' rfl)

theorem value_unique (hd : (name, d) ∈ fields) (hd' : (name, d') ∈ fields) : d = d' := by
  have hnodup := hcolumns.nodup
  rw [← hcolumns.names.2] at hnodup
  exact congrArg Prod.snd (List.inj_on_of_nodup_map hnodup hd hd' rfl)

theorem passes (hdefault : (name, default) ∈ defaults) (hfull : (name, full) ∈ fields)
    (h : Abridged default full d) :
    ∃ rule, rules.find? (·.name = name) = some rule ∧ rule.check d = .ok () := by
  induction hcolumns with
  | nil => cases hfull
  | cons name' a hnew hreads hrest ih =>
      have hcolumns := Columns.cons name' a hnew hreads hrest
      by_cases hname : name' = name
      · subst hname
        obtain rfl := hcolumns.default_unique hdefault List.mem_cons_self
        obtain rfl := hcolumns.value_unique hfull List.mem_cons_self
        exact ⟨_, List.find?_cons_of_pos (by simp), Reader.check_eq_ok (hreads a d h)⟩
      · rw [List.find?_cons_of_neg (by simpa using hname)]
        have hne : ∀ d d' : Document, (name, d) ≠ (name', d') := fun _ _ heq =>
          hname (congrArg Prod.fst heq).symm
        exact ih (List.mem_of_ne_of_mem (hne _ _) hdefault) (List.mem_of_ne_of_mem (hne _ _) hfull)

theorem exists_fits (h : Abridged (.record defaults) (.record fields) d) :
    ∃ entries, d = .record entries ∧ Abridges defaults fields entries ∧ Fits rules entries := by
  obtain ⟨hdefaults, hfields⟩ := hcolumns.names
  have hnodup := hcolumns.nodup
  rw [← hfields] at hnodup
  obtain ⟨entries, rfl, habridges⟩ := h.of_record (hdefaults.trans hfields.symm) hnodup
  refine ⟨entries, rfl, habridges, habridges.nodup, fun name d hd => ?_⟩
  obtain ⟨default, full, hdefault, hfull, h⟩ := habridges.exists_of_mem name d hd
  exact hcolumns.passes hdefault hfull h

/-- Each field is read as its value, or as its default if that is the value and it is left out. -/
theorem optional_eq_ok (h : Abridges defaults fields entries) {absent : String → DecodeError}
    (hreads : ReadsAbridged write reader initial) (hdefault : (name, write initial) ∈ defaults)
    (hfull : (name, write a) ∈ fields) :
    Fields.optional ⟨entries, absent⟩ name reader initial = .ok a := by
  rw [Fields.optional]
  cases hlookup : entries.lookup name with
  | some d =>
      have hd : (name, d) ∈ entries := by
        obtain ⟨_, _, rfl, _⟩ := List.lookup_eq_some_iff.mp hlookup
        exact List.mem_append_right _ List.mem_cons_self
      obtain ⟨default', full', hdefault', hfull', habridged⟩ := h.exists_of_mem name d hd
      obtain rfl := hcolumns.default_unique hdefault' hdefault
      obtain rfl := hcolumns.value_unique hfull' hfull
      exact hreads a d habridged
  | none =>
      have hname : name ∉ entries.map Prod.fst := fun hin => by
        obtain ⟨_, hentry, rfl⟩ := List.mem_map.mp hin
        simpa using List.lookup_eq_none_iff.mp hlookup _ hentry
      -- what is left out has the document of the default, and no other value has that document
      have hsame : write a = write initial :=
        hcolumns.default_unique (h.mem_defaults name _ hfull hname) hdefault
      rw [hreads.injective hsame]

/-- An abridged record is read if what is made of the values of its fields is right. -/
theorem read_eq_ok {β : Type} {b : β} {make : Fields → Except DecodeError β}
    (h : Abridged (.record defaults) (.record fields) d)
    (hmake : ∀ f : Fields,
      (∀ {α : Type} {write : α → Document} {reader : Reader α} {initial a : α} (name : String),
        ReadsAbridged write reader initial → (name, write initial) ∈ defaults →
        (name, write a) ∈ fields → f.optional name reader initial = .ok a) → make f = .ok b)
    (format : Format) (policy : Foreign) : (d.fields format rules policy >>= make) = .ok b := by
  obtain ⟨entries, rfl, habridges, hfits⟩ := hcolumns.exists_fits h
  have hf : (Document.record entries).fields format rules policy = .ok ⟨entries, .missingField⟩ := by
    simp only [Document.fields, checkEntries_of_fits hfits]
  rw [hf]
  exact hmake _ fun name => hcolumns.optional_eq_ok habridges

/-- A foreign field in a record is refused. -/
theorem fields_of_foreign (h : Abridged (.record defaults) (.record fields) d)
    (hext : Extended name v [] d d') (hname : name ∉ rules.map (·.name)) (format : Format) :
    d'.fields format rules .refused = .error (.unknownField name (rules.map (·.name))) := by
  obtain ⟨entries, rfl, -, hfits⟩ := hcolumns.exists_fits h
  cases hext with
  | here before after => simp only [Document.fields, checkEntries_of_foreign hfits.of_append hname]

/-- What is refused in a table of a record is refused in the record. -/
theorem fields_of_table (h : Abridged (.record defaults) (.record fields) d)
    (hext : Extended name v (table :: path) d d') (hdefault : (table, default) ∈ defaults)
    (hfull : (table, full) ∈ fields) (hrule : rules.find? (·.name = table) = some rule)
    (he : ∀ inner inner', Abridged default full inner → Extended name v path inner inner' →
      rule.check inner' = .error e) (format : Format) (policy : Foreign) :
    d'.fields format rules policy = .error e := by
  obtain ⟨entries, rfl, habridges, hfits⟩ := hcolumns.exists_fits h
  cases hext with
  | inside _ before after hext =>
      -- the table that grew abridges the one that was written
      obtain ⟨_, _, hdefault', hfull', hinner⟩ :=
        habridges.exists_of_mem table _ (List.mem_append_right _ List.mem_cons_self)
      obtain rfl := hcolumns.default_unique hdefault' hdefault
      obtain rfl := hcolumns.value_unique hfull' hfull
      simp only [Document.fields, checkEntries_of_refused hfits hrule (he _ _ hinner hext)]

end Columns

end

end Document

theorem Reader.check_eq_error {α : Type} {reader : Reader α} {d : Document} {e : DecodeError}
    (h : reader d = .error e) : reader.check d = .error e := by
  rw [Reader.check, h]
  rfl

end Devirt
