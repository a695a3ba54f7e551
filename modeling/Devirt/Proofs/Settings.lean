import Devirt.Proofs.Document.Abridgement
import Devirt.Settings.Basic

/-!
# Settings read back

Settings are read back from their documents, with or without what has its default value, and no document
with a foreign field in one of its tables is read.
-/

namespace Devirt

open Document

variable {d d' v : Document} {name : String} {path names : List String}

theorem Reader.text_readsAbridged (default : String) :
    ReadsAbridged Document.text Reader.text default := by
  intro s d h
  rw [h.of_text]
  rfl

theorem Reader.bool_readsAbridged (default : Bool) :
    ReadsAbridged Document.bool Reader.bool default := by
  intro b d h
  rw [h.of_bool]
  rfl

theorem DiamondPolicy.readsAbridged (format : Format) (default : DiamondPolicy) :
    ReadsAbridged toDocument (ofDocument format) default := by
  intro p d h
  rw [h.of_text]
  cases p <;> rfl

namespace LoggingSettings

theorem columns (s : LoggingSettings) :
    Columns [⟨"level", Reader.text.check⟩, ⟨"json", Reader.bool.check⟩]
      [("level", .text "info"), ("json", .bool false)]
      [("level", .text s.level), ("json", .bool s.json)] :=
  .cons "level" s.level (by simp) (Reader.text_readsAbridged "info")
    (.cons "json" s.json (by simp) (Reader.bool_readsAbridged false) .nil)

theorem readsAbridged (format : Format) : ReadsAbridged toDocument (ofDocument format) {} := by
  intro s d h
  rw [ofDocument]
  refine s.columns.read_eq_ok h (fun f hread => ?_) format .refused
  have hlevel := hread "level" (a := s.level) (Reader.text_readsAbridged "info") (by simp) (by simp)
  have hjson := hread "json" (a := s.json) (Reader.bool_readsAbridged false) (by simp) (by simp)
  simp only [hlevel, hjson]
  rfl

theorem ofDocument_of_foreign {s : LoggingSettings}
    (h : Abridged ({} : LoggingSettings).toDocument s.toDocument d)
    (hext : Extended name v [] d d') (hname : name ∉ ["level", "json"]) (format : Format) :
    ofDocument format d' = .error (.unknownField name ["level", "json"]) := by
  rw [ofDocument, s.columns.fields_of_foreign h hext hname format]
  rfl

end LoggingSettings

namespace DispatchSettings

theorem columns (format : Format) (s : DispatchSettings) :
    Columns [⟨"diamond", Reader.check (DiamondPolicy.ofDocument format)⟩]
      [("diamond", DiamondPolicy.discoveryOrder.toDocument)] [("diamond", s.diamond.toDocument)] :=
  .cons "diamond" s.diamond (by simp) (DiamondPolicy.readsAbridged format .discoveryOrder) .nil

theorem readsAbridged (format : Format) : ReadsAbridged toDocument (ofDocument format) {} := by
  intro s d h
  rw [ofDocument]
  refine (s.columns format).read_eq_ok h (fun f hread => ?_) format .refused
  have hdiamond := hread "diamond" (a := s.diamond)
    (DiamondPolicy.readsAbridged format .discoveryOrder) (by simp) (by simp)
  simp only [hdiamond]
  rfl

theorem ofDocument_of_foreign {s : DispatchSettings}
    (h : Abridged ({} : DispatchSettings).toDocument s.toDocument d)
    (hext : Extended name v [] d d') (hname : name ∉ ["diamond"]) (format : Format) :
    ofDocument format d' = .error (.unknownField name ["diamond"]) := by
  rw [ofDocument, (s.columns format).fields_of_foreign h hext hname format]
  rfl

end DispatchSettings

namespace Settings

theorem columns (format : Format) (s : Settings) :
    Columns [⟨"logging", Reader.check (LoggingSettings.ofDocument format)⟩,
        ⟨"dispatch", Reader.check (DispatchSettings.ofDocument format)⟩]
      [("logging", ({} : LoggingSettings).toDocument), ("dispatch", ({} : DispatchSettings).toDocument)]
      [("logging", s.logging.toDocument), ("dispatch", s.dispatch.toDocument)] :=
  .cons "logging" s.logging (by simp) (LoggingSettings.readsAbridged format)
    (.cons "dispatch" s.dispatch (by simp) (DispatchSettings.readsAbridged format) .nil)

theorem readsAbridged (format : Format) : ReadsAbridged toDocument (ofDocument format) {} := by
  intro s d h
  rw [ofDocument]
  refine (s.columns format).read_eq_ok h (fun f hread => ?_) format .refused
  have hlogging := hread "logging" (a := s.logging) (LoggingSettings.readsAbridged format)
    (by simp) (by simp)
  have hdispatch := hread "dispatch" (a := s.dispatch) (DispatchSettings.readsAbridged format)
    (by simp) (by simp)
  simp only [hlogging, hdispatch]
  rfl

/-- The tables of a document with settings: where each one stands, and the fields that it may have. -/
def tables : List (List String × List String) :=
  [([], ["logging", "dispatch"]), (["logging"], ["level", "json"]), (["dispatch"], ["diamond"])]

theorem ofDocument_of_foreign {s : Settings}
    (h : Abridged ({} : Settings).toDocument s.toDocument d) (htable : (path, names) ∈ tables)
    (hname : name ∉ names) (hext : Extended name v path d d') (format : Format) :
    ofDocument format d' = .error (.unknownField name names) := by
  have hcolumns := s.columns format
  rw [ofDocument]
  simp only [tables, List.mem_cons, Prod.mk.injEq, List.not_mem_nil, or_false] at htable
  rcases htable with ⟨rfl, rfl⟩ | ⟨rfl, rfl⟩ | ⟨rfl, rfl⟩
  · rw [hcolumns.fields_of_foreign h hext hname format]
    rfl
  · rw [hcolumns.fields_of_table h hext List.mem_cons_self List.mem_cons_self rfl
      fun _ _ h hext => Reader.check_eq_error
        (LoggingSettings.ofDocument_of_foreign h hext hname format)]
    rfl
  · rw [hcolumns.fields_of_table h hext (.tail _ (.head _)) (.tail _ (.head _)) rfl
      fun _ _ h hext => Reader.check_eq_error
        (DispatchSettings.ofDocument_of_foreign h hext hname format)]
    rfl

end Settings

/-- Settings are read back from their document and from all of its abridged forms, in which tables and
fields with default values are left out and the others stand in any order. A field that a table does not
have, put anywhere into that table of such a document, is refused by name. -/
theorem settings_read_back (format : Format) (s : Settings) :
    Settings.ofDocument format s.toDocument = .ok s ∧
    (∀ d, Abridged ({} : Settings).toDocument s.toDocument d → Settings.ofDocument format d = .ok s) ∧
    ∀ d d' path names name v, Abridged ({} : Settings).toDocument s.toDocument d →
      (path, names) ∈ Settings.tables → name ∉ names → Extended name v path d d' →
      Settings.ofDocument format d' = .error (.unknownField name names) :=
  ⟨Settings.readsAbridged format s _ (.same _ _), fun d => Settings.readsAbridged format s d,
    fun _ _ _ _ _ _ h htable hname hext => Settings.ofDocument_of_foreign h htable hname hext format⟩

/-- The tables in reverse, without the choice of JSON, and then with a foreign field for logs. -/
theorem settings_read_back_reversed :
    let s : Settings := ⟨⟨"debug", false⟩, ⟨.strict⟩⟩
    let dispatch : String × Document := ("dispatch", .record [("diamond", .text "strict")])
    let level : String × Document := ("level", .text "debug")
    let verbose : String × Document := ("verbose", .bool true)
    let d : Document := .record [dispatch, ("logging", .record [level])]
    let d' : Document := .record [dispatch, ("logging", .record [verbose, level])]
    Abridged ({} : Settings).toDocument s.toDocument d ∧ Settings.ofDocument .toml d = .ok s ∧
      Extended "verbose" (.bool true) ["logging"] d d' ∧
      Settings.ofDocument .toml d' = .error (.unknownField "verbose" ["level", "json"]) := by
  intro s dispatch level verbose d d'
  have hlogging : Abridged ({} : LoggingSettings).toDocument s.logging.toDocument (.record [level]) :=
    .record (.keep "level" (.same _ _) (.leaveOut "json" _ .nil)) (.refl _)
  have hd : Abridged ({} : Settings).toDocument s.toDocument d :=
    .record (.keep "logging" hlogging (.keep "dispatch" (.same _ _) .nil)) (.swap _ _ _)
  have hext : Extended "verbose" (.bool true) ["logging"] d d' :=
    .inside "logging" [dispatch] [] (.here [] [level])
  obtain ⟨-, hread, hrefused⟩ := settings_read_back .toml s
  exact ⟨hd, hread d hd, hext,
    hrefused d d' ["logging"] ["level", "json"] _ _ hd (by simp [Settings.tables]) (by decide) hext⟩

end Devirt
