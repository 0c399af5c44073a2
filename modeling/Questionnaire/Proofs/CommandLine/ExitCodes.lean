import Questionnaire.Proofs.CommandLine.Agreement
import Questionnaire.Proofs.Validation.Application
import Questionnaire.Proofs.Visibility.Totality

/-!
# Exit codes

A run over files should always end with a code: `2` when a file cannot be used, and otherwise `1` when
the form has errors or the answers are invalid, and `0` when all is well (`Promised`).  A run over files
that cannot be used does end with `2`.  Over files that can be used, a run ends in trouble when the form
has a pattern with a fault that is no defect, when a field gets stuck for the answers, and when the
indentation is no machine number; `keepsPromise_iff` says that there are no other troubles, as far as
nesting of any depth is read and texts are without halves of surrogate pairs (see `Json.read`).
-/

namespace Questionnaire

/-! ### Configurations -/

section Configuration

variable {env : Members String} {c : Config}

/-- A whole number read from the environment is an integer, given or not. -/
theorem Config.exists_int_of_wholeNumber {name : String} {n : Int} {v : Value}
    (h : wholeNumber env name (.int n) = .ok v) : ∃ m, v = .int m := by
  unfold wholeNumber at h
  split at h
  · exact ⟨n, (Except.ok.inj h).symm⟩
  · split at h
    · exact ⟨_, (Except.ok.inj h).symm⟩
    · cases h
    · cases h

/-- The environment gives texts, flags and whole numbers. -/
theorem Config.exists_eq_of_ofEnvironment (h : ofEnvironment env = .ok c) :
    ∃ (title description message level : String) (bar pages : Bool) (length capacity indent : Int),
      c = ⟨.str title, .str description, .str message, .bool bar, .bool pages, .int length,
        .int capacity, .int indent, .str level⟩ := by
  -- Each setting is read in one of four ways, and each way yields one kind of value.
  have htext (o : Option String) (default : String) :
      ∃ s, (o.map Value.str).getD (.str default) = .str s := by
    cases o with
    | none => exact ⟨default, rfl⟩
    | some s => exact ⟨s, rfl⟩
  have hflag (o : Option String) (default : Bool) :
      ∃ b, (o.map fun s => Value.bool (Text.lower s = "true")).getD (.bool default) = .bool b := by
    cases o with
    | none => exact ⟨default, rfl⟩
    | some s => exact ⟨_, rfl⟩
  have hlevel (o : Option String) (default : String) :
      ∃ s, (o.map fun s => Value.str (Text.upper s)).getD (.str default) = .str s := by
    cases o with
    | none => exact ⟨default, rfl⟩
    | some s => exact ⟨_, rfl⟩
  obtain ⟨_, hlength, h⟩ := Outcome.bind_eq_ok_iff.mp h
  obtain ⟨_, hcapacity, h⟩ := Outcome.bind_eq_ok_iff.mp h
  obtain ⟨_, hindent, h⟩ := Outcome.bind_eq_ok_iff.mp h
  obtain ⟨length, rfl⟩ := exists_int_of_wholeNumber hlength
  obtain ⟨capacity, rfl⟩ := exists_int_of_wholeNumber hcapacity
  obtain ⟨indent, rfl⟩ := exists_int_of_wholeNumber hindent
  obtain ⟨title, htitle⟩ := htext (env.get? "FORM_BUILDER_DEFAULT_TITLE") "Untitled Form"
  obtain ⟨description, hdescription⟩ :=
    htext (env.get? "FORM_BUILDER_DEFAULT_DESCRIPTION") "Form description"
  obtain ⟨message, hmessage⟩ :=
    htext (env.get? "FORM_BUILDER_CONFIRMATION_MESSAGE") "Thank you for your submission!"
  obtain ⟨level, hlevel⟩ := hlevel (env.get? "FORM_BUILDER_LOG_LEVEL") "INFO"
  obtain ⟨bar, hbar⟩ := hflag (env.get? "FORM_BUILDER_SHOW_PROGRESS_BAR") true
  obtain ⟨pages, hpages⟩ := hflag (env.get? "FORM_BUILDER_SHOW_PAGE_TITLES") true
  refine ⟨title, description, message, level, bar, pages, length, capacity, indent, ?_⟩
  rw [← Outcome.pure_eq_ok_iff.mp h, ← htitle, ← hdescription, ← hmessage, ← hlevel, ← hbar,
    ← hpages]
  rfl

/-- A configuration read from the environment has a capacity. -/
theorem Config.exists_capacity (h : ofEnvironment env = .ok c) :
    ∃ capacity, c.capacity = .ok capacity := by
  obtain ⟨_, _, _, _, _, _, _, capacity, _, rfl⟩ := exists_eq_of_ofEnvironment h
  exact ⟨.int capacity, rfl⟩

/-- Under such a configuration an empty store can be made. -/
theorem Store.exists_new (h : Config.ofEnvironment env = .ok c) :
    ∃ s, Store.new c none = .ok s := by
  obtain ⟨_, _, _, _, _, _, _, _, _, rfl⟩ := Config.exists_eq_of_ofEnvironment h
  exact ⟨_, rfl⟩

end Configuration

/-- A store that does not take a form refuses it. -/
theorem Store.refusal_of_importSchema {c : Config} {v : Value} {e : Fault}
    (h : importSchema c v = .error e) : ∃ r, e = .refusal r := by
  rcases Outcome.bind_eq_error_iff.mp h with h | ⟨schema, _, h⟩
  · unfold handed at h
    split at h
    · cases h
    · exact ⟨_, (Except.error.inj h).symm⟩
  · unfold replace at h
    split at h
    · cases h
    · exact ⟨_, (Except.error.inj h).symm⟩

/-! ### Errors of a form -/

namespace Contract

/-- No member is put without there being one. -/
theorem put_ne_nil {α : Type} (ms : Members α) (name : String) (a : α) : ms.put name a ≠ [] := by
  intro h
  have hget := Members.get?_put ms name name a
  rw [h, if_pos rfl] at hget
  cases hget

/-- A form has messages about errors exactly when one of its issues is an error. -/
theorem errors_isEmpty_iff {contract : Contract} :
    contract.errors.isEmpty = true ↔ ∀ i ∈ contract.issues, i.severity ≠ .error := by
  have hfold (issues : List Issue) (ms : Members (List String)) :
      (issues.foldl (fun ms i => ms.put i.fieldId ((ms.get? i.fieldId).getD [] ++ [i.message]))
        ms) = [] ↔ ms = [] ∧ issues = [] := by
    induction issues generalizing ms with
    | nil => simp
    | cons i issues ih =>
      rw [List.foldl_cons, ih]
      simp [put_ne_nil]
  unfold errors
  rw [List.isEmpty_iff, hfold, List.filter_eq_nil_iff]
  simp

end Contract

/-! ### Indentation -/

/-- A document can be printed when the indentation fits a machine word. -/
theorem Json.exists_document_iff {indent : Int} {v : Value} :
    (∃ text, Json.document indent v = .ok text) ↔ -2 ^ 63 ≤ indent ∧ indent < 2 ^ 63 := by
  unfold Json.document
  split
  · exact iff_of_false nofun (by omega)
  · exact iff_of_true ⟨_, rfl⟩ (by omega)

/-- A report can be printed when the indentation is a natural number below the machine's limit. -/
theorem Json.exists_report_iff {indent : Int} {v : Value} :
    (∃ text, Json.report indent v = .ok text) ↔ 0 ≤ indent ∧ indent < 2 ^ 64 := by
  unfold Json.report
  split
  · exact iff_of_false nofun (by omega)
  · split
    · exact iff_of_false nofun (by omega)
    · exact iff_of_true ⟨_, rfl⟩ (by omega)

namespace CommandLine

variable {c : Config} {folder : Folder}

/-! ### Files -/

/-- A file holds the JSON text of some data. -/
def Holds (folder : Folder) (path : Option String) (v : Value) : Prop :=
  ∃ name text, path = some name ∧ folder.read name = .ok text ∧ Json.read text = .ok v

/-- A file holds a form that a store takes. -/
def HoldsForm (c : Config) (folder : Folder) (path : Option String) (schema : Schema) : Prop :=
  ∃ v store, Holds folder path v ∧ Store.importSchema c v = .ok store ∧ store.schema = schema

/-- A sequence fails in its first step or in its second. -/
theorem Attempt.bind_eq_error_iff {α β : Type} {x : Attempt α} {f : α → Attempt β} {t : Trouble} :
    x >>= f = .error t ↔ x = .error t ∨ ∃ a, x = .ok a ∧ f a = .error t := by
  cases x with
  | error e => simp [bind, Except.bind]
  | ok a => simp [bind, Except.bind]

/-- An attempt at an outcome fails as the outcome does. -/
theorem Attempt.ofOutcome_eq_error_iff {α : Type} {o : Outcome α} {t : Trouble} :
    Attempt.ofOutcome o = .error t ↔ ∃ e, o = .error e ∧ t = .fault e := by
  cases o with
  | error e => simp [Attempt.ofOutcome, eq_comm]
  | ok b => simp [Attempt.ofOutcome]

/-- A required path is the one that was given. -/
theorem requirePath_eq_ok_iff {path : Option String} {name : String} :
    requirePath path = .ok name ↔ path = some name := by
  cases path <;> simp [requirePath]

/-- A file loads as the value it holds. -/
theorem loadJson_eq_ok_iff {name : String} {v : Value} :
    loadJson folder name = .ok v ↔ Holds folder (some name) v := by
  unfold loadJson Holds
  cases hread : folder.read name with
  | error fault =>
    refine iff_of_false nofun ?_
    rintro ⟨_, text, ⟨⟩, htext, _⟩
    rw [hread] at htext
    cases htext
  | ok text =>
    dsimp only
    constructor
    · intro h
      split at h
      · next w hw => exact ⟨name, text, rfl, hread, hw.trans (congrArg _ (Except.ok.inj h))⟩
      · cases h
    · rintro ⟨_, text', ⟨⟩, htext, hv⟩
      obtain rfl := Except.ok.inj (hread.symm.trans htext)
      rw [hv]

/-- What cannot be loaded is complained about. -/
theorem refused_of_loadJson {name : String} {t : Trouble} (h : loadJson folder name = .error t) :
    ∃ complaint, t.ending = .refused complaint := by
  unfold loadJson at h
  split at h
  · cases h
    exact ⟨_, rfl⟩
  · split at h
    · cases h
    · cases h
      exact ⟨_, rfl⟩

/-- Values load from a file that holds a mapping. -/
theorem loadValues_eq_ok_iff {path : Option String} {values : Members Value} :
    loadValues folder path = .ok values ↔ Holds folder path (.dict values) := by
  unfold loadValues
  rw [Attempt.bind_eq_ok_iff]
  constructor
  · rintro ⟨name, hname, h⟩
    obtain rfl := requirePath_eq_ok_iff.mp hname
    obtain ⟨v, hv, h⟩ := Attempt.bind_eq_ok_iff.mp h
    split at h
    · obtain rfl := Except.ok.inj h
      exact loadJson_eq_ok_iff.mp hv
    · cases h
  · rintro h
    obtain ⟨name, _, rfl, _⟩ := id h
    refine ⟨name, rfl, Attempt.bind_eq_ok_iff.mpr ⟨.dict values, loadJson_eq_ok_iff.mpr h, rfl⟩⟩

/-- Whatever goes wrong in loading values is refused with a complaint. -/
theorem refused_of_loadValues {name : String} {t : Trouble}
    (h : loadValues folder (some name) = .error t) :
    ∃ complaint, t.ending = .refused complaint := by
  rcases Attempt.bind_eq_error_iff.mp h with h | ⟨_, hname, h⟩
  · cases h
  · obtain ⟨⟩ := requirePath_eq_ok_iff.mp hname
    rcases Attempt.bind_eq_error_iff.mp h with h | ⟨v, _, h⟩
    · exact refused_of_loadJson h
    · split at h
      · cases h
      · cases h
        exact ⟨_, rfl⟩

section Forms

variable (hnew : ∃ s, Store.new c none = .ok s)

include hnew

/-- A form loads from a file that holds one. -/
theorem loadSchema_eq_ok_iff {path : Option String} {schema : Schema} :
    loadSchema c folder path = .ok schema ↔ HoldsForm c folder path schema := by
  obtain ⟨first, hfirst⟩ := hnew
  unfold loadSchema
  rw [hfirst]
  constructor
  · intro h
    obtain ⟨_, _, h⟩ := Attempt.bind_eq_ok_iff.mp h
    obtain ⟨name, hname, h⟩ := Attempt.bind_eq_ok_iff.mp h
    obtain ⟨v, hv, h⟩ := Attempt.bind_eq_ok_iff.mp h
    obtain ⟨store, hstore, h⟩ := Attempt.bind_eq_ok_iff.mp h
    rw [requirePath_eq_ok_iff.mp hname]
    exact ⟨v, store, loadJson_eq_ok_iff.mp hv, Attempt.ofOutcome_eq_ok_iff.mp hstore,
      Except.ok.inj h⟩
  · rintro ⟨v, store, hv, hstore, rfl⟩
    obtain ⟨name, _, rfl, _⟩ := id hv
    refine Attempt.bind_eq_ok_iff.mpr ⟨first, rfl, ?_⟩
    refine Attempt.bind_eq_ok_iff.mpr ⟨name, rfl, ?_⟩
    refine Attempt.bind_eq_ok_iff.mpr ⟨v, loadJson_eq_ok_iff.mpr hv, ?_⟩
    exact Attempt.bind_eq_ok_iff.mpr ⟨store, Attempt.ofOutcome_eq_ok_iff.mpr hstore, rfl⟩

/-- Whatever goes wrong in loading a form is refused with a complaint. -/
theorem refused_of_loadSchema {name : String} {t : Trouble}
    (h : loadSchema c folder (some name) = .error t) :
    ∃ complaint, t.ending = .refused complaint := by
  obtain ⟨first, hfirst⟩ := hnew
  unfold loadSchema at h
  rw [hfirst] at h
  rcases Attempt.bind_eq_error_iff.mp h with h | ⟨_, _, h⟩
  · cases h
  · rcases Attempt.bind_eq_error_iff.mp h with h | ⟨_, hname, h⟩
    · cases h
    · obtain ⟨⟩ := requirePath_eq_ok_iff.mp hname
      rcases Attempt.bind_eq_error_iff.mp h with h | ⟨v, _, h⟩
      · exact refused_of_loadJson h
      · rcases Attempt.bind_eq_error_iff.mp h with h | ⟨_, _, h⟩
        · obtain ⟨e, he, rfl⟩ := Attempt.ofOutcome_eq_error_iff.mp h
          obtain ⟨r, rfl⟩ := Store.refusal_of_importSchema he
          exact ⟨_, rfl⟩
        · cases h

end Forms

/-! ### Codes -/

/-- The code that the program ends with; there is none if it breaks. -/
def Ending.code? : Ending → Option Nat
  | .help _ => some 0
  | .misused .. | .refused _ => some 2
  | .done code _ => some code
  | .broken _ => none

/-- Trouble ends the program by itself or with code 2. -/
theorem Trouble.code?_ending (t : Trouble) : t.ending.code? = none ∨ t.ending.code? = some 2 := by
  cases t with
  | file fault => exact Or.inr rfl
  | notObject path => exact Or.inr rfl
  | fault e =>
    unfold ending
    dsimp only
    split
    · exact Or.inr rfl
    · exact Or.inl rfl

namespace Task

/-- The task is one of those over files. -/
inductive OverFiles : Task → Prop
  | check (path : String) : OverFiles (.check (some path))
  | visible (path valuesPath : String) : OverFiles (.visible (some path) (some valuesPath))
  | validate (path valuesPath : String) : OverFiles (.validate (some path) (some valuesPath))

/-- The files of a task hold what they should: a form, and an object of answers. -/
def Usable (c : Config) (folder : Folder) : Task → Prop
  | .new .. => True
  | .check path => ∃ schema, HoldsForm c folder path schema
  | .visible path valuesPath | .validate path valuesPath =>
    (∃ schema, HoldsForm c folder path schema) ∧ ∃ values, Holds folder valuesPath (.dict values)

/-- Nothing in the files of a task keeps it from being done: no pattern that cannot be read without
being defective, no field that gets stuck, and no indentation that is no machine number. -/
inductive Manageable (c : Config) (folder : Folder) (indent : Int) : Task → Prop
  | check {path : Option String} {schema : Schema} (hform : HoldsForm c folder path schema)
      (hpatterns : ∀ f ∈ schema.compiledFields, f.patternFault? = none) :
      Manageable c folder indent (.check path)
  | visible {path valuesPath : Option String} {schema : Schema} {values : Members Value}
      (hform : HoldsForm c folder path schema) (hvalues : Holds folder valuesPath (.dict values))
      (hfree : ∀ f ∈ schema.fields, ¬f.Stuck schema.fieldIds (.dict values))
      (hindent : -2 ^ 63 ≤ indent ∧ indent < 2 ^ 63) :
      Manageable c folder indent (.visible path valuesPath)
  | validate {path valuesPath : Option String} {schema : Schema} {values full : Members Value}
      (hform : HoldsForm c folder path schema) (hvalues : Holds folder valuesPath (.dict values))
      (hpatterns : ∀ f ∈ schema.compiledFields, f.patternFault? = none)
      (hfull : Session.initialAnswers schema (.dict values) = .ok full)
      (hfree : ∀ f ∈ schema.fields, ¬f.Stuck schema.fieldIds (.dict full))
      (hindent : 0 ≤ indent ∧ indent < 2 ^ 64) :
      Manageable c folder indent (.validate path valuesPath)

end Task

/-- The code with which a run over files should end. -/
inductive Promised (c : Config) (folder : Folder) : Task → Nat → Prop
  | unusable {task : Task} (h : ¬task.Usable c folder) : Promised c folder task 2
  | faulty {path : Option String} {schema : Schema} {contract : Contract} {i : Issue}
      (hform : HoldsForm c folder path schema) (hcompile : schema.compile = .ok contract)
      (hi : i ∈ contract.issues) (herror : i.severity = .error) :
      Promised c folder (.check path) 1
  | faultless {path : Option String} {schema : Schema} {contract : Contract}
      (hform : HoldsForm c folder path schema) (hcompile : schema.compile = .ok contract)
      (hall : ∀ i ∈ contract.issues, i.severity ≠ .error) : Promised c folder (.check path) 0
  | listed {path valuesPath : Option String}
      (h : (Task.visible path valuesPath).Usable c folder) :
      Promised c folder (.visible path valuesPath) 0
  | invalid {path valuesPath : Option String} {schema : Schema} {values : Members Value}
      {s : Session} {report : Report} (hform : HoldsForm c folder path schema)
      (hvalues : Holds folder valuesPath (.dict values))
      (hs : Session.new c schema (.dict values) = .ok s) (hreport : s.validate = .ok report)
      (hinvalid : report.isValid = false) : Promised c folder (.validate path valuesPath) 1
  | valid {path valuesPath : Option String} {schema : Schema} {values : Members Value}
      {s : Session} {report : Report} (hform : HoldsForm c folder path schema)
      (hvalues : Holds folder valuesPath (.dict values))
      (hs : Session.new c schema (.dict values) = .ok s) (hreport : s.validate = .ok report)
      (hvalid : report.isValid = true) : Promised c folder (.validate path valuesPath) 0

/-- Code 2 is promised only for what cannot be used. -/
theorem Promised.not_usable {task : Task} (h : Promised c folder task 2) :
    ¬task.Usable c folder := by
  cases h with
  | unusable h => exact h

/-! ### Runs -/

/-- The visible fields can be told when the visible set can. -/
theorem exists_visible_of_visibleFields {ev : Evaluator} {answers : Value} {ids : List String}
    (h : (ev.visibleFields answers).2 = .ok ids) :
    ∃ visible, (ev.visible answers).2 = .ok visible := by
  obtain ⟨visible, hvisible, _⟩ := Outcome.map_eq_ok_iff.mp h
  exact ⟨visible, hvisible⟩

/-- Over a sound schema the first answers repeat no name. -/
theorem names_nodup_of_initialAnswers {schema : Schema} (h : schema.Sound) {values : Value}
    {full : Members Value} (hfull : Session.initialAnswers schema values = .ok full) :
    full.names.Nodup := by
  rw [Session.names_of_initialAnswers h hfull]
  exact h.nodup_ids

section Running

variable {indent : Int} {task : Task} {words : List String}
  (hwords : Arguments.read c words = .ok ⟨indent, task⟩)

include hwords

/-- A task that was carried out ends with its code. -/
theorem code?_run_of_ok {code : Nat} {output : String}
    (h : perform c folder indent task = .ok (code, output)) :
    (run c folder words).code? = some code := by
  unfold run
  rw [hwords]
  dsimp only
  rw [h]
  rfl

/-- A task that ran into trouble ends as the trouble does. -/
theorem code?_run_of_error {t : Trouble} (h : perform c folder indent task = .error t) :
    (run c folder words).code? = t.ending.code? := by
  unfold run
  rw [hwords]
  dsimp only
  rw [h]

end Running

section Performing

variable {env : Members String} {indent : Int} {task : Task}
  (hc : Config.ofEnvironment env = .ok c)

include hc

/-- What starts with a form and answers is refused when one of the two cannot be used. -/
theorem refused_of_not_held {α : Type} {path valuesPath : String}
    (h : ¬((∃ schema, HoldsForm c folder (some path) schema) ∧
      ∃ values, Holds folder (some valuesPath) (.dict values)))
    (rest : Schema → Members Value → Attempt α) :
    ∃ t complaint, (do
        let schema ← loadSchema c folder (some path)
        let values ← loadValues folder (some valuesPath)
        rest schema values) = .error t ∧ t.ending = .refused complaint := by
  have hnew := Store.exists_new hc
  -- The form is loaded before the values, so the first of the two that fails decides.
  cases hschema : loadSchema c folder (some path) with
  | error t =>
    obtain ⟨complaint, ht⟩ := refused_of_loadSchema hnew hschema
    exact ⟨t, complaint, rfl, ht⟩
  | ok schema =>
    cases hvalues : loadValues folder (some valuesPath) with
    | error t =>
      obtain ⟨complaint, ht⟩ := refused_of_loadValues hvalues
      exact ⟨t, complaint, rfl, ht⟩
    | ok values =>
      exact absurd ⟨⟨schema, (loadSchema_eq_ok_iff hnew).mp hschema⟩, values,
        loadValues_eq_ok_iff.mp hvalues⟩ h

/-- A task whose files cannot be used is refused. -/
theorem refused_of_not_usable (htask : task.OverFiles) (h : ¬task.Usable c folder) :
    ∃ t complaint, perform c folder indent task = .error t ∧ t.ending = .refused complaint := by
  cases htask with
  | check path =>
    cases hschema : loadSchema c folder (some path) with
    | error t =>
      obtain ⟨complaint, ht⟩ := refused_of_loadSchema (Store.exists_new hc) hschema
      exact ⟨t, complaint, Attempt.bind_eq_error_iff.mpr (Or.inl hschema), ht⟩
    | ok schema => exact absurd ⟨schema, (loadSchema_eq_ok_iff (Store.exists_new hc)).mp hschema⟩ h
  | visible path valuesPath => exact refused_of_not_held hc h _
  | validate path valuesPath => exact refused_of_not_held hc h _

/-- What is done over files has the promised code, and was manageable. -/
theorem promised_of_perform (htask : task.OverFiles) {code : Nat} {output : String}
    (h : perform c folder indent task = .ok (code, output)) :
    Promised c folder task code ∧ task.Manageable c folder indent := by
  have hnew := Store.exists_new hc
  -- Each of the three tasks is taken apart step by step; what every step has given is what the
  -- promise of its code asks for, and what the next run would need.
  cases htask with
  | check path =>
    obtain ⟨schema, hschema, h⟩ := Attempt.bind_eq_ok_iff.mp h
    obtain ⟨contract, hcompile, h⟩ := Attempt.bind_eq_ok_iff.mp h
    obtain ⟨rfl, _⟩ := Prod.mk.inj (Except.ok.inj h)
    have hform := (loadSchema_eq_ok_iff hnew).mp hschema
    have hcompile := Attempt.ofOutcome_eq_ok_iff.mp hcompile
    refine ⟨?_, .check hform (Schema.no_fault_of_compile hcompile)⟩
    -- The code of a check tells whether any issue is an error.
    split
    · next herrors => exact .faultless hform hcompile (Contract.errors_isEmpty_iff.mp herrors)
    · next herrors =>
      rw [Contract.errors_isEmpty_iff] at herrors
      push Not at herrors
      obtain ⟨i, hi, herror⟩ := herrors
      exact .faulty hform hcompile hi herror
  | visible path valuesPath =>
    obtain ⟨schema, hschema, h⟩ := Attempt.bind_eq_ok_iff.mp h
    obtain ⟨values, hvalues, h⟩ := Attempt.bind_eq_ok_iff.mp h
    obtain ⟨capacity, hcapacity, h⟩ := Attempt.bind_eq_ok_iff.mp h
    obtain ⟨ids, hids, h⟩ := Attempt.bind_eq_ok_iff.mp h
    obtain ⟨text, htext, h⟩ := Attempt.bind_eq_ok_iff.mp h
    obtain ⟨rfl, _⟩ := Prod.mk.inj (Except.ok.inj h)
    have hform := (loadSchema_eq_ok_iff hnew).mp hschema
    have hheld := loadValues_eq_ok_iff.mp hvalues
    have hnames := names_nodup_of_loadValues hvalues
    obtain ⟨shown, hshown⟩ := exists_visible_of_visibleFields (Attempt.ofOutcome_eq_ok_iff.mp hids)
    rw [Evaluator.visible_new _ _ (.dict values hnames)] at hshown
    have hfree := (exists_visibleIn_dict_iff hnames).mp ⟨shown, hshown⟩
    exact ⟨.listed ⟨⟨schema, hform⟩, values, hheld⟩, .visible hform hheld hfree
      (Json.exists_document_iff.mp ⟨text, Attempt.ofOutcome_eq_ok_iff.mp htext⟩)⟩
  | validate path valuesPath =>
    obtain ⟨schema, hschema, h⟩ := Attempt.bind_eq_ok_iff.mp h
    obtain ⟨values, hvalues, h⟩ := Attempt.bind_eq_ok_iff.mp h
    obtain ⟨s, hs, h⟩ := Attempt.bind_eq_ok_iff.mp h
    obtain ⟨report, hreport, h⟩ := Attempt.bind_eq_ok_iff.mp h
    obtain ⟨text, htext, h⟩ := Attempt.bind_eq_ok_iff.mp h
    obtain ⟨rfl, _⟩ := Prod.mk.inj (Except.ok.inj h)
    have hform := (loadSchema_eq_ok_iff hnew).mp hschema
    have hheld := loadValues_eq_ok_iff.mp hvalues
    have hs := Attempt.ofOutcome_eq_ok_iff.mp hs
    have hreport := Attempt.ofOutcome_eq_ok_iff.mp hreport
    constructor
    · cases hvalid : report.isValid with
      | true => exact .valid hform hheld hs hreport hvalid
      | false => exact .invalid hform hheld hs hreport hvalid
    · obtain ⟨_, hcompile, hfull, capacity, _, _, hvisible⟩ := Session.new_eq_ok hs
      -- What the session sees at its start could be decided, so nothing in it overflows.
      have hnames := names_nodup_of_initialAnswers (sound_of_loadSchema hschema) hfull
      rw [Evaluator.visible_new _ _ (.dict s.answers hnames)] at hvisible
      have hfree := (exists_visibleIn_dict_iff hnames).mp ⟨s.visible, hvisible⟩
      exact .validate hform hheld (Schema.no_fault_of_compile hcompile) hfull hfree
        (Json.exists_report_iff.mp ⟨text, Attempt.ofOutcome_eq_ok_iff.mp htext⟩)

/-- A manageable task is carried out. -/
theorem exists_perform_of_manageable (h : task.Manageable c folder indent) :
    ∃ code output, perform c folder indent task = .ok (code, output) := by
  have hnew := Store.exists_new hc
  obtain ⟨capacity, hcapacity⟩ := Config.exists_capacity hc
  -- The steps of the task in order, each with the fact that makes it succeed.
  cases h with
  | @check path schema hform hpatterns =>
    have hschema := (loadSchema_eq_ok_iff hnew).mpr hform
    have hcompile := Schema.compile_of_no_fault hpatterns
    set contract : Contract := ⟨_, _⟩
    refine ⟨if contract.errors.isEmpty then 0 else 1, printed (checkLines schema contract), ?_⟩
    refine Attempt.bind_eq_ok_iff.mpr ⟨schema, hschema, ?_⟩
    exact Attempt.bind_eq_ok_iff.mpr ⟨contract, Attempt.ofOutcome_eq_ok_iff.mpr hcompile, rfl⟩
  | @visible path valuesPath schema values hform hheld hfree hindent =>
    have hschema := (loadSchema_eq_ok_iff hnew).mpr hform
    have hvalues := loadValues_eq_ok_iff.mpr hheld
    obtain ⟨shown, hshown⟩ : ∃ shown, visibleIn schema.fields (.dict values) = .ok shown :=
      (exists_visibleIn_dict_iff (names_nodup_of_loadValues hvalues)).mpr hfree
    obtain ⟨text, htext⟩ := Json.exists_document_iff.mpr hindent
    refine ⟨0, printed [text], ?_⟩
    rw [perform_visible hschema hvalues hcapacity hshown, listing, htext]
    rfl
  | @validate path valuesPath schema values full hform hheld hpatterns hfull hfree hindent =>
    have hschema := (loadSchema_eq_ok_iff hnew).mpr hform
    have hvalues := loadValues_eq_ok_iff.mpr hheld
    have hnames := names_nodup_of_initialAnswers (sound_of_loadSchema hschema) hfull
    obtain ⟨kept, hkept⟩ : ∃ kept, visibleIn schema.fields (.dict full) = .ok kept :=
      (exists_visibleIn_dict_iff hnames).mpr hfree
    obtain ⟨s, hs, _⟩ :=
      exists_session (Schema.compile_of_no_fault hpatterns) hfull hnames hcapacity hkept
    obtain ⟨_, hcompile, _⟩ := Session.new_eq_ok hs
    obtain ⟨report, hreport⟩ := Schema.validate_of_compile hcompile s.answers (some s.visible)
    obtain ⟨text, htext⟩ := Json.exists_report_iff.mpr hindent
    refine ⟨if report.isValid then 0 else 1, printed [text], ?_⟩
    rw [perform_validate hschema hvalues hs, verdict, hreport]
    refine Attempt.bind_eq_ok_iff.mpr ⟨report, rfl, ?_⟩
    exact Attempt.bind_eq_ok_iff.mpr ⟨text, Attempt.ofOutcome_eq_ok_iff.mpr htext, rfl⟩

/-- A run over files ends with the promised code exactly when the files cannot be used or nothing in
them keeps the task from being done.  What is read of the files has the limits of `Json.read` and
`Pattern.read`: no depth of nesting is a trouble, and no text holds half of a surrogate pair, which an
escape could put there and which could not be written as UTF-8. -/
theorem keepsPromise_iff {words : List String}
    (hwords : Arguments.read c words = .ok ⟨indent, task⟩) (htask : task.OverFiles) :
    (∃ code, (run c folder words).code? = some code ∧ Promised c folder task code) ↔
      ¬task.Usable c folder ∨ task.Manageable c folder indent := by
  constructor
  · rintro ⟨code, hcode, hpromised⟩
    cases hperform : perform c folder indent task with
    | ok done => exact Or.inr (promised_of_perform hc htask hperform).2
    | error t =>
      rw [code?_run_of_error hwords hperform] at hcode
      -- Trouble has no code but `2`, which is promised only for files that cannot be used.
      rcases t.code?_ending with hnone | htwo
      · cases hcode.symm.trans hnone
      · obtain rfl := Option.some.inj (hcode.symm.trans htwo)
        exact Or.inl hpromised.not_usable
  · rintro (husable | hmanageable)
    · obtain ⟨t, complaint, hperform, hending⟩ : ∃ t complaint,
          perform c folder indent task = .error t ∧ t.ending = .refused complaint :=
        refused_of_not_usable hc htask husable
      refine ⟨2, ?_, .unusable husable⟩
      rw [code?_run_of_error hwords hperform, hending]
      rfl
    · obtain ⟨code, output, hperform⟩ := exists_perform_of_manageable hc hmanageable
      exact ⟨code, code?_run_of_ok hwords hperform,
        (promised_of_perform hc htask hperform).1⟩

end Performing

/-- When the visible fields cannot be found, the task to list them fails in the same way. -/
theorem perform_visible_of_error {path valuesPath : Option String} {schema : Schema}
    {values : Members Value} {capacity : Number} {e : Fault}
    (hschema : loadSchema c folder path = .ok schema)
    (hvalues : loadValues folder valuesPath = .ok values) (hcapacity : c.capacity = .ok capacity)
    (h : visibleIn schema.fields (.dict values) = .error e) (indent : Int) :
    perform c folder indent (.visible path valuesPath) = .error (.fault e) := by
  have hanswers : IsAnswers (.dict values) := .dict values (names_nodup_of_loadValues hvalues)
  have hvisible : ((Evaluator.new schema.fields capacity).visible (.dict values)).2 = .error e := by
    rw [Evaluator.visible_new _ _ hanswers, h]
  have hfields : ((Evaluator.new schema.fields capacity).visibleFields (.dict values)).2 =
      .error e := Outcome.map_eq_error_iff.mpr hvisible
  refine Attempt.bind_eq_error_iff.mpr (Or.inr ⟨schema, hschema, ?_⟩)
  refine Attempt.bind_eq_error_iff.mpr (Or.inr ⟨values, hvalues, ?_⟩)
  refine Attempt.bind_eq_error_iff.mpr
    (Or.inr ⟨capacity, Attempt.ofOutcome_eq_ok_iff.mpr hcapacity, ?_⟩)
  exact Attempt.bind_eq_error_iff.mpr
    (Or.inl (Attempt.ofOutcome_eq_error_iff.mpr ⟨e, hfields, rfl⟩))

/-- An integer of few digits can be read. -/
theorem readable_of_lt {n : Int} {k : Nat} (hk : k ≤ maxDigits) (h : n.natAbs < 10 ^ k) :
    (Number.int n).Readable :=
  h.trans_le (Nat.pow_le_pow_right (by decide) hk)

/-- A file with a form of an age, and of a note that is asked for below an age. -/
def minorFile : Value :=
  .dict [("title", .str "Ages"), ("fields", .list
    [.dict [("id", .str "age"), ("type", .str "number"), ("label", .str "Age")],
      .dict [("id", .str "note"), ("type", .str "text"), ("label", .str "Note"),
        ("conditions", .list [.dict [("sourceFieldId", .str "age"),
          ("operator", .str "lessThan"), ("value", .int 17)]])]])]

/-- The form in this file. -/
def minorForm : Schema where
  title := "Ages"
  description := ""
  fields := minorFields
  settings := ⟨true, true, "Thank you for your submission!"⟩

/-- The file with this form, and one with an age as the only answer. -/
def minorFolder (age : Int) : Folder :=
  [("schema.json", asciiBytes (Json.write .ascii none minorFile)),
    ("values.json", asciiBytes (Json.write .ascii none (ageAnswers age)))]

/-- The task to list the fields that are visible for the age. -/
def minorTask : Task := .visible (some "schema.json") (some "values.json")

/-- The file of the form holds the form, whatever the age beside it. -/
theorem holdsForm_minorFolder (age : Int) :
    HoldsForm .standard (minorFolder age) (some "schema.json") minorForm := by
  have hnumber : (Number.int 17).Readable := readable_of_lt (k := 2) (by decide) (by decide)
  have hjson : minorFile.IsJson Number.Readable := by
    refine .dict (by decide) ?_
    simp only [List.forall_mem_cons]
    refine ⟨.str _, .list ?_, List.forall_mem_nil _⟩
    simp only [List.forall_mem_cons]
    refine ⟨.dict (by decide) ?_, .dict (by decide) ?_, List.forall_mem_nil _⟩
    · simp only [List.forall_mem_cons]
      exact ⟨.str _, .str _, .str _, List.forall_mem_nil _⟩
    · simp only [List.forall_mem_cons]
      refine ⟨.str _, .str _, .str _, .list ?_, List.forall_mem_nil _⟩
      simp only [List.forall_mem_cons]
      refine ⟨.dict (by decide) ?_, List.forall_mem_nil _⟩
      simp only [List.forall_mem_cons]
      exact ⟨.str _, .str _, .int hnumber, List.forall_mem_nil _⟩
  have hfile : (minorFolder age).get? "schema.json" =
      some (asciiBytes (Json.write .ascii none minorFile)) := by
    unfold minorFolder
    rw [Members.get?_cons, if_pos rfl]
  obtain ⟨store, hstore, hform⟩ : ∃ store, Store.importSchema .standard minorFile = .ok store ∧
      store.schema = minorForm := ⟨_, rfl, rfl⟩
  exact ⟨minorFile, store, loadJson_eq_ok_iff.mp (loadJson_of_write hjson (by decide) hfile),
    hstore, hform⟩

/-- The file of the values holds the age. -/
theorem holds_minorFolder {age : Int} (h : (Number.int age).Readable) :
    Holds (minorFolder age) (some "values.json") (ageAnswers age) := by
  have hjson : (ageAnswers age).IsJson Number.Readable :=
    .dict (List.nodup_singleton _) (List.forall_mem_singleton.mpr (.int h))
  have hfile : (minorFolder age).get? "values.json" =
      some (asciiBytes (Json.write .ascii none (ageAnswers age))) := by
    unfold minorFolder
    rw [Members.get?_cons, if_neg (by decide), Members.get?_cons, if_pos rfl]
  exact loadJson_eq_ok_iff.mp (loadJson_of_write hjson (by decide) hfile)

/-- For the greatest whole number that is near to a float, the fields are listed. -/
theorem minorTask_done :
    ∃ code, (run .standard (minorFolder (Binary64.outOfRange - 1))
        ["visible", "schema.json", "values.json"]).code? = some code ∧
      Promised .standard (minorFolder (Binary64.outOfRange - 1)) minorTask code := by
  have hreadable : (Number.int (Binary64.outOfRange - 1)).Readable :=
    readable_of_lt (k := 309) (by decide) (by decide +kernel)
  have hwords : Arguments.read .standard ["visible", "schema.json", "values.json"] =
      .ok ⟨2, minorTask⟩ := rfl
  have hstandard : Config.ofEnvironment [] = .ok .standard := rfl
  refine (keepsPromise_iff hstandard hwords (.visible _ _)).mpr (Or.inr ?_)
  refine .visible (holdsForm_minorFolder _) (holds_minorFolder hreadable) ?_ (by decide)
  intro f hf hstuck
  have hover := stuck_minorFields_iff.mp ⟨f, hf, hstuck⟩
  rw [lessThan_overflows_iff] at hover
  exact absurd hover (by decide +kernel)

/-- For the next whole number, which is read from its file as well, the program breaks. -/
theorem minorTask_broken :
    Arguments.read .standard ["visible", "schema.json", "values.json"] = .ok ⟨2, minorTask⟩ ∧
      Promised .standard (minorFolder Binary64.outOfRange) minorTask 0 ∧
      (run .standard (minorFolder Binary64.outOfRange)
        ["visible", "schema.json", "values.json"]).code? = none := by
  have hreadable : (Number.int Binary64.outOfRange).Readable :=
    readable_of_lt (k := 309) (by decide) (by decide +kernel)
  -- An empty store and the two files are all the program reads.
  have hnew : ∃ s, Store.new .standard none = .ok s := ⟨_, rfl⟩
  have hform := holdsForm_minorFolder Binary64.outOfRange
  have hheld := holds_minorFolder hreadable
  have hanswers := isAnswers_ageAnswers Binary64.outOfRange
  have hover : Operator.lessThan.Overflows (.int Binary64.outOfRange) (.int 17) :=
    lessThan_overflows_iff.mpr (le_of_eq (Int.natAbs_natCast _).symm)
  -- The condition compares the age with a number, and no float reaches the age.
  have hstuck : visibleIn minorForm.fields (ageAnswers Binary64.outOfRange) =
      .error (.misuse .numberTooLarge) :=
    (visibleIn_eq_error_iff hanswers).mpr ⟨stuck_minorFields_iff.mpr hover, rfl⟩
  have hperform : perform .standard (minorFolder Binary64.outOfRange) 2 minorTask =
      .error (.fault (.misuse .numberTooLarge)) :=
    perform_visible_of_error ((loadSchema_eq_ok_iff hnew).mpr hform)
      (loadValues_eq_ok_iff.mpr hheld) rfl hstuck 2
  have hwords : Arguments.read .standard ["visible", "schema.json", "values.json"] =
      .ok ⟨2, minorTask⟩ := rfl
  exact ⟨hwords, .listed ⟨⟨_, hform⟩, _, hheld⟩, code?_run_of_error hwords hperform⟩

end CommandLine
end Questionnaire
