import Questionnaire.Proofs.Validation.Objections

/-!
# One field at a time

The failures in a report are those of the visible fields, each checked by itself, strung together in
the order of the form (`Contract.failures_of_applyRules`), and a form that is narrowed to its
visible fields has the same reports (`Schema.validate_narrowed`).  So an answer matters to its own
field only: `Schema.validate_composes`.
-/

namespace Questionnaire

/-! ### One item at a time -/

namespace Outcome

variable {α β : Type} {f g : α → Outcome β}

theorem mapM_congr {as : List α} (h : ∀ a ∈ as, f a = g a) : as.mapM f = as.mapM g := by
  induction as with
  | nil => rfl
  | cons a as ih =>
    rw [List.mapM_cons, List.mapM_cons, h a List.mem_cons_self,
      ih fun b hb => h b (List.mem_cons_of_mem _ hb)]

/-- The results for a list are those for what stands before an item, for the item, and for what
stands after it. -/
theorem mapM_split {before after : List α} {a : α} {bs : List β}
    (h : (before ++ a :: after).mapM f = .ok bs) :
    ∃ first b last, before.mapM f = .ok first ∧ f a = .ok b ∧ after.mapM f = .ok last ∧
      bs = first ++ b :: last := by
  rw [List.mapM_append, List.mapM_cons] at h
  obtain ⟨first, hfirst, h⟩ := bind_eq_ok_iff.mp h
  obtain ⟨rest, hrest, h⟩ := bind_eq_ok_iff.mp h
  obtain ⟨b, hb, hrest⟩ := bind_eq_ok_iff.mp hrest
  obtain ⟨last, hlast, hrest⟩ := bind_eq_ok_iff.mp hrest
  obtain rfl := pure_eq_ok_iff.mp hrest
  exact ⟨first, b, last, hfirst, hb, hlast, (pure_eq_ok_iff.mp h).symm⟩

end Outcome

/-! ### Absent answers -/

namespace Rule

theorem applyEmpty_missing (rule : Rule) (path : String) :
    (rule.applyEmpty path .missing).2 = (rule.applyEmpty path .null).2 := by
  unfold applyEmpty
  split <;> rfl

/-- An absent answer has the failures of `null`. -/
theorem apply_missing (rule : Rule) (path : String) :
    (rule.apply path .missing).map (·.2) = (rule.apply path .null).map (·.2) := by
  cases rule with
  | misconfigured => rfl
  | _ => exact congrArg Except.ok (applyEmpty_missing _ _)

end Rule

namespace Contract

/-- The failures of the answer under an id, which is `null` if there is none. -/
def failuresOf (c : Contract) (answers : Members Value) (id : String) : Outcome (List Failure) :=
  c.validateField id ((answers.get? id).getD .null)

theorem failuresOf_eq {c : Contract} {id : String} {rule : Rule} (h : c.rule? id = some rule)
    (answers : Members Value) :
    c.failuresOf answers id = (rule.apply "" ((answers.get? id).getD .missing)).map (·.2) := by
  have hfield (v : Value) : c.validateField id v = (rule.apply "" v).map (·.2) := by
    unfold validateField
    rw [h]
    dsimp only
    cases rule.apply "" v <;> rfl
  rw [failuresOf, hfield]
  cases answers.get? id with
  | some v => rfl
  | none => exact (rule.apply_missing "").symm

/-- Rules that are applied one after the other have the failures that the fields have by
themselves. -/
theorem failures_of_applyRules {c : Contract} {rules : List (String × Rule)}
    (hrules : ∀ r ∈ rules, c.rule? r.1 = some r.2) {answers : Members Value} {found : Findings}
    (h : applyRules answers rules = .ok found) :
    ∃ blocks, (Members.names rules).mapM (c.failuresOf answers) = .ok blocks ∧
      found.failures = blocks.flatten := by
  induction rules generalizing found with
  | nil =>
    cases h
    exact ⟨[], rfl, rfl⟩
  | cons r rules ih =>
    obtain ⟨⟨w, failures⟩, hw, h⟩ := Outcome.bind_eq_ok_iff.mp h
    obtain ⟨rest, hrest, h⟩ := Outcome.bind_eq_ok_iff.mp h
    obtain rfl := Outcome.pure_eq_ok_iff.mp h
    obtain ⟨blocks, hblocks, hfailures⟩ :=
      ih (fun r hr => hrules r (List.mem_cons_of_mem _ hr)) hrest
    refine ⟨failures :: blocks, ?_, by rw [hfailures, List.flatten_cons]⟩
    rw [Members.names_cons, List.mapM_cons, failuresOf_eq (hrules r List.mem_cons_self), hw,
      hblocks]
    rfl

/-- The warnings in a report do not depend on the answers. -/
theorem warnings_of_validate {c : Contract} {answers : Members Value}
    {visible : Option (List String)}
    {report : Report} (h : c.validate answers visible = .ok report) :
    report.warnings = warnings (c.asked visible) := by
  obtain ⟨found, hfound, rfl⟩ := validate_eq_ok_iff.mp h
  rw [applyRules_eq_gather _ _ 0] at hfound
  obtain ⟨r, -, rfl⟩ := Outcome.map_eq_ok_iff.mp hfound
  rfl

/-- Where two valid reports are on the same answer to a field, they have the same cleaned
answer to it. -/
theorem get?_data_of_validate {c : Contract} {answers answers' : Members Value}
    {visible : Option (List String)} {report report' : Report}
    (h : c.validate answers visible = .ok report) (h' : c.validate answers' visible = .ok report')
    {data data' : Members Value} (hdata : report.data = some data)
    (hdata' : report'.data = some data')
    {name : String} (hsame : answers'.get? name = answers.get? name) :
    data'.get? name = data.get? name := by
  -- Only a valid report has data.
  have hvalid : ∀ {answers report data}, c.validate answers visible = .ok report →
      report.data = some data → report.isValid = true := by
    intro answers report data h hdata
    obtain ⟨found, -, rfl⟩ := validate_eq_ok_iff.mp h
    exact (Option.ite_none_right_eq_some.mp hdata).1
  obtain ⟨cleaned, hcleaned, hnames, hrules⟩ := cleaned_of_validate h (hvalid h hdata)
  obtain ⟨cleaned', hcleaned', hnames', hrules'⟩ := cleaned_of_validate h' (hvalid h' hdata')
  obtain rfl := Option.some.inj (hdata.symm.trans hcleaned)
  obtain rfl := Option.some.inj (hdata'.symm.trans hcleaned')
  -- A name that no rule is asked for has no answer in either; else the rule is asked with one
  -- answer.
  cases hrule : (c.asked visible).get? name with
  | none =>
    rw [Members.get?_eq_none_iff] at hrule
    rw [Members.get?_eq_none_iff.mpr (hnames' ▸ hrule),
      Members.get?_eq_none_iff.mpr (hnames ▸ hrule)]
  | some rule =>
    obtain ⟨w, hw, happly⟩ := hrules name rule hrule
    obtain ⟨w', hw', happly'⟩ := hrules' name rule hrule
    rw [hsame, happly] at happly'
    cases happly'
    rw [hw, hw']

/-- What a report says depends on the rules that are asked. -/
theorem validate_eq_of_asked_eq {c c' : Contract} {visible visible' : Option (List String)}
    (h : c.asked visible = c'.asked visible') (answers : Members Value) :
    c.validate answers visible = c'.validate answers visible' := by
  unfold validate
  rw [← asked, ← asked, h]

end Contract

/-! ### Visible fields -/

namespace Schema

/-- The visible fields, or all fields. -/
def shown (s : Schema) (visible : Option (List String)) : List Field :=
  s.fields.filter fun f => visible.all (·.contains f.id)

/-- The form with only the visible fields. -/
def narrowed (s : Schema) (visible : Option (List String)) : Schema :=
  { s with fields := s.shown visible }

end Schema

/-- Some fields of a list that can be compiled can be compiled by themselves. -/
theorem Field.compileList_filter {fields : List Field} {rules : List (String × Rule)}
    {issues : List Issue} (h : compileList fields = .ok (rules, issues)) (p : String → Bool) :
    ∃ found, compileList (fields.filter fun f => p f.id) =
      .ok (rules.filter fun r => p r.1, found) := by
  induction fields generalizing rules issues with
  | nil =>
    cases h
    exact ⟨[], rfl⟩
  | cons f fields ih =>
    rw [compileList] at h
    obtain ⟨⟨rule, first⟩, hrule, h⟩ := Outcome.bind_eq_ok_iff.mp h
    obtain ⟨⟨rest, others⟩, hrest, h⟩ := Outcome.bind_eq_ok_iff.mp h
    obtain ⟨rfl, rfl⟩ := Prod.mk.inj (Outcome.pure_eq_ok_iff.mp h)
    obtain ⟨found, hfound⟩ := ih hrest
    rw [List.filter_cons, List.filter_cons]
    cases p f.id with
    | false => exact ⟨found, hfound⟩
    | true =>
      rw [if_pos rfl, if_pos rfl, compileList, hrule, hfound]
      exact ⟨_, rfl⟩

/-- Two reports differ in the failures and the cleaned answer of one field, if at all. -/
structure Report.DifferOnlyOn (id : String) (own own' : List Failure) (r r' : Report) : Prop where
  failures : ∃ before after, r.failures = before ++ own ++ after ∧
    r'.failures = before ++ own' ++ after
  data (data data' : Members Value) (hdata : r.data = some data) (hdata' : r'.data = some data') :
    ∀ other, other ≠ id → data'.get? other = data.get? other
  warnings : r'.warnings = r.warnings

namespace Schema

/-- A report is put together from what the visible fields say by themselves. -/
structure Composes (s : Schema) (c : Contract) (answers : Members Value)
    (visible : Option (List String)) (report : Report) : Prop where
  failures : ∃ blocks, ((s.shown visible).map (·.id)).mapM (c.failuresOf answers) = .ok blocks ∧
    report.failures = blocks.flatten
  valid_iff : report.isValid = true ↔ report.failures = []
  data_none_iff : report.data = none ↔ report.isValid = false
  data_names (data : Members Value) (hdata : report.data = some data) :
    data.names = (s.shown visible).map (·.id)
  narrowed : ∃ c', (s.narrowed visible).compile = .ok c' ∧ c'.validate answers none = .ok report

section Compiled

variable {s : Schema} {c : Contract} (hn : s.fieldIds.Nodup) (hc : s.compile = .ok c)
include hn hc

/-- Where the ids are distinct, there is one rule for each field, in the order of the form. -/
theorem compileList_of_compile : ∃ issues, Field.compileList s.fields = .ok (c.rules, issues) := by
  obtain ⟨⟨rules, issues⟩, hrules, hc⟩ := Outcome.bind_eq_ok_iff.mp hc
  obtain rfl := Outcome.pure_eq_ok_iff.mp hc
  have hnames : (Members.names rules).Nodup := (Field.names_of_compileList hrules) ▸ hn
  rw [Members.ofPairs_of_nodup hnames]
  exact ⟨issues, hrules⟩

theorem names_asked (visible : Option (List String)) :
    (c.asked visible).names = (s.shown visible).map (·.id) := by
  obtain ⟨issues, hrules⟩ := compileList_of_compile hn hc
  obtain ⟨found, hfound⟩ := Field.compileList_filter hrules fun id => visible.all (·.contains id)
  exact Field.names_of_compileList hfound

/-- The form with only the visible fields has the same report without saying what is visible. -/
theorem validate_narrowed (visible : Option (List String)) :
    ∃ c', (s.narrowed visible).compile = .ok c' ∧
      ∀ answers, c'.validate answers none = c.validate answers visible := by
  obtain ⟨issues, hrules⟩ := compileList_of_compile hn hc
  obtain ⟨found, hfound⟩ := Field.compileList_filter hrules fun id => visible.all (·.contains id)
  have hnodup : (c.asked visible).names.Nodup :=
    (nodup_names_of_compile hc).sublist (List.filter_sublist.map Prod.fst)
  refine ⟨⟨c.asked visible, found ++ (s.narrowed visible).conditionIssues⟩, ?_, fun answers => ?_⟩
  · unfold compile
    show (Field.compileList (s.shown visible) >>= _) = _
    rw [shown, hfound]
    show Except.ok (Contract.mk (Members.ofPairs (c.asked visible)) _) = _
    rw [Members.ofPairs_of_nodup hnodup]
  · refine Contract.validate_eq_of_asked_eq ?_ answers
    exact List.filter_eq_self.mpr fun _ _ => rfl

theorem composes_of_validate {answers : Members Value} {visible : Option (List String)}
    {report : Report}
    (h : c.validate answers visible = .ok report) : s.Composes c answers visible report := by
  obtain ⟨c', hc', hsame⟩ := validate_narrowed hn hc visible
  have hnarrowed : c'.validate answers none = .ok report := (hsame answers).trans h
  obtain ⟨found, hfound, rfl⟩ := Contract.validate_eq_ok_iff.mp h
  have hrules : ∀ r ∈ c.asked visible, c.rule? r.1 = some r.2 := fun r hr =>
    (Members.get?_eq_some_iff_mem (nodup_names_of_compile hc)).mpr (List.mem_of_mem_filter hr)
  refine ⟨?_, List.isEmpty_iff, ?_, fun data hdata => ?_, c', hc', hnarrowed⟩
  · rw [← names_asked hn hc]
    exact Contract.failures_of_applyRules hrules hfound
  · cases found.failures.isEmpty with
    | false => exact iff_of_true rfl rfl
    | true => exact iff_of_false nofun nofun
  · rw [← names_asked hn hc, ← Contract.names_data_of_applyRules hfound]
    cases hvalid : found.failures.isEmpty with
    | false =>
      rw [hvalid] at hdata
      cases hdata
    | true =>
      rw [hvalid] at hdata
      rw [← Option.some.inj hdata]

/-- Where answers differ under one id only, so do what comes of them. -/
theorem differOnlyOn_of_validate {answers answers' : Members Value} {visible : Option (List String)}
    {report report' : Report} (h : c.validate answers visible = .ok report)
    (h' : c.validate answers' visible = .ok report') {id : String}
    (hsame : ∀ other, other ≠ id → answers'.get? other = answers.get? other)
    (hid : id ∈ (s.shown visible).map (·.id)) :
    ∃ own own', c.failuresOf answers id = .ok own ∧ c.failuresOf answers' id = .ok own' ∧
      report.DifferOnlyOn id own own' report' := by
  obtain ⟨blocks, hblocks, hfailures⟩ := (composes_of_validate hn hc h).failures
  obtain ⟨blocks', hblocks', hfailures'⟩ := (composes_of_validate hn hc h').failures
  obtain ⟨before, after, hsplit⟩ := List.append_of_mem hid
  -- The fields before and after are asked about the same answers, and say the same again.
  have hothers :
    ∀ other ∈ before ++ after, c.failuresOf answers' other = c.failuresOf answers other := by
    intro other hother
    have hne : other ≠ id := by
      rintro rfl
      have hnodup : ((s.shown visible).map (·.id)).Nodup := hn.sublist (List.filter_sublist.map _)
      rw [hsplit, List.nodup_middle] at hnodup
      exact (List.nodup_cons.mp hnodup).1 hother
    unfold Contract.failuresOf
    rw [hsame other hne]
  rw [hsplit] at hblocks hblocks'
  obtain ⟨first, own, last, hfirst, hown, hlast, rfl⟩ := Outcome.mapM_split hblocks
  obtain ⟨first', own', last', hfirst', hown', hlast', rfl⟩ := Outcome.mapM_split hblocks'
  rw [Outcome.mapM_congr fun other hother =>
    hothers other (List.mem_append_left _ hother), hfirst] at hfirst'
  rw [Outcome.mapM_congr fun other hother =>
    hothers other (List.mem_append_right _ hother), hlast] at hlast'
  obtain rfl := Except.ok.inj hfirst'
  obtain rfl := Except.ok.inj hlast'
  refine ⟨own, own', hown, hown', ⟨first.flatten, last.flatten, ?_, ?_⟩, ?_, ?_⟩
  · rw [hfailures]
    simp
  · rw [hfailures']
    simp
  · intro data data' hdata hdata' other hne
    exact Contract.get?_data_of_validate h h' hdata hdata' (hsame other hne)
  · rw [Contract.warnings_of_validate h, Contract.warnings_of_validate h']

/-- Validation asks the visible fields one by one.  The report on the answers is put together from
what these fields say by themselves, and is that on the form with only these fields; and another
answer to one field changes what is said of this field only. -/
theorem validate_composes (answers : Members Value) (visible : Option (List String)) :
    ∃ report, c.validate answers visible = .ok report ∧ s.Composes c answers visible report ∧
      ∀ id answers', (∀ other, other ≠ id → answers'.get? other = answers.get? other) →
        ∃ report', c.validate answers' visible = .ok report' ∧
          (id ∉ (s.shown visible).map (·.id) → report' = report) ∧
          (id ∈ (s.shown visible).map (·.id) → ∃ own own', c.failuresOf answers id = .ok own ∧
            c.failuresOf answers' id = .ok own' ∧ report.DifferOnlyOn id own own' report') := by
  obtain ⟨report, hreport⟩ := validate_of_compile hc answers visible
  refine ⟨report, hreport, composes_of_validate hn hc hreport, fun id answers' hsame => ?_⟩
  obtain ⟨report', hreport'⟩ := validate_of_compile hc answers' visible
  refine ⟨report', hreport', fun hid => ?_, differOnlyOn_of_validate hn hc hreport hreport' hsame⟩
  rw [← names_asked hn hc] at hid
  -- No rule that is asked for reads the answer that changed.
  have hrules : Contract.applyRules answers' (c.asked visible) =
      Contract.applyRules answers (c.asked visible) := by
    refine Contract.applyRules_congr fun r hr => hsame r.1 ?_
    rintro rfl
    exact hid (List.mem_map_of_mem hr)
  obtain ⟨found, hfound, rfl⟩ := Contract.validate_eq_ok_iff.mp hreport
  obtain ⟨found', hfound', rfl⟩ := Contract.validate_eq_ok_iff.mp hreport'
  rw [hrules, hfound] at hfound'
  rw [Except.ok.inj hfound']

end Compiled

/-- Of an age that is no number and a pet without name, the age is given another answer. -/
theorem validate_composes_pets :
    let answers (age : Value) : Members Value := [("age", age), ("pets", .list [.dict []])]
    ∃ c report report' own own', petForm.compile = .ok c ∧
      c.validate (answers (.str "old")) none = .ok report ∧
      petForm.Composes c (answers (.str "old")) none report ∧
      report.failures.map (·.fieldId) = ["age", "pets.0.name"] ∧
      c.validate (answers (.int 3)) none = .ok report' ∧
      report'.failures.map (·.fieldId) = ["pets.0.name"] ∧
      report.DifferOnlyOn "age" own own' report' := by
  intro answers
  obtain ⟨c, report, report', hc, hreport, hreport', hfailures, hfailures'⟩ :
      ∃ c report report', petForm.compile = .ok c ∧
        c.validate (answers (.str "old")) none = .ok report ∧
        c.validate (answers (.int 3)) none = .ok report' ∧
        report.failures.map (·.fieldId) = ["age", "pets.0.name"] ∧
        report'.failures.map (·.fieldId) = ["pets.0.name"] := ⟨_, _, _, rfl, rfl, rfl, rfl, rfl⟩
  have hnodup : petForm.fieldIds.Nodup := by decide
  obtain ⟨r, hr, hcomposes, hlocal⟩ := validate_composes hnodup hc (answers (.str "old")) none
  obtain rfl := Except.ok.inj (hreport.symm.trans hr)
  -- The answers differ in the age alone.
  have hsame : ∀ other, other ≠ "age" →
      (answers (.int 3)).get? other = (answers (.str "old")).get? other := by
    intro other hne
    have hget (age : Value) :
      (answers age).get? other = Members.get? [("pets", .list [.dict []])] other :=
      (Members.get?_cons _ _ _).trans (if_neg hne.symm)
    rw [hget, hget]
  obtain ⟨r', hr', -, hdiffer⟩ := hlocal "age" (answers (.int 3)) hsame
  obtain rfl := Except.ok.inj (hreport'.symm.trans hr')
  obtain ⟨own, own', -, -, hdiffer⟩ := hdiffer (by decide)
  exact ⟨c, report, report', own, own', hc, hreport, hcomposes, hfailures, hreport', hfailures',
    hdiffer⟩

end Schema
end Questionnaire
