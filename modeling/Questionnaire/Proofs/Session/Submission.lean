import Questionnaire.Proofs.Lists
import Questionnaire.Proofs.Members
import Questionnaire.Proofs.Session.Binding

/-!
# What a submission keeps of the answers

An accepted submission hands on the cleaned answers under the labels of their fields.  Labels need
not be distinct, and of several visible fields with one label the last one counts
(`get?_submittedData`).  `submit_losesNothing_iff` says exactly when nothing gets lost on the way:
when the visible fields have distinct labels, and each of them has a rule, without which it has no
cleaned answer.  The contract of a session that is bound to its form has all rules.
-/

namespace Questionnaire

/-! ### Cleaned answers -/

namespace Contract

/-- There is a cleaned answer for every rule that was applied. -/
theorem names_data_of_applyRules {answers : Members Value} {rules : List (String × Rule)}
    {found : Findings} (h : applyRules answers rules = .ok found) :
    found.data.names = Members.names rules := by
  induction rules generalizing found with
  | nil =>
    cases h
    rfl
  | cons r rules ih =>
    obtain ⟨⟨cleaned, failures⟩, _, h⟩ := Outcome.bind_eq_ok_iff.mp h
    obtain ⟨rest, hrest, h⟩ := Outcome.bind_eq_ok_iff.mp h
    obtain rfl := Outcome.pure_eq_ok_iff.mp h
    rw [Members.names_cons, Members.names_cons, ih hrest]

/-- A report without failures has a cleaned answer for exactly the visible fields with a rule. -/
theorem validate_spec {c : Contract} {answers : Members Value} {visible : List String}
    {report : Report} (h : c.validate answers (some visible) = .ok report)
    (hvalid : report.isValid = true) :
    ∃ cleaned, report.data = some cleaned ∧
      ∀ id ∈ visible, (cleaned.get? id).isSome ↔ (c.rule? id).isSome := by
  obtain ⟨found, hfound, h⟩ := Outcome.bind_eq_ok_iff.mp h
  obtain rfl := Outcome.pure_eq_ok_iff.mp h
  refine ⟨found.data, if_pos hvalid, fun id hid => ?_⟩
  unfold rule?
  -- The cleaned values are named as the rules that were applied: those of the visible fields.
  rw [Members.isSome_get?_iff, Members.isSome_get?_iff, names_data_of_applyRules hfound]
  unfold Members.names
  constructor
  · intro hm
    obtain ⟨r, hr, rfl⟩ := List.mem_map.mp hm
    exact List.mem_map_of_mem (List.mem_filter.mp hr).1
  · intro hm
    obtain ⟨r, hr, rfl⟩ := List.mem_map.mp hm
    refine List.mem_map_of_mem (List.mem_filter.mpr ⟨hr, ?_⟩)
    simpa using hid

end Contract

/-- A compiled list of fields has a rule for each of them. -/
theorem Field.names_of_compileList {fields : List Field} {rules : List (String × Rule)}
    {issues : List Issue} (h : Field.compileList fields = .ok (rules, issues)) :
    Members.names rules = fields.map (·.id) := by
  induction fields generalizing rules issues with
  | nil =>
    rw [compileList] at h
    cases h
    rfl
  | cons f fields ih =>
    rw [compileList] at h
    obtain ⟨⟨rule, found⟩, _, h⟩ := Outcome.bind_eq_ok_iff.mp h
    obtain ⟨⟨rest, others⟩, hrest, h⟩ := Outcome.bind_eq_ok_iff.mp h
    obtain ⟨rfl, rfl⟩ := Prod.mk.inj (Outcome.pure_eq_ok_iff.mp h)
    rw [Members.names_cons, List.map_cons, ih hrest]

/-- The contract of a form has a rule for each of its top-level fields. -/
theorem Schema.isSome_rule?_of_compile {s : Schema} {c : Contract} (h : s.compile = .ok c)
    {f : Field} (hf : f ∈ s.fields) : (c.rule? f.id).isSome := by
  obtain ⟨⟨rules, issues⟩, hrules, h⟩ := Outcome.bind_eq_ok_iff.mp h
  obtain rfl := Outcome.pure_eq_ok_iff.mp h
  unfold Contract.rule?
  rw [Members.isSome_get?_iff, Members.mem_names_ofPairs, Field.names_of_compileList hrules]
  exact List.mem_map_of_mem hf

/-! ### Answers by label -/

/-- The answers of fields as they are handed on, with their labels. -/
def labelled (cleaned : Members Value) (fields : List Field) : List (String × Value) :=
  fields.filterMap fun f => (cleaned.get? f.id).map fun v => (f.label, f.submitted v)

/-- What is handed on is the labelled answers of the visible fields, the last of each label. -/
theorem submittedData_eq (cleaned : Members Value) (visible : List String) (fields : List Field) :
    submittedData cleaned visible fields =
      Members.ofPairs (labelled cleaned (fields.filter fun f => visible.contains f.id)) := by
  unfold submittedData labelled
  rw [List.filterMap_filter]

/-- Labelling goes field by field. -/
theorem labelled_append (cleaned : Members Value) (fs gs : List Field) :
    labelled cleaned (fs ++ gs) = labelled cleaned fs ++ labelled cleaned gs :=
  List.filterMap_append

/-- A field with a cleaned answer adds it under its label. -/
theorem labelled_cons {cleaned : Members Value} {f : Field} {v : Value} {fields : List Field}
    (h : cleaned.get? f.id = some v) :
    labelled cleaned (f :: fields) = (f.label, f.submitted v) :: labelled cleaned fields :=
  List.filterMap_cons_some (by rw [h]; rfl)

/-- Where every field has a cleaned answer, the labels are those of the fields. -/
theorem names_labelled {cleaned : Members Value} {fields : List Field}
    (h : ∀ f ∈ fields, (cleaned.get? f.id).isSome) :
    Members.names (labelled cleaned fields) = fields.map (·.label) := by
  induction fields with
  | nil => rfl
  | cons f fields ih =>
    obtain ⟨v, hv⟩ := Option.isSome_iff_exists.mp (h f List.mem_cons_self)
    have ih := ih fun g hg => h g (List.mem_cons_of_mem _ hg)
    rw [labelled_cons hv, Members.names_cons, List.map_cons, ih]

/-- No field hands on an answer under a label that it does not have. -/
theorem mem_names_labelled {cleaned : Members Value} {fields : List Field} {label : String}
    (h : label ∈ Members.names (labelled cleaned fields)) : label ∈ fields.map (·.label) := by
  obtain ⟨m, hm, rfl⟩ := List.mem_map.mp h
  obtain ⟨f, hf, hv⟩ := List.mem_filterMap.mp hm
  obtain ⟨v, _, rfl⟩ := Option.map_eq_some_iff.mp hv
  exact List.mem_map_of_mem hf

/-- The last visible field with a label has its answer handed on under it. -/
theorem get?_submittedData {cleaned : Members Value} {visible : List String}
    {fields before after : List Field} {f : Field} {v : Value}
    (hsplit : (fields.filter fun f => visible.contains f.id) = before ++ f :: after)
    (hlast : f.label ∉ after.map (·.label)) (hv : cleaned.get? f.id = some v) :
    (submittedData cleaned visible fields).get? f.label = some (f.submitted v) := by
  -- Later pairs replace earlier ones, so the answer is looked for from the end.
  have hafter : Members.get? (labelled cleaned after).reverse f.label = none := by
    rw [Members.get?_eq_none_iff, Members.names, List.map_reverse, List.mem_reverse]
    exact fun h => hlast (mem_names_labelled h)
  rw [submittedData_eq, hsplit, Members.get?_ofPairs, labelled_append, labelled_cons hv,
    List.reverse_append, List.reverse_cons, Members.get?_append, Members.get?_append, hafter,
    Members.get?_cons, if_pos rfl]
  rfl

/-! ### Sessions -/

namespace Session

/-- The visible fields in the order of the form. -/
def visibleFields (s : Session) : List Field :=
  s.schema.fields.filter fun f => s.visible.contains f.id

/-- What is handed on has one answer for each visible field, and under its label the field's own. -/
structure KeepsAnswers (s : Session) (cleaned data : Members Value) : Prop where
  length_eq : data.length = s.visibleFields.length
  own : ∀ f ∈ s.visibleFields, ∃ v, cleaned.get? f.id = some v ∧
    data.get? f.label = some (f.submitted v)

/-- A submission has the cleaned answers, and hands on one for each visible field. -/
def LosesNothing (s : Session) (sub : Submission) : Prop :=
  ∃ cleaned data,
    sub.report.data = some cleaned ∧ sub.data = some data ∧ s.KeepsAnswers cleaned data

/-- An accepted submission has a valid report, and hands on the cleaned answers. -/
theorem validate_of_submit {s : Session} {sub : Submission} (h : s.submit = .ok sub)
    (ha : sub.accepted = true) :
    s.validate = .ok sub.report ∧ sub.report.isValid = true ∧
      sub.data = some (submittedData (sub.report.data.getD []) s.visible s.schema.fields) := by
  obtain ⟨report, hreport, h⟩ := Outcome.bind_eq_ok_iff.mp h
  obtain rfl := Outcome.pure_eq_ok_iff.mp h
  unfold Submission.ofReport at ha ⊢
  split at ha
  · next hvalid =>
    rw [if_pos hvalid]
    exact ⟨hreport, hvalid, rfl⟩
  · cases ha

/-- An accepted submission hands on the cleaned answers of the visible fields. -/
theorem submit_spec {s : Session} {sub : Submission} (h : s.submit = .ok sub)
    (ha : sub.accepted = true) :
    ∃ cleaned, sub.report.data = some cleaned ∧
      sub.data = some (submittedData cleaned s.visible s.schema.fields) ∧
      ∀ f ∈ s.visibleFields, (cleaned.get? f.id).isSome ↔ (s.contract.rule? f.id).isSome := by
  obtain ⟨hreport, hvalid, hdata⟩ := validate_of_submit h ha
  obtain ⟨cleaned, hcleaned, hrules⟩ := Contract.validate_spec hreport hvalid
  rw [hcleaned] at hdata
  exact ⟨cleaned, hcleaned, hdata, fun f hf => hrules f.id (by simpa using (List.mem_filter.mp hf).2)⟩

/-- Where every visible field has a cleaned answer, all are kept iff the labels are distinct. -/
theorem keepsAnswers_iff_nodup {s : Session} {cleaned : Members Value}
    (hall : ∀ f ∈ s.visibleFields, (cleaned.get? f.id).isSome) :
    s.KeepsAnswers cleaned (submittedData cleaned s.visible s.schema.fields) ↔
      (s.visibleFields.map (·.label)).Nodup := by
  have hnames : Members.names (labelled cleaned s.visibleFields) = s.visibleFields.map (·.label) :=
    names_labelled hall
  -- One pair is handed on for each visible field, so a pair is lost iff two have one label.
  have hpairs : (labelled cleaned s.visibleFields).length = s.visibleFields.length := by
    have := congrArg List.length hnames
    rwa [Members.names, List.length_map, List.length_map] at this
  have hlength : (submittedData cleaned s.visible s.schema.fields).length = s.visibleFields.length ↔
      (s.visibleFields.map (·.label)).Nodup := by
    rw [submittedData_eq, ← hnames, ← Members.length_ofPairs_eq_iff, hpairs]
    rfl
  constructor
  · intro h
    exact hlength.mp h.length_eq
  · intro hn
    refine ⟨hlength.mpr hn, fun f hf => ?_⟩
    obtain ⟨v, hv⟩ := Option.isSome_iff_exists.mp (hall f hf)
    obtain ⟨before, after, hsplit, hlast⟩ := exists_last_of_nodup hn hf
    exact ⟨v, hv, get?_submittedData hsplit hlast hv⟩

/-- An accepted submission loses nothing iff the visible fields have distinct labels and each of
them has a rule; in a session that is bound to its form, iff they have distinct labels. -/
theorem submit_losesNothing_iff {s : Session} {sub : Submission} (h : s.submit = .ok sub)
    (ha : sub.accepted = true) :
    (s.LosesNothing sub ↔ (s.visibleFields.map (·.label)).Nodup ∧
        ∀ f ∈ s.visibleFields, (s.contract.rule? f.id).isSome) ∧
      (s.Bound → (s.LosesNothing sub ↔ (s.visibleFields.map (·.label)).Nodup)) := by
  -- Being kept needs an own entry for each answer, hence a cleaned value and a label of its own.
  obtain ⟨cleaned, hcleaned, hdata, hrules⟩ := submit_spec h ha
  have hiff : s.LosesNothing sub ↔ (s.visibleFields.map (·.label)).Nodup ∧
      ∀ f ∈ s.visibleFields, (s.contract.rule? f.id).isSome := by
    constructor
    · rintro ⟨cleaned', data, hcleaned', hdata', hk⟩
      obtain rfl := Option.some.inj (hcleaned.symm.trans hcleaned')
      obtain rfl := Option.some.inj (hdata.symm.trans hdata')
      have hall : ∀ f ∈ s.visibleFields, (cleaned.get? f.id).isSome := by
        intro f hf
        obtain ⟨v, hv, _⟩ := hk.own f hf
        rw [hv]
        rfl
      exact ⟨(keepsAnswers_iff_nodup hall).mp hk, fun f hf => (hrules f hf).mp (hall f hf)⟩
    · rintro ⟨hn, hall⟩
      have hall : ∀ f ∈ s.visibleFields, (cleaned.get? f.id).isSome :=
        fun f hf => (hrules f hf).mpr (hall f hf)
      exact ⟨cleaned, _, hcleaned, hdata, (keepsAnswers_iff_nodup hall).mpr hn⟩
  refine ⟨hiff, fun hbound => ?_⟩
  -- A bound session has a rule for each of its fields, so only the labels count.
  rw [hiff, and_iff_left]
  exact fun f hf => Schema.isSome_rule?_of_compile hbound (List.mem_filter.mp hf).1

/-- A form of two text fields with the given labels. -/
def twoNames (first second : String) : Value :=
  let field (id label : String) : Value :=
    .dict [("id", .str id), ("type", .str "text"), ("label", .str label)]
  .dict [("title", .str "Names"), ("fields", .list [field "a" first, field "b" second])]

/-- Under different labels both names are handed on. -/
theorem submit_losesNothing_distinct_labels :
    ∃ store s sub, Store.importSchema .standard (twoNames "Name" "Nickname") = .ok store ∧
      Session.new .standard store.schema (.dict [("a", .str "Ada"), ("b", .str "Bob")]) = .ok s ∧
      s.submit = .ok sub ∧ sub.accepted = true ∧
      sub.data = some [("Name", .str "Ada"), ("Nickname", .str "Bob")] ∧ s.LosesNothing sub := by
  refine ⟨_, _, _, rfl, rfl, rfl, rfl, rfl, ?_⟩
  refine ((submit_losesNothing_iff ?_ ?_).2 ?_).mpr ?_
  · rfl
  · rfl
  · rfl
  · decide

/-- Two visible fields have one label: of their two cleaned answers only the second is handed on. -/
theorem submit_loses_equal_label :
    ∃ store s sub, Store.importSchema .standard (twoNames "Name" "Name") = .ok store ∧
      Session.new .standard store.schema (.dict [("a", .str "Ada"), ("b", .str "Bob")]) = .ok s ∧
      s.submit = .ok sub ∧ sub.accepted = true ∧
      sub.report.data = some [("a", .str "Ada"), ("b", .str "Bob")] ∧
      sub.data = some [("Name", .str "Bob")] ∧ ¬s.LosesNothing sub := by
  refine ⟨_, _, _, rfl, rfl, rfl, rfl, rfl, rfl, ?_⟩
  rintro ⟨cleaned, data, _, hdata, hk⟩
  obtain rfl := Option.some.inj hdata
  exact absurd hk.length_eq (by decide)

end Session

end Questionnaire
