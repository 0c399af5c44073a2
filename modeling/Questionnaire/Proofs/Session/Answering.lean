import Questionnaire.Proofs.Form.Soundness
import Questionnaire.Proofs.Members
import Questionnaire.Proofs.Session.Run

/-!
# Where the answers of a session come from

A new session has the answers that are given for its fields, and default answers for the others.
What a command puts in place are answers over those that are there (`proposal_eq_ok`).  They are for
fields of the form, except where an update is by no object but by a sequence of pairs: it is
accepted when its items are fields, which says nothing about the names in these items
(`GivesFields`).  When a session goes on with another form, the answers are carried over to the
fields of that form.
-/

namespace Questionnaire

namespace Session

variable {s : Session}

/-! ### Answers of fields -/

section Fields

variable {schema : Schema} (h : schema.Sound) (answer : Field → Value)

/-- One answer for each field is named as the fields are. -/
theorem names_fields (fields : List Field) :
    Members.names (fields.map fun f => (f.id, answer f)) = fields.map (·.id) := by
  unfold Members.names
  rw [List.map_map]
  rfl

include h

/-- Over a sound schema no two of these members share a name, so pairing them up drops none. -/
theorem ofPairs_fields :
    Members.ofPairs (schema.fields.map fun f => (f.id, answer f)) =
      schema.fields.map fun f => (f.id, answer f) :=
  Members.ofPairs_of_nodup ((names_fields answer schema.fields).symm ▸ h.nodup_ids)

/-- Each field of a sound schema finds its own answer. -/
theorem get?_fields {f : Field} (hf : f ∈ schema.fields) :
    Members.get? (schema.fields.map fun f => (f.id, answer f)) f.id = some (answer f) := by
  rw [Members.get?_eq_some_iff_mem ((names_fields answer schema.fields).symm ▸ h.nodup_ids)]
  exact List.mem_map_of_mem hf

end Fields

/-! ### New sessions -/

/-- The answers that a new session is given. -/
def givenAtFirst (values : Value) : Members Value :=
  if values.isTruthy then (values.membersFor "items").toOption.getD [] else []

section Initial

variable {schema : Schema} (h : schema.Sound) {values : Value} {answers : Members Value}
  (ha : initialAnswers schema values = .ok answers)

include ha in
/-- Of the given answers those for fields of the form are put over the defaults. -/
theorem initialAnswers_eq_ok :
    answers = (defaultAnswers schema.fields).overlay
      ((givenAtFirst values).filter fun m => (defaultAnswers schema.fields).has m.1) := by
  unfold initialAnswers at ha
  unfold givenAtFirst
  by_cases ht : values.isTruthy
  · rw [if_pos ht]
    simp only [if_pos ht] at ha
    obtain ⟨given, hgiven, ha⟩ := Outcome.bind_eq_ok_iff.mp ha
    obtain rfl := Outcome.pure_eq_ok_iff.mp ha
    rw [hgiven]
    rfl
  · rw [if_neg ht]
    simp only [if_neg ht] at ha
    obtain rfl := Outcome.pure_eq_ok_iff.mp ha
    rfl

include h ha

/-- The first answers stand under the identifiers of the fields, in their order. -/
theorem names_of_initialAnswers : answers.names = schema.fieldIds := by
  have hdefaults : (defaultAnswers schema.fields).names = schema.fieldIds := by
    unfold defaultAnswers
    rw [ofPairs_fields h, names_fields]
    rfl
  rw [initialAnswers_eq_ok ha, Members.names_overlay_of_subset, hdefaults]
  intro name hname
  obtain ⟨m, hm, rfl⟩ := List.mem_map.mp hname
  exact Members.has_iff.mp (List.mem_filter.mp hm).2

/-- A field starts with the last value given for it, else with its default. -/
theorem get?_of_initialAnswers {f : Field} (hf : f ∈ schema.fields) :
    answers.get? f.id =
      some ((Members.get? (givenAtFirst values).reverse f.id).getD f.defaultAnswer) := by
  -- The defaults hold every field, so the filter on known names lets each one through.
  have hdefault : (defaultAnswers schema.fields).get? f.id = some f.defaultAnswer := by
    unfold defaultAnswers
    rw [ofPairs_fields h, get?_fields h _ hf]
  have hhas : (defaultAnswers schema.fields).has f.id = true := by
    rw [Members.has_iff, ← Members.isSome_get?_iff, hdefault]
    rfl
  rw [initialAnswers_eq_ok ha, Members.get?_overlay, ← List.filter_reverse, hdefault,
    Members.get?_filter _ (defaultAnswers schema.fields).has, if_pos hhas]
  cases Members.get? (givenAtFirst values).reverse f.id with
  | none => rfl
  | some v => rfl

end Initial

/-! ### Required fields -/

/-- A required field is a field of the schema, asked for by its identifier. -/
theorem requireField_eq_ok {id : Value} {f : Field} (h : s.requireField id = .ok f) :
    f ∈ s.schema.fields ∧ id = .str f.id := by
  unfold requireField Schema.field? at h
  cases hf : s.schema.fields.find? fun f => id.isText f.id with
  | none =>
    rw [hf] at h
    exact absurd h Outcome.refuse_ne_ok
  | some g =>
    rw [hf] at h
    obtain rfl := Except.ok.inj h
    exact Value.of_find?_isText hf

/-- A required section is a field of the schema. -/
theorem requireSection_eq_ok {id : Value} {f : Field} (h : s.requireSection id = .ok f) :
    f ∈ s.schema.fields := by
  obtain ⟨g, hg, h⟩ := Outcome.bind_eq_ok_iff.mp h
  split at h
  · obtain rfl := Outcome.pure_eq_ok_iff.mp h
    exact (requireField_eq_ok hg).1
  · exact absurd h Outcome.refuse_ne_ok

/-- Fields are required together only under identifiers of the schema. -/
theorem requireFields_eq_ok {ids : List Value} (h : s.requireFields ids = .ok ()) :
    ∀ id ∈ ids, ∃ f ∈ s.schema.fields, id = .str f.id := by
  induction ids with
  | nil => exact fun id hid => absurd hid List.not_mem_nil
  | cons i ids ih =>
    obtain ⟨f, hf, h⟩ := Outcome.bind_eq_ok_iff.mp h
    rw [List.forall_mem_cons]
    exact ⟨⟨f, requireField_eq_ok hf⟩, ih h⟩

/-! ### Proposals -/

variable {command : Command} {a : Answer} {answers : Members Value}

/-- A proposal puts one answer to a field over the others, or those of an update. -/
theorem proposal_eq_ok (h : s.proposal command = .ok (a, some answers)) :
    ∃ given, answers = s.answers.overlay given ∧
      ((∃ f ∈ s.schema.fields, ∃ v, given = [(f.id, v)]) ∨
        ∃ values, command = .updateAnswers values ∧ values.toMembers = .ok given) := by
  -- Every command but the mapping call writes one answer, that of the field it has looked up.
  cases command with
  | setAnswer id v =>
    obtain ⟨f, hf, h⟩ := Outcome.bind_eq_ok_iff.mp h
    cases h
    exact ⟨_, rfl, Or.inl ⟨f, (requireField_eq_ok hf).1, v, rfl⟩⟩
  | updateAnswers values =>
    obtain ⟨ids, _, h⟩ := Outcome.bind_eq_ok_iff.mp h
    obtain ⟨_, _, h⟩ := Outcome.bind_eq_ok_iff.mp h
    obtain ⟨given, hgiven, h⟩ := Outcome.bind_eq_ok_iff.mp h
    cases h
    exact ⟨given, rfl, Or.inr ⟨values, rfl, hgiven⟩⟩
  | addEntry id =>
    obtain ⟨f, hf, h⟩ := Outcome.bind_eq_ok_iff.mp h
    obtain ⟨free, _, h⟩ := Outcome.bind_eq_ok_iff.mp h
    cases free with
    | false => cases h
    | true =>
      obtain ⟨entries, _, h⟩ := Outcome.bind_eq_ok_iff.mp h
      cases h
      exact ⟨_, rfl, Or.inl ⟨f, requireSection_eq_ok hf, _, rfl⟩⟩
  | removeEntry id index =>
    obtain ⟨free, _, h⟩ := Outcome.bind_eq_ok_iff.mp h
    cases free with
    | false => cases h
    | true =>
      obtain ⟨f, hf, h⟩ := Outcome.bind_eq_ok_iff.mp h
      obtain ⟨entries, _, h⟩ := Outcome.bind_eq_ok_iff.mp h
      obtain ⟨n, _, h⟩ := Outcome.bind_eq_ok_iff.mp h
      cases h
      exact ⟨_, rfl, Or.inl ⟨f, requireSection_eq_ok hf, _, rfl⟩⟩
  | setEntryAnswer id index sub v =>
    obtain ⟨f, hf, h⟩ := Outcome.bind_eq_ok_iff.mp h
    cases hc : f.child? sub with
    | none =>
      rw [hc] at h
      exact absurd h Outcome.refuse_ne_ok
    | some c =>
      rw [hc] at h
      obtain ⟨entries, _, h⟩ := Outcome.bind_eq_ok_iff.mp h
      obtain ⟨n, _, h⟩ := Outcome.bind_eq_ok_iff.mp h
      obtain ⟨entry, _, h⟩ := Outcome.bind_eq_ok_iff.mp h
      cases h
      exact ⟨_, rfl, Or.inl ⟨f, requireSection_eq_ok hf, _, rfl⟩⟩
  | contract => cases h
  -- The views give an answer and no members.
  | isVisible | getAnswer | entries | canAddEntry | canRemoveEntry | validate | submit =>
    obtain ⟨_, _, h⟩ := Outcome.map_eq_ok_iff.mp h
    cases h

/-- The conditions can be decided for what a command puts in place. -/
def Decides (s : Session) (command : Command) : Prop :=
  ∀ a answers, s.proposal command = .ok (a, some answers) →
    ∃ found, { s with answers }.look = .ok found

/-- A command whose conditions can be decided does what it proposes, or fails before it has changed
anything. -/
theorem run_of_decides (hd : s.Decides command) :
    (∃ e, s.proposal command = .error e ∧ (run command).run.run s = (.error e, s)) ∨
      (∃ a, s.proposal command = .ok (a, none) ∧ (run command).run.run s = (.ok a, s)) ∨
      ∃ a answers found, s.proposal command = .ok (a, some answers) ∧
        { s with answers }.look = .ok found ∧
        (run command).run.run s = (.ok a, { s with answers }.looked) := by
  rw [run_run]
  rcases hp : s.proposal command with e | ⟨a, _ | answers⟩
  · exact Or.inl ⟨e, rfl, rfl⟩
  · exact Or.inr (Or.inl ⟨a, rfl, rfl⟩)
  · obtain ⟨found, hfound⟩ := hd a answers hp
    refine Or.inr (Or.inr ⟨a, answers, found, rfl, hfound, ?_⟩)
    unfold settle
    dsimp only
    rw [hfound]
    rfl

/-! ### Names -/

/-- An update that is accepted is by an object, or by pairs that are for fields of the form. -/
def GivesFields (s : Session) : Command → Prop
  | .updateAnswers values => ∀ p given, s.proposal (.updateAnswers values) = .ok p →
      values.toMembers = .ok given →
        (∃ ms, values = .dict ms) ∨ Members.names given ⊆ s.schema.fieldIds
  | _ => True

/-- The objects by which an update is accepted are for fields of the form. -/
theorem names_subset_of_proposal {ms : Members Value} {p : Answer × Option (Members Value)}
    (h : s.proposal (.updateAnswers (.dict ms)) = .ok p) : ms.names ⊆ s.schema.fieldIds := by
  obtain ⟨ids, hids, h⟩ := Outcome.bind_eq_ok_iff.mp h
  obtain ⟨_, hfields, _⟩ := Outcome.bind_eq_ok_iff.mp h
  cases hids
  intro name hname
  obtain ⟨m, hm, rfl⟩ := List.mem_map.mp hname
  obtain ⟨f, hf, hid⟩ := requireFields_eq_ok hfields (.str m.1) (List.mem_map_of_mem hm)
  rw [Value.str.inj hid]
  exact List.mem_map_of_mem hf

/-- A proposal keeps every name there is, in its place. -/
theorem prefix_names_of_proposal (h : s.proposal command = .ok (a, some answers)) :
    s.answers.names <+: answers.names := by
  obtain ⟨given, rfl, _⟩ := proposal_eq_ok h
  exact Members.prefix_names_overlay s.answers given

/-- Where all fields have answers, no command brings in other names. -/
theorem names_of_proposal (hids : s.schema.fieldIds ⊆ s.answers.names)
    (hgives : s.GivesFields command) (h : s.proposal command = .ok (a, some answers)) :
    answers.names = s.answers.names := by
  obtain ⟨given, rfl, hgiven⟩ := proposal_eq_ok h
  refine Members.names_overlay_of_subset (List.Subset.trans ?_ hids)
  rcases hgiven with ⟨f, hf, v, rfl⟩ | ⟨values, rfl, hgiven⟩
  · exact List.cons_subset.mpr ⟨List.mem_map_of_mem hf, List.nil_subset _⟩
  · rcases hgives _ given h hgiven with ⟨ms, rfl⟩ | hsubset
    · cases hgiven
      exact names_subset_of_proposal h
    · exact hsubset

/-! ### Another form -/

/-- Carried answers stand under the identifiers of the new schema. -/
theorem names_carried (s : Session) {schema : Schema} (h : schema.Sound) :
    (s.carried schema).names = schema.fieldIds := by
  unfold carried
  rw [ofPairs_fields h, names_fields]
  rfl

/-- Rebinding carries an answer over, and a field without one starts with its default. -/
theorem get?_carried (s : Session) {schema : Schema} (h : schema.Sound) {f : Field}
    (hf : f ∈ schema.fields) :
    (s.carried schema).get? f.id = some ((s.answers.get? f.id).getD f.defaultAnswer) := by
  unfold carried
  rw [ofPairs_fields h, get?_fields h _ hf]

end Session
end Questionnaire
