import Questionnaire.Builder.Command
import Questionnaire.Proofs.Form.Handing

/-!
# What new fields are read as

A new field is read from a template with an id and options for which words were drawn.  What is read of
it has the parts of the template, whatever its type is, and an empty id is all that can be wrong with
it (`Builder.read_template`).  So it is known which fields the builder makes
(`Builder.newField_gives_iff`).
-/

namespace Questionnaire.Builder

open Reading

/-- The field that is read from a template. -/
def made (id : String) (type : FieldType) (label : String) (top : Bool)
    (options : List Choice) : Field where
  id
  type
  label
  required := false
  placeholder := some (if type.isFile then "" else defaultPlaceholder)
  helpText := some ""
  options := some options
  constraints := some .unconstrained
  conditions := if top then some [] else none
  subFields := if type = .repeatable then some [] else none

theorem read_template (id : String) (type : FieldType) (label : String) (top : Bool)
    (options : List Choice) :
    Field.read (template id type label top options) =
      if id = "" then .refused [⟨[.key "id"], .textTooShort⟩]
      else .read (made id type label top options) := by
  have hid : Field.readId (.str id) = if id = "" then misfit .textTooShort else .read id := by
    by_cases h : id = ""
    · subst h
      rfl
    · rw [if_neg h]
      exact Field.readId_str h
  have hoptions : optional (sequence .notTuple Choice.read)
      (.list (options.map Choice.asRecord)) = .read (some options) :=
    Field.optional_sequence_list (itemsFrom_map_self Choice.read_asRecord 0 options)
  -- The type and the place decide on the other parts only, which are read as they are.
  have hparts (type : FieldType) (placeholder : Option String)
      (conditions : Option (List Condition)) (subFields : Option (List Field)) :
      (Field.mk <$> (Field.readId (.str id)).under (.key "id") <*> .read type <*> .read label <*>
        .read false <*> .read placeholder <*> .read (some "") <*>
        (optional (sequence .notTuple Choice.read)
          (.list (options.map Choice.asRecord))).under (.key "options") <*>
        .read (some .unconstrained) <*> .read conditions <*> .read subFields : Reading Field) =
      if id = "" then .refused [⟨[.key "id"], .textTooShort⟩]
      else .read ⟨id, type, label, false, placeholder, some "", some options,
        some .unconstrained, conditions, subFields⟩ := by
    rw [hoptions, hid]
    by_cases h : id = ""
    · rw [if_pos h, if_pos h]
      rfl
    · rw [if_neg h, if_neg h]
      rfl
  cases type <;> cases top <;> exact hparts _ _ _ _

variable {c : Config} {s : Store} {ids ids' : IdSource} {type : FieldType} {label : String}
  {top : Bool} {f : Field}

/-- Words are drawn for the id and then for the options, and the field has them if the id is not
empty. -/
theorem newField_gives_iff : (newField c s type label top).Gives ids f ids' ↔
    ∃ id mid options, (freshId c s.issued (.list [])).Gives ids id mid ∧
      (drawOptions c s.issued [] (optionPlan type)).Gives mid options ids' ∧ id ≠ "" ∧
      f = made id type label top options := by
  -- Only an empty identifier is refused; everything else in the template is a text of the right
  -- kind.
  have hread (id : String) (options : List Choice) {mid : IdSource} :
      (liftM (Outcome.ofUnread ((Field.read (template id type label top options)).outcome .field)) :
        Drawing Field).Gives mid f ids' ↔
      (id ≠ "" ∧ f = made id type label top options) ∧ mid = ids' := by
    rw [Drawing.gives_lift_iff, Outcome.ofUnread_eq_ok_iff, Reading.outcome_eq_ok_iff,
      read_template]
    by_cases h : id = ""
    · simp [h]
    · simp [h, eq_comm]
  unfold newField
  simp only [Drawing.gives_bind_iff, hread]
  constructor
  · rintro ⟨id, mid, hid, options, _, hoptions, ⟨hne, rfl⟩, rfl⟩
    exact ⟨id, mid, options, hid, hoptions, hne, rfl⟩
  · rintro ⟨id, mid, options, hid, hoptions, hne, rfl⟩
    exact ⟨id, mid, hid, options, ids', hoptions, ⟨hne, rfl⟩, rfl⟩

/-! ### Options -/

/-- What a planned option is to be. -/
def planned : String × String × Nat × Option Bool → String × Option Bool
  | (word, _, n, isColumn) => (word ++ toString n, isColumn)

theorem choices_of_drawOptions {issued : List String}
    {plan : List (String × String × Nat × Option Bool)} {done options : List Choice}
    (h : (drawOptions c issued done plan).Gives ids options ids') :
    options.map (fun o => (o.value, o.isColumn)) =
      done.map (fun o => (o.value, o.isColumn)) ++ plan.map planned := by
  induction plan generalizing done ids with
  | nil =>
    obtain ⟨rfl, _⟩ := Drawing.gives_pure_iff.mp h
    simp
  | cons p plan ih =>
    obtain ⟨id, mid, _, h⟩ := Drawing.gives_bind_iff.mp h
    rw [ih h]
    simp [planned, numbered]

/-- A new field is of its type, and has the options that are planned for it. -/
theorem choices_of_newField (h : (newField c s type label top).Gives ids f ids') :
    f.type = type ∧
      f.choices.map (fun o => (o.value, o.isColumn)) = (optionPlan type).map planned := by
  obtain ⟨_, _, _, _, hoptions, _, rfl⟩ := newField_gives_iff.mp h
  exact ⟨rfl, choices_of_drawOptions hoptions⟩

end Questionnaire.Builder
