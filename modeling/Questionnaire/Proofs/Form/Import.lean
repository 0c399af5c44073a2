import Questionnaire.Form.Reader
import Questionnaire.Proofs.Form.Soundness
import Questionnaire.Proofs.Value.Json

/-!
# Reading a form back from its export

An exported part of a form has its members under the names of documents, and none for what is absent.
Each part is read back as it was, but for the values of conditions: an infinity, what is not a number
and all data that JSON does not have are changed on the way (`Schema.portable`).  `Schema.read_exported`
says so of a whole form, by induction over its fields.
-/

namespace Questionnaire

open Reading

/-! ### Members -/

theorem View.document_ne_attributes : View.document ≠ .attributes := nofun

theorem View.portable_ne_attributes : View.portable ≠ .attributes := nofun

/-- Outside of the view by attributes, what is absent has no member. -/
theorem View.member_ofOption {α : Type} {view : View} (hview : view ≠ .attributes) {g : α → Value}
    (hg : ∀ a, g a ≠ .null) (name camel : String) (o : Option α) :
    view.member name camel (.ofOption g o) = Members.present [(camel, o.map g)] := by
  cases o with
  | none =>
    cases view with
    | attributes => exact absurd rfl hview
    | document => rfl
    | portable => rfl
  | some a =>
    show view.member name camel (g a) = [(camel, g a)]
    have ha := hg a
    unfold View.member
    cases view with
    | attributes => exact absurd rfl hview
    | document => split <;> simp_all
    | portable => split <;> simp_all

section Reading

variable {α β : Type} {ms : Members Value} {camel name : String} {f : Value → Reading α}

theorem requireMember_of_get? {v : Value} {a : α} (hv : ms.get? camel = some v)
    (ha : f v = .read a) : requireMember ms camel name f = .read a := by
  unfold requireMember findMember
  rw [hv]
  dsimp only
  rw [ha]
  rfl

theorem memberOr_of_get? {default : α} {v : Value} {a : α} (hv : ms.get? camel = some v)
    (ha : f v = .read a) : memberOr ms camel name default f = .read a := by
  unfold memberOr findMember
  rw [hv]
  dsimp only
  rw [ha]
  rfl

/-- A part that may be absent is read, if it has no member exactly when it is absent. -/
theorem memberOr_optional_map {g : β → Value} {k : β → α} {o : Option β}
    (hcamel : ms.get? camel = o.map g) (hname : ms.get? name = if name = camel then o.map g else none)
    (hg : ∀ b, g b ≠ .null) (hf : ∀ b, o = some b → f (g b) = .read (k b)) :
    memberOr ms camel name none (Reading.optional f) = .read (o.map k) := by
  cases o with
  | none =>
    have hname : ms.get? name = none := hname.trans (by split <;> rfl)
    unfold memberOr findMember
    rw [hcamel, hname]
    rfl
  | some b =>
    have hoptional : Reading.optional f (g b) = .read (some (k b)) := by
      unfold Reading.optional
      split
      · exact absurd ‹_› (hg b)
      · rw [hf b rfl]
        rfl
    exact memberOr_of_get? hcamel hoptional

theorem memberOr_optional {g : α → Value} {o : Option α} (hcamel : ms.get? camel = o.map g)
    (hname : ms.get? name = if name = camel then o.map g else none) (hg : ∀ a, g a ≠ .null)
    (hf : ∀ a, o = some a → f (g a) = .read a) :
    memberOr ms camel name none (Reading.optional f) = .read o := by
  rw [memberOr_optional_map hcamel hname hg hf, Option.map_id']

theorem itemsFrom_map {g : β → Value} {k : β → α} {as : List β}
    (h : ∀ a ∈ as, f (g a) = .read (k a)) (n : Nat) :
    itemsFrom f n (as.map g) = .read (as.map k) := by
  induction as generalizing n with
  | nil => rfl
  | cons a as ih =>
    obtain ⟨ha, has⟩ := List.forall_mem_cons.mp h
    rw [List.map_cons, itemsFrom, ha, ih has]
    rfl

theorem itemsFrom_map_self {g : α → Value} (h : ∀ a, f (g a) = .read a) (n : Nat) (as : List α) :
    itemsFrom f n (as.map g) = .read as := by
  rw [itemsFrom_map (fun a _ => h a), List.map_id']

theorem sequence_texts (m : Misfit) (ss : List String) :
    sequence m text (.texts ss) = .read ss :=
  itemsFrom_map_self (g := .str) (fun _ => rfl) 0 ss

theorem named_of_name {byName : String → Option α} {s : String} {a : α} (h : byName s = some a)
    (m : Misfit) : named byName m (.str s) = .read a := by
  have htext : (Value.str s).text?.bind byName = some a := h
  unfold named
  rw [htext]

end Reading

/-! ### Choices, constraints and conditions -/

variable {view : View} (hview : view ≠ .attributes)

namespace Choice

/-- The parts of a choice, of which some may be absent. -/
def parts (o : Choice) : Members (Option Value) :=
  [("id", some (.str o.id)), ("value", some (.str o.value)), ("label", some (.str o.label)),
    ("isColumn", o.isColumn.map .bool)]

theorem nodup_names_parts (o : Choice) : o.parts.names.Nodup := by simp [parts, Members.names]

include hview in
theorem members_eq (o : Choice) : o.members view = Members.present o.parts := by
  unfold members Value.optionalTruth
  rw [View.member_ofOption hview nofun]
  rfl

include hview in
theorem read_toValue (o : Choice) : Choice.read (o.toValue view) = .read o := by
  have hget := Members.get?_present o.nodup_names_parts
  rw [← o.members_eq hview] at hget
  show ofMembers (o.members view) = _
  unfold ofMembers
  rw [requireMember_of_get? (a := o.id) (hget "id") rfl,
    requireMember_of_get? (a := o.value) (hget "value") rfl,
    requireMember_of_get? (a := o.label) (hget "label") rfl,
    memberOr_optional (hget "isColumn") (hget "is_column") nofun (fun _ _ => rfl)]
  rfl

end Choice

theorem Number.toValue_ne_null (n : Number) : n.toValue ≠ .null := by
  cases n with
  | int n => exact nofun
  | float x => exact nofun

theorem Reading.number_toValue (n : Number) : number n.toValue = .read n := by
  cases n with
  | int n => rfl
  | float x => rfl

namespace Constraints

/-- The parts of constraints, of which some may be absent. -/
def parts (c : Constraints) : Members (Option Value) :=
  [("min", c.min.map Number.toValue), ("max", c.max.map Number.toValue),
    ("minLength", c.minLength.map .int), ("maxLength", c.maxLength.map .int),
    ("pattern", c.pattern.map .str), ("allowedFileTypes", c.allowedFileTypes.map .texts),
    ("maxFileSize", c.maxFileSize.map Number.toValue), ("maxFiles", c.maxFiles.map .int),
    ("customMessage", c.customMessage.map .str)]

theorem toValue_ne_null (view : View) (c : Constraints) : c.toValue view ≠ .null := by
  unfold toValue
  exact nofun

theorem nodup_names_parts (c : Constraints) : c.parts.names.Nodup := by simp [parts, Members.names]

include hview in
/-- Constraints show the parts that are there. -/
theorem members_eq (c : Constraints) : c.members view = Members.present c.parts := by
  unfold members Value.optionalNumber Value.optionalInt Value.optionalText Value.optionalTexts
  simp only [View.member_ofOption hview Number.toValue_ne_null]
  rw [View.member_ofOption hview nofun, View.member_ofOption hview nofun,
    View.member_ofOption hview nofun, View.member_ofOption hview nofun,
    View.member_ofOption hview nofun, View.member_ofOption hview nofun]
  simp only [← Members.present_append]
  rfl

include hview in
/-- Constraints are read back from every view but that of attributes. -/
theorem read_toValue (c : Constraints) : Constraints.read (c.toValue view) = .read c := by
  have hget := Members.get?_present c.nodup_names_parts
  rw [← c.members_eq hview] at hget
  show ofMembers (c.members view) = _
  unfold ofMembers
  rw [memberOr_optional (hget "min") (hget "min") Number.toValue_ne_null
      (fun n _ => number_toValue n),
    memberOr_optional (hget "max") (hget "max") Number.toValue_ne_null
      (fun n _ => number_toValue n),
    memberOr_optional (f := integer) (hget "minLength") (hget "min_length") nofun (fun _ _ => rfl),
    memberOr_optional (f := integer) (hget "maxLength") (hget "max_length") nofun (fun _ _ => rfl),
    memberOr_optional (f := text) (hget "pattern") (hget "pattern") nofun (fun _ _ => rfl),
    memberOr_optional (hget "allowedFileTypes") (hget "allowed_file_types") nofun
      (fun ss _ => sequence_texts .notTuple ss),
    memberOr_optional (hget "maxFileSize") (hget "max_file_size") Number.toValue_ne_null
      (fun n _ => number_toValue n),
    memberOr_optional (f := integer) (hget "maxFiles") (hget "max_files") nofun (fun _ _ => rfl),
    memberOr_optional (f := text) (hget "customMessage") (hget "custom_message") nofun
      (fun _ _ => rfl)]
  rfl

end Constraints

/-- The value, unless it is `null`. -/
def Value.nonNull? : Value → Option Value
  | .null => none
  | v => some v

namespace Condition

/-- The condition with a value that JSON has. -/
def portable (c : Condition) : Condition := { c with value := c.value.portable }

/-- The parts of a condition, of which some may be absent. -/
def parts (c : Condition) : Members (Option Value) :=
  [("sourceFieldId", some (.str c.source)), ("operator", some (.str c.operator.name)),
    ("value", c.value.nonNull?.map Value.portable)]

/-- A condition shows the parts that are there. -/
theorem members_portable (c : Condition) : c.members .portable = Members.present c.parts := by
  obtain ⟨source, operator, value⟩ := c
  cases value <;> rfl

/-- A condition is read from its portable form as the portable one. -/
theorem read_toValue (c : Condition) : Condition.read (c.toValue .portable) = .read c.portable := by
  have hnodup : c.parts.names.Nodup := by simp [parts, Members.names]
  have hget := Members.get?_present hnodup
  rw [← c.members_portable] at hget
  have hvalue : memberOr (c.members .portable) "value" "value" .null any = .read c.value.portable := by
    have hv : Members.get? (c.members .portable) "value" = c.value.nonNull?.map Value.portable :=
      hget "value"
    unfold memberOr findMember
    rw [hv]
    cases c.value <;> rfl
  show ofMembers (c.members .portable) = _
  unfold ofMembers
  rw [requireMember_of_get? (a := c.source) (hget "sourceFieldId") rfl,
    requireMember_of_get? (hget "operator") (named_of_name (Operator.ofName?_name _) _), hvalue]
  rfl

/-- A condition is read back from its document. -/
theorem read_document (c : Condition) : Condition.read (c.toValue .document) = .read c := by
  obtain ⟨source, operator, value⟩ := c
  have hoperator : named Operator.ofName? .notMemberOfEnumeration (.str operator.name) =
    .read operator := named_of_name (Operator.ofName?_name operator) _
  show ofMembers _ = _
  unfold ofMembers
  rw [requireMember_of_get? (a := source) rfl rfl, requireMember_of_get? rfl hoperator]
  cases value <;> rfl

end Condition

/-! ### Fields -/

namespace Field

mutual

/-- The field with conditions that JSON has, at any depth. -/
def portable : Field → Field
  | ⟨id, type, label, required, placeholder, helpText, options, constraints, conditions, subFields⟩ =>
    ⟨id, type, label, required, placeholder, helpText, options, constraints,
      conditions.map (·.map Condition.portable), portableOpt subFields⟩

/-- Optional fields with conditions that JSON has. -/
def portableOpt : Option (List Field) → Option (List Field)
  | none => none
  | some fields => some (portableList fields)

/-- Fields with conditions that JSON has. -/
def portableList : List Field → List Field
  | [] => []
  | f :: fs => f.portable :: portableList fs

end

/-- Fields are made portable one by one. -/
theorem portableList_eq (fs : List Field) : portableList fs = fs.map portable := by
  induction fs with
  | nil => rfl
  | cons f fs ih => rw [portableList, ih, List.map_cons]

theorem portable_eq (f : Field) : f.portable =
    { f with
      conditions := f.conditions.map (·.map Condition.portable)
      subFields := f.subFields.map (·.map portable) } := by
  obtain ⟨id, type, label, required, placeholder, helpText, options, constraints, conditions,
    _ | fields⟩ := f
  · rfl
  · rw [portable, portableOpt, portableList_eq]
    rfl

/-- Fields are shown one by one. -/
theorem listValues_eq (view : View) (fs : List Field) :
    listValues view fs = fs.map (·.toValue view) := by
  induction fs with
  | nil => rfl
  | cons f fs ih =>
    rw [listValues, ih]
    rfl

/-- The parts of a field, of which some may be absent. -/
def parts (view : View) (f : Field) : Members (Option Value) :=
  [("id", some (.str f.id)), ("type", some (.str f.type.name)), ("label", some (.str f.label)),
    ("required", some (.bool f.required)), ("placeholder", f.placeholder.map .str),
    ("helpText", f.helpText.map .str),
    ("options", f.options.map fun os => .list (os.map (·.toValue view))),
    ("validations", f.constraints.map (·.toValue view)),
    ("conditions", f.conditions.map fun cs => .list (cs.map (·.toValue view))),
    ("subFields", f.subFields.map fun fs => .list (fs.map (·.toValue view)))]

/-- No name occurs twice among the parts of a field. -/
theorem nodup_names_parts (view : View) (f : Field) : (f.parts view).names.Nodup := by
  simp [parts, Members.names]

include hview in
/-- A field shows the parts that are there. -/
theorem members_eq (f : Field) : f.members view = Members.present (f.parts view) := by
  obtain ⟨id, type, label, required, placeholder, helpText, options, constraints, conditions,
    subFields⟩ := f
  have hchildren : childrenValue view subFields =
      .ofOption (fun fs => .list (fs.map (·.toValue view))) subFields := by
    cases subFields with
    | none => rfl
    | some fs =>
      rw [childrenValue, listValues_eq]
      rfl
  rw [members, hchildren]
  unfold Value.optionalText
  rw [View.member_ofOption hview nofun, View.member_ofOption hview nofun,
    View.member_ofOption hview nofun, View.member_ofOption hview (Constraints.toValue_ne_null view),
    View.member_ofOption hview nofun, View.member_ofOption hview nofun]
  simp only [List.append_assoc, ← Members.present_append]
  rfl

theorem readMember_eq (spelling : String) (ms : Members Value) :
    readMember spelling ms = (ms.get? spelling).map fun v => (readChildren v).under (.key spelling) := by
  induction ms with
  | nil => rfl
  | cons m ms ih =>
    rw [readMember, Members.get?_cons, ih]
    by_cases h : m.1 = spelling
    · rw [if_pos h, if_pos h]
      rfl
    · rw [if_neg h, if_neg h]

/-- Fields are read one by one. -/
theorem readFrom_eq (n : Nat) (vs : List Value) : readFrom n vs = itemsFrom read n vs := by
  induction vs generalizing n with
  | nil => rfl
  | cons v vs ih => rw [readFrom, itemsFrom, ih]

/-- A text other than the empty one is an identifier. -/
theorem readId_str {id : String} (hid : id ≠ "") : readId (.str id) = .read id := by
  unfold readId text
  split
  · exact absurd (Reading.read.inj ‹_›) hid
  · rfl

include hview in
/-- A field whose id is not empty, and those of its sub-fields neither, is read back from its members
but for what becomes of its conditions. -/
theorem read_toValue_of (seen : Field → Field) (condition : Condition → Condition)
    (hcondition : ∀ c, Condition.read (c.toValue view) = .read (condition c))
    (hseen : ∀ f, seen f = { f with
      conditions := f.conditions.map (·.map condition)
      subFields := f.subFields.map (·.map seen) })
    (f : Field) (hid : ∀ g ∈ f.tree, g.id ≠ "") : Field.read (f.toValue view) = .read (seen f) := by
  -- By induction on the field. A view decides how conditions are shown and nothing else, so it is
  -- enough to know what becomes of a condition.
  induction f using childrenInduction with
  | step f ih =>
    have hget := Members.get?_present (f.nodup_names_parts view)
    rw [← f.members_eq hview] at hget
    obtain ⟨hid, hids⟩ := (forall_tree_iff f).mp hid
    have hoptions (os : List Choice) : sequence .notTuple Choice.read
        (.list (os.map (·.toValue view))) = .read os :=
      itemsFrom_map_self (Choice.read_toValue hview) 0 os
    have hconditions (cs : List Condition) : sequence .notTuple Condition.read
        (.list (cs.map (·.toValue view))) = .read (cs.map condition) :=
      itemsFrom_map (fun c _ => hcondition c) 0
    -- The sub-fields are under one of the two spellings only.
    have hchildren : preferred (readMember "subFields" (f.members view))
        (readMember "sub_fields" (f.members view)) =
          .read (f.subFields.map (·.map seen)) := by
      have hcamel : Members.get? (f.members view) "subFields" =
        f.subFields.map fun fs => Value.list (fs.map (·.toValue view)) := hget "subFields"
      have hname : Members.get? (f.members view) "sub_fields" = none := hget "sub_fields"
      rw [readMember_eq, readMember_eq, hcamel, hname]
      cases hfields : f.subFields with
      | none => rfl
      | some fs =>
        -- Each of them is read back by the induction hypothesis.
        have hread : ∀ g ∈ fs, Field.read (g.toValue view) = .read (seen g) := by
          intro g hg
          have hchild : g ∈ f.children := by
            unfold children
            rw [hfields]
            exact hg
          exact ih g hchild (hids g hchild)
        have hitems := itemsFrom_map hread 0
        rw [← readFrom_eq] at hitems
        show ((some <$> readFrom 0 _).under _ : Reading (Option (List Field))) = _
        rw [hitems]
        rfl
    show ofMembers (f.members view) _ = _
    rw [hchildren]
    unfold ofMembers
    rw [requireMember_of_get? (hget "id") (readId_str hid),
      requireMember_of_get? (hget "type") (named_of_name (FieldType.ofName?_name _) _),
      requireMember_of_get? (a := f.label) (hget "label") rfl,
      memberOr_of_get? (a := f.required) (hget "required") rfl,
      memberOr_optional (f := text) (hget "placeholder") (hget "placeholder") nofun (fun _ _ => rfl),
      memberOr_optional (f := text) (hget "helpText") (hget "help_text") nofun (fun _ _ => rfl),
      memberOr_optional (hget "options") (hget "options") nofun (fun os _ => hoptions os),
      memberOr_optional (hget "validations") (hget "validations")
        (Constraints.toValue_ne_null view) (fun c _ => c.read_toValue hview),
      memberOr_optional_map (hget "conditions") (hget "conditions") nofun (fun cs _ => hconditions cs),
      hseen]
    rfl

/-- A field is read back from its export, if its id and those of its sub-fields are not empty. -/
theorem read_toValue (f : Field) (hid : ∀ g ∈ f.tree, g.id ≠ "") :
    Field.read (f.toValue .portable) = .read f.portable := by
  exact read_toValue_of View.portable_ne_attributes portable Condition.portable
    Condition.read_toValue portable_eq f hid

/-- A field is read back from its definition, if its id and those of its sub-fields are not empty. -/
theorem read_document (f : Field) (hid : ∀ g ∈ f.tree, g.id ≠ "") :
    Field.read (f.toValue .document) = .read f := by
  refine read_toValue_of View.document_ne_attributes (fun f => f) (fun c => c)
    Condition.read_document (fun f => ?_) f hid
  cases f
  simp only [List.map_id', Option.map_id']

end Field

/-! ### Forms -/

namespace Settings

/-- The parts of settings, all of which are there. -/
def parts (s : Settings) : Members (Option Value) :=
  [("showProgressBar", some (.bool s.showProgressBar)),
    ("showPageTitles", some (.bool s.showPageTitles)),
    ("confirmationMessage", some (.str s.confirmationMessage))]

include hview in
/-- Settings show the parts that are there. -/
theorem members_eq (s : Settings) : s.members view = Members.present s.parts := by
  cases view with
  | attributes => exact absurd rfl hview
  | document => rfl
  | portable => rfl

include hview in
/-- Settings are read back from every view but that of attributes. -/
theorem read_toValue (s : Settings) : Settings.read (s.toValue view) = .read s := by
  show Settings.ofMembers (s.members view) = _
  rw [s.members_eq hview]
  rfl

end Settings

namespace Schema

/-- The form with conditions that JSON has. -/
def portable (s : Schema) : Schema := { s with fields := Field.portableList s.fields }

/-- A form whose fields have ids is read back from its export, but for what JSON does not have in the
values of its conditions. -/
theorem read_exported {s : Schema} (hids : ∀ f ∈ Field.treeList s.fields, f.id ≠ "")
    (fallback : Reading Settings) : Schema.read fallback s.exported = .ok s.portable := by
  -- Without empty identifiers every field is read back as the portable one.
  have hfields : ∀ f ∈ s.fields, Field.read (f.toValue .portable) = .read f.portable := by
    intro f hf
    exact f.read_toValue (Field.forall_treeList_iff.mp hids f hf)
  have hall : Field.readAll (.list (Field.listValues .portable s.fields)) =
      .read (Field.portableList s.fields) := by
    rw [Field.listValues_eq, Field.portableList_eq]
    show Field.readFrom 0 _ = _
    rw [Field.readFrom_eq]
    exact itemsFrom_map hfields 0
  have hsettings := s.settings.read_toValue View.portable_ne_attributes
  show (Schema.ofMembers (s.members .portable) ((Settings.read (s.settings.toValue .portable)).under
    (.key "settings"))).outcome .schema = _
  rw [hsettings]
  have hread : memberOr (s.members .portable) "fields" "fields" [] Field.readAll =
      .read (Field.portableList s.fields) := memberOr_of_get? rfl hall
  unfold Schema.ofMembers
  rw [hread]
  rfl

end Schema
end Questionnaire
