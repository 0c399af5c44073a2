import Questionnaire.Proofs.Builder.Merging

/-!
# What updates leave alone

The store changes a part of its form by showing it as data, putting the changes over the data and
reading all of it again.  Nothing that is not mentioned gets lost or changed on this way, since every
part of a form is read back from what it shows: from its attributes (`Schema.read_attributes_iff`) and
from its definition, which has no member for what is absent (`Field.readFrom_members`,
`Settings.readFrom_members`).

`Field.Updated` and `Settings.Updated` say what changes make of a field and of the settings, part for
part, and `Store.updates_touch_only_what_they_name` what each of the commands makes of the form.
-/

namespace Questionnaire

open Reading

/-! ### One part -/

/-- A part after a change: what is read of the new value where the changes mention the part, and the
old part where they do not. -/
def Revised {α : Type} (said : Option Value) (f : Value → Reading α) (old new : α) : Prop :=
  match said with
  | some v => f v = .read new
  | none => new = old

section Revised

variable {α : Type} {said own : Option Value} {f : Value → Reading α} {old new : α}

/-- A part is revised if it is read from what is said and else from its own member. -/
theorem revised_of_member {default : Reading α} (hold : (own.map f).getD default = .read old)
    (hnew : ((said.or own).map f).getD default = .read new) : Revised said f old new := by
  cases said with
  | none => exact eq_of_read rfl hnew hold
  | some v => exact hnew

/-- The same of a part that is read from `null` where it has no member. -/
theorem revised_of_getD (hold : f (own.getD .null) = .read old)
    (hnew : f ((said.or own).getD .null) = .read new) : Revised said f old new := by
  cases said with
  | none => exact eq_of_read rfl hnew hold
  | some v => exact hnew

end Revised

/-! ### Fields -/

namespace Field

/-- Each part of `g` is what is read of it in the changes as a whole, or the part of `f` if they do not
mention it. -/
structure Updated (f : Field) (changes : Members Value) (g : Field) : Prop where
  id : Revised (RecordKind.field.said? changes "id") readId f.id g.id
  type : Revised (RecordKind.field.said? changes "type")
    (named FieldType.ofName? .notMemberOfEnumeration) f.type g.type
  label : Revised (RecordKind.field.said? changes "label") text f.label g.label
  required : Revised (RecordKind.field.said? changes "required") truth f.required g.required
  placeholder : Revised (RecordKind.field.said? changes "placeholder") (optional text)
    f.placeholder g.placeholder
  helpText : Revised (RecordKind.field.said? changes "helpText") (optional text)
    f.helpText g.helpText
  options : Revised (RecordKind.field.said? changes "options")
    (optional (sequence .notTuple Choice.read)) f.options g.options
  constraints : Revised (RecordKind.field.said? changes "validations") (optional Constraints.read)
    f.constraints g.constraints
  conditions : Revised (RecordKind.field.said? changes "conditions")
    (optional (sequence .notTuple Condition.read)) f.conditions g.conditions
  subFields : Revised (RecordKind.field.said? changes "subFields") readChildren
    f.subFields g.subFields

/-- What is read of the definition of a field with changes over it. -/
theorem updated_of_readFrom {f g : Field} {changes doc : Members Value} (hf : f.Named)
    (hdoc : ∀ name, doc.get? name = (RecordKind.field.said? changes name).or (f.member? name))
    (hg : ReadFrom doc g) : f.Updated changes g := by
  -- The field itself is read from its definition as it stands.
  have hown : ReadFrom (f.members .document) f := f.readFrom_members hf
  have hmember {α : Type} {F : Value → Reading α} {default : Reading α} {old new : α} (name : String)
      (hold : ((f.member? name).map F).getD default = .read old)
      (hnew : ((doc.get? name).map F).getD default = .read new) :
      Revised (RecordKind.field.said? changes name) F old new := by
    rw [hdoc] at hnew
    exact revised_of_member hold hnew
  have hgetD {α : Type} {F : Value → Reading α} {old new : α} (name : String)
      (hold : F ((f.member? name).getD .null) = .read old)
      (hnew : F ((doc.get? name).getD .null) = .read new) :
      Revised (RecordKind.field.said? changes name) F old new := by
    rw [hdoc] at hnew
    exact revised_of_getD hold hnew
  exact {
    id := hmember "id" hown.id hg.id
    type := hmember "type" hown.type hg.type
    label := hmember "label" hown.label hg.label
    required := hmember "required" hown.required hg.required
    placeholder := hgetD "placeholder" hown.placeholder hg.placeholder
    helpText := hgetD "helpText" hown.helpText hg.helpText
    options := hgetD "options" hown.options hg.options
    constraints := hgetD "validations" hown.constraints hg.constraints
    conditions := hgetD "conditions" hown.conditions hg.conditions
    subFields := hgetD "subFields" hown.subFields hg.subFields }

end Field

/-! ### Settings -/

namespace Settings

/-- Every part of settings is what is read of its member. -/
structure ReadFrom (ms : Members Value) (s : Settings) : Prop where
  showProgressBar : ((ms.get? "showProgressBar").map truth).getD
    (.read standard.showProgressBar) = .read s.showProgressBar
  showPageTitles : ((ms.get? "showPageTitles").map truth).getD
    (.read standard.showPageTitles) = .read s.showPageTitles
  confirmationMessage : ((ms.get? "confirmationMessage").map text).getD
    (.read standard.confirmationMessage) = .read s.confirmationMessage

/-- Settings are read from the members they name. -/
theorem readFrom_of_read {ms : Members Value} (hms : ms.names ⊆ RecordKind.settings.documentNames)
    {s : Settings} (h : Settings.read (.dict ms) = .read s) : ReadFrom ms s := by
  have hother {camel name : String} (hname : name ∉ RecordKind.settings.documentNames) :
      name = camel ∨ ms.get? name = none := Or.inr (Members.get?_of_documentNames hms hname)
  change Settings.ofMembers ms = .read s at h
  unfold Settings.ofMembers at h
  simp only [seq_eq_read_iff, map_eq_read_iff] at h
  obtain ⟨_, message, ⟨_, pageTitles, ⟨progressBar, hprogressBar, rfl⟩, hpageTitles, rfl⟩, hmessage,
    rfl⟩ := h
  exact {
    showProgressBar := (memberOr_eq_read_iff (hother (by decide))).mp hprogressBar
    showPageTitles := (memberOr_eq_read_iff (hother (by decide))).mp hpageTitles
    confirmationMessage := (memberOr_eq_read_iff (hother (by decide))).mp hmessage }

/-- Settings name nothing but the members of their kind. -/
theorem names_members_subset (s : Settings) :
    (s.members .document).names ⊆ RecordKind.settings.documentNames := List.Subset.refl _

/-- Settings are read from their own members. -/
theorem readFrom_members (s : Settings) : ReadFrom (s.members .document) s :=
  readFrom_of_read s.names_members_subset (s.read_toValue View.document_ne_attributes)

/-- Each part of `t` is what is read of it in the changes, or the part of `s` if they do not mention
it. -/
structure Updated (s : Settings) (changes : Members Value) (t : Settings) : Prop where
  showProgressBar : Revised (RecordKind.settings.said? changes "showProgressBar") truth
    s.showProgressBar t.showProgressBar
  showPageTitles : Revised (RecordKind.settings.said? changes "showPageTitles") truth
    s.showPageTitles t.showPageTitles
  confirmationMessage : Revised (RecordKind.settings.said? changes "confirmationMessage") text
    s.confirmationMessage t.confirmationMessage

/-- What is read of the definition of settings with changes over it. -/
theorem updated_of_readFrom {s t : Settings} {changes doc : Members Value}
    (hdoc : ∀ name, doc.get? name =
      (RecordKind.settings.said? changes name).or ((s.members .document).get? name))
    (ht : ReadFrom doc t) : s.Updated changes t := by
  have hown : ReadFrom (s.members .document) s := s.readFrom_members
  have hmember {α : Type} {F : Value → Reading α} {default : Reading α} {old new : α} (name : String)
      (hold : (((s.members .document).get? name).map F).getD default = .read old)
      (hnew : ((doc.get? name).map F).getD default = .read new) :
      Revised (RecordKind.settings.said? changes name) F old new := by
    rw [hdoc] at hnew
    exact revised_of_member hold hnew
  exact {
    showProgressBar := hmember "showProgressBar" hown.showProgressBar ht.showProgressBar
    showPageTitles := hmember "showPageTitles" hown.showPageTitles ht.showPageTitles
    confirmationMessage :=
      hmember "confirmationMessage" hown.confirmationMessage ht.confirmationMessage }

end Settings

/-! ### Changes over a definition -/

/-- Members with changes over them are found in the changes first. -/
theorem RecordKind.get?_overlay_of_documentMembers {kind : RecordKind}
    {changes ms own : Members Value} (h : kind.documentMembers (.dict changes) = .ok ms)
    (name : String) :
    (Members.overlay own ms).get? name = (kind.said? changes name).or (own.get? name) := by
  obtain ⟨hdocumented, hsaid⟩ := RecordKind.documentMembers_eq_ok h
  rw [Members.get?_overlay_of_nodup hdocumented.nodup, hsaid]

/-- Laying changes over own members names nothing new. -/
theorem RecordKind.names_overlay_subset {kind : RecordKind} {changes ms own : Members Value}
    (h : kind.documentMembers (.dict changes) = .ok ms) (hown : own.names ⊆ kind.documentNames) :
    (Members.overlay own ms).names ⊆ kind.documentNames := by
  obtain ⟨hdocumented, -⟩ := RecordKind.documentMembers_eq_ok h
  intro name hname
  rcases Members.mem_names_overlay.mp hname with hname | hname
  · exact hown hname
  · exact hdocumented.names hname

/-- Changes are an object. -/
theorem RecordKind.exists_changes {kind : RecordKind} {v : Value} {ms : Members Value}
    (h : kind.documentMembers v = .ok ms) : ∃ changes, v = .dict changes := by
  cases v with
  | dict changes => exact ⟨changes, rfl⟩
  | _ => cases h

namespace Store

variable {s t : Store}

/-- A commit makes the schema that was committed. -/
theorem schema_of_commit {schema : Schema} (h : s.commit schema = .ok t) : t.schema = schema := by
  obtain ⟨-, -, rfl⟩ := commit_eq_ok_iff.mp h
  rfl

/-- Accepted changes of the settings make new settings of the old ones, and alter nothing else. -/
theorem exists_of_updateSettings {v : Value} (h : s.updateSettings v = .ok t) :
    ∃ changes settings, v = .dict changes ∧ s.schema.settings.Updated changes settings ∧
      t.schema = { s.schema with settings } := by
  obtain ⟨_, hschema, hcommit⟩ := Outcome.bind_eq_ok_iff.mp h
  obtain ⟨ms, settings, hms, hread, rfl⟩ := resettled_eq_ok_iff.mp hschema
  obtain ⟨changes, rfl⟩ := RecordKind.exists_changes hms
  have hnames := RecordKind.names_overlay_subset hms s.schema.settings.names_members_subset
  have hfrom : Settings.ReadFrom _ settings := Settings.readFrom_of_read hnames hread
  have hupdated := Settings.updated_of_readFrom
    (RecordKind.get?_overlay_of_documentMembers hms) hfrom
  exact ⟨changes, settings, rfl, hupdated, schema_of_commit hcommit⟩

/-- Accepted changes of a field make a new field of it in its place, and alter nothing else. -/
theorem exists_of_updateField (hsound : s.schema.Sound) (hnamed : s.schema.All Field.Named)
    {id v : Value} (h : s.updateField id v = .ok t) :
    ∃ changes before f after g, v = .dict changes ∧ s.schema.fields = before ++ f :: after ∧
      id = .str f.id ∧ f.Updated changes g ∧
      t.schema = { s.schema with fields := before ++ g :: after } := by
  obtain ⟨_, hschema, hcommit⟩ := Outcome.bind_eq_ok_iff.mp h
  obtain ⟨f, ms, g, hf, hms, hread, rfl⟩ := updated_eq_ok_iff.mp hschema
  obtain ⟨hmem, hid⟩ := Value.of_find?_isText hf
  obtain ⟨changes, rfl⟩ := RecordKind.exists_changes hms
  -- The definition with the changes over it has no other names than a definition.
  have hnames := RecordKind.names_overlay_subset hms f.names_members_subset
  have hfrom : Field.ReadFrom _ g := (Field.read_eq_read_iff hnames).mp hread
  have hupdated := Field.updated_of_readFrom (hnamed f hmem)
    (RecordKind.get?_overlay_of_documentMembers hms) hfrom
  -- The id stands for one field, so only that one is replaced.
  obtain ⟨before, after, hfields, hput⟩ := Schema.Sound.exists_split hsound.nodup_ids hmem g
  have hnew : t.schema = s.schema.putField f.id g := schema_of_commit hcommit
  unfold Schema.putField at hnew
  rw [hput] at hnew
  exact ⟨changes, before, f, after, g, rfl, hfields, hid, hupdated, hnew⟩

/-- The commands that read a part of the form again touch only what they name: the title, the
description, the settings that are mentioned, and in the one field at its old place the parts that
are mentioned.  All else is equal to what it was. -/
theorem updates_touch_only_what_they_name (hs : s.Reachable) :
    (∀ v t, s.setTitle v = .ok t →
      ∃ title, text v = .read title ∧ t.schema = { s.schema with title }) ∧
    (∀ v t, s.setDescription v = .ok t →
      ∃ description, text v = .read description ∧ t.schema = { s.schema with description }) ∧
    (∀ v t, s.updateSettings v = .ok t →
      ∃ changes settings, v = .dict changes ∧ s.schema.settings.Updated changes settings ∧
        t.schema = { s.schema with settings }) ∧
    ∀ id v t, s.updateField id v = .ok t →
      ∃ changes before f after g, v = .dict changes ∧ s.schema.fields = before ++ f :: after ∧
        id = .str f.id ∧ f.Updated changes g ∧
        t.schema = { s.schema with fields := before ++ g :: after } := by
  -- One conjunct for each of the four commands.
  refine ⟨fun v t h => ?_, fun v t h => ?_, fun v t h => ?_, fun id v t h => ?_⟩
  · obtain ⟨title, hread, hcommit⟩ := exists_of_setTitle h
    exact ⟨title, hread, schema_of_commit hcommit⟩
  · obtain ⟨description, hread, hcommit⟩ := exists_of_setDescription h
    exact ⟨description, hread, schema_of_commit hcommit⟩
  · exact exists_of_updateSettings h
  · exact exists_of_updateField hs.sound hs.named h

/-- A form with data in a condition that no JSON document has, with choices of which there are none and
others that are absent, and with zero as a whole number and as a float. -/
def variedForm : Value :=
  let odd := Value.dict [("pair", .tuple [.int 1, .null]), ("days", .set [.date "2024-02-29"]),
    ("raw", .bytes [104, 105])]
  .dict [("title", .str "Ages"), ("fields", .list [
    .dict [("id", .str "a"), ("type", .str "number"), ("label", .str "Age"),
      ("options", .tuple []), ("validations", .dict [("min", .int 0), ("max", .float .zero)]),
      ("conditions", .list [.dict [("sourceFieldId", .str "b"), ("operator", .str "equals"),
        ("value", odd)]])],
    .dict [("id", .str "b"), ("type", .str "text"), ("label", .str "Why")]])]

/-- Another label and no explanation. -/
def relabelled : Members Value := [("label", .str "Years"), ("help_text", .null)]

/-- The conditions, the choices and the bounds of the field stay as they are when its label changes, and
so does all else when the title does. -/
theorem updates_touch_only_what_they_name_varied :
    ∃ w, Workspace.new .standard ⟨[], 0⟩ variedForm none = .ok w ∧ w.store.Reachable ∧
      (∃ t before f after g, w.store.updateField (.str "a") (.dict relabelled) = .ok t ∧
        w.store.schema.fields = before ++ f :: after ∧ f.id = "a" ∧ f.Updated relabelled g ∧
        g.label = "Years" ∧ g.conditions = f.conditions ∧ g.options = f.options ∧
        g.constraints = f.constraints ∧
        t.schema = { w.store.schema with fields := before ++ g :: after }) ∧
      ∃ t, w.store.setTitle (.str "Years") = .ok t ∧
        t.schema = { w.store.schema with title := "Years" } := by
  refine ⟨_, rfl, ?_⟩
  -- The store of a new workspace, after no events.
  have hreachable : (Workspace.mk .standard _ ⟨[], 0⟩ none [] 0 [] 0 []).store.Reachable :=
    ⟨.standard, ⟨[], 0⟩, variedForm, none, _, [], rfl, rfl⟩
  obtain ⟨htitle, -, -, hfield⟩ := updates_touch_only_what_they_name hreachable
  refine ⟨hreachable, ?_, ?_⟩
  · obtain ⟨changes, before, f, after, g, hchanges, hfields, hid, hupdated, hschema⟩ :=
      hfield (.str "a") (.dict relabelled) _ rfl
    obtain rfl := Value.dict.inj hchanges
    have hlabel : g.label = "Years" := (Reading.read.inj hupdated.label).symm
    exact ⟨_, before, f, after, g, rfl, hfields, (Value.str.inj hid).symm, hupdated, hlabel,
      hupdated.conditions, hupdated.options, hupdated.constraints, hschema⟩
  · obtain ⟨title, hread, hschema⟩ := htitle (.str "Years") _ rfl
    obtain rfl := Reading.read.inj hread
    exact ⟨_, rfl, hschema⟩

end Store
end Questionnaire
