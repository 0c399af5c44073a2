import Questionnaire.Form.Spelling
import Questionnaire.Proofs.Form.Data

/-!
# What is read of each member

A part of a field or of its constraints is read from one member alone.  Where the members have their
names in documents, `Field.ReadFrom` and `Constraints.ReadFrom` say for each part from which one
(`Field.read_eq_read_iff`, `Constraints.readFrom_of_read`).  So a part remains the same when its member
does (`Field.ReadFrom.member?_eq`, `Constraints.ReadFrom.member?_eq`).
-/

namespace Questionnaire

/-- The names that the members of a kind of records have in documents. -/
def RecordKind.documentNames (kind : RecordKind) : List String := kind.spellings.map Prod.snd

namespace Reading

variable {α : Type} {ms : Members Value} {camel name : String} {f : Value → Reading α} {a : α}

/-- Two readings of the same give the same. -/
theorem eq_of_read {x y : Reading α} (h : x = y) {b : α} (hx : x = .read a) (hy : y = .read b) :
    a = b :=
  Reading.read.inj (hx.symm.trans (h.trans hy))

/-! ### Members with one name -/

section Name

variable (hname : name = camel ∨ ms.get? name = none)
include hname

theorem findMember_eq : findMember ms camel name = (ms.get? camel).map (Prod.mk camel) := by
  unfold findMember
  cases hcamel : ms.get? camel with
  | some v => rfl
  | none =>
    have hname : ms.get? name = none := hname.elim (fun h => h ▸ hcamel) id
    rw [hname]
    rfl

theorem requireMember_eq_read_iff :
    requireMember ms camel name f = .read a ↔
      ((ms.get? camel).map f).getD (misfit .absent) = .read a := by
  unfold requireMember
  rw [findMember_eq hname]
  cases ms.get? camel with
  | none => exact under_eq_read_iff
  | some v => exact under_eq_read_iff

theorem memberOr_eq_read_iff {default : α} :
    memberOr ms camel name default f = .read a ↔
      ((ms.get? camel).map f).getD (.read default) = .read a := by
  unfold memberOr
  rw [findMember_eq hname]
  cases ms.get? camel with
  | none => exact Iff.rfl
  | some v => exact under_eq_read_iff

/-- A part that may be absent is read from `null` where there is no member. -/
theorem memberOr_optional_eq_read_iff {o : Option α} :
    memberOr ms camel name none (optional f) = .read o ↔
      optional f ((ms.get? camel).getD .null) = .read o := by
  rw [memberOr_eq_read_iff hname]
  cases ms.get? camel with
  | none => exact Iff.rfl
  | some v => exact Iff.rfl

end Name
end Reading

open Reading

/-- Members under their names in documents have none of the other names. -/
theorem Members.get?_of_documentNames {kind : RecordKind} {ms : Members Value}
    (hms : ms.names ⊆ kind.documentNames) {name : String} (h : name ∉ kind.documentNames) :
    ms.get? name = none :=
  get?_eq_none_iff.mpr fun hmem => h (hms hmem)

/-! ### Constraints -/

namespace Constraints

/-- Every part of constraints is what is read of its member; a member that is `null` is none. -/
structure ReadFrom (ms : Members Value) (c : Constraints) : Prop where
  min : optional number ((ms.get? "min").getD .null) = .read c.min
  max : optional number ((ms.get? "max").getD .null) = .read c.max
  minLength : optional integer ((ms.get? "minLength").getD .null) = .read c.minLength
  maxLength : optional integer ((ms.get? "maxLength").getD .null) = .read c.maxLength
  pattern : optional text ((ms.get? "pattern").getD .null) = .read c.pattern
  allowedFileTypes : optional (sequence .notTuple text)
    ((ms.get? "allowedFileTypes").getD .null) = .read c.allowedFileTypes
  maxFileSize : optional number ((ms.get? "maxFileSize").getD .null) = .read c.maxFileSize
  maxFiles : optional integer ((ms.get? "maxFiles").getD .null) = .read c.maxFiles
  customMessage : optional text ((ms.get? "customMessage").getD .null) = .read c.customMessage

theorem readFrom_of_read {ms : Members Value} (hms : ms.names ⊆ RecordKind.constraints.documentNames)
    {c : Constraints} (h : Constraints.read (.dict ms) = .read c) : ReadFrom ms c := by
  have hother {camel name : String} (hname : name ∉ RecordKind.constraints.documentNames) :
      name = camel ∨ ms.get? name = none := Or.inr (Members.get?_of_documentNames hms hname)
  change Constraints.ofMembers ms = .read c at h
  unfold Constraints.ofMembers at h
  simp only [seq_eq_read_iff, map_eq_read_iff] at h
  -- The parts are read one after the other, and the last one stands outermost.
  obtain ⟨_, customMessage, ⟨_, maxFiles, ⟨_, maxFileSize, ⟨_, types, ⟨_, pattern, ⟨_, maxLength,
    ⟨_, minLength, ⟨_, max, ⟨min, hmin, rfl⟩, hmax, rfl⟩, hminLength, rfl⟩, hmaxLength, rfl⟩,
    hpattern, rfl⟩, htypes, rfl⟩, hmaxFileSize, rfl⟩, hmaxFiles, rfl⟩, hcustomMessage, rfl⟩ := h
  exact {
    min := (memberOr_optional_eq_read_iff (.inl rfl)).mp hmin
    max := (memberOr_optional_eq_read_iff (.inl rfl)).mp hmax
    minLength := (memberOr_optional_eq_read_iff (hother (by decide))).mp hminLength
    maxLength := (memberOr_optional_eq_read_iff (hother (by decide))).mp hmaxLength
    pattern := (memberOr_optional_eq_read_iff (.inl rfl)).mp hpattern
    allowedFileTypes := (memberOr_optional_eq_read_iff (hother (by decide))).mp htypes
    maxFileSize := (memberOr_optional_eq_read_iff (hother (by decide))).mp hmaxFileSize
    maxFiles := (memberOr_optional_eq_read_iff (hother (by decide))).mp hmaxFiles
    customMessage := (memberOr_optional_eq_read_iff (hother (by decide))).mp hcustomMessage }

/-- The member of constraints in documents. -/
def member? (c : Constraints) (name : String) : Option Value := (c.members .document).get? name

theorem member?_eq (c : Constraints) (name : String) :
    c.member? name = (c.parts.get? name).join := by
  unfold member?
  rw [c.members_eq View.document_ne_attributes]
  exact Members.get?_present c.nodup_names_parts name

theorem names_members_subset (c : Constraints) :
    (c.members .document).names ⊆ RecordKind.constraints.documentNames := by
  rw [c.members_eq View.document_ne_attributes]
  exact (Members.names_present_sublist c.parts).subset

theorem readFrom_members (c : Constraints) : ReadFrom (c.members .document) c :=
  readFrom_of_read c.names_members_subset (c.read_toValue View.document_ne_attributes)

/-- A part is the same where its member is the same, or is `null` and absent. -/
theorem ReadFrom.member?_eq {ms ns : Members Value} {c d : Constraints} (hc : ReadFrom ms c)
    (hd : ReadFrom ns d) {name : String}
    (h : (ms.get? name).getD .null = (ns.get? name).getD .null) :
    c.member? name = d.member? name := by
  -- The same value read by the same reader gives the same part.
  have hpart {α : Type} {f : Value → Reading (Option α)} {a b : Option α} {g : α → Value}
      (ha : f ((ms.get? name).getD .null) = .read a)
      (hb : f ((ns.get? name).getD .null) = .read b) : a.map g = b.map g :=
    congrArg _ (eq_of_read (congrArg f h) ha hb)
  rw [c.member?_eq, d.member?_eq]
  by_cases hname : name ∈ RecordKind.constraints.documentNames
  · simp only [RecordKind.documentNames, RecordKind.spellings, List.map_cons, List.map_nil,
      List.mem_cons, List.not_mem_nil, or_false] at hname
    rcases hname with rfl | rfl | rfl | rfl | rfl | rfl | rfl | rfl | rfl
    · exact hpart hc.min hd.min
    · exact hpart hc.max hd.max
    · exact hpart hc.minLength hd.minLength
    · exact hpart hc.maxLength hd.maxLength
    · exact hpart hc.pattern hd.pattern
    · exact hpart hc.allowedFileTypes hd.allowedFileTypes
    · exact hpart hc.maxFileSize hd.maxFileSize
    · exact hpart hc.maxFiles hd.maxFiles
    · exact hpart hc.customMessage hd.customMessage
  -- No part has another name.
  · have hnone (e : Constraints) : e.parts.get? name = none := Members.get?_eq_none_iff.mpr hname
    rw [hnone, hnone]

end Constraints

/-! ### Fields -/

namespace Field

/-- Every part of a field is what is read of its member. -/
structure ReadFrom (ms : Members Value) (f : Field) : Prop where
  id : ((ms.get? "id").map readId).getD (misfit .absent) = .read f.id
  type : ((ms.get? "type").map (named FieldType.ofName? .notMemberOfEnumeration)).getD
    (misfit .absent) = .read f.type
  label : ((ms.get? "label").map text).getD (misfit .absent) = .read f.label
  required : ((ms.get? "required").map truth).getD (.read false) = .read f.required
  placeholder : optional text ((ms.get? "placeholder").getD .null) = .read f.placeholder
  helpText : optional text ((ms.get? "helpText").getD .null) = .read f.helpText
  options : optional (sequence .notTuple Choice.read) ((ms.get? "options").getD .null) =
    .read f.options
  constraints : optional Constraints.read ((ms.get? "validations").getD .null) = .read f.constraints
  conditions : optional (sequence .notTuple Condition.read) ((ms.get? "conditions").getD .null) =
    .read f.conditions
  subFields : readChildren ((ms.get? "subFields").getD .null) = .read f.subFields

theorem preferred_eq_read_iff {ms : Members Value} (hname : ms.get? "sub_fields" = none)
    {subFields : Option (List Field)} :
    preferred (readMember "subFields" ms) (readMember "sub_fields" ms) = .read subFields ↔
      readChildren ((ms.get? "subFields").getD .null) = .read subFields := by
  rw [readMember_eq, readMember_eq, hname]
  cases ms.get? "subFields" with
  | none => exact Iff.rfl
  | some v => exact under_eq_read_iff

/-- A field is read from a mapping part by part. -/
theorem read_eq_read_iff {ms : Members Value} (hms : ms.names ⊆ RecordKind.field.documentNames)
    {f : Field} : Field.read (.dict ms) = .read f ↔ ReadFrom ms f := by
  have hother {name : String} (hname : name ∉ RecordKind.field.documentNames) :
      ms.get? name = none := Members.get?_of_documentNames hms hname
  rw [Field.read, ofMembers_eq_read_iff, requireMember_eq_read_iff (.inl rfl),
    requireMember_eq_read_iff (.inl rfl), requireMember_eq_read_iff (.inl rfl),
    memberOr_eq_read_iff (.inl rfl), memberOr_optional_eq_read_iff (.inl rfl),
    memberOr_optional_eq_read_iff (.inr (hother (by decide))),
    memberOr_optional_eq_read_iff (.inl rfl), memberOr_optional_eq_read_iff (.inl rfl),
    memberOr_optional_eq_read_iff (.inl rfl), preferred_eq_read_iff (hother (by decide))]
  constructor
  · rintro ⟨hid, htype, hlabel, hrequired, hplaceholder, hhelpText, hoptions, hconstraints,
      hconditions, hsubFields⟩
    exact ⟨hid, htype, hlabel, hrequired, hplaceholder, hhelpText, hoptions, hconstraints,
      hconditions, hsubFields⟩
  · rintro ⟨hid, htype, hlabel, hrequired, hplaceholder, hhelpText, hoptions, hconstraints,
      hconditions, hsubFields⟩
    exact ⟨hid, htype, hlabel, hrequired, hplaceholder, hhelpText, hoptions, hconstraints,
      hconditions, hsubFields⟩

/-- The member of a field in documents. -/
def member? (f : Field) (name : String) : Option Value := Members.get? (f.members .document) name

theorem member?_eq (f : Field) (name : String) :
    f.member? name = ((f.parts .document).get? name).join := by
  unfold member?
  rw [f.members_eq View.document_ne_attributes]
  exact Members.get?_present (f.nodup_names_parts .document) name

/-- Another id makes no difference to the other members. -/
theorem member?_with_id (f : Field) (id : String) {name : String} (hname : name ≠ "id") :
    Field.member? { f with id := id } name = f.member? name := by
  have htail (k : Field) : (k.parts .document).get? name =
      Members.get? (k.parts .document).tail name :=
    (Members.get?_cons _ _ _).trans (if_neg (Ne.symm hname))
  rw [member?_eq, member?_eq, htail, htail]
  rfl

theorem names_members_subset (f : Field) :
    Members.names (f.members .document) ⊆ RecordKind.field.documentNames := by
  rw [f.members_eq View.document_ne_attributes]
  exact (Members.names_present_sublist (f.parts .document)).subset

/-- A field with an id, and with fields that have ids below it, is read from its own members. -/
theorem readFrom_members (f : Field) (hid : ∀ g ∈ f.tree, g.id ≠ "") :
    ReadFrom (f.members .document) f :=
  (read_eq_read_iff f.names_members_subset).mp (f.read_document hid)

/-- A part is the same where its member is the same. -/
theorem ReadFrom.member?_eq {ms ns : Members Value} {f g : Field} (hf : ReadFrom ms f)
    (hg : ReadFrom ns g) {name : String} (h : ms.get? name = ns.get? name) :
    f.member? name = g.member? name := by
  -- The same value read by the same reader gives the same part, needed or not.
  have hneeded {α : Type} {F : Value → Reading α} {default : Reading α} {a b : α}
      (ha : ((ms.get? name).map F).getD default = .read a)
      (hb : ((ns.get? name).map F).getD default = .read b) : a = b := eq_of_read (by rw [h]) ha hb
  have hpart {α : Type} {F : Value → Reading α} {a b : α}
      (ha : F ((ms.get? name).getD .null) = .read a)
      (hb : F ((ns.get? name).getD .null) = .read b) : a = b := eq_of_read (by rw [h]) ha hb
  rw [f.member?_eq, g.member?_eq]
  by_cases hname : name ∈ RecordKind.field.documentNames
  · simp only [RecordKind.documentNames, RecordKind.spellings, List.map_cons, List.map_nil,
      List.mem_cons, List.not_mem_nil, or_false] at hname
    rcases hname with rfl | rfl | rfl | rfl | rfl | rfl | rfl | rfl | rfl | rfl
    · exact congrArg (fun id => some (Value.str id)) (hneeded hf.id hg.id)
    · exact congrArg (fun type : FieldType => some (Value.str type.name)) (hneeded hf.type hg.type)
    · exact congrArg (fun label => some (Value.str label)) (hneeded hf.label hg.label)
    · exact congrArg (fun required => some (Value.bool required)) (hneeded hf.required hg.required)
    · exact congrArg (Option.map Value.str) (hpart hf.placeholder hg.placeholder)
    · exact congrArg (Option.map Value.str) (hpart hf.helpText hg.helpText)
    · exact congrArg (Option.map fun os : List Choice => Value.list (os.map (·.toValue .document)))
        (hpart hf.options hg.options)
    · exact congrArg (Option.map (Constraints.toValue .document))
        (hpart hf.constraints hg.constraints)
    · exact congrArg
        (Option.map fun cs : List Condition => Value.list (cs.map (·.toValue .document)))
        (hpart hf.conditions hg.conditions)
    · exact congrArg (Option.map fun fs : List Field => Value.list (fs.map (·.toValue .document)))
        (hpart hf.subFields hg.subFields)
  · have hnone (k : Field) : (k.parts .document).get? name = none :=
      Members.get?_eq_none_iff.mpr hname
    rw [hnone, hnone]

end Field
end Questionnaire
