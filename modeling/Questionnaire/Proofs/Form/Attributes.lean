import Questionnaire.Proofs.Form.Parts

/-!
# Reading a form back from its attributes

The view by attributes lists every attribute under its own name, with `null` for what is absent, and
shows the values of conditions as they are.  So nothing is lost in it: a part of a form is read back
from its attributes as it was.  The one thing that can stand in the way is an empty id, which no
reader takes (`Field.read_attributes_iff`, `Schema.read_attributes_iff`).
-/

namespace Questionnaire

open Reading

/-! ### Members -/

namespace Reading

variable {α β : Type} {ms : Members Value} {camel name spelling : String} {f : Value → Reading α}
  {v : Value} {a : α}

theorem requireMember_eq_read_of_find (h : findMember ms camel name = some (spelling, v)) :
    requireMember ms camel name f = .read a ↔ f v = .read a := by
  unfold requireMember
  rw [h]
  exact under_eq_read_iff

theorem memberOr_eq_read_of_find {default : α}
    (h : findMember ms camel name = some (spelling, v)) :
    memberOr ms camel name default f = .read a ↔ f v = .read a := by
  unfold memberOr
  rw [h]
  exact under_eq_read_iff

/-- A part that may be absent is read as it was, if it is when it is there. -/
theorem optional_ofOption {g : α → Value} (hg : ∀ a, g a ≠ .null) (hf : ∀ a, f (g a) = .read a)
    (o : Option α) : optional f (.ofOption g o) = .read o := by
  cases o with
  | none => rfl
  | some a =>
    show optional f (g a) = _
    unfold optional
    split
    · exact absurd ‹_› (hg a)
    · rw [hf a]
      rfl

/-- Where an item can only be read as what it shows, a list of items can only be read as what they
show. -/
theorem itemsFrom_map_eq_read_iff {g : α → Value} {P : α → Prop} {as : List α}
    (h : ∀ a ∈ as, ∀ b, f (g a) = .read b ↔ P a ∧ b = a) (n : Nat) {bs : List α} :
    itemsFrom f n (as.map g) = .read bs ↔ (∀ a ∈ as, P a) ∧ bs = as := by
  induction as generalizing n bs with
  | nil =>
    show Reading.read [] = .read bs ↔ _
    rw [Reading.read.injEq, eq_comm]
    simp
  | cons a as ih =>
    obtain ⟨ha, has⟩ := List.forall_mem_cons.mp h
    rw [List.map_cons, itemsFrom, List.forall_mem_cons]
    simp only [seq_eq_read_iff, map_eq_read_iff, under_eq_read_iff, ha, ih has]
    constructor
    · rintro ⟨_, _, ⟨_, ⟨hPa, rfl⟩, rfl⟩, ⟨hPas, rfl⟩, rfl⟩
      exact ⟨⟨hPa, hPas⟩, rfl⟩
    · rintro ⟨⟨hPa, hPas⟩, rfl⟩
      exact ⟨_, as, ⟨a, ⟨hPa, rfl⟩, rfl⟩, ⟨hPas, rfl⟩, rfl⟩

end Reading

/-! ### Choices, constraints, conditions and settings -/

/-- A choice is read back from its attributes. -/
theorem Choice.read_attributes (o : Choice) : Choice.read (o.toValue .attributes) = .read o := by
  have hisColumn := optional_ofOption (f := truth) (g := .bool) nofun (fun _ => rfl) o.isColumn
  show ofMembers (o.members .attributes) = _
  unfold ofMembers
  rw [(requireMember_eq_read_of_find (a := o.id) rfl).mpr rfl,
    (requireMember_eq_read_of_find (a := o.value) rfl).mpr rfl,
    (requireMember_eq_read_of_find (a := o.label) rfl).mpr rfl,
    (memberOr_eq_read_of_find rfl).mpr hisColumn]
  rfl

/-- Constraints are read back from their attributes. -/
theorem Constraints.read_attributes (c : Constraints) :
    Constraints.read (c.toValue .attributes) = .read c := by
  -- Each attribute is absent or of the kind its reader takes.
  have hnumber := optional_ofOption (f := number) Number.toValue_ne_null number_toValue
  have hinteger := optional_ofOption (f := integer) (g := .int) nofun fun _ => rfl
  have htext := optional_ofOption (f := text) (g := .str) nofun fun _ => rfl
  have htexts := optional_ofOption (g := .texts) nofun (sequence_texts .notTuple)
  show ofMembers (c.members .attributes) = _
  unfold ofMembers
  rw [(memberOr_eq_read_of_find rfl).mpr (hnumber c.min),
    (memberOr_eq_read_of_find rfl).mpr (hnumber c.max),
    (memberOr_eq_read_of_find rfl).mpr (hinteger c.minLength),
    (memberOr_eq_read_of_find rfl).mpr (hinteger c.maxLength),
    (memberOr_eq_read_of_find rfl).mpr (htext c.pattern),
    (memberOr_eq_read_of_find rfl).mpr (htexts c.allowedFileTypes),
    (memberOr_eq_read_of_find rfl).mpr (hnumber c.maxFileSize),
    (memberOr_eq_read_of_find rfl).mpr (hinteger c.maxFiles),
    (memberOr_eq_read_of_find rfl).mpr (htext c.customMessage)]
  rfl

/-- A condition is read back from its attributes. -/
theorem Condition.read_attributes (c : Condition) :
    Condition.read (c.toValue .attributes) = .read c := by
  have hoperator : named Operator.ofName? .notMemberOfEnumeration (.str c.operator.name) =
    .read c.operator := named_of_name (Operator.ofName?_name c.operator) _
  show ofMembers (c.members .attributes) = _
  unfold ofMembers
  rw [(requireMember_eq_read_of_find (a := c.source) rfl).mpr rfl,
    (requireMember_eq_read_of_find rfl).mpr hoperator,
    (memberOr_eq_read_of_find (f := any) (a := c.value) rfl).mpr rfl]
  rfl

/-! ### Fields -/

namespace Field

/-- Only the empty text is no identifier. -/
theorem readId_str_eq_read_iff {id id' : String} :
    readId (.str id) = .read id' ↔ id ≠ "" ∧ id' = id := by
  constructor
  · intro h
    have hid : id ≠ "" := by
      rintro rfl
      cases h
    exact ⟨hid, (Reading.read.inj ((readId_str hid).symm.trans h)).symm⟩
  · rintro ⟨hid, rfl⟩
    exact readId_str hid

/-- Fields with ids, and with fields that have ids below them, are the ones that are read back from
their attributes, and nothing else is read from these. -/
theorem read_attributes_iff {f g : Field} :
    Field.read (f.toValue .attributes) = .read g ↔ (∀ k ∈ f.tree, k.id ≠ "") ∧ g = f := by
  induction f using childrenInduction generalizing g with
  | step f ih =>
    rw [forall_tree_iff]
    obtain ⟨id, type, label, required, placeholder, helpText, options, constraints, conditions,
      subFields⟩ := f
    have htype := named_of_name (FieldType.ofName?_name type) .notMemberOfEnumeration
    have htext := optional_ofOption (f := text) (g := .str) nofun fun _ => rfl
    have hoptions := optional_ofOption (f := sequence .notTuple Choice.read)
      (g := fun os => .list (os.map (·.toValue .attributes))) nofun
      (itemsFrom_map_self Choice.read_attributes 0) options
    have hconstraints := optional_ofOption (Constraints.toValue_ne_null .attributes)
      Constraints.read_attributes constraints
    have hconditions := optional_ofOption (f := sequence .notTuple Condition.read)
      (g := fun cs => .list (cs.map (·.toValue .attributes))) nofun
      (itemsFrom_map_self Condition.read_attributes 0) conditions
    -- All that can fail is an id, here or below.
    have hchildren (children : Option (List Field)) :
        readChildren (childrenValue .attributes subFields) = .read children ↔
          (∀ k ∈ subFields.getD [], ∀ j ∈ k.tree, j.id ≠ "") ∧ children = subFields := by
      cases subFields with
      | none =>
        show Reading.read none = .read children ↔ _
        rw [Reading.read.injEq, eq_comm]
        simp
      | some fs =>
        show (some <$> readFrom 0 (listValues .attributes fs)) = .read children ↔ _
        have hitems := @itemsFrom_map_eq_read_iff _ Field.read (toValue .attributes) _ fs
          (fun k hk _ => ih k hk) 0
        rw [map_eq_read_iff, readFrom_eq, listValues_eq]
        constructor
        · rintro ⟨gs, hgs, rfl⟩
          obtain ⟨hids, rfl⟩ := hitems.mp hgs
          exact ⟨hids, rfl⟩
        · rintro ⟨hids, rfl⟩
          exact ⟨fs, hitems.mpr ⟨hids, rfl⟩, rfl⟩
    show ofMembers _ _ = _ ↔ _
    rw [ofMembers_eq_read_iff, requireMember_eq_read_of_find rfl, requireMember_eq_read_of_find rfl,
      requireMember_eq_read_of_find rfl, memberOr_eq_read_of_find rfl, memberOr_eq_read_of_find rfl,
      memberOr_eq_read_of_find rfl, memberOr_eq_read_of_find rfl, memberOr_eq_read_of_find rfl,
      memberOr_eq_read_of_find rfl, readId_str_eq_read_iff]
    constructor
    · rintro ⟨⟨hid, hgid⟩, hgtype, hglabel, hgrequired, hgplaceholder, hghelpText, hgoptions,
        hgconstraints, hgconditions, hgchildren⟩
      have hgrest := (hchildren g.subFields).mp (under_eq_read_iff.mp hgchildren)
      refine ⟨⟨hid, hgrest.1⟩, ?_⟩
      cases g
      rw [Field.mk.injEq]
      exact ⟨hgid, eq_of_read rfl hgtype htype, eq_of_read rfl hglabel rfl,
        eq_of_read rfl hgrequired rfl, eq_of_read rfl hgplaceholder (htext placeholder),
        eq_of_read rfl hghelpText (htext helpText), eq_of_read rfl hgoptions hoptions,
        eq_of_read rfl hgconstraints hconstraints, eq_of_read rfl hgconditions hconditions,
        hgrest.2⟩
    · rintro ⟨⟨hid, hids⟩, rfl⟩
      exact ⟨⟨hid, rfl⟩, htype, rfl, rfl, htext placeholder, htext helpText, hoptions, hconstraints,
        hconditions, under_eq_read_iff.mpr ((hchildren subFields).mpr ⟨hids, rfl⟩)⟩

end Field

/-! ### Forms -/

namespace Schema

/-- A form is read as it is iff each of its parts is. -/
theorem ofMembers_eq_read_iff {ms : Members Value} {settings : Reading Settings} {t : Schema} :
    ofMembers ms settings = .read t ↔
      requireMember ms "title" "title" text = .read t.title ∧
      memberOr ms "description" "description" "" text = .read t.description ∧
      memberOr ms "fields" "fields" [] Field.readAll = .read t.fields ∧
      settings = .read t.settings := by
  constructor
  · intro h
    unfold ofMembers at h
    simp only [seq_eq_read_iff, map_eq_read_iff] at h
    obtain ⟨_, settings, ⟨_, fields, ⟨_, description, ⟨title, htitle, rfl⟩, hdescription, rfl⟩,
      hfields, rfl⟩, hsettings, rfl⟩ := h
    exact ⟨htitle, hdescription, hfields, hsettings⟩
  · rintro ⟨htitle, hdescription, hfields, rfl⟩
    unfold ofMembers
    rw [htitle, hdescription, hfields]
    rfl

/-- The attributes of a form under another title and another description are read iff these are texts
and every field has an id, and nothing else of the form changes. -/
theorem read_attributes_iff {s t : Schema} {fallback : Reading Settings}
    {title description : Value} :
    Schema.read fallback (.dict [("title", title), ("description", description),
        ("fields", .list (Field.listValues .attributes s.fields)),
        ("settings", s.settings.toValue .attributes)]) = .ok t ↔
      text title = .read t.title ∧ text description = .read t.description ∧
        ((∀ f ∈ Field.treeList s.fields, f.id ≠ "") ∧ t.fields = s.fields) ∧
        t.settings = s.settings := by
  -- The fields are the only part that may be refused, for an empty identifier.
  have hfields : Field.readAll (.list (Field.listValues .attributes s.fields)) = .read t.fields ↔
      (∀ f ∈ Field.treeList s.fields, f.id ≠ "") ∧ t.fields = s.fields := by
    show Field.readFrom 0 _ = _ ↔ _
    rw [Field.readFrom_eq, Field.listValues_eq, Field.forall_treeList_iff]
    exact itemsFrom_map_eq_read_iff (fun f _ _ => Field.read_attributes_iff) 0
  show (ofMembers _ (Reading.read s.settings)).outcome .schema = _ ↔ _
  rw [outcome_eq_ok_iff, ofMembers_eq_read_iff, requireMember_eq_read_of_find rfl,
    memberOr_eq_read_of_find rfl, memberOr_eq_read_of_find rfl, Reading.read.injEq,
    eq_comm (b := t.settings)]
  exact and_congr_right' (and_congr_right' (and_congr_left' hfields))

end Schema
end Questionnaire
