import Questionnaire.Builder.Place
import Questionnaire.Proofs.Form.Parts

/-!
# Parts of a form that are handed on

Options, conditions and fields that were made or read before are handed on as records, and what is
read of such a record is the part itself (`Choice.read_asRecord` and its kin).  For a field this takes
that it has an id, and so have all fields below it (`Field.Named`); every field that was read is such
a field (`Field.named_of_read`).

So if one of the lists in a field is handed on as a change of it, what is read of the field with the
change over it is the field with this list instead of the old one (`Field.overlaid_options` and its
kin).
-/

namespace Questionnaire

open Reading

/-! ### Fields with ids -/

namespace Field

/-- A field with an id, and with fields that have ids below it. -/
def Named (f : Field) : Prop := ∀ g ∈ f.tree, g.id ≠ ""

theorem named_iff {f : Field} : f.Named ↔ f.id ≠ "" ∧ ∀ k ∈ f.children, k.Named :=
  forall_tree_iff f

/-- Changes that touch neither the id of a field nor what is below it leave it with ids. -/
theorem Named.congr {f g : Field} (h : f.Named) (hid : g.id = f.id)
    (hsubFields : g.subFields = f.subFields) : g.Named := by
  rw [named_iff] at h ⊢
  unfold children
  rw [hid, hsubFields]
  exact h

/-- A field with other sub-fields, which have ids. -/
theorem Named.with_subFields {f : Field} (h : f.Named) {ks : List Field} (hks : ∀ k ∈ ks, k.Named) :
    Named { f with subFields := some ks } :=
  named_iff.mpr ⟨(named_iff.mp h).1, hks⟩

/-- Whatever a field is read from, it has an id, and so have all fields below it. -/
theorem named_of_read {f : Field} {v : Value} (h : Field.read v = .read f) : f.Named := by
  induction f using childrenInduction generalizing v with
  | step f ih =>
    have hmembers {ms : Members Value} (h : Field.ofMembers ms
        (preferred (readMember "subFields" ms) (readMember "sub_fields" ms)) = .read f) :
        f.Named := by
      obtain ⟨hid, -, -, -, -, -, -, -, -, hsubFields⟩ := ofMembers_eq_read_iff.mp h
      refine named_iff.mpr ⟨id_ne_of_requireMember hid, fun k hk => ?_⟩
      obtain ⟨_, _, _, _, _, w, _, hread⟩ := exists_item_of_preferred hsubFields k hk
      exact ih k hk hread
    cases v with
    | dict ms => exact hmembers h
    | record kind ms =>
      cases kind with
      | field => exact hmembers h
      | _ => cases h
    | _ => cases h

end Field

/-! ### Records -/

/-- An option is read of its record. -/
theorem Choice.read_asRecord (o : Choice) : Choice.read o.asRecord = .read o :=
  o.read_toValue View.document_ne_attributes

/-- A condition is read of its record. -/
theorem Condition.read_asRecord (c : Condition) : Condition.read c.asRecord = .read c :=
  c.read_document

/-- A field with ids is read of its record. -/
theorem Field.read_asRecord {f : Field} (hf : f.Named) : Field.read f.asRecord = .read f := by
  rw [← f.read_document hf]
  unfold asRecord toValue
  rw [Field.read, Field.read]

/-- Fields with ids are read of their records. -/
theorem Field.itemsFrom_asRecord {fs : List Field} (hfs : ∀ f ∈ fs, f.Named) (n : Nat) :
    itemsFrom Field.read n (fs.map Field.asRecord) = .read fs := by
  rw [itemsFrom_map (k := fun f => f) (fun f hf => read_asRecord (hfs f hf)), List.map_id']

/-! ### Lists that are handed on -/

namespace Field

variable {f g : Field}

theorem get?_overlaid (f : Field) (name : String) (v : Value) (other : String) :
    (Members.overlay (f.members .document) [(name, v)]).get? other =
      if name = other then some v else Members.get? (f.members .document) other := by
  have hnodup : (Members.names [(name, v)]).Nodup := List.nodup_singleton name
  rw [Members.get?_overlay_of_nodup hnodup, Members.get?_cons]
  by_cases h : name = other
  · rw [if_pos h, if_pos h]
    rfl
  · rw [if_neg h, if_neg h]
    exact Option.none_or

/-- A field with one member over it is read from its members with this one over them. -/
theorem overlaid_eq_read_iff {name : String} (hname : name ∈ RecordKind.field.documentNames)
    {v : Value} : Store.overlaid f [(name, v)] = .read g ↔
      ReadFrom (Members.overlay (f.members .document) [(name, v)]) g := by
  refine read_eq_read_iff fun other hother => ?_
  rcases Members.mem_names_overlay.mp hother with hother | hother
  · exact f.names_members_subset hother
  · rw [List.mem_singleton.mp hother]
    exact hname

/-- What is read of items is read of the list of them, which is there. -/
theorem optional_sequence_list {α : Type} {m : Misfit} {read : Value → Reading α} {vs : List Value}
    {as : List α} (h : itemsFrom read 0 vs = .read as) :
    optional (sequence m read) (.list vs) = .read (some as) := by
  show some <$> itemsFrom read 0 vs = _
  rw [h]
  rfl

section Lists

variable (hf : f.Named) {vs : List Value}
include hf

/-- Options that are handed on take the place of those of a field. -/
theorem overlaid_options {os : List Choice} (hvs : itemsFrom Choice.read 0 vs = .read os) :
    Store.overlaid f [("options", .list vs)] = .read { f with options := some os } := by
  have hoptions := optional_sequence_list (m := .notTuple) hvs
  obtain ⟨hid, htype, hlabel, hrequired, hplaceholder, hhelpText, -, hconstraints, hconditions,
    hsubFields⟩ := f.readFrom_members hf
  refine (overlaid_eq_read_iff (by decide)).mpr ?_
  constructor <;> rw [get?_overlaid] <;> assumption

/-- Conditions that are handed on take the place of those of a field. -/
theorem overlaid_conditions {ks : List Condition}
    (hvs : itemsFrom Condition.read 0 vs = .read ks) :
    Store.overlaid f [("conditions", .list vs)] = .read { f with conditions := some ks } := by
  have hconditions := optional_sequence_list (m := .notTuple) hvs
  obtain ⟨hid, htype, hlabel, hrequired, hplaceholder, hhelpText, hoptions, hconstraints, -,
    hsubFields⟩ := f.readFrom_members hf
  refine (overlaid_eq_read_iff (by decide)).mpr ?_
  constructor <;> rw [get?_overlaid] <;> assumption

/-- Sub-fields that are handed on take the place of those of a field. -/
theorem overlaid_subFields {gs : List Field} (hvs : itemsFrom Field.read 0 vs = .read gs) :
    Store.overlaid f [("subFields", .list vs)] = .read { f with subFields := some gs } := by
  have hsubFields : readChildren (.list vs) = .read (some gs) := by
    show some <$> readFrom 0 vs = _
    rw [readFrom_eq, hvs]
    rfl
  obtain ⟨hid, htype, hlabel, hrequired, hplaceholder, hhelpText, hoptions, hconstraints,
    hconditions, -⟩ := f.readFrom_members hf
  refine (overlaid_eq_read_iff (by decide)).mpr ?_
  constructor <;> rw [get?_overlaid] <;> assumption

end Lists

end Field
end Questionnaire
