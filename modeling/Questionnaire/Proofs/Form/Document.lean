import Questionnaire.Json.Document
import Questionnaire.Proofs.Form.Data
import Questionnaire.Proofs.Json.RoundTrip

/-!
# Forms as JSON texts

The export of a form is JSON data (`Schema.isJson_exported`), so its text with any indentation is read
back as the export, and the form is read back from it (`Schema.ofJson_of_toJson`), as long as the
indentation is a machine number.
-/

namespace Questionnaire

variable {N : Number → Prop}

theorem Settings.isJson_toValue {view : View} (hview : view ≠ .attributes) (s : Settings) :
    (s.toValue view).IsJson N := by
  unfold toValue
  rw [s.members_eq hview]
  refine isJson_present (by simp [parts, Members.names]) ?_
  unfold parts
  simp only [List.forall_mem_cons]
  exact ⟨isJson_some (.bool _), isJson_some (.bool _), isJson_some (.str _), List.forall_mem_nil _⟩

namespace Schema

/-- The numbers in the constraints of all fields of a form. -/
def numbers (s : Schema) : List Number := (Field.treeList s.fields).flatMap (·.numbers)

theorem forall_numbers_iff {s : Schema} {P : Number → Prop} :
    (∀ n ∈ s.numbers, P n) ↔ ∀ f ∈ Field.treeList s.fields, ∀ n ∈ f.numbers, P n := by
  unfold numbers
  simp only [List.mem_flatMap, forall_exists_index, and_imp]
  exact ⟨fun h f hf n hn => h n f hf hn, fun h n f hf hn => h f hf n hn⟩

/-- The export of a form is JSON data, if the values of its conditions are. -/
theorem isJson_exported {s : Schema} (hids : ∀ f ∈ Field.treeList s.fields, f.id ≠ "")
    (hvalues : ∀ v ∈ s.conditionValues, v.IsJson N) (hnumbers : ∀ n ∈ s.numbers, N n) :
    s.exported.IsJson N := by
  have hview : View.portable ≠ .attributes := nofun
  rw [forall_conditionValues_iff] at hvalues
  rw [forall_numbers_iff] at hnumbers
  rw [Field.forall_treeList_iff] at hids hnumbers
  have hfields : (Value.list (Field.listValues .portable s.fields)).IsJson N := by
    rw [Field.listValues_eq]
    refine .list fun v hv => ?_
    obtain ⟨f, hf, rfl⟩ := List.mem_map.mp hv
    exact f.isJson_toValue hview fun g hg =>
      ⟨⟨hids f hf g hg, hvalues f hf g hg⟩, hnumbers f hf g hg⟩
  have hnames : (s.members .portable).names.Nodup := by
    unfold members
    simp [Members.names]
  refine .dict hnames ?_
  unfold members
  simp only [List.forall_mem_cons]
  exact ⟨.str _, .str _, hfields, s.settings.isJson_toValue hview, List.forall_mem_nil _⟩

/-- A form is read back from its text with any indentation that is a machine number; with any other
there is no text. -/
theorem ofJson_of_toJson {s : Schema} (hids : ∀ f ∈ Field.treeList s.fields, f.id ≠ "")
    (hvalues : ∀ v ∈ s.conditionValues, v.IsJson fun n => n.Finite ∧ n.Readable)
    (hnumbers : ∀ n ∈ s.numbers, n.Readable) (c d : Config) (indent : Option Int) :
    (s.toJson c indent >>= ofJson d) =
      if indent.getD c.indentation < -0x8000000000000000 ∨
          0x8000000000000000 ≤ indent.getD c.indentation then
        misuse (.indentationTooLarge false)
      else .ok s := by
  -- Of all parts of the form only the values of conditions could have been changed by the export.
  have hportable : s.portable = s := by
    rw [portable_eq_self_iff]
    exact fun v hv => ((hvalues v hv).mono fun _ hn => hn.1).portable_of_finite
  have hjson : s.exported.IsJson Number.Readable :=
    isJson_exported hids (fun v hv => (hvalues v hv).mono fun _ hn => hn.2) hnumbers
  have hread (indent : Option Int) : ofJson d (Json.write .ascii indent s.exported) = .ok s := by
    have hexported : d.readSchema s.exported = .ok s := by
      unfold Config.readSchema
      rw [read_exported hids, hportable]
    unfold ofJson
    rw [Json.read_write hjson]
    show Outcome.ofUnread (d.readSchema s.exported) = _
    rw [hexported]
    rfl
  unfold toJson Json.document
  split
  · rfl
  · exact hread _

/-- Two questions in a section, of which the second is asked under a condition on the first. -/
def sectionSample : Schema :=
  let bounds : Constraints :=
    ⟨some (.int 1), some (.float (.infinite false)), none, none, none, some [], none, none, none⟩
  let condition : Condition :=
    ⟨"a", .equals, .dict [("z", .list [.null, .int (-2)]), ("y", .float .zero)]⟩
  let first : Field := ⟨"a", .number, "A", true, none, none, none, some bounds, none, none⟩
  let second : Field :=
    ⟨"b", .text, "B \u2603", false, none, none, some [], none, some [condition], none⟩
  ⟨"S", "", [⟨"s", .repeatable, "S", false, none, none, none, none, some [], some [first, second]⟩],
    ⟨true, false, ""⟩⟩

/-- Negative indentations keep to new lines. -/
theorem ofJson_of_toJson_section :
    (∀ f ∈ Field.treeList sectionSample.fields, f.id ≠ "") ∧
      (∀ v ∈ sectionSample.conditionValues, v.IsJson fun n => n.Finite ∧ n.Readable) ∧
      (∀ n ∈ sectionSample.numbers, n.Readable) ∧
      (sectionSample.toJson .standard (some (-1)) >>= ofJson .standard) = .ok sectionSample := by
  have hvalue : Value.IsJson (fun n => n.Finite ∧ n.Readable)
      (.dict [("z", .list [.null, .int (-2)]), ("y", .float .zero)]) := by
    have hint : (Number.int (-2)).Finite ∧ (Number.int (-2)).Readable :=
      ⟨Number.finite_int _, Number.readable_digit (by decide)⟩
    have hfloat : (Number.float .zero).Finite ∧ (Number.float .zero).Readable :=
      ⟨Number.finite_float.mpr rfl, Number.readable_zero⟩
    refine .dict (by simp [Members.names]) ?_
    simp only [List.forall_mem_cons]
    refine ⟨.list ?_, .float hfloat, List.forall_mem_nil _⟩
    simp only [List.forall_mem_cons]
    exact ⟨.null, .int hint, List.forall_mem_nil _⟩
  have hvalues : ∀ v ∈ sectionSample.conditionValues, v.IsJson fun n => n.Finite ∧ n.Readable := by
    intro v hv
    obtain rfl := List.mem_singleton.mp hv
    exact hvalue
  have hnumbers : ∀ n ∈ sectionSample.numbers, n.Readable := by
    have hint : (Number.int 1).Readable := Number.readable_digit (by decide)
    show ∀ n ∈ [Number.int 1, .float (.infinite false)], n.Readable
    simp only [List.forall_mem_cons]
    exact ⟨hint, Number.readable_infinite false, List.forall_mem_nil _⟩
  have hids : ∀ f ∈ Field.treeList sectionSample.fields, f.id ≠ "" := by
    simp [sectionSample, Field.treeList, Field.tree, Field.treeOpt]
  refine ⟨hids, hvalues, hnumbers, ?_⟩
  rw [ofJson_of_toJson hids hvalues hnumbers .standard .standard (some (-1))]
  exact if_neg (by decide)

/-- There is no text with an indentation that is no machine number. -/
theorem not_ofJson_of_toJson_indent :
    let s : Schema := ⟨"T", "", [], ⟨true, true, ""⟩⟩
    (∀ f ∈ Field.treeList s.fields, f.id ≠ "") ∧ s.conditionValues = [] ∧ s.numbers = [] ∧
      (s.toJson .standard (some (-0x8000000000000001)) >>= ofJson .standard) ≠ .ok s := by
  refine ⟨List.forall_mem_nil _, rfl, rfl, ?_⟩
  intro h
  cases h

end Schema
end Questionnaire
