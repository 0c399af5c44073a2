import Questionnaire.Proofs.Builder.Data
import Questionnaire.Proofs.Json.Data
import Questionnaire.Proofs.Json.RoundTrip
import Questionnaire.Proofs.Workspace.Lasting

/-!
# Exporting a form and importing it again

A store whose form came from JSON texts exports it, and any store accepts the export
(`Workspace.reimported_iff`).  The export is taken up as it stands, except for the values of
conditions: JSON has no numbers but finite ones, so the others are exported as `null`.  The form is the
same after all iff there is no such number, at any depth of any value.  If it is not the same, its own
export may still be: a `null` within a value is exported again, but a value that is `null` itself is
not exported at all.
-/

namespace Questionnaire.Workspace

/-- Through events with JSON data a form of JSON data remains one. -/
theorem ofJson_afterAll {w : Workspace} (hs : w.store.Lawful) (hw : w.store.schema.OfJson)
    {events : List Event} (hevents : ∀ e ∈ events, ∀ v ∈ e.payloads, v.IsJson Number.Any) :
    (w.afterAll events).store.schema.OfJson :=
  all_afterAll Builder.lasting_treeOfJson hs hw hevents

/-- A workspace begins with a form of JSON data, if it is given one or none. -/
theorem ofJson_of_new {c : Config} {ids : IdSource} {v : Value} {plan : Option SessionPlan}
    {w : Workspace} (hv : v.IsJson Number.Any) (h : Workspace.new c ids v plan = .ok w) :
    w.store.schema.OfJson :=
  all_of_new Builder.lasting_treeOfJson hv h

/-- A sound form of JSON data is imported as what is portable of it. -/
theorem run_importSchema_exported {s : Schema} (hsound : s.Sound) (hs : s.OfJson) (c : Config)
    (fresh : Store) :
    fresh.run c (.importSchema s.exported) =
      .ok ⟨s.portable, Store.record [] s.portable.allFieldIds⟩ := by
  have hread : c.readSchema s.exported = .ok s.portable := Schema.read_exported hs.id_ne c.settings
  exact Outcome.bind_eq_ok_iff.mpr ⟨s.portable, Store.handed_eq_ok_iff.mpr hread,
    Store.replace_eq_ok_iff.mpr ⟨hsound.portable, rfl⟩⟩

/-- After any run in which everything that is handed to the store was read from JSON texts, every
store imports the export of the form.  The imported form is the same iff the numbers in the values of
all conditions are finite, and its own export is the same iff no such value is itself a number that is
not finite. -/
theorem reimported_iff {c : Config} {ids : IdSource} {v : Value} {plan : Option SessionPlan}
    {w : Workspace} (hw : Workspace.new c ids v plan = .ok w) (hv : ∃ text, Json.read text = .ok v)
    {events : List Event}
    (hevents : ∀ e ∈ events, ∀ v ∈ e.payloads, ∃ text, Json.read text = .ok v)
    (c' : Config) (fresh : Store) :
    let s := (w.afterAll events).store.schema
    ∃ t, fresh.run c' (.importSchema s.exported) = .ok t ∧
      (t.schema = s ↔ ∀ v ∈ s.conditionValues, v.IsJson Number.Finite) ∧
      (t.schema.exported = s.exported ↔
        ∀ n : Number, n.toValue ∈ s.conditionValues → n.Finite) := by
  intro s
  -- What has been read from JSON texts, and only that, is in the values of the conditions.
  have hsound : s.Sound := (lawful_afterAll (lawful_of_new hw) events).sound
  have hs : s.OfJson := by
    obtain ⟨text, htext⟩ := hv
    have hstart := ofJson_of_new (Json.isJson_of_read htext) hw
    refine ofJson_afterAll (lawful_of_new hw) hstart fun e he v hv => ?_
    obtain ⟨text, htext⟩ := hevents e he v hv
    exact Json.isJson_of_read htext
  refine ⟨_, run_importSchema_exported hsound hs c' fresh, ?_, ?_⟩
  · show s.portable = s ↔ _
    rw [Schema.portable_eq_self_iff]
    exact forall₂_congr fun v hv => (hs.conditionValues v hv).portable_eq_self_iff
  · show s.portable.exported = s.exported ↔ _
    rw [Schema.exported_portable_iff hs.conditionValues]
    -- An infinite number is lost on the way through the exported form, where it becomes null.
    constructor
    · intro h n hn
      by_contra hfinite
      have hnull := (hs.conditionValues _ hn).portable_eq_null_iff.mpr (Or.inr ⟨n, rfl, hfinite⟩)
      exact n.toValue_ne_null (h _ hn hnull)
    · intro h v hv hnull
      rcases (hs.conditionValues v hv).portable_eq_null_iff.mp hnull with rfl | ⟨n, rfl, hn⟩
      · rfl
      · exact absurd (h n hv) hn

/-- Two text fields, of which the second is compared with a value. -/
def comparing (value : Value) : List Event :=
  [.command (.builder (.addField (.str "text"))), .command (.builder (.addField (.str "text"))),
    .command (.builder (.addCondition (.str "b") (.str "a") (.str "lessThan") value))]

/-- The values of the run come from texts where the compared value does. -/
theorem read_of_comparing {value : Value} (hvalue : value.IsJson Number.Readable) :
    ∀ e ∈ comparing value, ∀ v ∈ e.payloads, ∃ text, Json.read text = .ok v := by
  have htext (s : String) : ∃ text, Json.read text = .ok (.str s) := Json.exists_read (.str s)
  unfold comparing
  simp only [List.forall_mem_cons, Event.payloads, Builder.Command.payloads]
  exact ⟨⟨htext _, List.forall_mem_nil _⟩, ⟨htext _, List.forall_mem_nil _⟩,
    ⟨htext _, htext _, htext _, Json.exists_read hvalue, List.forall_mem_nil _⟩,
    List.forall_mem_nil _⟩

/-- A condition that compares with an array of finite numbers is the same after all. -/
theorem reimported_array :
    ∃ w, Workspace.new .standard ⟨["a", "b"], 0⟩ .null none = .ok w ∧
      let s := (w.afterAll (comparing (.list [.int 7, .null]))).store.schema
      s.conditionValues = [.list [.int 7, .null]] ∧
      ∃ t, w.store.run .standard (.importSchema s.exported) = .ok t ∧ t.schema = s ∧
        t.schema.exported = s.exported := by
  refine ⟨_, rfl, rfl, ?_⟩
  have hvalue : (Value.list [.int 7, .null]).IsJson Number.Readable := by
    refine .list ?_
    simp only [List.forall_mem_cons]
    exact ⟨.int (Number.readable_digit (by decide)), .null, List.forall_mem_nil _⟩
  obtain ⟨t, ht, hschema, hexport⟩ := @reimported_iff .standard ⟨["a", "b"], 0⟩ .null none _ rfl
    (Json.exists_read .null) _ (read_of_comparing hvalue) .standard _
  refine ⟨t, ht, hschema.mpr ?_, hexport.mpr ?_⟩
  · intro v hv
    obtain rfl : v = .list [.int 7, .null] := List.mem_singleton.mp hv
    refine .list ?_
    simp only [List.forall_mem_cons]
    exact ⟨.int (Number.finite_int 7), .null, List.forall_mem_nil _⟩
  -- No number is among the values.
  · intro n hn
    have hn : n.toValue = .list [.int 7, .null] := List.mem_singleton.mp hn
    cases n <;> cases hn

/-- A condition that compares with an infinity compares with `null` after all. -/
theorem not_reimported_infinite :
    (∀ e ∈ comparing (.float (.infinite false)), ∀ v ∈ e.payloads,
        ∃ text, Json.read text = .ok v) ∧
      ∃ w, Workspace.new .standard ⟨["a", "b"], 0⟩ .null none = .ok w ∧
        let s := (w.afterAll (comparing (.float (.infinite false)))).store.schema
        s.conditionValues = [.float (.infinite false)] ∧
        (Field.treeList s.fields).flatMap Field.numbers = [] ∧
        ∃ t, w.store.run .standard (.importSchema s.exported) = .ok t ∧
          t.schema.conditionValues = [.null] ∧ t.schema ≠ s ∧ t.schema.exported ≠ s.exported := by
  have hvalue : (Value.float (.infinite false)).IsJson Number.Readable :=
    .float (Number.readable_infinite false)
  refine ⟨read_of_comparing hvalue, _, rfl, rfl, rfl, _, rfl, rfl, ?_, ?_⟩
  · intro h
    have h := congrArg Schema.conditionValues h
    cases h
  · intro h
    cases h

end Questionnaire.Workspace
