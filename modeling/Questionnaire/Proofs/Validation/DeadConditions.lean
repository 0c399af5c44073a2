import Questionnaire.Proofs.Validation.Patterns
import Questionnaire.Proofs.Visibility.Deciding
import Questionnaire.Proofs.Workspace.Run

/-!
# Conditions that can never hold

A condition on its own field, or on what is no top-level field, is dead.  Compilation should report
each dead condition (`Schema.DeadReported`), and an evaluator should never show a field that has one,
while a field that has none is visible when all its conditions hold.

Both are so (`Schema.deadConditions_iff`), except that a form with an unreadable pattern may not be
compiled at all (`Schema.not_deadReported_of_repetition`).  No store ever has a form with a condition
on its own field (`Workspace.no_selfReference_afterAll`).
-/

namespace Questionnaire

/-! ### Issues -/

/-- The issue with a condition that is dead. -/
def Condition.deadIssue? (topLevel : List String) (field : String) (c : Condition) :
    Option Issue :=
  if c.source = field then
    some ⟨field, .selfReference, .error,
      s!"Field {field} has a condition on itself; it will never be visible"⟩
  else if c.source ∉ topLevel then
    some ⟨field, .danglingCondition, .warning,
      s!"Condition source {c.source} does not exist; field {field} will stay hidden"⟩
  else none

/-- The issues with the dead conditions of a field, in order. -/
def Field.deadIssues (topLevel : List String) (f : Field) : List Issue :=
  f.conditionList.filterMap (·.deadIssue? topLevel f.id)

/-- The issue is about a dead condition. -/
def Issue.isDead (i : Issue) : Bool := i.kind = .selfReference || i.kind = .danglingCondition

variable {topLevel : List String} {field : String}

theorem Condition.deadIssue?_eq_none_iff {c : Condition} :
    c.deadIssue? topLevel field = none ↔ ¬c.Dead topLevel field := by
  unfold deadIssue? Dead
  split_ifs with hself hmem
  · simp [hself]
  · simp [hself, hmem]
  · simp [hself, hmem]

theorem Condition.isDead_of_deadIssue? {c : Condition} {i : Issue}
    (h : c.deadIssue? topLevel field = some i) : i.fieldId = field ∧ i.isDead = true := by
  unfold deadIssue? at h
  split_ifs at h
  · obtain rfl := Option.some.inj h
    exact ⟨rfl, rfl⟩
  · obtain rfl := Option.some.inj h
    exact ⟨rfl, rfl⟩

namespace Field

variable {f : Field}

theorem deadIssues_eq_nil_iff :
    f.deadIssues topLevel = [] ↔ ∀ c ∈ f.conditionList, ¬c.Dead topLevel f.id := by
  unfold deadIssues
  rw [List.filterMap_eq_nil_iff]
  exact forall₂_congr fun c _ => Condition.deadIssue?_eq_none_iff

theorem deadIssues_ne_nil_iff :
    f.deadIssues topLevel ≠ [] ↔ ∃ c ∈ f.conditionList, c.Dead topLevel f.id := by
  rw [Ne, deadIssues_eq_nil_iff]
  push Not
  rfl

/-- Of the issues with conditions that a field gives rise to, those with dead ones are its own. -/
theorem filter_conditionIssues (id : String) :
    (f.conditionIssues topLevel).filter (fun i => i.fieldId = id && i.isDead) =
      if f.id = id then f.deadIssues topLevel else [] := by
  -- Every dead issue of a field is about the field, and what is said of sub-fields is no dead
  -- issue.
  have hown : ∀ i ∈ f.deadIssues topLevel, i.fieldId = f.id ∧ i.isDead = true := by
    intro i hi
    obtain ⟨c, _, hc⟩ := List.mem_filterMap.mp hi
    exact Condition.isDead_of_deadIssue? hc
  have hchildren : (f.children.filterMap fun s => if s.hasConditions then
      some (⟨s.id, .subFieldCondition, .warning, s!"Conditions on sub-field {s.id} are ignored"⟩ :
        Issue) else none).filter (fun i => i.fieldId = id && i.isDead) = [] := by
    refine List.filter_eq_nil_iff.mpr fun i hi => ?_
    obtain ⟨s, _, hs⟩ := List.mem_filterMap.mp hi
    split_ifs at hs
    obtain rfl := Option.some.inj hs
    simp [Issue.isDead]
  show (f.deadIssues topLevel ++ f.children.filterMap _).filter _ = _
  rw [List.filter_append, hchildren, List.append_nil]
  by_cases hid : f.id = id
  · rw [if_pos hid]
    refine List.filter_eq_self.mpr fun i hi => ?_
    obtain ⟨hfield, hdead⟩ := hown i hi
    simp [hfield, hid, hdead]
  · rw [if_neg hid]
    refine List.filter_eq_nil_iff.mpr fun i hi => ?_
    simp [(hown i hi).1, hid]

/-- Where ids are distinct, only one field has an id. -/
theorem flatMap_ite_id {α : Type} {fields : List Field} (hn : (fields.map (·.id)).Nodup)
    (hf : f ∈ fields) (P : Field → List α) :
    (fields.flatMap fun g => if g.id = f.id then P g else []) = P f := by
  induction fields with
  | nil => exact absurd hf List.not_mem_nil
  | cons g fields ih =>
    rw [List.map_cons, List.nodup_cons] at hn
    obtain ⟨hg, hn⟩ := hn
    rw [List.flatMap_cons]
    rcases List.mem_cons.mp hf with rfl | hf
    · have hrest : (fields.flatMap fun g => if g.id = f.id then P g else []) = [] := by
        refine List.flatMap_eq_nil_iff.mpr fun k hk => if_neg fun hid => hg ?_
        exact hid ▸ List.mem_map_of_mem hk
      rw [if_pos rfl, hrest, List.append_nil]
    · have hne : g.id ≠ f.id := fun hid => hg (hid ▸ List.mem_map_of_mem hf)
      rw [if_neg hne, List.nil_append, ih hn hf]

end Field

namespace Schema

/-- A form can be compiled, and its contract has an issue for each dead condition of each top-level
field, and no other issue of these kinds. -/
def DeadReported (s : Schema) : Prop :=
  ∃ c, s.compile = .ok c ∧ ∀ f ∈ s.fields,
    c.issues.filter (fun i => i.fieldId = f.id && i.isDead) = f.deadIssues s.fieldIds

/-- Dead conditions are reported where every pattern can be read. -/
theorem deadReported_iff {s : Schema} (hn : s.fieldIds.Nodup) :
    s.DeadReported ↔ ∀ f ∈ s.compiledFields, f.patternFault? = none := by
  constructor
  · rintro ⟨c, hc, _⟩
    exact no_fault_of_compile hc
  · intro h
    refine ⟨_, compile_of_no_fault h, fun f hf => ?_⟩
    have hpatterns : (s.compiledFields.filterMap Field.patternIssue?).filter
        (fun i => i.fieldId = f.id && i.isDead) = [] := by
      refine List.filter_eq_nil_iff.mpr fun i hi => ?_
      obtain ⟨g, _, hg⟩ := List.mem_filterMap.mp hi
      obtain ⟨bad, _, rfl⟩ := Option.map_eq_some_iff.mp hg
      simp [Issue.isDead]
    rw [List.filter_append, hpatterns, List.nil_append]
    unfold conditionIssues
    rw [List.filter_flatMap]
    simp only [Field.filter_conditionIssues]
    exact Field.flatMap_ite_id hn hf _

theorem mem_dead_conditionIssues {s : Schema} {i : Issue} (hi : i ∈ s.conditionIssues)
    (hdead : i.isDead = true) :
    ∃ f ∈ s.fields, ∃ c ∈ f.conditionList, c.deadIssue? s.fieldIds f.id = some i := by
  obtain ⟨f, hf, hi⟩ := List.mem_flatMap.mp hi
  have hmem : i ∈ (f.conditionIssues s.fieldIds).filter
      (fun j => j.fieldId = i.fieldId && j.isDead) :=
    List.mem_filter.mpr ⟨hi, by simp [hdead]⟩
  rw [Field.filter_conditionIssues] at hmem
  split_ifs at hmem
  · obtain ⟨c, hc, hissue⟩ := List.mem_filterMap.mp hmem
    exact ⟨f, hf, c, hc, hissue⟩
  · exact absurd hmem List.not_mem_nil

/-- In a sound form no condition is on its own field, so there is no issue with one. -/
theorem Sound.no_selfReference {s : Schema} (h : s.Sound) {c : Contract} (hc : s.compile = .ok c) :
    ∀ i ∈ c.issues, i.kind ≠ .selfReference := by
  rw [compile_of_no_fault (no_fault_of_compile hc)] at hc
  obtain rfl := Except.ok.inj hc
  intro i hi hkind
  rcases List.mem_append.mp hi with hi | hi
  · obtain ⟨f, _, hf⟩ := List.mem_filterMap.mp hi
    obtain ⟨bad, _, rfl⟩ := Option.map_eq_some_iff.mp hf
    cases hkind
  · obtain ⟨f, hf, k, hk, hissue⟩ := mem_dead_conditionIssues hi (by simp [Issue.isDead, hkind])
    have hself : k.source ≠ f.id :=
      h.no_self_condition f (Field.mem_treeList.mpr ⟨f, hf, Or.inl rfl⟩) k hk
    unfold Condition.deadIssue? at hissue
    rw [if_neg hself] at hissue
    split_ifs at hissue
    obtain rfl := Option.some.inj hissue
    cases hkind

end Schema

/-! ### Visible fields -/

namespace Evaluator

variable {fields : List Field} {capacity : Number} {history : List Value} {values : Members Value}
  {found : List String}

/-- What an evaluator answers after some calls was found for the same values, or for those of an
earlier call with the same key. -/
theorem exists_visibleIn_of_after (hhistory : ∀ a ∈ history, IsAnswers a)
    (hvalues : values.names.Nodup)
    (hfound : (((new fields capacity).after history).visible (.dict values)).2 = .ok found) :
    visibleIn fields (.dict values) = .ok found ∨ ∃ earlier ∈ history,
      answersKey? earlier = answersKey? (.dict values) ∧ (answersKey? (.dict values)).isSome ∧
        visibleIn fields earlier = .ok found := by
  have hrecalls : ((new fields capacity).after history).Recalls (history ++ []) :=
    Recalls.after (fun key found hm => absurd hm List.not_mem_nil) hhistory
  rw [List.append_nil] at hrecalls
  have hresult := hrecalls.exists_visibleIn (.dict values hvalues) hfound
  rwa [fields_after hhistory] at hresult

/-- No field with a dead condition is ever shown. -/
theorem not_mem_of_dead (hn : (fields.map (·.id)).Nodup) (hhistory : ∀ a ∈ history, IsAnswers a)
    (hvalues : values.names.Nodup)
    (hfound : (((new fields capacity).after history).visible (.dict values)).2 = .ok found)
    {f : Field} (hf : f ∈ fields) {c : Condition} (hc : c ∈ f.conditionList)
    (hdead : c.Dead (fields.map (·.id)) f.id) : f.id ∉ found := by
  have hall (answers : Value) (h : visibleIn fields answers = .ok found) : f.id ∉ found := by
    rw [mem_visibleIn_iff hn h hf]
    intro hholds
    have hc := hholds c hc
    rw [Condition.holds_of_dead hdead] at hc
    cases hc
  rcases exists_visibleIn_of_after hhistory hvalues hfound with h | ⟨earlier, _, _, _, h⟩
  · exact hall _ h
  · exact hall _ h

/-- A field without dead conditions is shown when all its conditions hold, unless the values are
confused with earlier ones. -/
theorem mem_iff_of_not_dead (hn : (fields.map (·.id)).Nodup)
    (hhistory : ∀ a ∈ history, IsAnswers a) (hvalues : values.names.Nodup)
    (hclear : ∀ a ∈ history, ¬Confuses fields a (.dict values))
    (hfound : (((new fields capacity).after history).visible (.dict values)).2 = .ok found)
    {f : Field} (hf : f ∈ fields)
    (hlive : ∀ c ∈ f.conditionList, ¬c.Dead (fields.map (·.id)) f.id) :
    f.id ∈ found ↔ ∀ c ∈ f.conditionList,
      c.operator.holds ((values.get? c.source).getD .null) c.value = .ok true := by
  -- Either the answers are decided afresh or they share the key of earlier ones, and then the set
  -- is the same since nothing was confused.
  have hfresh : ∃ fresh, visibleIn fields (.dict values) = .ok fresh ∧
      fresh.toFinset = found.toFinset := by
    rcases exists_visibleIn_of_after hhistory hvalues hfound with
      h | ⟨earlier, hmem, hkey, hsome, h⟩
    · exact ⟨found, h, rfl⟩
    · have hsame : freshSet fields (.dict values) = .ok found.toFinset := by
        by_contra hne
        refine hclear earlier hmem ⟨hkey, hsome, found.toFinset, ?_, hne⟩
        rw [freshSet_of_isAnswers fields (hhistory earlier hmem), h]
        rfl
      rw [freshSet_of_isAnswers fields (.dict values hvalues)] at hsame
      exact Outcome.map_eq_ok_iff.mp hsame
  obtain ⟨fresh, hvisible, hsets⟩ := hfresh
  have hmem : f.id ∈ found ↔ f.id ∈ fresh := by
    rw [← List.mem_toFinset, ← hsets, List.mem_toFinset]
  rw [hmem, mem_visibleIn_iff hn hvisible hf, effectiveAnswers_dict]
  refine forall₂_congr fun c hc => ?_
  rw [Condition.holds_of_not_dead (hlive c hc)]

end Evaluator

/-! ### Compilation and evaluation -/

/-- Through any events, the form of a workspace never has an issue with a condition on its own
field. -/
theorem Workspace.no_selfReference_afterAll {w : Workspace} (h : w.store.Lawful)
    (events : List Workspace.Event) {c : Contract}
    (hc : (w.afterAll events).store.schema.compile = .ok c) :
    ∀ i ∈ c.issues, i.kind ≠ .selfReference :=
  (lawful_afterAll h events).sound.no_selfReference hc

/-- In a form whose top-level ids are distinct, all dead conditions are reported exactly when no
pattern has a fault that is no defect.  An evaluator, whatever it was asked before, never shows a
field with a dead condition; one without is shown when all its conditions hold, unless the answers
are confused with earlier ones.  And no store ever has a form with a condition on its own field. -/
theorem Schema.deadConditions_iff {s : Schema} (hn : s.fieldIds.Nodup) :
    (s.DeadReported ↔ ∀ f ∈ s.compiledFields, f.patternFault? = none) ∧
    (∀ f ∈ s.fields, ∀ (capacity : Number) (history : List Value) (values : Members Value)
      (found : List String), (∀ a ∈ history, IsAnswers a) → values.names.Nodup →
      (((Evaluator.new s.fields capacity).after history).visible (.dict values)).2 = .ok found →
      (f.deadIssues s.fieldIds ≠ [] → f.id ∉ found) ∧
      (f.deadIssues s.fieldIds = [] →
        (∀ a ∈ history, ¬Evaluator.Confuses s.fields a (.dict values)) →
        (f.id ∈ found ↔ ∀ c ∈ f.conditionList,
          c.operator.holds ((values.get? c.source).getD .null) c.value = .ok true))) ∧
    ∀ (config : Config) (ids : IdSource) (v : Value) (plan : Option Workspace.SessionPlan) (w : Workspace)
      (events : List Workspace.Event) (c : Contract), Workspace.new config ids v plan = .ok w →
      (w.afterAll events).store.schema.compile = .ok c →
      ∀ i ∈ c.issues, i.kind ≠ .selfReference := by
  -- The report, the reading of single fields, and the run of the store.
  refine ⟨deadReported_iff hn, ?_, ?_⟩
  · intro f hf capacity history values found hhistory hvalues hfound
    constructor
    · intro hissues
      obtain ⟨c, hc, hdead⟩ := Field.deadIssues_ne_nil_iff.mp hissues
      exact Evaluator.not_mem_of_dead hn hhistory hvalues hfound hf hc hdead
    · intro hissues hclear
      have hlive := Field.deadIssues_eq_nil_iff.mp hissues
      exact Evaluator.mem_iff_of_not_dead hn hhistory hvalues hclear hfound hf hlive
  · intro config ids v plan w events c hw hc
    exact Workspace.no_selfReference_afterAll (Workspace.lawful_of_new hw) events hc

namespace Schema

/-- A form with a code that may have to match a pattern, and has a condition on a field that is
gone. -/
def orphanForm (pattern : Option String) : Schema where
  title := "Codes"
  description := ""
  fields := [codeField pattern (some [⟨"gone", .isEmpty, .null⟩])]
  settings := ⟨true, true, ""⟩

theorem nodup_orphanForm (pattern : Option String) : (orphanForm pattern).fieldIds.Nodup :=
  List.nodup_singleton "code"

/-- The condition on the field that is gone is reported, and the code is never shown. -/
theorem deadConditions_orphan :
    (orphanForm none).fieldIds.Nodup ∧ (orphanForm none).DeadReported ∧
      ∀ found, ((Evaluator.new (orphanForm none).fields (.int 128)).visible (.dict [])).2 =
        .ok found → "code" ∉ found := by
  have hn := nodup_orphanForm none
  obtain ⟨hreported, hvisible, _⟩ := deadConditions_iff hn
  refine ⟨hn, hreported.mpr ?_, fun found hfound => ?_⟩
  · intro f hf
    obtain rfl := List.mem_singleton.mp hf
    rfl
  · have hfield := hvisible _ List.mem_cons_self (.int 128) [] [] found
      (List.forall_mem_nil _) List.nodup_nil hfound
    exact hfield.1 (List.cons_ne_nil _ _)

/-- With a repetition beyond what can be counted, the form is not compiled, and nothing is said about
the condition. -/
theorem not_deadReported_of_repetition :
    (orphanForm (some "a{4294967295}")).fieldIds.Nodup ∧
      (orphanForm (some "a{4294967295}")).compile =
        .error (.pattern "a{4294967295}" .repetitionTooLarge) ∧
      ¬(orphanForm (some "a{4294967295}")).DeadReported := by
  have hfault : (orphanForm (some "a{4294967295}")).compiledFields.findSome? Field.patternFault? =
      some (.pattern "a{4294967295}" .repetitionTooLarge) := by
    have hcompiled (pattern : Option String) : (orphanForm pattern).compiledFields =
        [codeField pattern (some [⟨"gone", .isEmpty, .null⟩])] := rfl
    rw [hcompiled, List.findSome?_singleton, patternFault?_codeField]
  have hfails := compile_of_fault hfault
  refine ⟨nodup_orphanForm _, hfails, ?_⟩
  rintro ⟨c, hc, _⟩
  rw [hfails] at hc
  cases hc

end Schema

end Questionnaire
