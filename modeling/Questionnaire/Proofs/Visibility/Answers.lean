import Questionnaire.Proofs.Members
import Questionnaire.Proofs.Visibility.Key
import Questionnaire.Visibility.Evaluator

/-!
# Answers with the same key

Answers are remembered by a key.  `visibleIn_congr` says when the key is enough: two objects of
answers with one key make the same fields visible, unless a condition tells them apart
(`Condition.TellsApart`).  Only a condition that looks for a part of the text of an object can do
that.
-/

namespace Questionnaire

/-! ### Answers -/

/-- Answers as callers pass them: none at all, or an object, whose names are distinct. -/
inductive IsAnswers : Value → Prop where
  | null : IsAnswers .null
  | dict (ms : Members Value) : ms.names.Nodup → IsAnswers (.dict ms)

/-- The key that answers are remembered by, if they can be frozen. -/
def answersKey? (answers : Value) : Option Frozen :=
  (effectiveAnswers answers).freeze.toOption.map Frozen.key

/-- Answers are decided on as members without a repeated name. -/
theorem IsAnswers.effective {answers : Value} (h : IsAnswers answers) :
    ∃ ms : Members Value, effectiveAnswers answers = .dict ms ∧ ms.names.Nodup := by
  cases h with
  | null => exact ⟨[], rfl, List.nodup_nil⟩
  | dict ms hn =>
    unfold effectiveAnswers
    split
    · exact ⟨ms, rfl, hn⟩
    · exact ⟨[], rfl, List.nodup_nil⟩

/-- An object of answers is judged as it is, an empty one included. -/
theorem effectiveAnswers_dict (answers : Members Value) :
    effectiveAnswers (.dict answers) = .dict answers := by
  cases answers <;> rfl

theorem effectiveAnswers_idem (answers : Value) :
    effectiveAnswers (effectiveAnswers answers) = effectiveAnswers answers := by
  unfold effectiveAnswers
  by_cases h : answers.isTruthy
  · rw [if_pos h, if_pos h]
  · rw [if_neg h]
    rfl

theorem visibleIn_effectiveAnswers (fields : List Field) (answers : Value) :
    visibleIn fields (effectiveAnswers answers) = visibleIn fields answers := by
  unfold visibleIn
  rw [effectiveAnswers_idem]

/-! ### Single answers -/

namespace Value

/-- Only an object has an object for its normal form. -/
theorem exists_dict_of_normal {v : Value} {f : Frozen} (h : v.freeze = .ok f)
    {rs : List (String × Value)} (hr : f.normal = .dict rs) : ∃ ms, v = .dict ms := by
  cases v with
  | null | bool | int | str => cases h; cases hr
  | float x =>
    cases h
    cases x <;> cases hr
  | list vs =>
    obtain ⟨fs, _, rfl⟩ := freeze_list_eq_ok_iff.mp h
    rw [Frozen.normal_list] at hr
    cases hr
  | dict ms => exact ⟨ms, rfl⟩
  | missing | tuple | set | bytes | date | file | record => cases h

/-- What a name finds among members is frozen where the name finds it among the frozen members. -/
theorem rel_freezeMembers {ms : Members Value} {fs : Members Frozen}
    (h : freezeMembers ms = .ok fs) (name : String) :
    Option.Rel (fun v f => v.freeze = .ok f) (ms.get? name) (fs.get? name) := by
  induction ms generalizing fs with
  | nil =>
    cases h
    exact .none
  | cons m ms ih =>
    -- The object is frozen member by member, so both lists have their names in the same places.
    obtain ⟨f, rest, hf, hrest, rfl⟩ := freezeMembers_cons_eq_ok_iff.mp h
    rw [Members.get?_cons, Members.get?_cons]
    by_cases hname : m.1 = name
    · rw [if_pos hname, if_pos hname]
      exact .some hf
    · rw [if_neg hname, if_neg hname]
      exact ih hrest

/-- The answer of a field and its normal form stand at the same place. -/
theorem freeze_get? {ms : List (String × Value)} {fs : List (String × Frozen)}
    (h : freezeMembers ms = .ok fs) (id : String) :
    ∃ f, ((Members.get? ms id).getD .null).freeze = .ok f ∧
      (Members.get? (fs.map fun m => (m.1, m.2.normal)) id).getD .null = f.normal := by
  have hrel := rel_freezeMembers h id
  rw [Members.get?_map]
  cases hv : Members.get? ms id <;> cases hf : Members.get? fs id <;> rw [hv, hf] at hrel <;>
    cases hrel
  case none.none => exact ⟨.null, rfl, rfl⟩
  case some.some hfreeze => exact ⟨_, hfreeze, rfl⟩

theorem names_freezeMembers {ms : List (String × Value)} {fs : List (String × Frozen)}
    (h : freezeMembers ms = .ok fs) : Members.names fs = Members.names ms := by
  induction ms generalizing fs with
  | nil =>
    cases h
    rfl
  | cons m ms ih =>
    obtain ⟨f, rest, _, hrest, rfl⟩ := freezeMembers_cons_eq_ok_iff.mp h
    rw [Members.names_cons, Members.names_cons, ih hrest]

/-- The normal form of an object has the normal forms of its answers. -/
theorem freeze_answer {ms : Members Value} (hn : ms.names.Nodup) {f : Frozen}
    (h : (Value.dict ms).freeze = .ok f) {rs : Members Value} (hr : f.normal = .dict rs)
    (id : String) :
    ∃ g, ((ms.get? id).getD .null).freeze = .ok g ∧ (rs.get? id).getD .null = g.normal := by
  obtain ⟨fs, hfs, rfl⟩ := freeze_dict_eq_ok_iff.mp h
  rw [Frozen.normal_dict] at hr
  cases hr
  obtain ⟨g, hg, hanswer⟩ := freeze_get? hfs id
  refine ⟨g, hg, ?_⟩
  rw [← hanswer]
  have hperm := (Frozen.sortMembers_perm fs).map fun m => (m.1, m.2.normal)
  have hnodup : (Members.names (fs.map fun m => (m.1, m.2.normal))).Nodup := by
    rw [Members.names_map, names_freezeMembers hfs]
    exact hn
  -- Sorting moves the members, but their names are distinct, so each is found all the same.
  rw [Members.get?_of_perm hperm.symm hnodup]

end Value

/-- Two answers with one normal form are the same to an operator, unless it finds a part in the text
of the one and not of the other. -/
theorem Operator.holds_congr (o : Operator) {v w : Value} {f g : Frozen} (hv : v.freeze = .ok f)
    (hw : w.freeze = .ok g) (hfg : f.normal = g.normal) (t : Value)
    (htext : o.looksInText → ∀ ms ns, v = .dict ms → w = .dict ns →
      Text.hasPart t.asText.toList v.asText.toList = Text.hasPart t.asText.toList w.asText.toList) :
    o.holds v t = o.holds w t := by
  -- Only here does the normal form not decide: the text of an object shows more than it keeps.
  by_cases hd : o.looksInText ∧ ∃ ms, v = .dict ms
  · obtain ⟨ho, ms, rfl⟩ := hd
    obtain ⟨fs, _, rfl⟩ := Value.freeze_dict_eq_ok_iff.mp hv
    rw [Frozen.normal_dict] at hfg
    obtain ⟨ns, rfl⟩ := Value.exists_dict_of_normal hw hfg.symm
    have hparts := htext ho ms ns rfl rfl
    cases o with
    | contains => exact congrArg Except.ok hparts
    | notContains => exact congrArg (fun b => Except.ok !b) hparts
    | _ => cases ho
  · have hnv : o.looksInText → ∀ ms, v ≠ .dict ms := fun ho ms hms => hd ⟨ho, ms, hms⟩
    have hnw : o.looksInText → ∀ ns, w ≠ .dict ns := by
      rintro ho ns rfl
      obtain ⟨gs, _, rfl⟩ := Value.freeze_dict_eq_ok_iff.mp hw
      rw [Frozen.normal_dict] at hfg
      obtain ⟨ms, rfl⟩ := Value.exists_dict_of_normal hv hfg
      exact hnv ho ms rfl
    rw [← holds_normal o hv hnv, ← holds_normal o hw hnw, hfg]

/-! ### Visible fields -/

theorem answerOf_dict (ms : Members Value) (id : String) :
    answerOf (.dict ms) id = .ok ((ms.get? id).getD .null) := rfl

theorem Condition.allHold_eq_of_holds {sources : List String} {field : String} {a b : Value}
    {cs : List Condition} (h : ∀ c ∈ cs, c.holds sources field a = c.holds sources field b) :
    allHold sources field a cs = allHold sources field b cs := by
  induction cs with
  | nil => rfl
  | cons c cs ih =>
    obtain ⟨hc, hcs⟩ := List.forall_mem_cons.mp h
    rw [allHold, allHold, hc, ih hcs]

/-- What is visible depends on the answers only through the conditions. -/
theorem visibleIn_eq_of_holds {fields : List Field} {a b : Value}
    (h : ∀ f ∈ fields, ∀ c ∈ f.conditionList,
      c.holds (fields.map (·.id)) f.id (effectiveAnswers a) =
        c.holds (fields.map (·.id)) f.id (effectiveAnswers b)) :
    visibleIn fields a = visibleIn fields b := by
  -- The sources are all fields of the form, while the fields to decide on get fewer.
  have hamong : ∀ (sources : List String) (fs : List Field),
      (∀ f ∈ fs, ∀ c ∈ f.conditionList, c.holds sources f.id (effectiveAnswers a) =
        c.holds sources f.id (effectiveAnswers b)) →
      visibleAmong sources (effectiveAnswers a) fs =
        visibleAmong sources (effectiveAnswers b) fs := by
    intro sources fs hfs
    induction fs with
    | nil => rfl
    | cons f fs ih =>
      obtain ⟨hf, hfs⟩ := List.forall_mem_cons.mp hfs
      rw [visibleAmong, visibleAmong, Field.isVisible, Field.isVisible,
        Condition.allHold_eq_of_holds hf, ih hfs]
  exact hamong _ fields h

/-- The condition of a field looks at two objects, and finds a part in the text of the one only. -/
structure Condition.TellsApart (sources : List String) (field : String) (c : Condition)
    (a b : Value) : Prop where
  source_ne : c.source ≠ field
  source_mem : c.source ∈ sources
  looks : c.operator.looksInText
  differ : ∃ ms ns, answerOf (effectiveAnswers a) c.source = .ok (.dict ms) ∧
    answerOf (effectiveAnswers b) c.source = .ok (.dict ns) ∧
    Text.hasPart c.value.asText.toList (Value.dict ms).asText.toList ≠
      Text.hasPart c.value.asText.toList (Value.dict ns).asText.toList

section Congruence

variable {a b : Value} (ha : IsAnswers a) (hb : IsAnswers b) (hkeys : answersKey? a = answersKey? b)
  (hsome : (answersKey? b).isSome)

include ha hb hkeys hsome

theorem Condition.holds_congr {sources : List String} {field : String} {c : Condition}
    (hc : ¬c.TellsApart sources field a b) :
    c.holds sources field (effectiveAnswers a) = c.holds sources field (effectiveAnswers b) := by
  unfold holds
  -- A condition on the field itself, or on none of the form, holds without a look at the answers.
  by_cases hlive : c.source = field ∨ c.source ∉ sources
  · rw [if_pos hlive, if_pos hlive]
  · rw [if_neg hlive, if_neg hlive]
    obtain ⟨hne, hmem⟩ := not_or.mp hlive
    obtain ⟨ms, hms, hnms⟩ := ha.effective
    obtain ⟨ns, hns, hnns⟩ := hb.effective
    unfold answersKey? at hkeys hsome
    rw [hms, hns] at hkeys
    rw [hns] at hsome
    cases hg : (Value.dict ns).freeze with
    | error e =>
      rw [hg] at hsome
      cases hsome
    | ok g =>
      cases hf : (Value.dict ms).freeze with
      | error e =>
        rw [hf, hg] at hkeys
        cases hkeys
      | ok f =>
        rw [hf, hg] at hkeys
        have hkeys : f.key = g.key := Option.some.inj hkeys
        have hnormal : f.normal = g.normal := congrArg Frozen.thaw hkeys
        obtain ⟨fs, _, hfs⟩ := Value.freeze_dict_eq_ok_iff.mp hf
        obtain ⟨rs, hr⟩ : ∃ rs, f.normal = .dict rs := ⟨_, by rw [hfs, Frozen.normal_dict]⟩
        obtain ⟨f', hf', hrf⟩ := Value.freeze_answer hnms hf hr c.source
        obtain ⟨g', hg', hrg⟩ := Value.freeze_answer hnns hg (hnormal ▸ hr) c.source
        rw [hms, hns, answerOf_dict, answerOf_dict]
        have hanswers : f'.normal = g'.normal := hrf.symm.trans hrg
        refine c.operator.holds_congr hf' hg' hanswers c.value fun ho ms' ns' hms' hns' => ?_
        by_contra hdiffer
        rw [hms', hns'] at hdiffer
        refine hc ⟨hne, by simpa using hmem, ho, ms', ns', ?_, ?_, hdiffer⟩
        · rw [hms, answerOf_dict, hms']
        · rw [hns, answerOf_dict, hns']

/-- Answers with one key make the same fields visible, unless a condition tells them apart. -/
theorem visibleIn_congr {fields : List Field}
    (hfields : ∀ f ∈ fields, ∀ c ∈ f.conditionList,
      ¬c.TellsApart (fields.map (·.id)) f.id a b) :
    visibleIn fields a = visibleIn fields b :=
  visibleIn_eq_of_holds fun f hf c hc => Condition.holds_congr ha hb hkeys hsome (hfields f hf c hc)

end Congruence

end Questionnaire
