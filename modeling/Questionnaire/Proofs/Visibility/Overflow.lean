import Questionnaire.Proofs.Outcome
import Questionnaire.Proofs.Visibility.Memory

/-!
# When conditions cannot be decided

Whatever the answers are, a condition holds or does not, with one exception: `greaterThan` and
`lessThan` compare both sides as floats, and a whole number may be beyond the range of floats
(`Condition.Overflows`).  `overflows_of_visibleIn` says that nothing else keeps the visible fields
from being found, and `Evaluator.visibleIn_of_visible` that memory does not bring in other failures.
-/

namespace Questionnaire

variable {e : Fault}

/-! ### Operators -/

/-- Reading as a number fails only on integers out of range. -/
theorem Value.asFloat_eq_error {v : Value} (h : v.asFloat = .error e) :
    ∃ n, v = .int n ∧ Binary64.ofInt? n = none ∧ e = .misuse .numberTooLarge := by
  cases v with
  | int n =>
    cases hn : Binary64.ofInt? n with
    | none =>
      simp only [asFloat, hn] at h
      cases h
      exact ⟨n, rfl, hn, rfl⟩
    | some x =>
      simp only [asFloat, hn] at h
      cases h
  | _ => cases h

/-- An order is the only operator that can fail, and does so at a number beyond the floats. -/
theorem Operator.holds_eq_error {o : Operator} {source target : Value}
    (h : o.holds source target = .error e) :
    (o = .greaterThan ∨ o = .lessThan) ∧ e = .misuse .numberTooLarge ∧
      ∃ n, (source = .int n ∨ target = .int n) ∧ Binary64.ofInt? n = none := by
  -- Both orderings read the two sides and then compare, so either side may be the one that is too
  -- large.
  have hsides (compare : Binary64 → Binary64 → Bool)
      (h : (do
        let x ← source.asFloat
        let y ← target.asFloat
        pure (compare x y) : Outcome Bool) = .error e) :
      e = .misuse .numberTooLarge ∧
        ∃ n, (source = .int n ∨ target = .int n) ∧ Binary64.ofInt? n = none := by
    rcases Outcome.bind_eq_error_iff.mp h with h | ⟨x, _, h⟩
    · obtain ⟨n, hsource, hn, he⟩ := Value.asFloat_eq_error h
      exact ⟨he, n, Or.inl hsource, hn⟩
    · rcases Outcome.bind_eq_error_iff.mp h with h | ⟨y, _, h⟩
      · obtain ⟨n, htarget, hn, he⟩ := Value.asFloat_eq_error h
        exact ⟨he, n, Or.inr htarget, hn⟩
      · cases h
  cases o with
  | greaterThan => exact ⟨Or.inl rfl, hsides (fun x y => y.lt x) h⟩
  | lessThan => exact ⟨Or.inr rfl, hsides (fun x y => x.lt y) h⟩
  | _ => cases h

/-! ### Conditions of fields -/

/-- A condition compares, by an order, an answer or its own value that is beyond the floats. -/
structure Condition.Overflows (answers : Members Value) (c : Condition) : Prop where
  order : c.operator = .greaterThan ∨ c.operator = .lessThan
  beyond : ∃ n, (answers.get? c.source = some (.int n) ∨ c.value = .int n) ∧
    Binary64.ofInt? n = none

variable {answers : Members Value} {sources : List String} {field : String}

theorem Condition.holds_eq_error {c : Condition}
    (h : c.holds sources field (.dict answers) = .error e) :
    c.Overflows answers ∧ e = .misuse .numberTooLarge := by
  unfold holds at h
  split at h
  · cases h
  · rw [answerOf_dict] at h
    obtain ⟨horder, he, n, hn, hbeyond⟩ := Operator.holds_eq_error h
    refine ⟨⟨horder, n, hn.imp_left fun hanswer => ?_, hbeyond⟩, he⟩
    -- An answer that is absent counts as `null`, so this one is there.
    cases hget : answers.get? c.source with
    | none =>
      rw [hget] at hanswer
      cases hanswer
    | some v =>
      rw [hget] at hanswer
      exact congrArg some hanswer

/-- Where conditions fail together, one of them does by itself. -/
theorem Condition.allHold_eq_error {cs : List Condition}
    (h : allHold sources field (.dict answers) cs = .error e) :
    (∃ c ∈ cs, c.Overflows answers) ∧ e = .misuse .numberTooLarge := by
  induction cs with
  | nil => cases h
  | cons c cs ih =>
    rw [allHold] at h
    rcases Outcome.bind_eq_error_iff.mp h with h | ⟨holds, _, h⟩
    · obtain ⟨hc, he⟩ := holds_eq_error h
      exact ⟨⟨c, List.mem_cons_self, hc⟩, he⟩
    · cases holds with
      | false => cases h
      | true =>
        obtain ⟨⟨c', hc', hover⟩, he⟩ := ih h
        exact ⟨⟨c', List.mem_cons_of_mem _ hc', hover⟩, he⟩

/-- Where deciding on fields fails, a condition of one of them does. -/
theorem visibleAmong_eq_error {fields : List Field}
    (h : visibleAmong sources (.dict answers) fields = .error e) :
    (∃ f ∈ fields, ∃ c ∈ f.conditionList, c.Overflows answers) ∧
      e = .misuse .numberTooLarge := by
  induction fields with
  | nil => cases h
  | cons f fields ih =>
    rw [visibleAmong] at h
    rcases Outcome.bind_eq_error_iff.mp h with h | ⟨visible, _, h⟩
    · obtain ⟨hc, he⟩ := Condition.allHold_eq_error h
      exact ⟨⟨f, List.mem_cons_self, hc⟩, he⟩
    · rcases Outcome.bind_eq_error_iff.mp h with h | ⟨rest, _, h⟩
      · obtain ⟨⟨g, hg, hc⟩, he⟩ := ih h
        exact ⟨⟨g, List.mem_cons_of_mem _ hg, hc⟩, he⟩
      · cases h

/-- The visible fields are found, unless a condition meets a number beyond the floats. -/
theorem overflows_of_visibleIn {fields : List Field}
    (h : visibleIn fields (.dict answers) = .error e) :
    (∃ f ∈ fields, ∃ c ∈ f.conditionList, c.Overflows answers) ∧
      e = .misuse .numberTooLarge := by
  unfold visibleIn at h
  rw [effectiveAnswers_dict] at h
  exact visibleAmong_eq_error h

/-! ### Evaluators -/

namespace Evaluator

/-- An evaluator fails only where its fields cannot be judged. -/
theorem visibleIn_of_visible {ev : Evaluator} (h : (ev.visible (.dict answers)).2 = .error e) :
    visibleIn ev.fields (.dict answers) = .error e := by
  unfold visible at h
  dsimp only at h
  rw [effectiveAnswers_dict, key_dict] at h
  -- Without a key the decision is fresh; with one a failure is not remembered, so it is fresh as
  -- well.
  cases hkey : if ev.remembers then
      (Value.dict (Members.ofPairs answers)).freeze.toOption.map Frozen.key else none with
  | none =>
    rw [hkey] at h
    exact h
  | some key =>
    rw [hkey] at h
    dsimp only at h
    split at h
    · cases h
    · split at h
      · next hfails =>
        cases h
        exact hfails
      · cases h

end Evaluator
end Questionnaire
