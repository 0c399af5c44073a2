import Questionnaire.Proofs.Validation.Cleaning
import Questionnaire.Proofs.Validation.Patterns

/-!
# What becomes of a text

A check that leaves a text as it is accepts it (`Field.AcceptsText`), or refuses it for one reason
(`Field.RefusesText`): then there is one failure, with the message of that reason or that of the field's
own (`RuleHead.failures_eq`).
-/

namespace Questionnaire

/-! ### Failures -/

namespace RuleHead

variable {h : RuleHead} {path : String} {breaches : List Breach} {v w : Value}

/-- The message of a failure: that of the field if it has one of its own. -/
def messageOr (h : RuleHead) (message : String) : String :=
  (h.customMessage.filter (· ≠ "")).getD message

/-- All breaches are failures, or with a message of the field's own the first one. -/
theorem failures_eq (hv : v ≠ .missing) : h.failures path breaches v =
    match h.customMessage.filter (· ≠ "") with
    | some message => (breaches.take 1).map fun b => ⟨path, b.type, message, b.expected, v⟩
    | none => breaches.map fun b => ⟨path, b.type, b.message, b.expected, v⟩ := by
  have hmessage (message : String) : (some message).filter (· ≠ "") =
      if message = "" then none else some message := by
    by_cases h : message = "" <;> simp [h]
  unfold failures
  cases v with
  | missing => exact absurd rfl hv
  | _ =>
    cases h.customMessage with
    | none => cases breaches <;> rfl
    | some message =>
      rw [hmessage]
      cases breaches <;> by_cases hempty : message = "" <;> simp [hempty]

theorem failures_singleton (b : Breach) (hv : v ≠ .missing) :
    h.failures path [b] v = [⟨path, b.type, h.messageOr b.message, b.expected, v⟩] := by
  rw [failures_eq hv, messageOr]
  cases h.customMessage.filter (· ≠ "") <;> rfl

/-- What was received shows in a failure as such and nowhere else. -/
theorem failures_received (hv : v ≠ .missing) (hw : w ≠ .missing) :
    h.failures path breaches v =
      (h.failures path breaches w).map fun e => { e with received := v } := by
  rw [failures_eq hv, failures_eq hw]
  cases h.customMessage.filter (· ≠ "") <;> simp [Function.comp_def]

end RuleHead

/-! ### Verdicts -/

namespace Field

variable {f : Field} {rule : Rule} {b : Breach} {s : String}

/-- A text is left as it is, and nothing is wrong with it. -/
def AcceptsText (f : Field) (s : String) : Prop :=
  ∃ rule, f.compile = .ok (rule, []) ∧ ∀ path, rule.apply path (.str s) = .ok (.str s, [])

/-- A text is left as it is, and fails for one reason. -/
def RefusesText (f : Field) (b : Breach) (s : String) : Prop :=
  ∃ rule, f.compile = .ok (rule, []) ∧ ∀ path, rule.apply path (.str s) =
    .ok (.str s, [⟨rule.place path, b.type, f.ruleHead.messageOr b.message, b.expected, .str s⟩])

/-- No text is both accepted and refused. -/
theorem RefusesText.not_acceptsText (h : f.RefusesText b s) : ¬f.AcceptsText s := by
  obtain ⟨rule, hcompile, hrefused⟩ := h
  rintro ⟨other, hother, haccepted⟩
  obtain rfl : rule = other := (Prod.mk.inj (Except.ok.inj (hcompile.symm.trans hother))).1
  have hfailures := (hrefused "").symm.trans (haccepted "")
  simp at hfailures

theorem acceptsText_of_judged (hcompile : f.compile = .ok (rule, []))
    (h : ∀ path, rule.apply path (.str s) = .ok (rule.judged (rule.place path) (.str s) (.str s) [])) :
    f.AcceptsText s :=
  ⟨rule, hcompile, fun path => (h path).trans (congrArg _ (Rule.judged_eq_iff.mpr ⟨rfl, rfl⟩))⟩

theorem refusesText_of_judged (hcompile : f.compile = .ok (rule, [])) (hhead : rule.head = f.ruleHead)
    (h : ∀ path, rule.apply path (.str s) = .ok (rule.judged (rule.place path) (.str s) (.str s) [b])) :
    f.RefusesText b s := by
  refine ⟨rule, hcompile, fun path => ?_⟩
  rw [h, Rule.judged, RuleHead.failures_singleton b (by simp), hhead]

end Field
end Questionnaire
