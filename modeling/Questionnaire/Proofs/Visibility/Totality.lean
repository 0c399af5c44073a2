import Questionnaire.Proofs.Number.Range
import Questionnaire.Proofs.Visibility.Deciding
import Questionnaire.Proofs.Visibility.Overflow

/-!
# Comparisons that are decided

Every comparison should say yes or no.  An order does not when a side of it is a whole number from
`Binary64.outOfRange` on, and there is no other exception here (`Operator.exists_holds_iff`).

There is a second one where the digits of a whole number that is written out are limited to
`maxDigits`, as they are where one is read: an operator that looks into texts fails on a value with a
longer number in it.  `Value.asText` writes numbers of any length.  So what is said of all comparisons
in `comparisons_decided_iff` is said of values that can be written out (`Operator.Writes`), although no
proof needs this, and the others are left open.

The conditions of a field are looked at one after the other up to the first that does not hold, and a
dead one is not compared at all.  So a field is stuck (`Field.Stuck`) only at a condition that is
reached, and the visible fields are found exactly when no field is stuck (`exists_visibleIn_iff`).
`comparisons_decided_iff` puts this together, for names of operators and for evaluators.
-/

namespace Questionnaire

/-! ### Texts -/

namespace Value

/-- No whole number in the value has more digits than a numeral may have. -/
def Writable (v : Value) : Prop := ∀ n : Int, (Value.int n).Within v → n.natAbs < 10 ^ maxDigits

end Value

namespace Operator

/-- An operator that looks into texts meets only such as can be written out even where the digits of
what is written are limited. -/
def Writes (o : Operator) (source target : Value) : Prop :=
  o.looksInText = true → source.Writable ∧ target.Writable

/-! ### Operators -/

/-- An order has a side that is a whole number beyond the floats. -/
structure Overflows (o : Operator) (source target : Value) : Prop where
  order : o = .greaterThan ∨ o = .lessThan
  beyond : ∃ n : Int, (source = .int n ∨ target = .int n) ∧ Binary64.outOfRange ≤ n.natAbs

variable {o : Operator} {source target : Value} {e : Fault}

theorem asFloat_outOfRange {n : Int} (h : Binary64.outOfRange ≤ n.natAbs) :
    (Value.int n).asFloat = .error (.misuse .numberTooLarge) := by
  simp only [Value.asFloat, Binary64.ofInt?_eq_none_iff.mpr h, misuse]

/-- Both sides of an order are made floats before they are compared. -/
theorem compare_of_outOfRange {n : Int} (hn : Binary64.outOfRange ≤ n.natAbs)
    (h : source = .int n ∨ target = .int n) (compare : Binary64 → Binary64 → Bool) :
    (do
      let x ← source.asFloat
      let y ← target.asFloat
      pure (compare x y) : Outcome Bool) = .error (.misuse .numberTooLarge) := by
  have hnumber := asFloat_outOfRange hn
  rw [Outcome.bind_eq_error_iff]
  rcases h with rfl | rfl
  · exact Or.inl hnumber
  · -- The other side is read first and may fail; it then does so for the same reason.
    cases hsource : source.asFloat with
    | error e =>
      obtain ⟨_, _, _, rfl⟩ := Value.asFloat_eq_error hsource
      exact Or.inl rfl
    | ok x =>
      refine Or.inr ⟨x, rfl, ?_⟩
      rw [hnumber]
      rfl

/-- A comparison fails exactly when it is an order with a number beyond the floats. -/
theorem holds_eq_error_iff :
    o.holds source target = .error e ↔
      o.Overflows source target ∧ e = .misuse .numberTooLarge := by
  constructor
  · intro h
    obtain ⟨horder, he, n, hside, hn⟩ := holds_eq_error h
    exact ⟨⟨horder, n, hside, Binary64.ofInt?_eq_none_iff.mp hn⟩, he⟩
  · rintro ⟨⟨horder, n, hside, hn⟩, rfl⟩
    rcases horder with rfl | rfl
    · exact compare_of_outOfRange hn hside fun x y => y.lt x
    · exact compare_of_outOfRange hn hside fun x y => x.lt y

theorem exists_holds_iff :
    (∃ b, o.holds source target = .ok b) ↔ ¬o.Overflows source target := by
  rw [Outcome.exists_eq_ok_iff]
  constructor
  · intro h hover
    exact h _ (holds_eq_error_iff.mpr ⟨hover, rfl⟩)
  · intro hover e he
    exact hover (holds_eq_error_iff.mp he).1

/-- The same for an operator that is given by its name; a name of no operator is decided always. -/
theorem exists_holdsNamed_iff {name : Value} :
    (∃ b, holdsNamed name source target = .ok b) ↔
      ∀ o, name.text?.bind ofName? = some o → ¬o.Overflows source target := by
  unfold holdsNamed
  cases name.text?.bind ofName? with
  | none => exact iff_of_true ⟨false, rfl⟩ nofun
  | some o =>
    show (∃ b, o.holds source target = .ok b) ↔ _
    rw [exists_holds_iff]
    constructor
    · rintro hover o' ⟨⟩
      exact hover
    · intro hover
      exact hover o rfl

end Operator

/-! ### Conditions -/

/-- A condition that is compared, with a number beyond the floats. -/
structure Condition.Undecided (sources : List String) (field : String) (answers : Value)
    (c : Condition) : Prop where
  alive : ¬c.Dead sources field
  overflows : ∃ answer, answerOf answers c.source = .ok answer ∧
    c.operator.Overflows answer c.value

/-- The conditions of the field are looked at up to one that is not decided. -/
def Field.Stuck (sources : List String) (answers : Value) (f : Field) : Prop :=
  ∃ before c after, f.conditionList = before ++ c :: after ∧
    (∀ d ∈ before, d.holds sources f.id answers = .ok true) ∧
    c.Undecided sources f.id answers

theorem Field.not_stuck_of_nil {sources : List String} {answers : Value} {f : Field}
    (h : f.conditionList = []) : ¬f.Stuck sources answers := by
  rintro ⟨before, c, after, hsplit, _⟩
  rw [h] at hsplit
  exact List.append_ne_nil_of_right_ne_nil before (List.cons_ne_nil c after) hsplit.symm

/-- A field with one condition is stuck exactly when that condition cannot be decided. -/
theorem Field.stuck_iff_of_singleton {sources : List String} {answers : Value} {f : Field}
    {c : Condition} (h : f.conditionList = [c]) :
    f.Stuck sources answers ↔ c.Undecided sources f.id answers := by
  constructor
  · rintro ⟨before, d, after, hsplit, _, hd⟩
    rw [h, List.singleton_eq_append_iff] at hsplit
    rcases hsplit with ⟨_, hlist⟩ | ⟨_, hlist⟩
    · obtain ⟨rfl, _⟩ := List.cons.inj hlist
      exact hd
    · cases hlist
  · intro hc
    exact ⟨[], c, [], h, List.forall_mem_nil _, hc⟩

section Conditions

variable {sources : List String} {field : String} {answers : Members Value} {e : Fault}

/-- A condition fails exactly when it cannot be decided, and always in the same way. -/
theorem Condition.holds_eq_error_iff {c : Condition} :
    c.holds sources field (.dict answers) = .error e ↔
      c.Undecided sources field (.dict answers) ∧ e = .misuse .numberTooLarge := by
  by_cases hdead : c.Dead sources field
  · rw [holds_of_dead hdead]
    exact iff_of_false nofun fun h => h.1.alive hdead
  · rw [holds_of_not_dead hdead, Operator.holds_eq_error_iff]
    constructor
    · rintro ⟨hover, he⟩
      exact ⟨⟨hdead, _, answerOf_dict answers c.source, hover⟩, he⟩
    · rintro ⟨⟨_, answer, hanswer, hover⟩, he⟩
      rw [answerOf_dict] at hanswer
      cases hanswer
      exact ⟨hover, he⟩

/-- The first condition that does not hold ends the look at a field, and one that is not decided ends
it with a failure. -/
theorem Condition.allHold_eq_error_iff {cs : List Condition} :
    allHold sources field (.dict answers) cs = .error e ↔
      (∃ before c after, cs = before ++ c :: after ∧
        (∀ d ∈ before, d.holds sources field (.dict answers) = .ok true) ∧
        c.Undecided sources field (.dict answers)) ∧ e = .misuse .numberTooLarge := by
  induction cs with
  | nil =>
    -- No conditions, no failure.
    refine iff_of_false nofun ?_
    rintro ⟨⟨before, c, after, h, _⟩, _⟩
    exact absurd h (List.append_ne_nil_of_right_ne_nil before (List.cons_ne_nil c after)).symm
  | cons d cs ih =>
    rw [allHold, Outcome.bind_eq_error_iff, holds_eq_error_iff]
    constructor
    -- The failure is that of `d`, or that of a later one, and then `d` held.
    · rintro (⟨hd, he⟩ | ⟨holds, hholds, h⟩)
      · exact ⟨⟨[], d, cs, rfl, List.forall_mem_nil _, hd⟩, he⟩
      · cases holds with
        | false => cases h
        | true =>
          obtain ⟨⟨before, c, after, rfl, hbefore, hc⟩, he⟩ := ih.mp h
          exact ⟨⟨d :: before, c, after, rfl, List.forall_mem_cons.mpr ⟨hholds, hbefore⟩, hc⟩, he⟩
    -- `before` is what held ahead of the failure: nothing, or `d` with the rest.
    · rintro ⟨⟨before, c, after, hsplit, hbefore, hc⟩, he⟩
      cases before with
      | nil =>
        obtain ⟨rfl, rfl⟩ := List.cons.inj hsplit
        exact Or.inl ⟨hc, he⟩
      | cons d' before =>
        obtain ⟨rfl, rfl⟩ := List.cons.inj hsplit
        obtain ⟨hd, hbefore⟩ := List.forall_mem_cons.mp hbefore
        exact Or.inr ⟨true, hd, ih.mpr ⟨⟨before, c, after, rfl, hbefore, hc⟩, he⟩⟩

end Conditions

/-! ### Fields -/

section Fields

variable {sources : List String} {fields : List Field} {answers : Value} {e : Fault}

/-- Deciding on fields fails exactly when one of them is stuck, and always in the same way. -/
theorem visibleAmong_eq_error_iff {answers : Members Value} :
    visibleAmong sources (.dict answers) fields = .error e ↔
      (∃ f ∈ fields, f.Stuck sources (.dict answers)) ∧ e = .misuse .numberTooLarge := by
  induction fields with
  | nil => exact iff_of_false nofun fun h => absurd h.1 (by simp)
  | cons f fields ih =>
    rw [visibleAmong, Outcome.bind_eq_error_iff, Field.isVisible, Condition.allHold_eq_error_iff,
      List.exists_mem_cons_iff]
    constructor
    · rintro (⟨hf, he⟩ | ⟨shown, _, h⟩)
      · exact ⟨Or.inl hf, he⟩
      · rcases Outcome.bind_eq_error_iff.mp h with h | ⟨rest, _, h⟩
        · obtain ⟨hfields, he⟩ := ih.mp h
          exact ⟨Or.inr hfields, he⟩
        · cases h
    · rintro ⟨hf | hfields, he⟩
      · exact Or.inl ⟨hf, he⟩
      · -- The field before them may itself be stuck, with the same failure.
        rcases hshown : Condition.allHold sources f.id (.dict answers) f.conditionList with e' | shown
        · obtain ⟨hf, _⟩ := Condition.allHold_eq_error_iff.mp hshown
          exact Or.inl ⟨hf, he⟩
        · refine Or.inr ⟨shown, rfl, Outcome.bind_eq_error_iff.mpr (Or.inl (ih.mpr ⟨hfields, he⟩))⟩

/-- The visible fields are not found exactly when some field is stuck. -/
theorem visibleIn_eq_error_iff (h : IsAnswers answers) :
    visibleIn fields answers = .error e ↔
      (∃ f ∈ fields, f.Stuck (fields.map (·.id)) (effectiveAnswers answers)) ∧
        e = .misuse .numberTooLarge := by
  obtain ⟨ms, hms, _⟩ := h.effective
  unfold visibleIn
  rw [hms]
  exact visibleAmong_eq_error_iff

theorem exists_visibleIn_iff (h : IsAnswers answers) :
    (∃ visible, visibleIn fields answers = .ok visible) ↔
      ∀ f ∈ fields, ¬f.Stuck (fields.map (·.id)) (effectiveAnswers answers) := by
  rw [Outcome.exists_eq_ok_iff]
  constructor
  · intro hvisible f hf hstuck
    exact hvisible _ ((visibleIn_eq_error_iff h).mpr ⟨⟨f, hf, hstuck⟩, rfl⟩)
  · intro hall e he
    obtain ⟨⟨f, hf, hstuck⟩, _⟩ := (visibleIn_eq_error_iff h).mp he
    exact hall f hf hstuck

theorem exists_visibleIn_dict_iff {answers : Members Value} (h : answers.names.Nodup) :
    (∃ visible, visibleIn fields (.dict answers) = .ok visible) ↔
      ∀ f ∈ fields, ¬f.Stuck (fields.map (·.id)) (.dict answers) := by
  rw [exists_visibleIn_iff (.dict answers h), effectiveAnswers_dict]

/-- An evaluator, whatever it remembers, fails only where a field is stuck. -/
theorem Evaluator.exists_visible {ev : Evaluator} (h : IsAnswers answers)
    (hfree : ∀ f ∈ ev.fields, ¬f.Stuck (ev.fields.map (·.id)) (effectiveAnswers answers)) :
    ∃ visible, (ev.visible answers).2 = .ok visible := by
  rw [Outcome.exists_eq_ok_iff]
  intro e he
  obtain ⟨⟨f, hf, hstuck⟩, _⟩ := (visibleIn_eq_error_iff h).mp (visible_eq_error h he)
  exact hfree f hf hstuck

end Fields

/-! ### All comparisons -/

/-- A comparison by the name of an operator is decided unless it is an order with a number beyond the
floats.  The visible fields are found for all answers with which no field gets stuck, and a new
evaluator finds them for no others.  All this is about texts that can be written out: with longer
numbers an operator that looks into texts is a second reason to fail where their digits are limited.
-/
theorem comparisons_decided_iff (name source target : Value) (fields : List Field)
    (capacity : Number) {history : List Value} {answers : Value}
    (hhistory : ∀ a ∈ history, IsAnswers a) (hanswers : IsAnswers answers) :
    ((∀ o, name.text?.bind Operator.ofName? = some o → o.Writes source target) →
      ((∃ b, Operator.holdsNamed name source target = .ok b) ↔
        ∀ o, name.text?.bind Operator.ofName? = some o → ¬o.Overflows source target)) ∧
    ((∀ f ∈ fields, ∀ c ∈ f.conditionList, ∀ answer,
        answerOf (effectiveAnswers answers) c.source = .ok answer →
        c.operator.Writes answer c.value) →
      ((∃ visible, ((Evaluator.new fields capacity).visible answers).2 = .ok visible) ↔
        ∀ f ∈ fields, ¬f.Stuck (fields.map (·.id)) (effectiveAnswers answers)) ∧
      ((∀ f ∈ fields, ¬f.Stuck (fields.map (·.id)) (effectiveAnswers answers)) →
        ∃ visible,
          (((Evaluator.new fields capacity).after history).visible answers).2 = .ok visible)) := by
  refine ⟨fun _ => Operator.exists_holdsNamed_iff, fun _ => ⟨?_, fun hfree => ?_⟩⟩
  -- A new evaluator decides afresh.
  · rw [Evaluator.visible_new fields capacity hanswers]
    exact exists_visibleIn_iff hanswers
  -- After a history the answer may be remembered, which is no failure either.
  · refine Evaluator.exists_visible hanswers ?_
    rw [Evaluator.fields_after hhistory]
    exact hfree

/-- Fields for an age, and for a note that is asked for below an age. -/
def minorFields : List Field :=
  [⟨"age", .number, "Age", false, none, none, none, none, none, none⟩,
    ⟨"note", .text, "Note", false, none, none, none, none,
      some [⟨"age", .lessThan, .int 17⟩], none⟩]

/-- The answers that consist of an age. -/
def ageAnswers (n : Int) : Value := .dict [("age", .int n)]

theorem isAnswers_ageAnswers (n : Int) : IsAnswers (ageAnswers n) :=
  .dict _ (List.nodup_singleton "age")

/-- The only field that can get stuck is the note. -/
theorem stuck_minorFields_iff {n : Int} :
    (∃ f ∈ minorFields, f.Stuck ["age", "note"] (effectiveAnswers (ageAnswers n))) ↔
      Operator.lessThan.Overflows (.int n) (.int 17) := by
  unfold minorFields
  rw [List.exists_mem_cons_iff, List.exists_mem_cons_iff]
  constructor
  -- Only the second field has a condition.
  · rintro (hage | hnote | ⟨f, hf, _⟩)
    · exact absurd hage (Field.not_stuck_of_nil rfl)
    · obtain ⟨_, answer, hanswer, hover⟩ := (Field.stuck_iff_of_singleton rfl).mp hnote
      cases hanswer
      exact hover
    · cases hf
  · intro hover
    refine Or.inr (Or.inl ((Field.stuck_iff_of_singleton rfl).mpr ⟨?_, .int n, rfl, hover⟩))
    unfold Condition.Dead
    decide

theorem lessThan_overflows_iff {n : Int} :
    Operator.lessThan.Overflows (.int n) (.int 17) ↔ Binary64.outOfRange ≤ n.natAbs := by
  constructor
  · rintro ⟨_, m, hside | hside, hm⟩
    · cases hside
      exact hm
    · cases hside
      exact absurd hm (by decide +kernel)
  · intro hn
    exact ⟨Or.inr rfl, n, Or.inl rfl, hn⟩

/-- The greatest whole number that is near to a float is compared. -/
theorem minorFields_decided :
    (∃ b, Operator.holdsNamed (.str "lessThan") (.int (Binary64.outOfRange - 1)) (.int 17) =
      .ok b) ∧
    ∃ visible, (((Evaluator.new minorFields (.int 64)).after [ageAnswers 10]).visible
      (ageAnswers (Binary64.outOfRange - 1))).2 = .ok visible := by
  -- One less than the first integer out of range is still read as a number.
  have hover : ¬Operator.lessThan.Overflows (.int (Binary64.outOfRange - 1)) (.int 17) := by
    rw [lessThan_overflows_iff]
    decide +kernel
  have hname : ∀ o, (Value.str "lessThan").text?.bind Operator.ofName? = some o → o = .lessThan :=
    fun o ho => (Option.some.inj ho).symm
  have hhistory : ∀ a ∈ [ageAnswers 10], IsAnswers a := fun a ha => by
    rw [List.mem_singleton.mp ha]
    exact isAnswers_ageAnswers 10
  obtain ⟨hcompared, hfound⟩ := comparisons_decided_iff (.str "lessThan")
    (.int (Binary64.outOfRange - 1)) (.int 17) minorFields (.int 64) hhistory
    (isAnswers_ageAnswers (Binary64.outOfRange - 1))
  refine ⟨(hcompared fun o ho => ?_).mpr fun o ho => ?_, (hfound ?_).2 ?_⟩
  · rw [hname o ho]
    exact nofun
  · rw [hname o ho]
    exact hover
  · intro f hf c hc _ _
    have horder : ∀ f ∈ minorFields, ∀ c ∈ f.conditionList, c.operator = .lessThan := by decide
    rw [horder f hf c hc]
    exact nofun
  · intro f hf hstuck
    exact hover (stuck_minorFields_iff.mp ⟨f, hf, hstuck⟩)

/-- The next whole number is not, and a form that compares an age finds no visible fields for it. -/
theorem minorFields_undecided :
    (¬∃ b, Operator.holdsNamed (.str "lessThan") (.int Binary64.outOfRange) (.int 17) = .ok b) ∧
    ¬∃ visible, ((Evaluator.new minorFields (.int 64)).visible
      (ageAnswers Binary64.outOfRange)).2 = .ok visible := by
  have hover : Operator.lessThan.Overflows (.int Binary64.outOfRange) (.int 17) :=
    lessThan_overflows_iff.mpr (le_of_eq (Int.natAbs_natCast _).symm)
  constructor
  · rw [Operator.exists_holdsNamed_iff]
    intro hdecided
    exact hdecided .lessThan rfl hover
  · have hanswers := isAnswers_ageAnswers Binary64.outOfRange
    rw [Evaluator.visible_new _ _ hanswers, exists_visibleIn_iff hanswers]
    obtain ⟨f, hf, hstuck⟩ := stuck_minorFields_iff.mpr hover
    exact fun hall => hall f hf hstuck

end Questionnaire
