import Questionnaire.Proofs.Session.Binding
import Questionnaire.Proofs.Validation.Compilation
import Questionnaire.Proofs.Visibility.Overflow
import Questionnaire.Store.Basic

/-!
# What a failure leaves behind

A call on a session should change nothing when it fails.  It does not go back to where it began,
however: what it has put in place by then (`Session.placed`) remains.  A call that fails while it
finds out what to put in place has put nothing in place, so all is well there, and
`same_iff_of_perform_eq_error` says what else there is.  After something was put in place a call
fails only where a condition compares a number beyond the floats, where the new form has a pattern
that cannot be read, and where the configured capacity of evaluators is no number.
-/

namespace Questionnaire.Session

/-! ### What is in place -/

/-- The session with what a call puts in place, before it looks at the conditions. -/
def placed (s : Session) (c : Config) : Call → Session
  | .command command =>
    match s.proposal command with
    | .ok (_, some answers) => { s with answers }
    | _ => s
  | .rebind schema =>
    match schema.compile with
    | .ok contract => s.boundTo c schema contract
    | .error _ => { s with schema }

/-- Two sessions have the same form, contract, answers and visible fields. -/
structure Same (s s' : Session) : Prop where
  schema_eq : s'.schema = s.schema
  contract_eq : s'.contract = s.contract
  answers_eq : s'.answers = s.answers
  visible_eq : s'.visible = s.visible

/-- A session is the same as itself. -/
theorem Same.refl (s : Session) : s.Same s := ⟨rfl, rfl, rfl, rfl⟩

/-- Sameness is inherited along sameness. -/
theorem Same.congr_right {s s' t : Session} (h : s'.Same t) : s.Same t ↔ s.Same s' := by
  obtain ⟨hschema, hcontract, hanswers, hvisible⟩ := h
  constructor
  · rintro ⟨h₁, h₂, h₃, h₄⟩
    exact ⟨hschema ▸ h₁, hcontract ▸ h₂, hanswers ▸ h₃, hvisible ▸ h₄⟩
  · rintro ⟨h₁, h₂, h₃, h₄⟩
    exact ⟨hschema.trans h₁, hcontract.trans h₂, hanswers.trans h₃, hvisible.trans h₄⟩

/-! ### Looks that fail -/

/-- One of the conditions that the session judges meets a number beyond the floats. -/
def Overflows (s : Session) : Prop :=
  ∃ evaluator, s.evaluator = .ok evaluator ∧
    ∃ f ∈ evaluator.fields, ∃ c ∈ f.conditionList, c.Overflows s.answers

variable {s s' : Session} {e : Fault}

/-- A look fails for want of an evaluator or on a number that is too large. -/
theorem look_eq_error (h : s.look = .error e) :
    s.evaluator = .error e ∨ s.Overflows ∧ e = .misuse .numberTooLarge := by
  rcases Outcome.bind_eq_error_iff.mp h with h | ⟨evaluator, hevaluator, h⟩
  · exact Or.inl h
  · obtain ⟨hover, he⟩ := overflows_of_visibleIn (Evaluator.visibleIn_of_visible h)
    exact Or.inr ⟨⟨evaluator, hevaluator, hover⟩, he⟩

/-- A look that fails leaves everything but the memory of the evaluator. -/
theorem same_looked (h : s.look = .error e) : s.Same s.looked := by
  refine ⟨rfl, rfl, rfl, ?_⟩
  show s.look.toOption.getD s.visible = s.visible
  rw [h]
  rfl

/-! ### Calls that fail -/

/-- A call that fails has put nothing in place, or fails when it looks at the conditions of what it
has put in place, or has taken a form that cannot be compiled. -/
theorem perform_eq_error {c : Config} {call : Call}
    (h : (perform c call).run.run s = (.error e, s')) :
    s' = s ∧ s.placed c call = s ∨
      s' = (s.placed c call).looked ∧ (s.placed c call).look = .error e ∨
      s' = s.placed c call ∧ ∃ schema, call = .rebind schema ∧ schema.compile = .error e := by
  cases call with
  | command command =>
    -- A command has either proposed nothing or placed answers and then failed to look.
    have hrun : (run command).run.run s = (.error e, s') := h
    rw [run_run] at hrun
    unfold placed
    dsimp only
    rcases settle_eq_error hrun with ⟨hp, rfl⟩ | ⟨a, answers, hp, hlook, rfl⟩
    · rw [hp]
      exact Or.inl ⟨rfl, rfl⟩
    · rw [hp]
      exact Or.inr (Or.inl ⟨rfl, hlook⟩)
  | rebind schema =>
    -- A rebinding fails at the compilation, or at the look that follows it.
    rw [run_perform_rebind, run_rebind] at h
    unfold placed
    dsimp only
    cases hcompile : schema.compile with
    | error f =>
      rw [hcompile] at h
      cases h
      exact Or.inr (Or.inr ⟨rfl, schema, rfl, hcompile⟩)
    | ok contract =>
      rw [hcompile] at h
      obtain ⟨hlook, rfl⟩ := Prod.mk.inj h
      exact Or.inr (Or.inl ⟨rfl, Outcome.map_eq_error_iff.mp (Outcome.map_eq_error_iff.mp hlook)⟩)

/-- A call that fails changes nothing exactly when what it has put in place by then was there
before.  Otherwise a condition meets a number beyond the floats, or the new form has a pattern that
cannot be read, or the capacity of the evaluator is no number. -/
theorem same_iff_of_perform_eq_error {c : Config} {call : Call}
    (h : (perform c call).run.run s = (.error e, s')) :
    (s.Same s' ↔ s.Same (s.placed c call)) ∧
      (s.Same s' ∨
        (s.placed c call).Overflows ∧ e = .misuse .numberTooLarge ∨
        (∃ schema, call = .rebind schema ∧ ∃ f ∈ Field.treeList schema.fields, f.Unreadable e) ∨
        (s.placed c call).evaluator = .error e) := by
  -- Of the three ways to fail, the first leaves the session and the other two leave what was
  -- placed.
  rcases perform_eq_error h with ⟨rfl, hplaced⟩ | ⟨rfl, hlook⟩ | ⟨rfl, schema, rfl, hcompile⟩
  · rw [hplaced]
    exact ⟨Iff.rfl, Or.inl (Same.refl s')⟩
  · refine ⟨(same_looked hlook).congr_right, Or.inr ?_⟩
    rcases look_eq_error hlook with hcapacity | hover
    · exact Or.inr (Or.inr hcapacity)
    · exact Or.inl hover
  · refine ⟨Iff.rfl, Or.inr (Or.inr (Or.inl ⟨schema, rfl, ?_⟩))⟩
    exact Schema.unreadable_of_compile hcompile

/-- A form of a section about pets. -/
def petForm : Schema where
  title := "Pets"
  description := ""
  fields := [⟨"pets", .repeatable, "Pets", false, none, none, none, none, none,
    some [⟨"name", .text, "Name", false, none, none, none, none, none, none⟩]⟩]
  settings := ⟨true, true, ""⟩

/-- A pet that is not there cannot be removed, and the session remains as it is. -/
theorem same_of_no_entry :
    ∃ s s', Session.new .standard petForm (.dict [("pets", .list [.dict []])]) = .ok s ∧
      (perform .standard (.command (.removeEntry (.str "pets") (.int 1)))).run.run s =
        (.error (.misuse (.positionOutOfRange true)), s') ∧ s.Same s' := by
  obtain ⟨⟨_, contract, evaluator, _, visible⟩, hs, rfl, rfl⟩ :
      ∃ s, Session.new .standard petForm (.dict [("pets", .list [.dict []])]) = .ok s ∧
        petForm = s.schema ∧ [("pets", .list [.dict []])] = s.answers := ⟨_, rfl, rfl, rfl⟩
  refine ⟨_, _, hs, rfl, ?_⟩
  exact (@same_iff_of_perform_eq_error _ _ _ .standard
    (.command (.removeEntry (.str "pets") (.int 1))) rfl).1.mpr (Same.refl _)

/-- A form of an age, and a note that is asked for from an age on. -/
def ageForm : Schema where
  title := "Ages"
  description := ""
  fields := [⟨"age", .number, "Age", false, none, none, none, none, none, none⟩,
    ⟨"note", .text, "Note", false, none, none, none, none,
      some [⟨"age", .greaterThan, .int 17⟩], none⟩]
  settings := ⟨true, true, ""⟩

/-- Asking whether a number that no float reaches exceeds another one fails. -/
theorem visibleIn_ageForm {n : Int} (h : Binary64.ofInt? n = none) :
    visibleIn ageForm.fields (.dict [("age", .int n), ("note", .str "")]) =
      .error (.misuse .numberTooLarge) := by
  have hage : (Value.int n).asFloat = .error (.misuse .numberTooLarge) := by
    simp only [Value.asFloat, h, misuse]
  have hholds : Operator.greaterThan.holds (.int n) (.int 17) =
      .error (.misuse .numberTooLarge) := by
    show ((Value.int n).asFloat >>= _) = _
    rw [hage]
    rfl
  -- The age is visible without a look at the answers, and then the note is asked about.
  show (((Operator.greaterThan.holds (.int n) (.int 17) >>= _) >>= _) >>= _ :
    Outcome (List String)) = _
  rw [hholds]
  rfl

/-- An age that is beyond the floats. -/
def manyYears : Int := Int.ofNat (Nat.pow 10 400)

/-- An age beyond the floats is kept as the answer, though the call for it fails and the visible
fields are those of the age before. -/
theorem not_same_of_overflow :
    let c : Config := { Config.standard with cacheSize := .int 0 }
    ∃ store s s', Store.replace ageForm = .ok store ∧
      Session.new c store.schema (.dict [("age", .int 20)]) = .ok s ∧
      (perform c (.command (.setAnswer (.str "age") (.int manyYears)))).run.run s =
        (.error (.misuse .numberTooLarge), s') ∧
      s.answers = [("age", .int 20), ("note", .str "")] ∧ s.visible = ["age", "note"] ∧
      s'.answers = [("age", .int manyYears), ("note", .str "")] ∧ s'.visible = ["age", "note"] ∧
      ¬s.Same s' := by
  intro c
  -- The number stays a letter below: nothing about it matters but that it is beyond the floats.
  obtain ⟨n, hn, hbeyond, hne⟩ : ∃ n : Int, n = manyYears ∧ Binary64.ofInt? n = none ∧ n ≠ 20 :=
    ⟨manyYears, rfl, by decide +kernel, by decide +kernel⟩
  rw [← hn]
  obtain ⟨s, hs, hevaluator, hanswers, hvisible, hschema⟩ :
      ∃ s, Session.new c ageForm (.dict [("age", .int 20)]) = .ok s ∧
        s.evaluator = .ok (.new ageForm.fields (.int 0)) ∧
        s.answers = [("age", .int 20), ("note", .str "")] ∧ s.visible = ["age", "note"] ∧
        s.schema = ageForm := ⟨_, rfl, rfl, rfl, rfl, rfl⟩
  have hproposal : s.proposal (.setAnswer (.str "age") (.int n)) =
      .ok (.value .null, some [("age", .int n), ("note", .str "")]) := by
    unfold proposal requireField
    rw [hschema, hanswers]
    rfl
  have hlook : { s with answers := [("age", .int n), ("note", .str "")] }.look =
      .error (.misuse .numberTooLarge) := by
    unfold look
    dsimp only
    rw [hevaluator]
    show ((Evaluator.new ageForm.fields (.int 0)).visible _).2 = _
    have hnames : (Members.names [("age", Value.int n), ("note", .str "")]).Nodup := by
      simp [Members.names]
    rw [Evaluator.visible_new _ _ (.dict _ hnames), visibleIn_ageForm hbeyond]
  refine ⟨_, s, { s with answers := [("age", .int n), ("note", .str "")] }.looked, rfl, hs, ?_,
    hanswers, hvisible, rfl, ?_, ?_⟩
  · unfold perform
    rw [run_run, hproposal]
    unfold settle
    dsimp only
    rw [hlook]
    rfl
  · rw [(same_looked hlook).visible_eq]
    exact hvisible
  · intro hsame
    have heq : [("age", Value.int n), ("note", Value.str "")] = s.answers := hsame.answers_eq
    rw [hanswers] at heq
    simp [hne] at heq

end Questionnaire.Session
