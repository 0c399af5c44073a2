import Questionnaire.Proofs.Session.Run
import Questionnaire.Proofs.Visibility.Memory

/-!
# Sessions and their forms

A session is bound to its form when its contract was made from it (`Session.Bound`), and in step
with a form when besides its visible fields are those of the form for its answers
(`Session.InStep`).

No command of a session changes the form or the contract (`keepsForm_run`), so a bound session
remains bound.  Going on with another form succeeds exactly when the form can be compiled and its
conditions can be decided (`CanGoOn`), and then the session is in step with it
(`run_rebind_eq_ok_iff`).  A session that fails at this may be left with the contract of another
form.
-/

namespace Questionnaire.Session

/-- The contract of the session was made from its form. -/
def Bound (s : Session) : Prop := s.schema.compile = .ok s.contract

/-! ### Commands -/

/-- Settling a proposal touches neither the schema nor the contract. -/
theorem keepsForm_settle {α : Type} (s : Session) (p : Outcome (α × Option (Members Value))) :
    (s.settle p).2.schema = s.schema ∧ (s.settle p).2.contract = s.contract := by
  rcases p with _ | ⟨_, _ | answers⟩
  · exact ⟨rfl, rfl⟩
  · exact ⟨rfl, rfl⟩
  · exact ⟨rfl, rfl⟩

/-- No command changes the form of a session or its contract, also when it fails. -/
theorem keepsForm_run (command : Command) (s : Session) :
    ((run command).run.run s).2.schema = s.schema ∧
      ((run command).run.run s).2.contract = s.contract := by
  rw [run_run]
  exact keepsForm_settle s (s.proposal command)

/-! ### Bound sessions -/

/-- A new session is one that has looked at what is visible for its first answers. -/
theorem new_eq_ok {c : Config} {schema : Schema} {values : Value} {s : Session}
    (h : Session.new c schema values = .ok s) :
    s.schema = schema ∧ schema.compile = .ok s.contract ∧
      initialAnswers schema values = .ok s.answers ∧
      ∃ capacity, c.capacity = .ok capacity ∧
        let looked := (Evaluator.new schema.fields capacity).visible (.dict s.answers)
        s.evaluator = .ok looked.1 ∧ looked.2 = .ok s.visible := by
  obtain ⟨contract, hcontract, h⟩ := Outcome.bind_eq_ok_iff.mp h
  obtain ⟨answers, hanswers, h⟩ := Outcome.bind_eq_ok_iff.mp h
  obtain ⟨capacity, hcapacity, h⟩ := Outcome.bind_eq_ok_iff.mp h
  obtain ⟨visible, hvisible, h⟩ := Outcome.bind_eq_ok_iff.mp h
  obtain rfl := Outcome.pure_eq_ok_iff.mp h
  exact ⟨rfl, hcontract, hanswers, capacity, hcapacity, rfl, hvisible⟩

/-- A new session holds the contract of its schema. -/
theorem bound_of_new {c : Config} {schema : Schema} {values : Value} {s : Session}
    (h : Session.new c schema values = .ok s) : s.Bound := by
  obtain ⟨rfl, hcontract, _⟩ := new_eq_ok h
  exact hcontract

/-! ### Another form -/

/-- The session has a form with its contract, and knows what is visible of it for its answers. -/
structure InStep (s : Session) (schema : Schema) : Prop where
  schema_eq : s.schema = schema
  compiled : schema.compile = .ok s.contract
  visible_eq : visibleIn schema.fields (.dict s.answers) = .ok s.visible

/-- Nothing keeps a session from going on with a form. -/
structure CanGoOn (s : Session) (c : Config) (schema : Schema) : Prop where
  compiles : ∃ contract, schema.compile = .ok contract
  remembers : ∃ capacity, c.capacity = .ok capacity
  decides : ∃ found, visibleIn schema.fields (.dict (s.carried schema)) = .ok found

/-- What is carried over is a mapping without repeated names. -/
theorem isAnswers_carried (s : Session) (schema : Schema) :
    IsAnswers (.dict (s.carried schema)) :=
  .dict _ (Members.nodup_names_ofPairs _)

/-- A session bound anew looks with an empty memory: what it sees is what the carried answers show.
-/
theorem look_boundTo (s : Session) (c : Config) (schema : Schema) (contract : Contract) :
    (s.boundTo c schema contract).look =
      (c.capacity >>= fun _ => visibleIn schema.fields (.dict (s.carried schema))) := by
  show (c.capacity.map (Evaluator.new schema.fields) >>= fun evaluator =>
    (evaluator.visible (.dict (s.carried schema))).2) = _
  cases c.capacity with
  | error f => rfl
  | ok capacity => exact Evaluator.visible_new schema.fields capacity (s.isAnswers_carried schema)

/-- Going on with a form succeeds iff nothing keeps the session from it. -/
theorem run_rebind_eq_ok_iff {c : Config} {schema : Schema} {s s' : Session} :
    (rebind c schema).run.run s = (.ok (), s') ↔ s.CanGoOn c schema ∧
      ∃ contract, schema.compile = .ok contract ∧ s' = (s.boundTo c schema contract).looked := by
  rw [run_rebind]
  -- Three things can stop a rebinding, in this order: the compilation, the cache size and the look.
  cases hcompile : schema.compile with
  | error f =>
    constructor
    · intro h
      cases h
    · rintro ⟨⟨⟨_, hcontract⟩, _, _⟩, _⟩
      rw [hcompile] at hcontract
      cases hcontract
  | ok contract =>
    dsimp only
    rw [look_boundTo, Prod.mk.injEq]
    constructor
    · rintro ⟨hlook, rfl⟩
      cases hcapacity : c.capacity with
      | error f =>
        rw [hcapacity] at hlook
        cases hlook
      | ok capacity =>
        cases hfound : visibleIn schema.fields (.dict (s.carried schema)) with
        | error f =>
          rw [hcapacity, hfound] at hlook
          cases hlook
        | ok found =>
          exact ⟨⟨⟨contract, hcompile⟩, ⟨capacity, hcapacity⟩, found, hfound⟩, contract, rfl, rfl⟩
    · rintro ⟨⟨_, ⟨capacity, hcapacity⟩, found, hfound⟩, _, hcontract, rfl⟩
      cases hcontract
      rw [hcapacity, hfound]
      exact ⟨rfl, rfl⟩

/-- A session that can go on rebinds without an error. -/
theorem CanGoOn.run_rebind {c : Config} {schema : Schema} {s : Session} (h : s.CanGoOn c schema) :
    (rebind c schema).run.run s = (.ok (), ((rebind c schema).run.run s).2) := by
  obtain ⟨contract, hcompile⟩ := h.compiles
  rw [run_rebind_eq_ok_iff.mpr ⟨h, contract, hcompile, rfl⟩]

/-- A session that went on with a form is in step with it and has its answers carried over. -/
theorem inStep_of_rebind {c : Config} {schema : Schema} {s s' : Session}
    (h : (rebind c schema).run.run s = (.ok (), s')) :
    s'.InStep schema ∧ s'.answers = s.carried schema := by
  obtain ⟨⟨_, ⟨capacity, hcapacity⟩, found, hfound⟩, contract, hcompile, rfl⟩ :=
    run_rebind_eq_ok_iff.mp h
  have hlook : (s.boundTo c schema contract).look = .ok found := by
    rw [look_boundTo, hcapacity]
    exact hfound
  refine ⟨⟨rfl, hcompile, ?_⟩, rfl⟩
  show visibleIn schema.fields (.dict (s.carried schema)) =
    .ok ((s.boundTo c schema contract).look.toOption.getD s.visible)
  rw [hlook]
  exact hfound

end Questionnaire.Session
