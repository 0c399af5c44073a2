import Questionnaire.Proofs.Outcome
import Questionnaire.Session.Command

/-!
# What the operations of a session do

An operation works in two stages.  It first finds out what is to be in place, and while it does so
nothing has changed; then it puts that in place and looks at what is visible, and when it fails at
this, what was put in place remains.

For a command the first stage is `proposal`, and `run_run` says that a command settles what it
proposes.  `run_rebind` says the same of going on with another form, which has a stage between the
two: the form is taken before its contract is made.
-/

namespace Questionnaire.Session

variable {α β : Type}

/-! ### Looking -/

/-- The visible fields for the answers that are in place. -/
def look (s : Session) : Outcome (List String) := do
  let evaluator ← s.evaluator
  (evaluator.visible (.dict s.answers)).2

/-- The session after a look; if that fails, the visible fields remain what they were. -/
def looked (s : Session) : Session := { s with
  evaluator := s.evaluator.map fun e => (e.visible (.dict s.answers)).1
  visible := s.look.toOption.getD s.visible }

/-! ### Steps -/

/-- Reading the session hands it on. -/
theorem run_get_bind (f : Session → InSession α) (s : Session) :
    ((get : InSession Session) >>= f).run.run s = (f s).run.run s := rfl

theorem run_modify_bind (g : Session → Session) (f : Unit → InSession α) (s : Session) :
    ((modify g : InSession Unit) >>= f).run.run s = (f ()).run.run (g s) := rfl

theorem run_lift_bind (o : Outcome α) (f : α → InSession β) (s : Session) :
    (InSession.ofOutcome o >>= f).run.run s = match o with
      | .error e => (.error e, s)
      | .ok a => (f a).run.run s := by
  cases o with
  | error e => rfl
  | ok a => rfl

/-- Recomputing leaves the session that has looked, whether or not the look gave a set. -/
theorem run_recompute (s : Session) :
    recompute.run.run s = (s.look.map fun _ => (), s.looked) := by
  obtain ⟨schema, contract, e, answers, visible⟩ := s
  unfold recompute
  rw [run_get_bind, run_lift_bind]
  cases e with
  | error f => rfl
  | ok e =>
    have hlook : look ⟨schema, contract, .ok e, answers, visible⟩ = (e.visible (.dict answers)).2 :=
      rfl
    unfold looked
    rw [hlook]
    dsimp only [Except.map]
    -- The evaluator keeps what it remembers also when it fails.
    rcases e.visible (.dict answers) with ⟨_, _ | _⟩
    · rfl
    · rfl

/-! ### Another form -/

/-- The session over another form with a contract, before it looks at what is visible. -/
def boundTo (s : Session) (c : Config) (schema : Schema) (contract : Contract) : Session :=
  { s with
    schema, contract
    evaluator := c.capacity.map (.new schema.fields)
    answers := s.carried schema }

/-- Rebinding stops after the new schema has been taken where that does not compile, and ends with a
look at the carried answers where it does. -/
theorem run_rebind (c : Config) (schema : Schema) (s : Session) :
    (rebind c schema).run.run s = match schema.compile with
      | .error f => (.error f, { s with schema })
      | .ok contract =>
        ((s.boundTo c schema contract).look.map fun _ => (),
          (s.boundTo c schema contract).looked) := by
  unfold rebind bind
  rw [run_run_bind, run_modify_bind, run_lift_bind]
  cases schema.compile with
  | error f => rfl
  | ok contract => exact run_recompute (s.boundTo c schema contract)

/-! ### Commands -/

/-- What becomes of a proposal: if there are new answers, they are put in place, and then the
session looks at what is visible. -/
def settle (s : Session) : Outcome (α × Option (Members Value)) → Outcome α × Session
  | .error f => (.error f, s)
  | .ok (a, none) => (.ok a, s)
  | .ok (a, some answers) => ({ s with answers }.look.map fun _ => a, { s with answers }.looked)

/-- A computation that proposes nothing to store leaves the session. -/
theorem settle_map_none (s : Session) (o : Outcome α) : s.settle (o.map (·, none)) = (o, s) := by
  cases o with
  | error f => rfl
  | ok a => rfl

/-- A proposal that fails does so before anything is in place, or in the look that follows. -/
theorem settle_eq_error {s s' : Session} {p : Outcome (α × Option (Members Value))} {e : Fault}
    (h : s.settle p = (.error e, s')) :
    p = .error e ∧ s' = s ∨ ∃ a answers, p = .ok (a, some answers) ∧
      { s with answers }.look = .error e ∧ s' = { s with answers }.looked := by
  rcases p with f | ⟨a, _ | answers⟩
  · cases h
    exact Or.inl ⟨rfl, rfl⟩
  · cases h
  · obtain ⟨hlook, rfl⟩ := Prod.mk.inj h
    exact Or.inr ⟨a, answers, rfl, Outcome.map_eq_error_iff.mp hlook, rfl⟩

/-- What a command proposes: what it is going to answer, and the new answers that it wants in place,
if it wants any. -/
def proposal (s : Session) : Command → Outcome (Answer × Option (Members Value))
  | .setAnswer id v => do
    let f ← s.requireField id
    pure (.value .null, some (s.answers.put f.id v))
  | .updateAnswers values => do
    s.requireFields (← values.iterate)
    pure (.value .null, some (Members.overlay s.answers (← values.toMembers)))
  | .addEntry id => do
    let f ← s.requireSection id
    if ← s.canAddEntry id then
      let entry := Value.dict (Members.ofPairs (f.children.map fun c => (c.id, .null)))
      let entries ← s.entries id
      pure (.value (.bool true), some (s.answers.put f.id (.list (entries ++ [entry]))))
    else pure (.value (.bool false), none)
  | .removeEntry id index => do
    if ← s.canRemoveEntry id then
      let f ← s.requireSection id
      let entries ← s.entries id
      let n ← resolveIndex index entries.length true
      pure (.value (.bool true), some (s.answers.put f.id (.list (entries.eraseIdx n))))
    else pure (.value (.bool false), none)
  | .setEntryAnswer id index sub v => do
    let f ← s.requireSection id
    match f.child? sub with
    | none => refuse (.noChild sub)
    | some c =>
      let entries ← s.entries id
      let n ← resolveIndex index entries.length false
      let entry ← ((entries[n]?).getD .null).toMembers
      let entries := entries.set n (.dict (entry.put c.id v))
      pure (.value .null, some (s.answers.put f.id (.list entries)))
  | command => ((run command).run.run s).1.map (·, none)

/-- A step that may fail comes before what is settled. -/
theorem run_lift_bind_eq_settle {o : Outcome α} {f : α → InSession β} {s : Session}
    {p : α → Outcome (β × Option (Members Value))} (h : ∀ a, (f a).run.run s = s.settle (p a)) :
    (InSession.ofOutcome o >>= f).run.run s = s.settle (o >>= p) := by
  rw [run_lift_bind]
  cases o with
  | error e => rfl
  | ok a => exact h a

/-- Putting answers in place and looking settles a proposal of them. -/
theorem run_place_bind (g : Members Value → Members Value) (a : α) (s : Session) :
    ((do
      modify fun s => { s with answers := g s.answers }
      recompute
      pure a) : InSession α).run.run s = s.settle (.ok (a, some (g s.answers))) := by
  rw [run_modify_bind, run_run_bind, run_recompute]
  unfold settle
  dsimp only
  cases { s with answers := g s.answers }.look with
  | error f => rfl
  | ok found => rfl

/-- A command that only tells something about the session proposes nothing. -/
theorem run_view_eq_settle (f : Session → Outcome α) (g : α → β) (s : Session) :
    let view : InSession β := do
      let a ← InSession.ofOutcome (f (← get))
      pure (g a)
    view.run.run s = s.settle ((view.run.run s).1.map (·, none)) := by
  intro view
  have hview : view.run.run s = ((f s).map g, s) := by
    show ((get : InSession Session) >>= fun s => InSession.ofOutcome (f s) >>= fun a =>
      pure (g a)).run.run s = _
    rw [run_get_bind, run_lift_bind]
    cases f s with
    | error e => rfl
    | ok a => rfl
  rw [hview, settle_map_none]

/-- A command settles what it proposes. -/
theorem run_run (command : Command) (s : Session) :
    (run command).run.run s = s.settle (s.proposal command) := by
  -- Five commands end by placing answers and the others only look. Each proof follows its command
  -- statement by statement: whatever fails on the way fails before anything is stored.
  cases command with
  | setAnswer id v =>
    show (setAnswer id v >>= fun _ => pure (Answer.value .null)).run.run s = _
    unfold setAnswer put
    rw [bind_assoc, run_get_bind, bind_assoc]
    refine run_lift_bind_eq_settle fun f => ?_
    exact run_place_bind (fun answers => answers.put f.id v) _ s
  | updateAnswers values =>
    show (updateAnswers values >>= fun _ => pure (Answer.value .null)).run.run s = _
    unfold updateAnswers
    simp only [bind_assoc]
    rw [run_get_bind]
    refine run_lift_bind_eq_settle fun ids => ?_
    refine run_lift_bind_eq_settle fun _ => ?_
    refine run_lift_bind_eq_settle fun given => ?_
    exact run_place_bind (fun answers => answers.overlay given) _ s
  | addEntry id =>
    show (addEntry id >>= fun b => pure (Answer.value (.bool b))).run.run s = _
    unfold addEntry put
    rw [bind_assoc, run_get_bind, bind_assoc]
    refine run_lift_bind_eq_settle fun f => ?_
    rw [bind_assoc]
    refine run_lift_bind_eq_settle fun free => ?_
    cases free with
    | false => rfl
    | true =>
      -- Only a section with room gets as far as placing the entry.
      let entry := Value.dict (Members.ofPairs (f.children.map fun c => (c.id, .null)))
      simp only [if_true, bind_assoc, pure_bind]
      refine run_lift_bind_eq_settle fun entries => ?_
      exact run_place_bind (fun answers => answers.put f.id (.list (entries ++ [entry]))) _ s
  | removeEntry id index =>
    show (removeEntry id index >>= fun b => pure (Answer.value (.bool b))).run.run s = _
    unfold removeEntry put
    rw [bind_assoc, run_get_bind, bind_assoc]
    refine run_lift_bind_eq_settle fun free => ?_
    cases free with
    | false => rfl
    | true =>
      simp only [if_true, bind_assoc, pure_bind]
      refine run_lift_bind_eq_settle fun f => ?_
      refine run_lift_bind_eq_settle fun entries => ?_
      refine run_lift_bind_eq_settle fun n => ?_
      exact run_place_bind (fun answers => answers.put f.id (.list (entries.eraseIdx n))) _ s
  | setEntryAnswer id index sub v =>
    show (setEntryAnswer id index sub v >>= fun _ => pure (Answer.value .null)).run.run s = _
    unfold setEntryAnswer put
    rw [bind_assoc, run_get_bind, bind_assoc]
    refine run_lift_bind_eq_settle fun f => ?_
    cases f.child? sub with
    | none => rfl
    | some c =>
      simp only [bind_assoc]
      refine run_lift_bind_eq_settle fun entries => ?_
      refine run_lift_bind_eq_settle fun n => ?_
      refine run_lift_bind_eq_settle fun entry => ?_
      exact run_place_bind
        (fun answers => answers.put f.id (.list (entries.set n (.dict (entry.put c.id v))))) _ s
  -- The views propose nothing to store.
  | isVisible id => exact run_view_eq_settle (·.isVisible id) (fun b => Answer.value (.bool b)) s
  | getAnswer id => exact run_view_eq_settle (·.answerAt id) Answer.value s
  | entries id => exact run_view_eq_settle (·.entries id) (fun vs => Answer.value (.list vs)) s
  | canAddEntry id =>
    exact run_view_eq_settle (·.canAddEntry id) (fun b => Answer.value (.bool b)) s
  | canRemoveEntry id =>
    exact run_view_eq_settle (·.canRemoveEntry id) (fun b => Answer.value (.bool b)) s
  | validate => exact run_view_eq_settle (·.validate) Answer.report s
  | submit => exact run_view_eq_settle (·.submit) Answer.submission s
  | contract => rfl

/-! ### Calls -/

/-- What can be called on a session. -/
inductive Call where
  | command (command : Command)
  /-- To go on with another form. -/
  | rebind (schema : Schema)

/-- Does what is called. -/
def perform (c : Config) : Call → InSession Answer
  | .command command => run command
  | .rebind schema => do
    rebind c schema
    pure (.value .null)

/-- Rebinding as a call gives no value and goes on as rebinding does. -/
theorem run_perform_rebind (c : Config) (schema : Schema) (s : Session) :
    (perform c (.rebind schema)).run.run s =
      (((rebind c schema).run.run s).1.map fun _ => .value .null,
        ((rebind c schema).run.run s).2) := by
  unfold perform
  dsimp only
  rw [run_run_bind]
  rcases (rebind c schema).run.run s with ⟨f | _, t⟩
  · rfl
  · rfl

end Questionnaire.Session
