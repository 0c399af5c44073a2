import Questionnaire.Builder.Command
import Questionnaire.Proofs.Store.Commit

/-!
# What an accepted command of the builder does

Every command of the builder that makes a store ends in one commit of the store it works on, except
a reset and an import, which it hands on to the store (`run_gives`).  So a builder reaches no store
that the commands of the store do not reach in one step.
-/

namespace Questionnaire.Builder

/-- Whether a command starts a new ledger when it is accepted. -/
def Command.begins : Command → Bool
  | .store command => command.begins
  | _ => false

variable {s t : Store} {ids ids' : IdSource}

/-! ### Changes without new ids -/

theorem committed_of_putAt {place : Place} {g : Field} (h : s.putAt place g = .ok t) :
    s.Committed t := by
  unfold Store.putAt at h
  split at h
  · exact Store.committed_of_commit h
  · exact Store.committed_of_commit h

theorem committed_of_moveField {id index : Value} (h : moveField s id index = .ok t) :
    s.Committed t := by
  unfold moveField at h
  split at h
  · exact absurd h Outcome.refuse_ne_ok
  · obtain ⟨n, _, h⟩ := Outcome.bind_eq_ok_iff.mp h
    exact Store.committed_of_commit h

theorem committed_of_updateSubField {parent id changes : Value}
    (h : updateSubField s parent id changes = .ok t) : s.Committed t := by
  obtain ⟨p, _, h⟩ := Outcome.bind_eq_ok_iff.mp h
  obtain ⟨f, _, h⟩ := Outcome.bind_eq_ok_iff.mp h
  obtain ⟨changes, _, h⟩ := Outcome.bind_eq_ok_iff.mp h
  split at h
  · exact absurd h Outcome.refuse_ne_ok
  · split at h
    · exact committed_of_putAt h
    · exact absurd h Outcome.refuse_ne_ok

theorem committed_of_updateField {id changes : Value} (h : updateField s id changes = .ok t) :
    s.Committed t := by
  obtain ⟨place, _, h⟩ := Outcome.bind_eq_ok_iff.mp h
  split at h
  · exact committed_of_updateSubField h
  · obtain ⟨changes, _, h⟩ := Outcome.bind_eq_ok_iff.mp h
    exact Store.committed_of_commit_bind h

theorem committed_of_updateConstraint {id name value : Value}
    (h : updateConstraint s id name value = .ok t) : s.Committed t := by
  obtain ⟨_, _, h⟩ := Outcome.bind_eq_ok_iff.mp h
  split at h
  · exact committed_of_updateField h
  · obtain ⟨_, _, h⟩ := Outcome.bind_eq_ok_iff.mp h
    exact absurd h Outcome.refuse_ne_ok

theorem committed_of_removeSubField {parent id : Value} (h : removeSubField s parent id = .ok t) :
    s.Committed t := by
  obtain ⟨p, _, h⟩ := Outcome.bind_eq_ok_iff.mp h
  obtain ⟨f, _, h⟩ := Outcome.bind_eq_ok_iff.mp h
  exact committed_of_putAt h

theorem committed_of_removeField {id : Value} (h : removeField s id = .ok t) : s.Committed t := by
  obtain ⟨place, _, h⟩ := Outcome.bind_eq_ok_iff.mp h
  split at h
  · exact committed_of_removeSubField h
  · exact Store.committed_of_commit_bind h

theorem committed_of_updateOption {id option label : Value}
    (h : updateOption s id option label = .ok t) : s.Committed t := by
  obtain ⟨place, _, h⟩ := Outcome.bind_eq_ok_iff.mp h
  obtain ⟨o, _, h⟩ := Outcome.bind_eq_ok_iff.mp h
  obtain ⟨value, _, h⟩ := Outcome.bind_eq_ok_iff.mp h
  exact committed_of_putAt h

theorem committed_of_removeOption {id option : Value} (h : removeOption s id option = .ok t) :
    s.Committed t := by
  obtain ⟨place, _, h⟩ := Outcome.bind_eq_ok_iff.mp h
  obtain ⟨o, _, h⟩ := Outcome.bind_eq_ok_iff.mp h
  exact committed_of_putAt h

theorem committed_of_addCondition {id source operator value : Value} {n : Nat}
    (h : addCondition s id source operator value = .ok (t, n)) : s.Committed t := by
  obtain ⟨f, _, h⟩ := Outcome.bind_eq_ok_iff.mp h
  obtain ⟨source, _, h⟩ := Outcome.bind_eq_ok_iff.mp h
  obtain ⟨condition, _, h⟩ := Outcome.bind_eq_ok_iff.mp h
  obtain ⟨t', ht, h⟩ := Outcome.bind_eq_ok_iff.mp h
  obtain ⟨rfl, _⟩ := Prod.mk.inj (Outcome.pure_eq_ok_iff.mp h)
  exact committed_of_putAt ht

theorem committed_of_updateCondition {id index changes : Value}
    (h : updateCondition s id index changes = .ok t) : s.Committed t := by
  obtain ⟨f, _, h⟩ := Outcome.bind_eq_ok_iff.mp h
  obtain ⟨n, _, h⟩ := Outcome.bind_eq_ok_iff.mp h
  obtain ⟨changes, _, h⟩ := Outcome.bind_eq_ok_iff.mp h
  split at h
  · exact committed_of_putAt h
  · exact absurd h Outcome.refuse_ne_ok

theorem committed_of_removeCondition {id index : Value} (h : removeCondition s id index = .ok t) :
    s.Committed t := by
  obtain ⟨f, _, h⟩ := Outcome.bind_eq_ok_iff.mp h
  obtain ⟨n, _, h⟩ := Outcome.bind_eq_ok_iff.mp h
  exact committed_of_putAt h

/-! ### Changes with new ids -/

variable {c : Config} {new : String}

theorem committed_of_addField {type : Value} (h : (addField c s type).Gives ids (t, new) ids') :
    s.Committed t := by
  unfold addField at h
  simp only [Drawing.gives_bind_iff, Drawing.gives_lift_iff, Drawing.gives_pure_iff] at h
  obtain ⟨type, _, _, f, _, _, t', _, ⟨ht, _⟩, h, _⟩ := h
  obtain ⟨rfl, _⟩ := Prod.mk.inj h
  exact Store.committed_of_commit ht

theorem committed_of_addSubField {parent type : Value}
    (h : (addSubField c s parent type).Gives ids (t, new) ids') : s.Committed t := by
  unfold addSubField at h
  simp only [Drawing.gives_bind_iff, Drawing.gives_lift_iff, Drawing.gives_pure_iff,
    Drawing.gives_guard_iff] at h
  obtain ⟨p, _, _, type, _, _, _, f, _, _, t', _, ⟨ht, _⟩, h, _⟩ := h
  obtain ⟨rfl, _⟩ := Prod.mk.inj h
  exact committed_of_putAt ht

theorem committed_of_addNumbered {place : Place} {word title : String} {n : Nat}
    {isColumn : Option Bool}
    (h : (addNumbered c s place word title n isColumn).Gives ids (t, new) ids') :
    s.Committed t := by
  unfold addNumbered at h
  simp only [Drawing.gives_bind_iff, Drawing.gives_lift_iff, Drawing.gives_pure_iff] at h
  obtain ⟨id, _, _, t', _, ⟨ht, _⟩, h, _⟩ := h
  obtain ⟨rfl, _⟩ := Prod.mk.inj h
  exact committed_of_putAt ht

theorem committed_of_addOption {id : Value} (h : (addOption c s id).Gives ids (t, new) ids') :
    s.Committed t := by
  obtain ⟨place, _, _, h⟩ := Drawing.gives_bind_iff.mp h
  exact committed_of_addNumbered h

theorem committed_of_addRow {id : Value} (h : (addRow c s id).Gives ids (t, new) ids') :
    s.Committed t := by
  obtain ⟨place, _, _, h⟩ := Drawing.gives_bind_iff.mp h
  obtain ⟨_, h⟩ := Drawing.gives_guard_iff.mp h
  exact committed_of_addNumbered h

theorem committed_of_addColumn {id : Value} (h : (addColumn c s id).Gives ids (t, new) ids') :
    s.Committed t := by
  obtain ⟨place, _, _, h⟩ := Drawing.gives_bind_iff.mp h
  obtain ⟨_, h⟩ := Drawing.gives_guard_iff.mp h
  exact committed_of_addNumbered h

/-! ### Commands -/

/-- Where a command ends with a change that draws no words, its effect is the new store. -/
theorem store_of_gives_silent {o : Outcome Store} {e : Effect}
    (h : (do pure (Effect.silent (← liftM o)) : Drawing Effect).Gives ids e ids')
    (ht : e.store? = some t) : o = .ok t := by
  simp only [Drawing.gives_bind_iff, Drawing.gives_lift_iff, Drawing.gives_pure_iff] at h
  obtain ⟨t', _, ⟨ho, _⟩, rfl, _⟩ := h
  rw [ho, show t' = t from Option.some.inj ht]

/-- Where a command ends with a change that draws words, its effect is the new store. -/
theorem store_of_gives_named {d : Drawing (Store × String)} {e : Effect}
    (h : (do pure (Effect.named (← d)) : Drawing Effect).Gives ids e ids')
    (ht : e.store? = some t) : ∃ new mid, d.Gives ids (t, new) mid := by
  simp only [Drawing.gives_bind_iff, Drawing.gives_pure_iff] at h
  obtain ⟨⟨t', new⟩, mid, hd, rfl, _⟩ := h
  obtain rfl : t' = t := Option.some.inj ht
  exact ⟨new, mid, hd⟩

/-- Where a command ends with an answer only, there is no new store. -/
theorem store?_of_gives_answering {α : Type} {d : Drawing α} {f : α → Value} {e : Effect}
    (h : (do pure (Effect.answering (f (← d))) : Drawing Effect).Gives ids e ids') :
    e.store? = none := by
  simp only [Drawing.gives_bind_iff, Drawing.gives_pure_iff] at h
  obtain ⟨_, _, _, rfl, _⟩ := h
  rfl

/-- A store that an accepted command makes has its form with a new ledger or within the lifetime of
the old one. -/
theorem run_gives {command : Command} {e : Effect} (h : (run c s command).Gives ids e ids')
    (ht : e.store? = some t) : if command.begins then t.Begun else s.Committed t := by
  -- Each command is inverted by its own lemma. What differs is the form of the answer: a silent
  -- command gives the store alone, one that makes something also the identifier of what it made.
  cases command with
  | store command => exact Store.run_eq_ok (store_of_gives_silent h ht)
  | exportSchema =>
    obtain ⟨rfl, _⟩ := Drawing.gives_pure_iff.mp h
    cases ht
  | moveField id index => exact committed_of_moveField (store_of_gives_silent h ht)
  -- A command that only answers proposes no store.
  | generateId taken =>
    rw [store?_of_gives_answering h] at ht
    cases ht
  | addField type =>
    obtain ⟨_, _, h⟩ := store_of_gives_named h ht
    exact committed_of_addField h
  | updateField id changes => exact committed_of_updateField (store_of_gives_silent h ht)
  | updateConstraint id name value =>
    exact committed_of_updateConstraint (store_of_gives_silent h ht)
  | removeField id => exact committed_of_removeField (store_of_gives_silent h ht)
  | addSubField parent type =>
    obtain ⟨_, _, h⟩ := store_of_gives_named h ht
    exact committed_of_addSubField h
  | updateSubField parent id changes =>
    exact committed_of_updateSubField (store_of_gives_silent h ht)
  | removeSubField parent id => exact committed_of_removeSubField (store_of_gives_silent h ht)
  | addOption id =>
    obtain ⟨_, _, h⟩ := store_of_gives_named h ht
    exact committed_of_addOption h
  | updateOption id option label => exact committed_of_updateOption (store_of_gives_silent h ht)
  | removeOption id option => exact committed_of_removeOption (store_of_gives_silent h ht)
  | addRow id =>
    obtain ⟨_, _, h⟩ := store_of_gives_named h ht
    exact committed_of_addRow h
  | addColumn id =>
    obtain ⟨_, _, h⟩ := store_of_gives_named h ht
    exact committed_of_addColumn h
  -- So does the list of operators.
  | availableOperators source =>
    rw [store?_of_gives_answering (f := fun os : List Operator => .texts (os.map (·.name))) h] at ht
    cases ht
  | addCondition id source operator value =>
    obtain ⟨⟨t', n⟩, _, ho, h⟩ := Drawing.gives_bind_iff.mp h
    obtain ⟨rfl, _⟩ := Drawing.gives_pure_iff.mp h
    obtain rfl : t' = t := Option.some.inj ht
    exact committed_of_addCondition (Drawing.gives_lift_iff.mp ho).1
  | updateCondition id index changes =>
    exact committed_of_updateCondition (store_of_gives_silent h ht)
  | removeCondition id index => exact committed_of_removeCondition (store_of_gives_silent h ht)

end Questionnaire.Builder
