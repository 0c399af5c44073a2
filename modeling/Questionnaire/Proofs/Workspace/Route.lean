import Questionnaire.Proofs.Builder.Handing
import Questionnaire.Workspace

/-!
# The ways of commands through a workspace

In a workspace a command of the builder goes a long way, by other commands, down to the one command of
the store in which it ends.  `Builder.run` says at once what it makes of a store.  The two agree on
every lawful store (`Designing.realizes_run`): the command draws the same words, and either it fails
in the same way before anything else has changed, or the store that it makes is taken up and
announced, which is the last thing that it does.

`Workspace.Realizes` is this relation between a computation over a workspace and an account of what it
makes.  It goes through the steps of both that only look at the workspace or draw words, so each
command needs a proof in its own shape.  Nothing is assumed of what the listeners do.
-/

namespace Questionnaire

namespace Workspace

variable {hear : Hearing} {w : Workspace} {α β γ : Type}

/-! ### Steps that do not announce -/

/-- Reading the workspace hands it on. -/
theorem run_get (w : Workspace) : (get : InWorkspace Workspace).run.run w = (.ok w, w) := rfl

/-- Drawing identifiers uses some of them up and leaves the rest of the workspace. -/
theorem run_ofDrawing (d : Drawing α) (w : Workspace) :
    (InWorkspace.ofDrawing d).run.run w =
      ((d.run.run w.ids).1, { w with ids := (d.run.run w.ids).2 }) := rfl

/-! ### Accounts -/

/-- In a workspace, a computation does what an account of it says: it draws the same words, fails in
the same way and has changed nothing else then, and otherwise takes up the store that the account
makes, if it makes one, and gives an answer. -/
def Realizes (hear : Hearing) (w : Workspace) (d : InWorkspace α) (x : Drawing β)
    (effect : β → Option Store × α) : Prop :=
  d.run.run w = match x.run.run w.ids with
    | (.error e, ids) => (.error e, { w with ids })
    | (.ok b, ids) =>
      match effect b with
      | (none, a) => (.ok a, { w with ids })
      | (some t, a) => (do takeUp hear t; pure a : InWorkspace α).run.run { w with ids }

namespace Realizes

variable {d : InWorkspace α} {x : Drawing β} {effect : β → Option Store × α}

/-- A computation that has read the workspace goes on from there. -/
theorem get_bind {f : Workspace → InWorkspace α} (h : Realizes hear w (f w) x effect) :
    Realizes hear w (get >>= f) x effect := by
  unfold Realizes
  rw [run_run_bind, run_get]
  exact h

/-- Failing realizes failing. -/
theorem throw (e : Fault) (effect : β → Option Store × α) :
    Realizes hear w (throw e) (throw e) effect := rfl

/-- Refusing realizes a refusal. -/
theorem refuse (r : Refusal) (effect : β → Option Store × α) :
    Realizes hear w (MonadExcept.throw (.refusal r)) (liftM (refuse r : Outcome β)) effect := rfl

/-- A step that only looks is the same in the account. -/
theorem lift_bind {o : Outcome γ} {f : γ → InWorkspace α} {g : γ → Drawing β}
    (h : ∀ c, o = .ok c → Realizes hear w (f c) (g c) effect) :
    Realizes hear w (liftM o >>= f) (liftM o >>= g) effect := by
  cases o with
  | error e => rfl
  | ok c => exact h c rfl

/-- A step that only looks is the same in an account that draws no words. -/
theorem outcome_bind {o : Outcome γ} {f : γ → InWorkspace α} {g : γ → Outcome β}
    (h : ∀ c, o = .ok c → Realizes hear w (f c) (liftM (g c)) effect) :
    Realizes hear w (liftM o >>= f) (liftM (o >>= g)) effect := by
  cases o with
  | error e => rfl
  | ok c => exact h c rfl

/-- Words that are drawn are drawn in the account. -/
theorem draw_bind {y : Drawing γ} {f : γ → InWorkspace α} {g : γ → Drawing β}
    (h : ∀ c ids, y.Gives w.ids c ids → Realizes hear { w with ids } (f c) (g c) effect) :
    Realizes hear w (InWorkspace.ofDrawing y >>= f) (y >>= g) effect := by
  unfold Realizes
  rw [run_run_bind, run_ofDrawing, run_run_bind]
  rcases hy : y.run.run w.ids with ⟨e | c, ids⟩
  · rfl
  · exact h c ids hy

/-- At the end, an answer is made of the one before it, and named in the account. -/
theorem ending {δ : Type} {k : α → γ} {m : β → δ} {effect' : δ → Option Store × γ}
    (h : Realizes hear w d x effect) (heffect : ∀ b, effect' (m b) = ((effect b).1, k (effect b).2)) :
    Realizes hear w (do pure (k (← d))) (do pure (m (← x))) effect' := by
  unfold Realizes at h ⊢
  rw [run_run_bind, h, run_run_bind]
  rcases x.run.run w.ids with ⟨e | b, ids⟩
  · rfl
  · have hnamed : (pure (m b) : Drawing δ).run.run ids = (.ok (m b), ids) := rfl
    dsimp only
    rw [hnamed]
    dsimp only
    rw [heffect]
    -- The proposed store, if there is one, is taken up before the answer is given.
    rcases effect b with ⟨_ | t, a⟩
    · rfl
    · dsimp only
      rw [run_run_bind, run_run_bind]
      rcases (takeUp hear t).run.run { w with ids } with ⟨_ | _, _⟩
      · rfl
      · rfl

/-- The same at the end of an account that draws no words. -/
theorem outcome_ending {δ : Type} {k : α → γ} {o : Outcome β} {m : β → δ}
    {effect' : δ → Option Store × γ} (h : Realizes hear w d (liftM o) effect)
    (heffect : ∀ b, effect' (m b) = ((effect b).1, k (effect b).2)) :
    Realizes hear w (do pure (k (← d))) (liftM (do pure (m (← o)) : Outcome δ)) effect' := by
  have hending := h.ending (m := m) heffect
  cases o with
  | error e => exact hending
  | ok b => exact hending

end Realizes

/-- A computation without an answer makes a store and takes it up, or fails. -/
abbrev Makes (hear : Hearing) (w : Workspace) (d : InWorkspace Unit) (o : Outcome Store) : Prop :=
  Realizes hear w d (liftM o) fun t => (some t, ())

/-- A store that is made is taken up. -/
theorem makes_takeUp (o : Outcome Store) : Makes hear w (do takeUp hear (← o)) o := by
  cases o with
  | error e => rfl
  | ok t =>
    show (takeUp hear t).run.run w = (do takeUp hear t; pure () : InWorkspace Unit).run.run w
    rw [bind_pure_unit]

end Workspace

/-! ### Commands of the store -/

namespace Editing

open Workspace

variable {hear : Hearing} {w : Workspace}

/-- A commit makes the store that the schema commits to. -/
theorem makes_commit (schema : Schema) : Makes hear w (commit hear schema) (w.store.commit schema) :=
  .get_bind (makes_takeUp _)

/-- A replacement makes the store that starts from the schema. -/
theorem makes_replace (schema : Schema) : Makes hear w (replace hear schema) (Store.replace schema) :=
  makes_takeUp _

/-- Every command of the store makes the store that it is said to make. -/
theorem makes_run (command : Store.Command) :
    Makes hear w (run hear command) (w.store.run w.config command) := by
  cases command with
  | setTitle title => exact .get_bind (.outcome_bind fun schema _ => makes_commit schema)
  | setDescription description => exact .get_bind (.outcome_bind fun schema _ => makes_commit schema)
  | addField field => exact .outcome_bind fun f _ => .get_bind (makes_commit _)
  | updateField id changes => exact .get_bind (.outcome_bind fun schema _ => makes_commit schema)
  | removeField id => exact .get_bind (.outcome_bind fun schema _ => makes_commit schema)
  | reorderFields fields => exact .get_bind (.outcome_bind fun schema _ => makes_commit schema)
  | updateSettings changes => exact .get_bind (.outcome_bind fun schema _ => makes_commit schema)
  | reset => exact .get_bind (.outcome_bind fun schema _ => makes_replace schema)
  | importSchema schema => exact .get_bind (.outcome_bind fun schema _ => makes_replace schema)

/-- A field that is handed on is taken up at the end of the form. -/
theorem makes_addField {f : Field} (hf : f.Named) :
    Makes hear w (addField hear f.asRecord) (w.store.append f) := by
  rw [← Store.addField_asRecord hf]
  exact makes_run (.addField f.asRecord)

end Editing

/-! ### Commands of the builder -/

namespace Designing

open Workspace

variable {hear : Hearing} {w : Workspace} (hs : w.store.Lawful)
include hs

/-- Moving a field makes the moved store, by way of the order of all of them. -/
theorem makes_moveField (id index : Value) :
    Makes hear w (moveField hear id index) (Builder.moveField w.store id index) := by
  refine .get_bind ?_
  unfold Builder.moveField
  cases hf : w.store.schema.field? id with
  | none => exact .refuse _ _
  | some f =>
    have hmem : f ∈ w.store.schema.fields := List.mem_of_find?_eq_some hf
    refine .outcome_bind fun n _ => ?_
    have hperm := hs.sound.perm_moved hmem n
    have hnamed := fun g hg => hs.named g (hperm.subset hg)
    rw [← Store.reorderFields_asRecord hnamed hperm]
    exact Editing.makes_run (.reorderFields _)

/-- Sub-fields that are put in place are handed on to the command that updates the section. -/
theorem makes_putSubFields {p : Field} (hp : p ∈ w.store.schema.fields) {gs : List Field}
    (hgs : ∀ g ∈ gs, g.Named) :
    Makes hear w (putSubFields hear (.str p.id) gs)
      (w.store.putAt ⟨none, p⟩ { p with subFields := some gs }) := by
  rw [← Store.updateField_subFields hs hp (Field.itemsFrom_asRecord hgs 0)]
  exact Editing.makes_run (.updateField _ _)

/-- Updating a sub-field makes the updated store, by way of its section. -/
theorem makes_updateSubField (parent id changes : Value) :
    Makes hear w (updateSubField hear parent id changes)
      (Builder.updateSubField w.store parent id changes) := by
  refine .get_bind (.outcome_bind fun p hp => .outcome_bind fun f hf => .outcome_bind fun ms _ => ?_)
  obtain ⟨hmem, rfl⟩ := Schema.of_sectionOf hp
  by_cases hconditions : (Members.get? ms "conditions").any (·.isTruthy) = true
  · rw [if_pos hconditions, if_pos hconditions]
    exact .refuse _ _
  · rw [if_neg hconditions, if_neg hconditions]
    cases hg : Store.overlaid f ms with
    | refused misplaced => exact .refuse _ _
    | read g =>
      refine makes_putSubFields hs hmem fun k hk => ?_
      obtain ⟨k', hk', rfl⟩ := List.mem_map.mp hk
      split
      · exact Field.named_of_read hg
      · exact (Field.named_iff.mp (hs.named p hmem)).2 k' hk'

/-- Updating a field makes the updated store, at whichever level the field is. -/
theorem makes_updateField (id changes : Value) :
    Makes hear w (updateField hear id changes) (Builder.updateField w.store id changes) := by
  refine .get_bind (.outcome_bind fun place _ => ?_)
  obtain ⟨_ | p, f⟩ := place
  · exact .outcome_bind fun ms _ => Editing.makes_run (.updateField id (.dict ms))
  · exact makes_updateSubField hs _ id changes

/-- Updating a constraint goes through the field that has it. -/
theorem makes_updateConstraint (id name value : Value) :
    Makes hear w (updateConstraint hear id name value)
      (Builder.updateConstraint w.store id name value) := by
  refine .outcome_bind fun _ _ => ?_
  cases name.text? with
  | some name => exact makes_updateField hs id _
  | none => exact .get_bind (.outcome_bind fun _ _ => .refuse _ _)

/-- Removing a sub-field makes the store without it, by way of its section. -/
theorem makes_removeSubField (parent id : Value) :
    Makes hear w (removeSubField hear parent id) (Builder.removeSubField w.store parent id) := by
  refine .get_bind (.outcome_bind fun p hp => .outcome_bind fun f _ => ?_)
  obtain ⟨hmem, rfl⟩ := Schema.of_sectionOf hp
  exact makes_putSubFields hs hmem fun k hk =>
    (Field.named_iff.mp (hs.named p hmem)).2 k (List.mem_of_mem_filter hk)

/-- Removing a field makes the store without it, at whichever level it is. -/
theorem makes_removeField (id : Value) :
    Makes hear w (removeField hear id) (Builder.removeField w.store id) := by
  refine .get_bind (.outcome_bind fun place _ => ?_)
  obtain ⟨_ | p, f⟩ := place
  · exact Editing.makes_run (.removeField id)
  · exact makes_removeSubField hs _ id

/-! #### Options and conditions -/

/-- Options that are put in place are handed on to the command that updates the field. -/
theorem makes_putOptions {id : Value} {place : Place} (hplace : w.store.schema.locate id = .ok place)
    (os : List Choice) :
    Makes hear w (putOptions hear id os) (Builder.putOptions w.store place os) := by
  obtain ⟨hhas, rfl⟩ := Schema.of_locate hplace
  rw [← Builder.updateField_options hs hhas (itemsFrom_map_self Choice.read_asRecord 0 os)]
  exact makes_updateField hs _ _

/-- Renaming an option goes through the field that offers it. -/
theorem makes_updateOption (id option label : Value) :
    Makes hear w (updateOption hear id option label)
      (Builder.updateOption w.store id option label) :=
  .get_bind (.outcome_bind fun _ hplace => .outcome_bind fun _ _ => .outcome_bind fun _ _ =>
    makes_putOptions hs hplace _)

/-- Removing an option goes through the field that offers it. -/
theorem makes_removeOption (id option : Value) :
    Makes hear w (removeOption hear id option) (Builder.removeOption w.store id option) :=
  .get_bind (.outcome_bind fun _ hplace => .outcome_bind fun _ _ => makes_putOptions hs hplace _)

/-- Conditions that are put in place are handed on to the command that updates the field. -/
theorem makes_putConditions {id : Value} {f : Field}
    (hf : w.store.schema.conditioned id = .ok f) (ks : List Condition) :
    Makes hear w (putConditions hear id ks) (Builder.putConditions w.store f ks) := by
  obtain ⟨hmem, rfl⟩ := Schema.of_conditioned hf
  rw [← Store.updateField_conditions hs hmem (itemsFrom_map_self Condition.read_asRecord 0 ks)]
  exact Editing.makes_run (.updateField _ _)

/-- Updating a condition goes through the field that has it. -/
theorem makes_updateCondition (id index changes : Value) :
    Makes hear w (updateCondition hear id index changes)
      (Builder.updateCondition w.store id index changes) := by
  refine .get_bind (.outcome_bind fun f hf => .outcome_bind fun n _ => .outcome_bind fun ms _ => ?_)
  generalize Condition.ofMembers _ = new
  cases new with
  | read condition => exact makes_putConditions hs hf _
  | refused misplaced => exact .refuse _ _

/-- Removing a condition goes through the field that has it. -/
theorem makes_removeCondition (id index : Value) :
    Makes hear w (removeCondition hear id index) (Builder.removeCondition w.store id index) :=
  .get_bind (.outcome_bind fun _ hf => .outcome_bind fun _ _ => makes_putConditions hs hf _)

/-- Adding a condition goes through the field and answers with what was added. -/
theorem realizes_addCondition (id source operator value : Value) :
    Realizes hear w (addCondition hear id source operator value)
      (liftM (Builder.addCondition w.store id source operator value)) fun p => (some p.1, p.2) := by
  refine .get_bind (.outcome_bind fun f hf => .outcome_bind fun source _ =>
    .outcome_bind fun condition _ => ?_)
  exact (makes_putConditions hs hf _).outcome_ending fun _ => rfl

/-! #### Commands that draw words -/

omit hs in
/-- Words are drawn for an id, and then the account goes on with it as the command does. -/
theorem realizes_generateId_bind {α β : Type} {taken : Value} {f : String → InWorkspace α}
    {g : String → Drawing β} {effect : β → Option Store × α}
    (h : ∀ id ids, Realizes hear { w with ids } (f id) (g id) effect) :
    Realizes hear w (generateId taken >>= f) (freshId w.config w.store.issued taken >>= g) effect := by
  unfold generateId
  rw [bind_assoc]
  exact .get_bind (.draw_bind fun id ids _ => h id ids)

omit hs in
/-- Adding a field draws its identifiers and appends it. -/
theorem realizes_addField (type : Value) :
    Realizes hear w (addField hear type) (Builder.addField w.config w.store type)
      fun p => (some p.1, p.2) := by
  refine .lift_bind fun type _ => .get_bind (.draw_bind fun f ids hf => ?_)
  exact (Editing.makes_addField (w := { w with ids }) (Builder.named_of_newField hf)).ending
    fun _ => rfl

/-- Adding a sub-field draws its identifiers and puts it into its section. -/
theorem realizes_addSubField (parent type : Value) :
    Realizes hear w (addSubField hear parent type)
      (Builder.addSubField w.config w.store parent type) fun p => (some p.1, p.2) := by
  refine .get_bind (.lift_bind fun p hp => .lift_bind fun type _ => ?_)
  obtain ⟨hmem, rfl⟩ := Schema.of_sectionOf hp
  by_cases hsection : type = .repeatable
  · rw [if_pos hsection, if_pos hsection]
    exact .throw _ _
  · rw [if_neg hsection, if_neg hsection]
    refine .draw_bind fun f ids hf => ?_
    have hnamed : ∀ k ∈ p.children ++ [f], k.Named :=
      List.forall_mem_append.mpr ⟨(Field.named_iff.mp (hs.named p hmem)).2,
        List.forall_mem_singleton.mpr (Builder.named_of_newField hf)⟩
    exact (makes_putSubFields (w := { w with ids }) hs hmem hnamed).ending fun _ => rfl

/-- Adding a numbered choice draws an identifier and puts the choice behind the others. -/
theorem realizes_addNumbered {id : Value} {place : Place}
    (hplace : w.store.schema.locate id = .ok place) (word title : String) (n : Nat)
    (isColumn : Option Bool) :
    Realizes hear w (addNumbered hear id place.field.choices word title n isColumn)
      (Builder.addNumbered w.config w.store place word title n isColumn)
      fun p => (some p.1, p.2) := by
  refine realizes_generateId_bind fun new ids => ?_
  exact (makes_putOptions (w := { w with ids }) hs hplace _).ending fun _ => rfl

/-- Adding an option is adding a numbered choice. -/
theorem realizes_addOption (id : Value) :
    Realizes hear w (addOption hear id) (Builder.addOption w.config w.store id)
      fun p => (some p.1, p.2) :=
  .get_bind (.lift_bind fun _ hplace => realizes_addNumbered hs hplace _ _ _ _)

/-- Adding a line goes ahead for a matrix only, where it is adding a numbered choice. -/
theorem realizes_addLine {id : Value} {place : Place}
    (hplace : w.store.schema.locate id = .ok place) (word title : String) (n : Nat)
    (isColumn : Bool) :
    Realizes hear w
      (if place.field.type ≠ .matrix then throw (.refusal (.notMatrix id))
        else addNumbered hear id place.field.choices word title n (some isColumn))
      (do
        if place.field.type ≠ .matrix then throw (.refusal (.notMatrix id))
        Builder.addNumbered w.config w.store place word title n (some isColumn))
      fun p => (some p.1, p.2) := by
  by_cases hmatrix : place.field.type ≠ .matrix
  · rw [if_pos hmatrix, if_pos hmatrix]
    exact .throw _ _
  · rw [if_neg hmatrix, if_neg hmatrix]
    exact realizes_addNumbered hs hplace _ _ _ _

/-- Adding a row is adding a line. -/
theorem realizes_addRow (id : Value) :
    Realizes hear w (addLine hear id false) (Builder.addRow w.config w.store id)
      fun p => (some p.1, p.2) :=
  .get_bind (.lift_bind fun _ hplace => realizes_addLine hs hplace _ _ _ _)

/-- Adding a column is adding a line. -/
theorem realizes_addColumn (id : Value) :
    Realizes hear w (addLine hear id true) (Builder.addColumn w.config w.store id)
      fun p => (some p.1, p.2) :=
  .get_bind (.lift_bind fun _ hplace => realizes_addLine hs hplace _ _ _ _)

/-! #### All commands -/

/-- Every command of the builder does in a workspace what it is said to do. -/
theorem realizes_run (command : Builder.Command) :
    Realizes hear w (run hear command) (Builder.run w.config w.store command)
      fun e => (e.store?, e.answer) := by
  -- The commands of the store change the form as they are; those of the builder take their own way
  -- to one commit, and end with an answer that they choose.
  cases command with
  | store command => exact (Editing.makes_run command).ending fun _ => rfl
  | exportSchema => exact rfl
  | moveField id index => exact (makes_moveField hs id index).ending fun _ => rfl
  | generateId taken => exact realizes_generateId_bind fun _ _ => rfl
  | addField type => exact (realizes_addField type).ending fun _ => rfl
  | updateField id changes => exact (makes_updateField hs id changes).ending fun _ => rfl
  | updateConstraint id name value =>
    exact (makes_updateConstraint hs id name value).ending fun _ => rfl
  | removeField id => exact (makes_removeField hs id).ending fun _ => rfl
  | addSubField parent type => exact (realizes_addSubField hs parent type).ending fun _ => rfl
  | updateSubField parent id changes =>
    exact (makes_updateSubField hs parent id changes).ending fun _ => rfl
  | removeSubField parent id => exact (makes_removeSubField hs parent id).ending fun _ => rfl
  | addOption id => exact (realizes_addOption hs id).ending fun _ => rfl
  | updateOption id option label => exact (makes_updateOption hs id option label).ending fun _ => rfl
  | removeOption id option => exact (makes_removeOption hs id option).ending fun _ => rfl
  | addRow id => exact (realizes_addRow hs id).ending fun _ => rfl
  | addColumn id => exact (realizes_addColumn hs id).ending fun _ => rfl
  | availableOperators source => exact .get_bind (.lift_bind fun _ _ => rfl)
  | addCondition id source operator value =>
    exact (realizes_addCondition hs id source operator value).ending fun _ => rfl
  | updateCondition id index changes =>
    exact (makes_updateCondition hs id index changes).ending fun _ => rfl
  | removeCondition id index => exact (makes_removeCondition hs id index).ending fun _ => rfl

end Designing
end Questionnaire
