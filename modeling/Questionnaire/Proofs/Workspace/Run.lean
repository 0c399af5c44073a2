import Questionnaire.Proofs.Workspace.Route

/-!
# Runs of a workspace

A run is a list of events: commands, and changes of the configuration between them.  What an event
does to the store is what its command proposes: `proposal` is the store that an accepted command
makes, and `store_after` says that the workspace takes it up, whatever the listeners do with the
form, and keeps its store otherwise.  `proposal_eq_some` says that a proposal is made by one commit.

From this an invariant of the form needs one look at commits.  `sound_afterAll` is the first: the
form is sound at every point of every run.
-/

namespace Questionnaire

namespace Workspace

/-! ### Events -/

/-- What can happen to a workspace. -/
inductive Event where
  | command (command : Command)
  | configure (config : Config)

/-- The workspace after an event; of a command that fails, what it did before it failed remains. -/
def after (w : Workspace) : Event → Workspace
  | .command command => ((run command).run.run w).2
  | .configure config => { w with config }

/-- The workspace after several events. -/
def afterAll (w : Workspace) (events : List Event) : Workspace := events.foldl after w

/-! ### What is told and what is kept -/

/-- A command of the session runs on the session, if there is one. -/
theorem run_onSession {α : Type} (absent : α) (d : InSession α) (w : Workspace) :
    (InWorkspace.onSession absent d).run.run w = match w.session with
      | none => (.ok absent, w)
      | some s => ((d.run.run s).1, { w with session := some (d.run.run s).2 }) := by
  obtain ⟨c, store, ids, session, ls, n, notices, k, calls⟩ := w
  cases session with
  | none => rfl
  | some s => rfl

/-- A workspace differs from another one in the session and in what is known of the calls of listeners
only. -/
structure Retold (w w' : Workspace) : Prop where
  config_eq : w'.config = w.config
  store_eq : w'.store = w.store
  ids_eq : w'.ids = w.ids
  listeners_eq : w'.listeners = w.listeners
  subscribers_eq : w'.subscribers = w.subscribers

/-- Telling nobody anything is a retelling. -/
theorem Retold.refl (w : Workspace) : w.Retold w := ⟨rfl, rfl, rfl, rfl, rfl⟩

/-- Retellings compose. -/
theorem Retold.trans {w mid w' : Workspace} (h : w.Retold mid) (h' : mid.Retold w') : w.Retold w' :=
  ⟨h'.config_eq.trans h.config_eq, h'.store_eq.trans h.store_eq, h'.ids_eq.trans h.ids_eq,
    h'.listeners_eq.trans h.listeners_eq, h'.subscribers_eq.trans h.subscribers_eq⟩

/-- Recorders and the session touch the session and what is noted only. -/
theorem retold_tell (n : Nat) (schema : Schema) (l : Listener) (w : Workspace) :
    w.Retold ((tell .recording n schema l).run.run w).2 := by
  cases l with
  | subscriber k => exact ⟨rfl, rfl, rfl, rfl, rfl⟩
  | session =>
    show w.Retold ((InWorkspace.onSession () (Session.rebind w.config schema)).run.run
      { w with calls := w.calls ++ [⟨n, .session, schema⟩] }).2
    rw [run_onSession]
    rcases w with ⟨c, store, ids, _ | s, ls, k, notices, m, calls⟩
    · exact ⟨rfl, rfl, rfl, rfl, rfl⟩
    · exact ⟨rfl, rfl, rfl, rfl, rfl⟩

/-- Telling the recording listeners retells, whoever they are. -/
theorem retold_tellAll (n : Nat) (schema : Schema) (ls : List Listener) (w : Workspace) :
    w.Retold ((tellAll .recording n schema ls).run.run w).2 := by
  induction ls generalizing w with
  | nil => exact .refl w
  | cons l ls ih =>
    have htell := retold_tell n schema l w
    rw [tellAll, run_run_bind]
    revert htell
    -- A listener that fails keeps the ones after it from being told.
    rcases (tell .recording n schema l).run.run w with ⟨_ | _, mid⟩
    · exact id
    · exact fun htell => htell.trans (ih mid)

/-- A store is taken up whatever the listeners do with its form. -/
theorem retold_takeUp (t : Store) (w : Workspace) :
    Retold { w with store := t } ((takeUp .recording t).run.run w).2 := by
  have h := retold_tellAll w.announcements t.schema w.listeners
    { w with store := t, announcements := w.announcements + 1 }
  exact ⟨h.config_eq, h.store_eq, h.ids_eq, h.listeners_eq, h.subscribers_eq⟩

/-- A last step that only makes the answer changes nothing. -/
theorem state_bind_pure {α β : Type} (d : InWorkspace α) (f : α → β) (w : Workspace) :
    ((do pure (f (← d)) : InWorkspace β).run.run w).2 = (d.run.run w).2 := by
  rw [run_run_bind]
  rcases d.run.run w with ⟨_ | _, _⟩
  · rfl
  · rfl

/-- What a command of the store does, whatever the listeners do. -/
theorem realizes_store (hear : Hearing) (w : Workspace) (command : Store.Command) :
    Realizes hear w (runWith hear (.store command)) (liftM (w.store.run w.config command))
      fun t => (some t, .value .null) := by
  have hmakes : Makes hear w (Editing.run hear command) (w.store.run w.config command) :=
    Editing.makes_run command
  rw [← bind_pure (liftM (w.store.run w.config command) : Drawing Store)]
  exact hmakes.ending (k := fun _ => Session.Answer.value .null) fun _ => rfl

/-- What a command of the builder does in a lawful store, whatever the listeners do. -/
theorem realizes_builder (hear : Hearing) {w : Workspace} (hw : w.store.Lawful)
    (command : Builder.Command) :
    Realizes hear w (runWith hear (.builder command)) (Builder.run w.config w.store command)
      fun e => (e.store?, .value e.answer) := by
  rw [← bind_pure (Builder.run w.config w.store command)]
  exact (Designing.realizes_run hw command).ending (k := Session.Answer.value) fun _ => rfl

/-- A command of the store ends with the store it makes, if it makes one. -/
theorem store_run_store (command : Store.Command) (w : Workspace) :
    ((run (.store command)).run.run w).2.store =
      (w.store.run w.config command).toOption.getD w.store := by
  unfold run
  rw [realizes_store .recording w command]
  cases w.store.run w.config command with
  | error f => rfl
  | ok t =>
    show ((do takeUp .recording t; pure _ : InWorkspace Session.Answer).run.run w).2.store = t
    rw [state_bind_pure]
    exact (retold_takeUp t w).store_eq

/-- A command of the builder leaves the store that it gives, or the one before if it fails. -/
theorem store_run_builder (command : Builder.Command) {w : Workspace} (hw : w.store.Lawful) :
    ((run (.builder command)).run.run w).2.store =
      (((Builder.run w.config w.store command).run.run w.ids).1.toOption.bind
        Builder.Effect.store?).getD w.store := by
  unfold run
  rw [realizes_builder .recording hw command]
  rcases (Builder.run w.config w.store command).run.run w.ids with ⟨f | ⟨_ | t, answer⟩, ids⟩
  · rfl
  · rfl
  · show ((do takeUp .recording t; pure _ : InWorkspace Session.Answer).run.run
      { w with ids }).2.store = t
    rw [state_bind_pure]
    exact (retold_takeUp t { w with ids }).store_eq

/-- The store that an event makes, if it makes one. -/
def proposal (w : Workspace) : Event → Option Store
  | .command (.store command) => (w.store.run w.config command).toOption
  | .command (.builder command) =>
    ((Builder.run w.config w.store command).run.run w.ids).1.toOption.bind Builder.Effect.store?
  | _ => none

/-- An unknown subscriber cannot leave. -/
theorem run_unsubscribe (hear : Hearing) (n : Nat) (w : Workspace) :
    (runWith hear (.unsubscribe n)).run.run w =
      if w.subscribers ≤ n then (.error (.misuse (.positionOutOfRange false)), w)
      else (.ok (.value .null), { w with listeners := w.listeners.erase (.subscriber n) }) := by
  by_cases h : w.subscribers ≤ n
  · rw [if_pos h]
    show ((do
        if w.subscribers ≤ n then throw (.misuse (.positionOutOfRange false))
        modify fun (w : Workspace) => { w with listeners := w.listeners.erase (.subscriber n) }
        pure (.value .null) : InWorkspace Session.Answer).run.run w) = _
    rw [if_pos h]
    rfl
  · rw [if_neg h]
    show ((do
        if w.subscribers ≤ n then throw (.misuse (.positionOutOfRange false))
        modify fun (w : Workspace) => { w with listeners := w.listeners.erase (.subscriber n) }
        pure (.value .null) : InWorkspace Session.Answer).run.run w) = _
    rw [if_neg h]
    rfl

/-- The store after an event is the one the event proposes, if it proposes one. -/
theorem store_after {w : Workspace} (hw : w.store.Lawful) (e : Event) :
    (w.after e).store = (w.proposal e).getD w.store := by
  cases e with
  | configure config => rfl
  | command command =>
    cases command with
    | store command => exact store_run_store command w
    | builder command => exact store_run_builder command hw
    -- Only commands of the store and of the builder propose one.
    | session command =>
      show ((InWorkspace.onSession (.value .null) (Session.run command)).run.run w).2.store = _
      rw [run_onSession]
      cases w.session <;> rfl
    | exportSchema => rfl
    | subscribe => rfl
    | unsubscribe n =>
      show ((runWith .recording (.unsubscribe n)).run.run w).2.store = w.store
      rw [run_unsubscribe]
      split <;> rfl
    | detach => rfl

/-- Whether an event starts a new lifetime of the ledger when it is accepted. -/
def Event.begins : Event → Bool
  | .command (.store c) => c.begins
  | .command (.builder c) => c.begins
  | _ => false

/-- What an event proposes is made by one commit, with a new ledger or within the lifetime of the
old one. -/
theorem proposal_eq_some {w : Workspace} {e : Event} {t : Store} (h : w.proposal e = some t) :
    if e.begins then t.Begun else w.store.Committed t := by
  cases e with
  | configure config => cases h
  | command command =>
    cases command with
    | store command => exact Store.run_eq_ok (Outcome.toOption_eq_some_iff.mp h)
    | builder command =>
      obtain ⟨effect, hrun, ht⟩ := Option.bind_eq_some_iff.mp h
      have hrun := Outcome.toOption_eq_some_iff.mp hrun
      exact Builder.run_gives (Prod.ext hrun rfl) ht
    | session command => cases h
    | exportSchema => cases h
    | subscribe => cases h
    | unsubscribe n => cases h
    | detach => cases h

/-! ### Lawfulness -/

/-- A store begins like one that has just taken up its form with a new ledger. -/
theorem begun_of_store_new {c : Config} {v? : Option Value} {s : Store}
    (h : Store.new c v? = .ok s) : s.Begun := by
  obtain ⟨fresh, hfresh, h⟩ := Outcome.bind_eq_ok_iff.mp h
  cases v? with
  | none =>
    obtain rfl := Outcome.pure_eq_ok_iff.mp h
    have hfields : fresh.fields = [] :=
      Store.fields_newSchema (Outcome.ofUnread_eq_ok_iff.mp hfresh)
    obtain ⟨title, description, fields, settings⟩ := fresh
    obtain rfl : fields = [] := hfields
    rfl
  | some v => exact Store.begun_of_importSchema h

/-- The store of a new workspace is a new store. -/
theorem store_of_new {c : Config} {ids : IdSource} {v : Value} {plan : Option SessionPlan}
    {w : Workspace} (h : Workspace.new c ids v plan = .ok w) :
    ∃ v?, Store.new c v? = .ok w.store := by
  obtain ⟨store, hstore, h⟩ := Outcome.bind_eq_ok_iff.mp h
  cases plan with
  | none =>
    obtain rfl := Outcome.pure_eq_ok_iff.mp h
    exact ⟨_, hstore⟩
  | some plan =>
    obtain ⟨session, _, h⟩ := Outcome.bind_eq_ok_iff.mp h
    obtain rfl := Outcome.pure_eq_ok_iff.mp h
    exact ⟨_, hstore⟩

/-- What an event proposes in a lawful store is lawful. -/
theorem lawful_of_proposal {w : Workspace} (hw : w.store.Lawful) {e : Event} {t : Store}
    (h : w.proposal e = some t) : t.Lawful := by
  cases e with
  | configure config => cases h
  | command command =>
    cases command with
    | store command => exact hw.run (Outcome.toOption_eq_some_iff.mp h)
    | builder command =>
      obtain ⟨effect, hrun, ht⟩ := Option.bind_eq_some_iff.mp h
      exact hw.gives (Prod.ext (Outcome.toOption_eq_some_iff.mp hrun) rfl) ht
    | session command => cases h
    | exportSchema => cases h
    | subscribe => cases h
    | unsubscribe n => cases h
    | detach => cases h

/-- No event leaves the store unlawful. -/
theorem lawful_after {w : Workspace} (hw : w.store.Lawful) (e : Event) :
    (w.after e).store.Lawful := by
  rw [store_after hw]
  cases hp : w.proposal e with
  | none => exact hw
  | some t => exact lawful_of_proposal hw hp

/-- A new workspace has a lawful store. -/
theorem lawful_of_new {c : Config} {ids : IdSource} {v : Value} {plan : Option SessionPlan}
    {w : Workspace} (h : Workspace.new c ids v plan = .ok w) : w.store.Lawful := by
  obtain ⟨_, hnew⟩ := store_of_new h
  exact ⟨(begun_of_store_new hnew).sound,
    Store.all_of_new Field.lasting_named (fun _ _ => trivial) hnew⟩

/-- What begins with a lawful store has one at every later point. -/
theorem lawful_afterAll {w : Workspace} (hw : w.store.Lawful) (events : List Event) :
    (w.afterAll events).store.Lawful := by
  induction events generalizing w with
  | nil => exact hw
  | cons e events ih => exact ih (lawful_after hw e)

/-- From any start and through any events, whether their commands are accepted or not, the form of a
workspace is sound. -/
theorem sound_afterAll {c : Config} {ids : IdSource} {v : Value} {plan : Option SessionPlan}
    {w : Workspace} (h : Workspace.new c ids v plan = .ok w) (events : List Event) :
    (w.afterAll events).store.schema.Sound :=
  (lawful_afterAll (lawful_of_new h) events).sound

/-- Two fields get the ids that are drawn for them; a third that claims the first id is refused. -/
theorem sound_afterAll_new_fields :
    ∃ w, Workspace.new .standard ⟨["a", "b"], 0⟩ .null none = .ok w ∧
      let events : List Event := [.command (.builder (.addField (.str "text"))),
        .command (.builder (.addField (.str "repeatable"))),
        .command (.store (.addField (.dict
          [("id", .str "a"), ("type", .str "text"), ("label", .str "Name")])))]
      (w.afterAll events).store.schema.allFieldIds = ["a", "b"] ∧
        (w.afterAll events).store.schema.Sound := by
  refine ⟨_, rfl, ?_, @sound_afterAll .standard ⟨["a", "b"], 0⟩ .null none _ rfl _⟩
  rfl

end Workspace
end Questionnaire
