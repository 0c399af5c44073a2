import Questionnaire.Proofs.Session.Binding
import Questionnaire.Proofs.Workspace.Run

/-!
# A store and the sessions that follow it

A workspace has one session at most.  An ensemble is a store with any number of sessions that follow
it: when a command makes a new form, the store takes it up, and then the sessions go on with it one
after the other, until one of them fails.

For a workspace whose session follows the store at most once, an ensemble is another view of it:
`Workspace.run_of_ensemble` says that commands of the store and of the builder do the same in both.
The recorders that a workspace also has never fail.
-/

namespace Questionnaire

/-- A store with the sessions that follow it. -/
structure Ensemble where
  config : Config
  store : Store
  ids : IdSource
  /-- The sessions in the order in which they came. -/
  sessions : List Session

namespace Ensemble

/-! ### Commands -/

/-- What makes new forms. -/
inductive Command where
  | store (command : Store.Command)
  | builder (command : Builder.Command)

/-- What a command gives, and the stream of ids that it leaves. -/
def effect (a : Ensemble) : Command → Outcome Builder.Effect × IdSource
  | .store command => ((a.store.run a.config command).map .silent, a.ids)
  | .builder command => (Builder.run a.config a.store command).run.run a.ids

/-- The sessions go on with a form one after the other, until one fails. -/
def goOn (c : Config) (schema : Schema) : List Session → Outcome Unit × List Session
  | [] => (.ok (), [])
  | s :: ss =>
    match (Session.rebind c schema).run.run s with
    | (.error e, s) => (.error e, s :: ss)
    | (.ok _, s) => ((goOn c schema ss).1, s :: (goOn c schema ss).2)

/-- A session that cannot be rebound ends the round, and those behind it are left. -/
theorem goOn_cons_error {c : Config} {schema : Schema} {s s' : Session} {e : Fault}
    (h : (Session.rebind c schema).run.run s = (.error e, s')) (ss : List Session) :
    goOn c schema (s :: ss) = (.error e, s' :: ss) := by
  rw [goOn, h]

/-- A session that is rebound hands the round on to those behind it. -/
theorem goOn_cons_ok {c : Config} {schema : Schema} {s s' : Session}
    (h : (Session.rebind c schema).run.run s = (.ok (), s')) (ss : List Session) :
    goOn c schema (s :: ss) = ((goOn c schema ss).1, s' :: (goOn c schema ss).2) := by
  rw [goOn, h]

/-- Sessions that can all go on with a form do so. -/
theorem goOn_of_forall {c : Config} {schema : Schema} {ss : List Session}
    (h : ∀ s ∈ ss, s.CanGoOn c schema) :
    goOn c schema ss = (.ok (), ss.map fun s => ((Session.rebind c schema).run.run s).2) := by
  induction ss with
  | nil => rfl
  | cons s ss ih =>
    obtain ⟨hs, hss⟩ := List.forall_mem_cons.mp h
    rw [goOn_cons_ok hs.run_rebind, ih hss, List.map_cons]

/-- Runs a command. -/
def run (a : Ensemble) (command : Command) : Outcome Value × Ensemble :=
  match a.effect command with
  | (.error e, ids) => (.error e, { a with ids })
  | (.ok ⟨none, answer⟩, ids) => (.ok answer, { a with ids })
  | (.ok ⟨some store, answer⟩, ids) =>
    ((goOn a.config store.schema a.sessions).1.map fun _ => answer,
      { a with store, ids, sessions := (goOn a.config store.schema a.sessions).2 })

/-- The store that a command makes, if it makes one. -/
def proposal (a : Ensemble) (command : Command) : Option Store :=
  (a.effect command).1.toOption.bind Builder.Effect.store?

/-- A command that proposes no store leaves the store and the sessions. -/
theorem run_of_proposal_eq_none {a : Ensemble} {command : Command}
    (h : a.proposal command = none) :
    (a.run command).2.store = a.store ∧ (a.run command).2.sessions = a.sessions := by
  unfold proposal at h
  unfold run
  revert h
  rcases a.effect command with ⟨_ | ⟨_ | t, answer⟩, ids⟩
  · exact fun _ => ⟨rfl, rfl⟩
  · exact fun _ => ⟨rfl, rfl⟩
  · exact nofun

/-- A store that a command makes is taken up whatever the sessions do with its form. -/
theorem run_of_proposal_eq_some {a : Ensemble} {command : Command} {t : Store}
    (h : a.proposal command = some t) :
    ∃ answer, (a.run command).1 = (goOn a.config t.schema a.sessions).1.map (fun _ => answer) ∧
      (a.run command).2.store = t ∧
      (a.run command).2.sessions = (goOn a.config t.schema a.sessions).2 := by
  unfold proposal at h
  unfold run
  revert h
  rcases a.effect command with ⟨_ | ⟨_ | t, answer⟩, ids⟩
  · exact nofun
  · exact nofun
  · rintro ⟨⟩
    exact ⟨answer, rfl, rfl, rfl⟩

end Ensemble

/-! ### Workspaces -/

namespace Workspace

/-- The session that some listeners make go on. -/
def followers (w : Workspace) (listeners : List Listener) : List Session :=
  if .session ∈ listeners then w.session.toList else []

/-- A workspace without its recorders, and without a session that does not follow the store. -/
def ensemble (w : Workspace) : Ensemble := ⟨w.config, w.store, w.ids, w.followers w.listeners⟩

/-- A subscriber follows nothing. -/
theorem followers_subscriber (w : Workspace) (n : Nat) (ls : List Listener) :
    w.followers (.subscriber n :: ls) = w.followers ls := by
  simp [followers]

/-- The session's listener follows the session. -/
theorem followers_session (w : Workspace) (ls : List Listener) :
    w.followers (.session :: ls) = w.session.toList := by
  simp [followers]

/-- Telling a recording subscriber notes the title and the fields, and cannot fail. -/
theorem run_tell_subscriber (n : Nat) (schema : Schema) (k : Nat) (w : Workspace) :
    (tell .recording n schema (.subscriber k)).run.run w = (.ok (), { w with
      notices := w.notices ++ [⟨k, schema.title, schema.fieldIds⟩]
      calls := w.calls ++ [⟨n, .subscriber k, schema⟩] }) := rfl

/-- Telling the session rebinds it. -/
theorem run_tell_session (n : Nat) (schema : Schema) (w : Workspace) :
    let told : Workspace := { w with calls := w.calls ++ [⟨n, .session, schema⟩] }
    (tell .recording n schema .session).run.run w = match w.session with
      | none => (.ok (), told)
      | some s => (((Session.rebind w.config schema).run.run s).1,
          { told with session := some ((Session.rebind w.config schema).run.run s).2 }) :=
  run_onSession () (Session.rebind w.config schema)
    { w with calls := w.calls ++ [⟨n, .session, schema⟩] }

/-- Listeners that all are recorders do not fail, and leave the session. -/
theorem run_tellAll_recorders (n : Nat) (schema : Schema) {ls : List Listener} (h : .session ∉ ls)
    (w : Workspace) :
    ∃ w', (tellAll .recording n schema ls).run.run w = (.ok (), w') ∧ w'.session = w.session := by
  induction ls generalizing w with
  | nil => exact ⟨w, rfl, rfl⟩
  | cons l ls ih =>
    obtain ⟨hl, hls⟩ := not_or.mp (List.mem_cons.not.mp h)
    cases l with
    | session => exact absurd rfl hl
    | subscriber k =>
      rw [tellAll, run_run_bind, run_tell_subscriber]
      obtain ⟨w', hrun, hsession⟩ := ih hls _
      exact ⟨w', hrun, hsession⟩

/-- Listeners who are told of a form do what the session among them does. -/
theorem run_tellAll (n : Nat) (schema : Schema) {ls : List Listener} (hl : ls.count .session ≤ 1)
    (w : Workspace) :
    ∃ w', (tellAll .recording n schema ls).run.run w =
        ((Ensemble.goOn w.config schema (w.followers ls)).1, w') ∧
      w'.followers ls = (Ensemble.goOn w.config schema (w.followers ls)).2 := by
  induction ls generalizing w with
  | nil => exact ⟨w, rfl, rfl⟩
  | cons l ls ih =>
    rw [tellAll, run_run_bind]
    cases l with
    | subscriber k =>
      rw [List.count_cons_of_ne (by simp)] at hl
      rw [run_tell_subscriber, followers_subscriber]
      obtain ⟨w', hrun, hfollowers⟩ := ih hl _
      exact ⟨w', hrun, (followers_subscriber w' k ls).trans hfollowers⟩
    | session =>
      -- The listeners after the session are recorders.
      rw [List.count_cons_self] at hl
      have hls : .session ∉ ls := List.count_eq_zero.mp (Nat.le_zero.mp (Nat.le_of_succ_le_succ hl))
      rw [run_tell_session, followers_session]
      cases hsession : w.session with
      | none =>
        dsimp only
        obtain ⟨w', hrun, hkept⟩ := run_tellAll_recorders n schema hls
          { w with calls := w.calls ++ [⟨n, .session, schema⟩] }
        rw [hsession] at hrun
        refine ⟨w', hrun, ?_⟩
        rw [followers_session, hkept]
        exact congrArg Option.toList hsession
      | some s =>
        rw [Option.toList_some]
        dsimp only
        rcases hrebind : (Session.rebind w.config schema).run.run s with ⟨e | _, s'⟩
        · rw [Ensemble.goOn_cons_error hrebind]
          refine ⟨_, rfl, ?_⟩
          rw [followers_session]
          rfl
        · rw [Ensemble.goOn_cons_ok hrebind]
          obtain ⟨w', hrun, hkept⟩ := run_tellAll_recorders n schema hls { w with
            session := some s'
            calls := w.calls ++ [⟨n, .session, schema⟩] }
          refine ⟨w', hrun, ?_⟩
          rw [followers_session, hkept]
          rfl

/-- With one listener of the session at most, taking a store up is one round over the sessions. -/
theorem run_takeUp (t : Store) {w : Workspace} (hl : w.listeners.count .session ≤ 1) :
    ∃ w', (takeUp .recording t).run.run w =
        ((Ensemble.goOn w.config t.schema w.ensemble.sessions).1, w') ∧
      w'.ensemble = { w.ensemble with
        store := t, sessions := (Ensemble.goOn w.config t.schema w.ensemble.sessions).2 } := by
  obtain ⟨w', hrun, hfollowers⟩ := run_tellAll w.announcements t.schema hl
    { w with store := t, announcements := w.announcements + 1 }
  have hrun : (takeUp .recording t).run.run w =
    ((Ensemble.goOn w.config t.schema w.ensemble.sessions).1, w') := hrun
  obtain ⟨hconfig, hstore, hids, hlisteners, -⟩ := retold_takeUp t w
  rw [hrun] at hconfig hstore hids hlisteners
  refine ⟨w', hrun, ?_⟩
  unfold ensemble
  rw [hconfig, hstore, hids, hlisteners, hfollowers]
  rfl

/-- To take up a store and then answer does in a workspace what it does in the ensemble. -/
theorem run_takeUp_bind (t : Store) (v : Value) {w : Workspace}
    (hl : w.listeners.count .session ≤ 1) :
    let d : InWorkspace Session.Answer := do
      takeUp .recording t
      pure (.value v)
    (d.run.run w).1 = ((Ensemble.goOn w.config t.schema w.ensemble.sessions).1.map
        fun _ => v).map Session.Answer.value ∧
      (d.run.run w).2.ensemble = { w.ensemble with
        store := t, sessions := (Ensemble.goOn w.config t.schema w.ensemble.sessions).2 } := by
  intro d
  obtain ⟨w', hrun, hensemble⟩ := run_takeUp t hl
  rw [← hensemble]
  unfold d
  -- The answer is given after the round, so it is lost where the round breaks off.
  rw [run_run_bind, hrun]
  cases (Ensemble.goOn w.config t.schema w.ensemble.sessions).1 with
  | error e => exact ⟨rfl, rfl⟩
  | ok _ => exact ⟨rfl, rfl⟩

/-- A command of the store or of the builder, as one of a workspace. -/
def Command.ofEnsemble : Ensemble.Command → Command
  | .store command => .store command
  | .builder command => .builder command

/-- What a command of the store or of the builder does in a lawful store, whatever the listeners do. -/
theorem realizes_ofEnsemble (hear : Hearing) {w : Workspace} (hw : w.store.Lawful)
    (command : Ensemble.Command) :
    (runWith hear (.ofEnsemble command)).run.run w = match w.ensemble.effect command with
      | (.error e, ids) => (.error e, { w with ids })
      | (.ok ⟨none, answer⟩, ids) => (.ok (.value answer), { w with ids })
      | (.ok ⟨some t, answer⟩, ids) =>
        (do
          takeUp hear t
          pure (.value answer) : InWorkspace Session.Answer).run.run { w with ids } := by
  -- Both kinds of commands take up the store that they propose, each by its own route.
  cases command with
  | store command =>
    have heffect : w.ensemble.effect (.store command) =
        ((w.store.run w.config command).map .silent, w.ids) := rfl
    have hrun := realizes_store hear w command
    unfold Realizes at hrun
    unfold Command.ofEnsemble
    rw [heffect, hrun]
    cases w.store.run w.config command with
    | error e => rfl
    | ok t => rfl
  | builder command =>
    have heffect : w.ensemble.effect (.builder command) =
        (Builder.run w.config w.store command).run.run w.ids := rfl
    have hrun := realizes_builder hear hw command
    unfold Realizes at hrun
    unfold Command.ofEnsemble
    rw [heffect, hrun]
    rcases (Builder.run w.config w.store command).run.run w.ids with ⟨e | ⟨_ | t, answer⟩, ids⟩
    · rfl
    · rfl
    · rfl

/-- In a workspace whose session follows the store at most once, a command of the store or of the
builder does what it does in the ensemble. -/
theorem run_of_ensemble {w : Workspace} (hw : w.store.Lawful)
    (hl : w.listeners.count .session ≤ 1) (command : Ensemble.Command) :
    ((run (.ofEnsemble command)).run.run w).1 =
        (w.ensemble.run command).1.map Session.Answer.value ∧
      ((run (.ofEnsemble command)).run.run w).2.ensemble = (w.ensemble.run command).2 := by
  unfold run Ensemble.run
  rw [realizes_ofEnsemble .recording hw]
  rcases w.ensemble.effect command with ⟨e | ⟨_ | t, answer⟩, ids⟩
  · exact ⟨rfl, rfl⟩
  · exact ⟨rfl, rfl⟩
  · exact @run_takeUp_bind t answer { w with ids } hl

end Workspace
end Questionnaire
