import Questionnaire.Proofs.Ensemble.Basic
import Questionnaire.Proofs.Session.Answering

/-!
# Runs of an ensemble

A run is a list of events: commands that make new forms, sessions that are attached, commands of the
sessions, and changes of the configuration.  The form of the store is sound at every point of every
run (`sound_form_afterAll`).
-/

namespace Questionnaire.Ensemble

/-! ### Events -/

/-- What can happen to an ensemble. -/
inductive Event where
  | command (command : Command)
  /-- A session is made that follows the store. -/
  | attach (values : Value)
  /-- A command of the session at a place. -/
  | session (n : Nat) (command : Session.Command)
  | configure (config : Config)

/-- The ensemble with a new session, if it can be made. -/
def attach (a : Ensemble) (values : Value) : Ensemble :=
  match Session.new a.config a.store.schema values with
  | .ok s => { a with sessions := a.sessions ++ [s] }
  | .error _ => a

/-- The ensemble after an event; of a command that fails, what it did before it failed remains. -/
def after (a : Ensemble) : Event → Ensemble
  | .command command => (a.run command).2
  | .attach values => a.attach values
  | .session n command => { a with
      sessions := a.sessions.modify n fun s => ((Session.run command).run.run s).2 }
  | .configure config => { a with config }

/-- The ensemble after several events. -/
def afterAll (a : Ensemble) (events : List Event) : Ensemble := events.foldl after a

/-- At an event no rule and no condition fails. -/
def Smooth (a : Ensemble) : Event → Prop
  | .command command => ∀ t, a.proposal command = some t →
      ∀ s ∈ a.sessions, s.CanGoOn a.config t.schema
  | .session n command => ∀ s, a.sessions[n]? = some s → s.Decides command
  | _ => True

/-! ### Soundness -/

variable {a : Ensemble}

/-- Whatever a command proposes is sound. -/
theorem sound_of_proposal {command : Command} {t : Store} (h : a.proposal command = some t) :
    t.schema.Sound := by
  obtain ⟨effect, heffect, ht⟩ := Option.bind_eq_some_iff.mp h
  have heffect := Outcome.toOption_eq_some_iff.mp heffect
  cases command with
  | store command =>
    obtain ⟨store, hstore, rfl⟩ := Outcome.map_eq_ok_iff.mp heffect
    cases ht
    have hcommit := Store.run_eq_ok hstore
    split at hcommit
    · exact hcommit.sound
    · exact hcommit.sound
  | builder command =>
    have hcommit := Builder.run_gives (Prod.ext heffect rfl) ht
    split at hcommit
    · exact hcommit.sound
    · exact hcommit.sound

/-- Attaching a session leaves the store. -/
theorem store_attach (a : Ensemble) (values : Value) : (a.attach values).store = a.store := by
  unfold attach
  cases Session.new a.config a.store.schema values with
  | error e => rfl
  | ok s => rfl

/-- Attached sessions come behind those that are there. -/
theorem sessions_attach (a : Ensemble) (values : Value) :
    ∃ new, (a.attach values).sessions = a.sessions ++ new := by
  unfold attach
  cases Session.new a.config a.store.schema values with
  | error e => exact ⟨[], (List.append_nil _).symm⟩
  | ok s => exact ⟨[s], rfl⟩

/-- No event leaves the form unsound. -/
theorem sound_after (h : a.store.schema.Sound) (e : Event) : (a.after e).store.schema.Sound := by
  cases e with
  | command command =>
    show (a.run command).2.store.schema.Sound
    cases hp : a.proposal command with
    | none =>
      rw [(run_of_proposal_eq_none hp).1]
      exact h
    | some t =>
      obtain ⟨_, _, hstore, _⟩ := run_of_proposal_eq_some hp
      rw [hstore]
      exact sound_of_proposal hp
  | attach values =>
    show (a.attach values).store.schema.Sound
    rw [store_attach]
    exact h
  | session n command => exact h
  | configure config => exact h

/-- Through any events, whether their commands are accepted or not, the form of the store is sound.
-/
theorem sound_form_afterAll (h : a.store.schema.Sound) (events : List Event) :
    (a.afterAll events).store.schema.Sound := by
  induction events generalizing a with
  | nil => exact h
  | cons e events ih => exact ih (sound_after h e)

end Questionnaire.Ensemble
