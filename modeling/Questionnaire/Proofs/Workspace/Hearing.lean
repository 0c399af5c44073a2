import Questionnaire.Proofs.Workspace.Run

/-!
# Listeners that do something themselves

Someone who subscribed may do whatever commands can do when it is told of a form, and so may change the
form again before the listeners after it are told of this one.  The commands that it runs announce
their forms under later numbers, so what the calls say of one announcement is not mixed with others.

`Workspace.Orderly` is what every such computation keeps, and `Workspace.Continues` says what it may add
to the calls that were made.  A computation is `InWorkspace.Proper` if it keeps to both in every orderly
workspace; the rules for this are those of the steps that such a computation is made of, and every
command is one of these steps (`InWorkspace.proper_runWith`).
-/

namespace Questionnaire

namespace Workspace

/-! ### Order -/

/-- The store is lawful, no listener is there twice, those who subscribed have numbers that were given
out, and all calls were part of announcements that were made. -/
structure Orderly (w : Workspace) : Prop where
  lawful : w.store.Lawful
  nodup : w.listeners.Nodup
  numbered : ∀ n, .subscriber n ∈ w.listeners → n < w.subscribers
  announced : ∀ c ∈ w.calls, c.announcement < w.announcements

/-- A workspace comes after another one, and each call in between was part of the announcement with a
number or of a later one. -/
structure Continues (n : Nat) (w w' : Workspace) : Prop where
  orderly : w'.Orderly
  announcements_le : w.announcements ≤ w'.announcements
  calls : ∃ later, w'.calls = w.calls ++ later ∧ ∀ c ∈ later, n ≤ c.announcement

variable {n : Nat} {w mid w' : Workspace}

/-- Nobody was told anything in between. -/
theorem Continues.silent (n : Nat) (h : w'.Orderly) (hcalls : w'.calls = w.calls)
    (hannouncements : w'.announcements = w.announcements) : w.Continues n w' :=
  ⟨h, Nat.le_of_eq hannouncements.symm, [], hcalls.trans (List.append_nil _).symm, nofun⟩

/-- Doing nothing goes on with every announcement. -/
theorem Continues.refl (n : Nat) (h : w.Orderly) : w.Continues n w := .silent n h rfl rfl

/-- Going on is transitive. -/
theorem Continues.trans (h : w.Continues n mid) (h' : mid.Continues n w') : w.Continues n w' := by
  obtain ⟨earlier, hmid, hearlier⟩ := h.calls
  obtain ⟨later, hw', hlater⟩ := h'.calls
  refine ⟨h'.orderly, Nat.le_trans h.announcements_le h'.announcements_le, earlier ++ later, ?_, ?_⟩
  · rw [hw', hmid, List.append_assoc]
  · exact List.forall_mem_append.mpr ⟨hearlier, hlater⟩

/-- Who goes on with the later announcements goes on with the earlier ones. -/
theorem Continues.mono {m : Nat} (h : w.Continues m w') (hn : n ≤ m) : w.Continues n w' := by
  obtain ⟨later, hcalls, hlater⟩ := h.calls
  exact ⟨h.orderly, h.announcements_le, later, hcalls, fun c hc => Nat.le_trans hn (hlater c hc)⟩

/-- Whoever listens no longer, the others are in order. -/
theorem Orderly.erase (h : w.Orderly) (l : Listener) :
    ({ w with listeners := w.listeners.erase l } : Workspace).Orderly :=
  ⟨h.lawful, h.nodup.erase l, fun n hn => h.numbered n (List.mem_of_mem_erase hn), h.announced⟩

/-- Someone who subscribes gets a number that no listener has. -/
theorem Orderly.subscribed (h : w.Orderly) :
    ({ w with
      listeners := w.listeners ++ [.subscriber w.subscribers]
      subscribers := w.subscribers + 1 } : Workspace).Orderly := by
  refine ⟨h.lawful, ?_, ?_, h.announced⟩
  · show (w.listeners ++ [Listener.subscriber w.subscribers]).Nodup
    rw [List.nodup_append_comm]
    exact List.nodup_cons.mpr ⟨fun hn => Nat.lt_irrefl _ (h.numbered _ hn), h.nodup⟩
  · show ∀ n, Listener.subscriber n ∈ w.listeners ++ [.subscriber w.subscribers] →
      n < w.subscribers + 1
    intro n hn
    rcases List.mem_append.mp hn with hn | hn
    · exact Nat.lt_succ_of_lt (h.numbered n hn)
    · rw [Listener.subscriber.inj (List.mem_singleton.mp hn)]
      exact Nat.lt_succ_self w.subscribers

/-- A store has been taken up, and nobody has been told of it yet. -/
def tookUp (w : Workspace) (t : Store) (ids : IdSource) : Workspace :=
  { w with store := t, ids, announcements := w.announcements + 1 }

/-- Taking up a lawful store keeps a workspace orderly. -/
theorem Orderly.tookUp (h : w.Orderly) {t : Store} (ht : t.Lawful) (ids : IdSource) :
    (w.tookUp t ids).Orderly :=
  ⟨ht, h.nodup, h.numbered, fun c hc => Nat.lt_succ_of_lt (h.announced c hc)⟩

/-- A listener is being told of a form. -/
def called (w : Workspace) (n : Nat) (l : Listener) (schema : Schema) : Workspace :=
  { w with calls := w.calls ++ [⟨n, l, schema⟩] }

/-- Noting a call of an announcement that has been made keeps a workspace orderly. -/
theorem Orderly.called (h : w.Orderly) (hn : n < w.announcements) (l : Listener) (schema : Schema) :
    (w.called n l schema).Orderly := by
  refine ⟨h.lawful, h.nodup, h.numbered, ?_⟩
  exact List.forall_mem_append.mpr ⟨h.announced, List.forall_mem_singleton.mpr hn⟩

end Workspace

/-! ### Proper computations -/

namespace InWorkspace

open Workspace

variable {α β : Type} {d : InWorkspace α}

/-- Whether it fails or not, the computation leads from an orderly workspace to an orderly one, and
whoever it tells of forms is told of new ones. -/
def Proper (d : InWorkspace α) : Prop :=
  ∀ w : Workspace, w.Orderly → w.Continues w.announcements (d.run.run w).2

namespace Proper

/-- Giving a value changes nothing. -/
theorem pure (a : α) : Proper (pure a) := fun w hw => .refl w.announcements hw

/-- Failing changes nothing. -/
theorem throw (e : Fault) : Proper (throw e : InWorkspace α) := fun w hw => .refl w.announcements hw

/-- Looking changes nothing. -/
theorem get : Proper get := fun w hw => .refl w.announcements hw

/-- Proper computations compose. -/
theorem bind {f : α → InWorkspace β} (hd : Proper d) (hf : ∀ a, Proper (f a)) :
    Proper (d >>= f) := by
  intro w hw
  have hfirst := hd w hw
  rw [run_run_bind]
  revert hfirst
  rcases d.run.run w with ⟨e | a, mid⟩
  · exact id
  · intro hfirst
    exact hfirst.trans ((hf a mid hfirst.orderly).mono hfirst.announcements_le)

/-- A computation may be given up when it fails, and another one take its place. -/
theorem tryCatch {k : Fault → InWorkspace α} (hd : Proper d) (hk : ∀ e, Proper (k e)) :
    Proper (MonadExcept.tryCatch d k) := by
  intro w hw
  have hfirst := hd w hw
  rw [run_run_tryCatch]
  revert hfirst
  rcases d.run.run w with ⟨e | a, mid⟩
  · intro hfirst
    exact hfirst.trans ((hk e mid hfirst.orderly).mono hfirst.announcements_le)
  · exact id

end Proper

/-- What the session does is nothing to the store and to the listeners. -/
theorem proper_onSession (absent : α) (s : InSession α) : Proper (onSession absent s) := by
  intro w hw
  rw [run_onSession]
  cases w.session with
  | none => exact .refl w.announcements hw
  | some _ => exact .silent _ ⟨hw.lawful, hw.nodup, hw.numbered, hw.announced⟩ rfl rfl

end InWorkspace

/-- Those who subscribed keep the workspace in order, whatever they are told. -/
def Hearing.Proper (hear : Hearing) : Prop := ∀ n schema, InWorkspace.Proper (hear n schema)

namespace Workspace

variable {hear : Hearing} (hhear : hear.Proper) {n : Nat} {w : Workspace}
include hhear

/-- Answering a call is proper where the listeners are. -/
theorem proper_answerCall (schema : Schema) (l : Listener) :
    InWorkspace.Proper (answerCall hear schema l) := by
  cases l with
  | subscriber k => exact hhear k schema
  | session => exact .bind .get fun _ => InWorkspace.proper_onSession _ _

/-- What a listener does comes after the call. -/
theorem continues_called (hw : w.Orderly) (hn : n < w.announcements) (schema : Schema)
    (l : Listener) : (w.called n l schema).Continues w.announcements
      ((tell hear n schema l).run.run w).2 :=
  proper_answerCall hhear schema l (w.called n l schema) (hw.called hn l schema)

/-- Telling one listener goes on with the announcement. -/
theorem continues_tell (hw : w.Orderly) (hn : n < w.announcements) (schema : Schema)
    (l : Listener) : w.Continues n ((tell hear n schema l).run.run w).2 := by
  obtain ⟨horderly, hle, later, hcalls, hlater⟩ := continues_called hhear hw hn schema l
  refine ⟨horderly, hle, ⟨n, l, schema⟩ :: later, ?_, ?_⟩
  · rw [hcalls]
    exact List.append_assoc _ _ _
  · exact List.forall_mem_cons.mpr ⟨Nat.le_refl n, fun c hc => Nat.le_trans (Nat.le_of_lt hn) (hlater c hc)⟩

/-- Telling them one after another goes on with the announcement. -/
theorem continues_tellAll (hw : w.Orderly) (hn : n < w.announcements) (schema : Schema)
    (ls : List Listener) : w.Continues n ((tellAll hear n schema ls).run.run w).2 := by
  induction ls generalizing w with
  | nil => exact .refl n hw
  | cons l ls ih =>
    have htell := continues_tell hhear hw hn schema l
    rw [tellAll, run_run_bind]
    revert htell
    rcases (tell hear n schema l).run.run w with ⟨_ | _, mid⟩
    · exact id
    · exact fun htell => htell.trans (ih htell.orderly (Nat.lt_of_lt_of_le hn htell.announcements_le))

/-- A store that is taken up is announced under the number that is next. -/
theorem continues_takeUp (hw : w.Orderly) {t : Store} (ht : t.Lawful) :
    w.Continues w.announcements ((takeUp hear t).run.run w).2 := by
  obtain ⟨horderly, hle, hcalls⟩ := continues_tellAll hhear (hw.tookUp ht w.ids)
    (Nat.lt_succ_self w.announcements) t.schema w.listeners
  exact ⟨horderly, Nat.le_trans (Nat.le_succ _) hle, hcalls⟩

/-- A computation with an account of what it does is proper if the stores in the account are lawful. -/
theorem Realizes.continues {α β : Type} {d : InWorkspace α} {x : Drawing β}
    {effect : β → Option Store × α} (h : Realizes hear w d x effect) (hw : w.Orderly)
    (hlawful : ∀ b ids t, x.Gives w.ids b ids → (effect b).1 = some t → t.Lawful) :
    w.Continues w.announcements (d.run.run w).2 := by
  -- A command draws its identifiers first; that touches neither the form nor the listeners.
  have hdrawn (ids : IdSource) : ({ w with ids } : Workspace).Orderly :=
    ⟨hw.lawful, hw.nodup, hw.numbered, hw.announced⟩
  have hkept (ids : IdSource) : w.Continues w.announcements { w with ids } :=
    .silent _ (hdrawn ids) rfl rfl
  unfold Realizes at h
  rw [h]
  rcases hx : x.run.run w.ids with ⟨e | b, ids⟩
  · exact hkept ids
  · dsimp only
    rcases heffect : effect b with ⟨_ | t, a⟩
    · exact hkept ids
    · dsimp only
      rw [state_bind_pure (takeUp hear t) fun _ => a]
      exact (hkept ids).trans
        (continues_takeUp hhear (hdrawn ids) (hlawful b ids t hx (congrArg Prod.fst heffect)))

/-! ### Commands -/

/-- Every command is a proper computation, if those who subscribed are proper. -/
theorem proper_runWith (command : Command) : InWorkspace.Proper (runWith hear command) := by
  intro w hw
  -- Commands on the form take their store up, the others leave the announcements alone.
  cases command with
  | store command =>
    refine (realizes_store hear w command).continues hhear hw fun t _ _ ht hsome => ?_
    obtain rfl := Option.some.inj hsome
    exact hw.lawful.run (Drawing.gives_lift_iff.mp ht).1
  | builder command =>
    exact (realizes_builder hear hw.lawful command).continues hhear hw
      fun _ _ _ hrun ht => hw.lawful.gives hrun ht
  | exportSchema => exact .refl _ hw
  | session command => exact InWorkspace.proper_onSession _ _ w hw
  | subscribe => exact .silent _ hw.subscribed rfl rfl
  | unsubscribe n =>
    rw [run_unsubscribe]
    split
    · exact .refl _ hw
    · exact .silent _ (hw.erase _) rfl rfl
  | detach => exact .silent _ (hw.erase .session) rfl rfl

omit hhear

/-! ### Runs -/

/-- The workspace after an event, whatever those who subscribed do when they are told of a form. -/
def afterWith (hear : Hearing) (w : Workspace) : Event → Workspace
  | .command command => ((runWith hear command).run.run w).2
  | .configure config => { w with config }

/-- The workspace after several events. -/
def afterAllWith (hear : Hearing) (w : Workspace) (events : List Event) : Workspace :=
  events.foldl (afterWith hear) w

/-- With listeners that only record, the run is the plain one. -/
theorem afterAllWith_recording (w : Workspace) (events : List Event) :
    w.afterAllWith .recording events = w.afterAll events := by
  induction events generalizing w with
  | nil => rfl
  | cons e events ih =>
    cases e with
    | command command => exact ih _
    | configure config => exact ih _

include hhear

/-- Every event keeps a workspace orderly. -/
theorem Orderly.afterWith (hw : w.Orderly) (e : Event) : (w.afterWith hear e).Orderly := by
  cases e with
  | command command => exact (proper_runWith hhear command w hw).orderly
  | configure config => exact ⟨hw.lawful, hw.nodup, hw.numbered, hw.announced⟩

/-- Whatever those who subscribed do, a workspace stays in order, and its form sound, at every point of
every run. -/
theorem Orderly.afterAllWith (hw : w.Orderly) (events : List Event) :
    (w.afterAllWith hear events).Orderly := by
  induction events generalizing w with
  | nil => exact hw
  | cons e events ih => exact ih (Orderly.afterWith hhear hw e)

end Workspace
end Questionnaire
