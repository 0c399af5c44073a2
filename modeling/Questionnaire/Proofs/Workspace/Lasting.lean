import Questionnaire.Proofs.Builder.Lasting
import Questionnaire.Proofs.Form.Data
import Questionnaire.Proofs.Workspace.Run

/-!
# Properties that all fields keep through runs

A property of fields that lasts (`Lasting`) holds of all fields at every point of every run whose
events hand in data of the kind (`Workspace.all_afterAll`).  Whatever is handed in, one such property
is that a field and all fields below it have ids (`Workspace.named_afterAll`).
-/

namespace Questionnaire

namespace Workspace

/-- What an event hands to the store; a session keeps to itself what it is handed. -/
def Event.payloads : Event → List Value
  | .command (.store c) => c.payloads
  | .command (.builder c) => c.payloads
  | _ => []

variable {V : Value → Prop} {P : Field → Prop} (hP : Lasting V P)
include hP

/-- What an event proposes has the property, if the form and the payloads have it. -/
theorem all_of_proposal {w : Workspace} (hw : w.store.schema.All P) {e : Event}
    (he : ∀ v ∈ e.payloads, V v) {t : Store} (h : w.proposal e = some t) : t.schema.All P := by
  cases e with
  | configure config => cases h
  | command command =>
    cases command with
    | store command => exact Store.all_of_run hP hw he (Outcome.toOption_eq_some_iff.mp h)
    | builder command =>
      obtain ⟨effect, hrun, ht⟩ := Option.bind_eq_some_iff.mp h
      have hrun := Outcome.toOption_eq_some_iff.mp hrun
      exact Builder.all_of_run hP hw he (Prod.ext hrun rfl) ht
    | session command => cases h
    | exportSchema => cases h
    | subscribe => cases h
    | unsubscribe n => cases h
    | detach => cases h

/-- Every event keeps the property. -/
theorem all_after {w : Workspace} (hs : w.store.Lawful) (hw : w.store.schema.All P) {e : Event}
    (he : ∀ v ∈ e.payloads, V v) : (w.after e).store.schema.All P := by
  rw [store_after hs]
  cases hp : w.proposal e with
  | none => exact hw
  | some t => exact all_of_proposal hP hw he hp

/-- Through events that hand in data of the kind all fields keep the property. -/
theorem all_afterAll {w : Workspace} (hs : w.store.Lawful) (hw : w.store.schema.All P)
    {events : List Event} (hevents : ∀ e ∈ events, ∀ v ∈ e.payloads, V v) :
    (w.afterAll events).store.schema.All P := by
  induction events generalizing w with
  | nil => exact hw
  | cons e events ih =>
    rw [List.forall_mem_cons] at hevents
    exact ih (lawful_after hs e) (all_after hP hs hw hevents.1) hevents.2

/-- A workspace begins with fields that have the property, if it is given a form of such data or
none. -/
theorem all_of_new {c : Config} {ids : IdSource} {v : Value} {plan : Option SessionPlan}
    {w : Workspace} (hv : V v) (h : Workspace.new c ids v plan = .ok w) :
    w.store.schema.All P := by
  obtain ⟨store, hstore, h⟩ := Outcome.bind_eq_ok_iff.mp h
  have hschema : store.schema.All P := by
    refine Store.all_of_new hP (fun w hw => ?_) hstore
    split at hw
    · cases hw
    · cases hw
      exact hv
  -- A session has no say in what the store holds.
  cases plan with
  | none =>
    obtain rfl := Outcome.pure_eq_ok_iff.mp h
    exact hschema
  | some plan =>
    obtain ⟨session, _, h⟩ := Outcome.bind_eq_ok_iff.mp h
    obtain rfl := Outcome.pure_eq_ok_iff.mp h
    exact hschema

omit hP in
/-- From any start and through any events, every field of a workspace has an id. -/
theorem named_afterAll {c : Config} {ids : IdSource} {v : Value}
    {plan : Option SessionPlan} {w : Workspace} (h : Workspace.new c ids v plan = .ok w)
    (events : List Event) : (w.afterAll events).store.schema.All Field.Named :=
  (lawful_afterAll (lawful_of_new h) events).named

end Workspace

/-! ### Stores that are reached -/

namespace Store

/-- Some run of some workspace leads to the store. -/
def Reachable (s : Store) : Prop :=
  ∃ (c : Config) (ids : IdSource) (v : Value) (plan : Option Workspace.SessionPlan) (w : Workspace)
    (events : List Workspace.Event),
    Workspace.new c ids v plan = .ok w ∧ s = (w.afterAll events).store

variable {s : Store} (h : s.Reachable)
include h

/-- A reachable store is lawful. -/
theorem Reachable.lawful : s.Lawful := by
  obtain ⟨c, ids, v, plan, w, events, hw, rfl⟩ := h
  exact Workspace.lawful_afterAll (Workspace.lawful_of_new hw) events

/-- Its form is sound. -/
theorem Reachable.sound : s.schema.Sound := h.lawful.sound

/-- No identifier in it is empty. -/
theorem Reachable.named : s.schema.All Field.Named := h.lawful.named

end Store
end Questionnaire
