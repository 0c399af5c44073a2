import Questionnaire.Proofs.Workspace.Run

/-!
# Lifetimes of a ledger

A lifetime is a stretch of a run in which the ledger of the store goes on: it begins with a
workspace, or with an accepted reset or import.  A `Chronicle` keeps the forms of the lifetime that
lasts and of all that are over, and `Chronicle.Kept` is what every event preserves: the ledger
consists of the ids of the forms of its lifetime, and an id that a form has lost is in no later form
of that lifetime.

The ids that are gone are nowhere written down; the store computes them from its ledger and its
form.  `Steady.cons` is why this is enough: an id of the ledger that a new form uses is in the
current form, and so in all forms since it first came.
-/

namespace Questionnaire

/-- The forms of a run by lifetime. -/
structure Chronicle where
  /-- The forms of the lifetime that lasts, the newest one first. -/
  lasting : List Schema
  /-- The forms of the lifetimes that are over. -/
  ended : List (List Schema)

/-- An id that two forms of a lifetime have is in every form between them. -/
def Steady (lifetime : List Schema) : Prop :=
  ∀ newer mid older, [newer, mid, older].Sublist lifetime →
    ∀ id ∈ newer.allFieldIds, id ∈ older.allFieldIds → id ∈ mid.allFieldIds

namespace Chronicle

/-- The chronicle with a new form. -/
def note (h : Chronicle) (begins : Bool) (schema : Schema) : Chronicle :=
  if begins then ⟨[schema], h.lasting :: h.ended⟩ else ⟨schema :: h.lasting, h.ended⟩

/-- What a chronicle says of the store at its end. -/
structure Kept (h : Chronicle) (s : Store) : Prop where
  current : h.lasting.head? = some s.schema
  mem_issued : ∀ id, id ∈ s.issued ↔ ∃ schema ∈ h.lasting, id ∈ schema.allFieldIds
  steady : Steady h.lasting
  steady_ended : ∀ lifetime ∈ h.ended, Steady lifetime

end Chronicle

/-! ### Steady lifetimes -/

/-- One form alone is steady. -/
theorem Steady.singleton (schema : Schema) : Steady [schema] := by
  intro newer mid older h
  have hlength := h.length_le
  simp only [List.length_cons, List.length_nil] at hlength
  omega

/-- A form may come after others if the newest of them has all ids that it shares with any. -/
theorem Steady.cons {lifetime : List Schema} {schema current : Schema} (h : Steady lifetime)
    (hcurrent : lifetime.head? = some current)
    (hnew : ∀ id ∈ schema.allFieldIds, (∃ s ∈ lifetime, id ∈ s.allFieldIds) →
      id ∈ current.allFieldIds) : Steady (schema :: lifetime) := by
  obtain ⟨rest, rfl⟩ := List.head?_eq_some_iff.mp hcurrent
  intro newer mid older hsub id hnewer holder
  cases hsub with
  | cons _ hsub => exact h newer mid older hsub id hnewer holder
  | cons_cons _ hsub =>
    -- The newest of the three is the new form; the id has not been out of the current one.
    have hid : id ∈ current.allFieldIds := hnew id hnewer ⟨older, hsub.subset (by simp), holder⟩
    cases hsub with
    | cons_cons _ _ => exact hid
    | cons _ hsub => exact h current mid older (hsub.cons_cons current) id hid holder

/-! ### What is kept -/

namespace Chronicle

variable {h : Chronicle} {s t : Store}

/-- A chronicle begins with a store whose ledger has the ids of its form. -/
theorem Kept.start (hs : ∀ id, id ∈ s.issued ↔ id ∈ s.schema.allFieldIds) :
    Kept ⟨[s.schema], []⟩ s :=
  ⟨rfl, fun id => by simp [hs id], Steady.singleton s.schema, by simp⟩

/-- A new lifetime leaves the one before it as it is. -/
theorem Kept.begin (hk : h.Kept s) (ht : t.Begun) : (h.note true t.schema).Kept t := by
  refine ⟨rfl, fun id => ?_, Steady.singleton t.schema, ?_⟩
  · rw [ht.mem_issued]
    simp [note]
  · intro lifetime hl
    rcases List.mem_cons.mp hl with rfl | hl
    · exact hk.steady
    · exact hk.steady_ended lifetime hl

/-- A form that is taken up within a lifetime brings back no id. -/
theorem Kept.commit (hk : h.Kept s) (ht : s.Committed t) : (h.note false t.schema).Kept t := by
  refine ⟨rfl, fun id => ?_, ?_, hk.steady_ended⟩
  · rw [ht.mem_issued, hk.mem_issued]
    simp [note, or_comm]
  · refine hk.steady.cons hk.current fun id hid hl => ?_
    exact ht.mem_of_mem_issued ((hk.mem_issued id).mpr hl) hid

end Chronicle

/-! ### Runs -/

namespace Workspace

/-- The chronicle after an event. -/
def noted (w : Workspace) (h : Chronicle) (e : Event) : Chronicle :=
  match w.proposal e with
  | some t => h.note e.begins t.schema
  | none => h

/-- The chronicle after several events. -/
def chronicle (w : Workspace) (h : Chronicle) : List Event → Chronicle
  | [] => h
  | e :: events => (w.after e).chronicle (w.noted h e) events

/-- The chronicle keeps up with the ledger at every event. -/
theorem kept_after {w : Workspace} (hw : w.store.Lawful) {h : Chronicle} (hk : h.Kept w.store)
    (e : Event) : (w.noted h e).Kept (w.after e).store := by
  rw [store_after hw]
  unfold noted
  cases hp : w.proposal e with
  | none => exact hk
  | some t =>
    have ht := proposal_eq_some hp
    cases hb : e.begins with
    | true =>
      rw [hb, if_pos rfl] at ht
      exact hk.begin ht
    | false =>
      rw [hb, if_neg (by simp)] at ht
      exact hk.commit ht

/-- By induction on the events: the chronicle keeps up with the ledger. -/
theorem kept_afterAll {w : Workspace} (hw : w.store.Lawful) {h : Chronicle} (hk : h.Kept w.store)
    (events : List Event) : (w.chronicle h events).Kept (w.afterAll events).store := by
  induction events generalizing w h with
  | nil => exact hk
  | cons e events ih => exact ih (lawful_after hw e) (kept_after hw hk e)

/-- At every point of every run the chronicle says what it is to say. -/
theorem kept_of_new {c : Config} {ids : IdSource} {v : Value} {plan : Option SessionPlan}
    {w : Workspace} (h : Workspace.new c ids v plan = .ok w) (events : List Event) :
    (w.chronicle ⟨[w.store.schema], []⟩ events).Kept (w.afterAll events).store := by
  obtain ⟨_, hnew⟩ := store_of_new h
  exact kept_afterAll (lawful_of_new h)
    (Chronicle.Kept.start fun _ => (begun_of_store_new hnew).mem_issued) events

/-- Within a lifetime a ledger keeps what it has. -/
theorem issued_subset_after {w : Workspace} (hw : w.store.Lawful) {e : Event}
    (he : e.begins → w.proposal e = none) : w.store.issued ⊆ (w.after e).store.issued := by
  intro id hid
  rw [store_after hw]
  cases hp : w.proposal e with
  | none => exact hid
  | some t =>
    have ht := proposal_eq_some hp
    have hb : ¬e.begins := fun hb => by simp [he hb] at hp
    rw [if_neg hb] at ht
    exact ht.mem_issued.mpr (Or.inl hid)

/-- At every point of every run the ledger consists of the ids of the forms of its lifetime, those
of the current form among them, and loses none before a new lifetime begins; and in no lifetime does
an id come back that a form has lost. -/
theorem ledger_afterAll {c : Config} {ids : IdSource} {v : Value} {plan : Option SessionPlan}
    {w : Workspace} (h : Workspace.new c ids v plan = .ok w) (events : List Event) :
    let w' := w.afterAll events
    let past := w.chronicle ⟨[w.store.schema], []⟩ events
    past.lasting.head? = some w'.store.schema ∧
      (∀ id, id ∈ w'.store.issued ↔ ∃ schema ∈ past.lasting, id ∈ schema.allFieldIds) ∧
      w'.store.schema.allFieldIds ⊆ w'.store.issued ∧
      (∀ e : Event, (e.begins → w'.proposal e = none) →
        w'.store.issued ⊆ (w'.after e).store.issued) ∧
      ∀ lifetime ∈ past.lasting :: past.ended, Steady lifetime := by
  have hk := kept_of_new h events
  have hlawful := lawful_afterAll (lawful_of_new h) events
  refine ⟨hk.current, hk.mem_issued, fun id hid => ?_,
    fun e he => issued_subset_after hlawful he, ?_⟩
  · exact (hk.mem_issued id).mpr ⟨_, List.mem_of_head? hk.current, hid⟩
  · exact List.forall_mem_cons.mpr ⟨hk.steady, hk.steady_ended⟩

/-- A field is added and removed; its id is refused until a reset begins a new lifetime. -/
theorem ledger_afterAll_removed :
    let named (id : String) : Value :=
      .dict [("id", .str id), ("type", .str "text"), ("label", .str "Name")]
    let events : List Event := [.command (.store (.addField (named "a"))),
      .command (.store (.removeField (.str "a"))), .command (.store (.addField (named "a"))),
      .command (.store .reset), .command (.store (.addField (named "a")))]
    ∃ w, Workspace.new .standard ⟨[], 0⟩ .null none = .ok w ∧
      (w.chronicle ⟨[w.store.schema], []⟩ events).ended.map (·.map (·.allFieldIds)) =
        [[[], ["a"], []]] ∧
      (w.chronicle ⟨[w.store.schema], []⟩ events).lasting.map (·.allFieldIds) = [["a"], []] ∧
      ∀ lifetime ∈ (w.chronicle ⟨[w.store.schema], []⟩ events).ended, Steady lifetime := by
  intro named events
  refine ⟨_, rfl, by decide +kernel, by decide +kernel, fun lifetime hl => ?_⟩
  obtain ⟨_, _, _, _, h⟩ := @ledger_afterAll .standard ⟨[], 0⟩ .null none _ rfl events
  exact h lifetime (List.mem_cons_of_mem _ hl)

end Workspace
end Questionnaire
