import Questionnaire.Builder.IdSource

/-!
# Computations that succeed

A computation made of steps succeeds when each of its steps does.  `Outcome.bind_eq_ok_iff`,
`Reading.seq_eq_read_iff` and `Drawing.gives_bind_iff` take such a computation apart; the other
lemmas do so for its last steps.

`Drawing.Gives` relates the stream of words before a computation to its result and to the stream
after it.
-/

namespace Questionnaire

variable {α β : Type}

/-! ### Outcomes -/

namespace Outcome

theorem bind_eq_ok_iff {o : Outcome α} {f : α → Outcome β} {b : β} :
    (o >>= f) = .ok b ↔ ∃ a, o = .ok a ∧ f a = .ok b := by
  cases o with
  | error e => simp [bind, Except.bind]
  | ok a => simp [bind, Except.bind]

theorem bind_eq_error_iff {o : Outcome α} {f : α → Outcome β} {e : Fault} :
    (o >>= f) = .error e ↔ o = .error e ∨ ∃ a, o = .ok a ∧ f a = .error e := by
  cases o with
  | error e => simp [bind, Except.bind]
  | ok a => simp [bind, Except.bind]

theorem pure_eq_ok_iff {a b : α} : (pure a : Outcome α) = .ok b ↔ a = b := by
  simp [pure, Except.pure]

theorem map_eq_ok_iff {f : α → β} {o : Outcome α} {b : β} :
    o.map f = .ok b ↔ ∃ a, o = .ok a ∧ f a = b := by
  cases o with
  | error e => simp [Except.map]
  | ok a => simp [Except.map]

theorem map_eq_error_iff {f : α → β} {o : Outcome α} {e : Fault} :
    o.map f = .error e ↔ o = .error e := by
  cases o with
  | error e => simp [Except.map]
  | ok a => simp [Except.map]

theorem ofUnread_eq_ok_iff {x : Except Unread α} {a : α} : ofUnread x = .ok a ↔ x = .ok a := by
  cases x with
  | error u => exact ⟨nofun, nofun⟩
  | ok b => simp [ofUnread]

/-- What does not fail succeeds. -/
theorem exists_eq_ok_iff {o : Outcome α} : (∃ a, o = .ok a) ↔ ∀ e, o ≠ .error e := by
  cases o with
  | error e => exact iff_of_false nofun fun h => h e rfl
  | ok a => exact iff_of_true ⟨a, rfl⟩ nofun

/-- What does not succeed fails. -/
theorem exists_eq_error_iff {o : Outcome α} : (∃ e, o = .error e) ↔ ¬∃ a, o = .ok a := by
  cases o with
  | error e => simp
  | ok a => simp

theorem toOption_eq_some_iff {o : Outcome α} {a : α} :
    o.toOption = some a ↔ o = .ok a := by
  cases o with
  | error e => simp [Except.toOption]
  | ok b => simp [Except.toOption]

/-- A step that may fail comes before what is mapped. -/
theorem bind_eq_map_bind {γ : Type} {o : Outcome α} {p : α → Outcome γ} {q : α → Outcome β}
    {g : β → γ} (h : ∀ a, o = .ok a → p a = (q a).map g) : (o >>= p) = (o >>= q).map g := by
  cases o with
  | error e => rfl
  | ok a => exact h a rfl

theorem refuse_ne_ok {r : Refusal} {a : α} : (refuse r : Outcome α) ≠ .ok a := nofun

/-- The computation succeeds if `P` holds, and fails on data of a wrong kind if it does not. -/
def Requires (o : Outcome α) (P : Prop) : Prop :=
  P ∧ (∃ a, o = .ok a) ∨ ¬P ∧ ∃ m : Misuse, o = misuse m ∧ m.family = .type

namespace Requires

variable {P Q : Prop} {o : Outcome α}

theorem of_ok (a : α) (hp : P) : Requires (.ok a) P := .inl ⟨hp, a, rfl⟩

theorem of_misuse {m : Misuse} (hm : m.family = .type) (hp : ¬P) :
    (misuse m : Outcome α).Requires P :=
  .inr ⟨hp, m, rfl, hm⟩

theorem congr (h : P ↔ Q) (ho : o.Requires P) : o.Requires Q := by rwa [Requires, ← h]

/-- A computation after another requires what the two require. -/
theorem bind {f : α → Outcome β} (ho : o.Requires P) (hf : ∀ a, (f a).Requires Q) :
    (o >>= f).Requires (P ∧ Q) := by
  obtain ⟨hp, a, rfl⟩ | ⟨hp, m, rfl, hm⟩ := ho
  · exact (hf a).congr (and_iff_right hp).symm
  · exact of_misuse hm fun h => hp h.1

theorem map (f : α → β) (ho : o.Requires P) : (o >>= fun a => pure (f a)).Requires P :=
  (ho.bind fun a => of_ok (f a) trivial).congr (and_iff_left trivial)

theorem exists_ok_iff (ho : o.Requires P) : (∃ a, o = .ok a) ↔ P := by
  obtain ⟨hp, h⟩ | ⟨hp, m, rfl, -⟩ := ho
  · exact iff_of_true h hp
  · exact iff_of_false nofun hp

theorem exists_misuse_of_error {e : Fault} (ho : o.Requires P) (h : o = .error e) :
    ∃ m : Misuse, e = .misuse m ∧ m.family = .type := by
  obtain ⟨-, a, rfl⟩ | ⟨-, m, rfl, hm⟩ := ho
  · cases h
  · cases h
    exact ⟨m, rfl, hm⟩

theorem exists_misuse_iff (ho : o.Requires P) :
    (∃ m : Misuse, o = misuse m ∧ m.family = .type) ↔ ¬P := by
  obtain ⟨hp, a, rfl⟩ | ⟨hp, h⟩ := ho
  · exact iff_of_false nofun (not_not_intro hp)
  · exact iff_of_true h hp

end Requires
end Outcome

/-! ### Readings -/

namespace Reading

theorem map_eq_read_iff {f : α → β} {x : Reading α} {b : β} :
    f <$> x = .read b ↔ ∃ a, x = .read a ∧ f a = b := by
  cases x with
  | read a =>
    show Reading.read (f a) = .read b ↔ _
    simp
  | refused ms =>
    show Reading.refused ms = .read b ↔ _
    simp

theorem seq_eq_read_iff {f : Reading (α → β)} {x : Reading α} {b : β} :
    f <*> x = .read b ↔ ∃ g a, f = .read g ∧ x = .read a ∧ g a = b := by
  show f.ap x = .read b ↔ _
  cases f <;> cases x <;> simp [Reading.ap]

theorem outcome_eq_ok_iff {kind : RecordKind} {x : Reading α} {a : α} :
    x.outcome kind = .ok a ↔ x = .read a := by
  cases x with
  | read b => simp [Reading.outcome]
  | refused ms => simp [Reading.outcome]

end Reading

/-! ### Computations over a state -/

/-- One computation after another over a state: if the first fails, it leaves its state. -/
theorem run_run_bind {σ : Type} (d : ExceptT Fault (StateM σ) α)
    (f : α → ExceptT Fault (StateM σ) β) (s : σ) :
    (d >>= f).run.run s = match d.run.run s with
      | (.ok a, s') => (f a).run.run s'
      | (.error e, s') => (.error e, s') := by
  rw [ExceptT.run_bind, StateT.run_bind]
  rcases d.run.run s with ⟨e | a, s'⟩
  · rfl
  · rfl

/-- A computation in the place of one that fails: it begins with the state that this one leaves. -/
theorem run_run_tryCatch {σ : Type} (d : ExceptT Fault (StateM σ) α)
    (k : Fault → ExceptT Fault (StateM σ) α) (s : σ) :
    (tryCatch d k).run.run s = match d.run.run s with
      | (.ok a, s') => (.ok a, s')
      | (.error e, s') => (k e).run.run s' := by
  rw [ExceptT.run_tryCatch, StateT.run_bind]
  rcases d.run.run s with ⟨e | a, s'⟩
  · rfl
  · rfl

/-- One computation after another succeeds iff both do, the second from where the first ends. -/
theorem run_run_bind_eq_ok_iff {σ : Type} {d : ExceptT Fault (StateM σ) α}
    {f : α → ExceptT Fault (StateM σ) β} {s s' : σ} {b : β} :
    (d >>= f).run.run s = (.ok b, s') ↔
      ∃ a mid, d.run.run s = (.ok a, mid) ∧ (f a).run.run mid = (.ok b, s') := by
  rw [run_run_bind]
  rcases d.run.run s with ⟨e | a, mid⟩
  · constructor
    · intro h
      cases h
    · rintro ⟨_, _, h, _⟩
      cases h
  · constructor
    · intro h
      exact ⟨a, mid, rfl, h⟩
    · rintro ⟨_, _, h, h'⟩
      cases h
      exact h'

/-! ### Drawings -/

namespace Drawing

/-- On the stream `ids` the computation succeeds with a result and leaves the stream `ids'`. -/
def Gives (d : Drawing α) (ids : IdSource) (a : α) (ids' : IdSource) : Prop :=
  d.run.run ids = (.ok a, ids')

variable {ids ids' : IdSource}

theorem gives_bind_iff {d : Drawing α} {f : α → Drawing β} {b : β} :
    (d >>= f).Gives ids b ids' ↔ ∃ a mid, d.Gives ids a mid ∧ (f a).Gives mid b ids' :=
  run_run_bind_eq_ok_iff

theorem gives_pure_iff {a b : α} : (pure a : Drawing α).Gives ids b ids' ↔ a = b ∧ ids = ids' := by
  constructor
  · intro h
    cases h
    exact ⟨rfl, rfl⟩
  · rintro ⟨rfl, rfl⟩
    rfl

theorem not_gives_throw {e : Fault} {a : α} : ¬(throw e : Drawing α).Gives ids a ids' := by
  intro h
  cases h

theorem gives_lift_iff {o : Outcome α} {a : α} :
    (liftM o : Drawing α).Gives ids a ids' ↔ o = .ok a ∧ ids = ids' := by
  show (o, ids) = (.ok a, ids') ↔ _
  rw [Prod.mk.injEq]

/-- A computation that starts with a guard succeeds iff the guard lets it and the rest succeeds. -/
theorem gives_guard_iff {p : Prop} [Decidable p] {e : Fault} {rest : Drawing α} {a : α} :
    (do if p then throw e
        rest).Gives ids a ids' ↔ ¬p ∧ rest.Gives ids a ids' := by
  by_cases h : p
  · simp [h, not_gives_throw]
  · simp [h]

end Drawing
end Questionnaire
