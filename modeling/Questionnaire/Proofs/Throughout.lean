/-!
# What holds throughout a run

Events come one after the other, and each makes a new state of the one before it.  `Throughout` says
that a property holds at each event of such a run, of the event and the state that it meets.  What
every event preserves for which the property holds is preserved by the run (`Throughout.invariant`).
-/

namespace Questionnaire

variable {σ ε : Type} {step : σ → ε → σ} {P Q : σ → ε → Prop}

/-- A property of states and events holds at each event of a run. -/
def Throughout (step : σ → ε → σ) (P : σ → ε → Prop) : σ → List ε → Prop
  | _, [] => True
  | s, e :: es => P s e ∧ Throughout step P (step s e) es

namespace Throughout

theorem and {s : σ} {es : List ε} (hp : Throughout step P s es) (hq : Throughout step Q s es) :
    Throughout step (fun s e => P s e ∧ Q s e) s es := by
  induction es generalizing s with
  | nil => exact trivial
  | cons e es ih => exact ⟨⟨hp.1, hq.1⟩, ih hp.2 hq.2⟩

/-- What is preserved by every event for which the property holds is preserved by the run. -/
theorem invariant {I : σ → Prop} (hstep : ∀ s e, I s → P s e → I (step s e)) {s : σ} {es : List ε}
    (h : Throughout step P s es) (hs : I s) : I (es.foldl step s) := by
  induction es generalizing s with
  | nil => exact hs
  | cons e es ih => exact ih h.2 (hstep s e hs h.1)

/-- Among events under which `J` lasts, `I` holds at every point of a run iff it holds at the start
and no event breaks it. -/
theorem forall_prefix_iff {I J : σ → Prop} {E : ε → Prop}
    (hJ : ∀ s e, J s → E e → J (step s e))
    (hstep : ∀ s e, J s → E e → I s → (I (step s e) ↔ P s e)) {s : σ} {es : List ε} (hs : J s)
    (hes : ∀ e ∈ es, E e) :
    (∀ done, done <+: es → I (done.foldl step s)) ↔ I s ∧ Throughout step P s es := by
  induction es generalizing s with
  | nil => simp [Throughout]
  | cons e es ih =>
    rw [List.forall_mem_cons] at hes
    have hrest := ih (hJ s e hs hes.1) hes.2
    -- The prefixes of a run are the empty one and those that take the first event.
    simp only [List.prefix_cons_iff, forall_eq_or_imp, List.foldl_nil]
    refine and_congr_right fun hI => ?_
    rw [Throughout, ← hstep s e hs hes.1 hI, ← hrest]
    constructor
    · exact fun h done hdone => h _ ⟨done, rfl, hdone⟩
    · rintro h _ ⟨done, rfl, hdone⟩
      exact h done hdone

end Throughout
end Questionnaire
