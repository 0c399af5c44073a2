import Questionnaire.Proofs.Visibility.Fresh

/-!
# What decides whether a field is visible

A field is among the visible ones exactly when all its conditions hold (`mem_visibleIn_iff`).  A
condition that looks at another top-level field is decided by its operator, and any other condition
is dead: it never holds (`Condition.holds_of_dead`).  So two runs over the fields of one form find
the same exactly when they agree on every field (`visibleIn_eq_iff`).
-/

namespace Questionnaire

variable {sources : List String} {field : String} {answers : Value}

/-! ### Conditions -/

namespace Condition

/-- The condition looks at its own field, or at nothing that is a top-level field. -/
def Dead (sources : List String) (field : String) (c : Condition) : Prop :=
  c.source = field ∨ c.source ∉ sources

variable {c : Condition}

theorem holds_of_dead (h : c.Dead sources field) : c.holds sources field answers = .ok false := by
  unfold holds
  exact if_pos h

theorem holds_of_not_dead (h : ¬c.Dead sources field) (answers : Members Value) :
    c.holds sources field (.dict answers) =
      c.operator.holds ((answers.get? c.source).getD .null) c.value := by
  unfold holds
  rw [answerOf_dict]
  exact if_neg h

/-- Conditions hold together when each of them does: the first that fails or does not hold decides
otherwise. -/
theorem allHold_eq_true_iff {cs : List Condition} :
    allHold sources field answers cs = .ok true ↔
      ∀ c ∈ cs, c.holds sources field answers = .ok true := by
  induction cs with
  | nil => exact ⟨fun _ => List.forall_mem_nil _, fun _ => rfl⟩
  | cons c cs ih =>
    rw [allHold, List.forall_mem_cons, ← ih]
    -- What `c` gives decides: a failure and `false` end the run, and only `true` goes on to the
    -- others.
    rcases c.holds sources field answers with e | _ | _
    · constructor
      · intro h
        cases h
      · intro h
        cases h.1
    · constructor
      · intro h
        cases h
      · intro h
        cases h.1
    · exact ⟨fun h => ⟨rfl, h⟩, And.right⟩

end Condition

/-! ### Fields -/

/-- Whether a field is visible; one that cannot be judged is not. -/
def Field.isShown (sources : List String) (answers : Value) (f : Field) : Bool :=
  (f.isVisible sources answers).toOption.getD false

theorem Field.isShown_iff {f : Field} :
    f.isShown sources answers = true ↔
      ∀ c ∈ f.conditionList, c.holds sources f.id answers = .ok true := by
  rw [← Condition.allHold_eq_true_iff]
  show (f.isVisible sources answers).toOption.getD false = true ↔
    f.isVisible sources answers = .ok true
  rcases f.isVisible sources answers with e | b
  · exact ⟨fun h => absurd h Bool.false_ne_true, fun h => absurd h nofun⟩
  · exact ⟨congrArg Except.ok, Except.ok.inj⟩

/-- The visible fields are those that are shown, in the order of the schema. -/
theorem visibleAmong_eq_filter {fields : List Field} {visible : List String}
    (h : visibleAmong sources answers fields = .ok visible) :
    visible = (fields.filter (Field.isShown sources answers)).map (·.id) := by
  induction fields generalizing visible with
  | nil =>
    cases h
    rfl
  | cons f fields ih =>
    obtain ⟨shown, hshown, h⟩ := Outcome.bind_eq_ok_iff.mp h
    obtain ⟨rest, hrest, h⟩ := Outcome.bind_eq_ok_iff.mp h
    obtain rfl := Outcome.pure_eq_ok_iff.mp h
    -- Whether `f` is shown by itself is what the run has found for it.
    have hself : f.isShown sources answers = shown := by
      unfold Field.isShown
      rw [hshown]
      rfl
    rw [List.filter_cons, hself, ih hrest]
    cases shown <;> rfl

section Fields

variable {fields : List Field} {visible : List String} (hn : (fields.map (·.id)).Nodup)
  (h : visibleIn fields answers = .ok visible)

include hn h

theorem mem_visibleIn_iff_isShown {f : Field} (hf : f ∈ fields) :
    f.id ∈ visible ↔ f.isShown (fields.map (·.id)) (effectiveAnswers answers) = true := by
  rw [visibleAmong_eq_filter h, List.mem_map]
  constructor
  · rintro ⟨g, hg, hid⟩
    obtain ⟨hg, hshown⟩ := List.mem_filter.mp hg
    rwa [← List.inj_on_of_nodup_map hn hg hf hid]
  · intro hshown
    exact ⟨f, List.mem_filter.mpr ⟨hf, hshown⟩, rfl⟩

/-- A field is among the visible ones exactly when all its conditions hold. -/
theorem mem_visibleIn_iff {f : Field} (hf : f ∈ fields) :
    f.id ∈ visible ↔ ∀ c ∈ f.conditionList,
      c.holds (fields.map (·.id)) f.id (effectiveAnswers answers) = .ok true := by
  rw [mem_visibleIn_iff_isShown hn h hf, Field.isShown_iff]

/-- The visible fields are given by the set of them. -/
theorem filter_contains_visible :
    (fields.map (·.id)).filter (visible.contains ·) = visible := by
  have hself : ∀ f ∈ fields, visible.contains f.id =
      f.isShown (fields.map (·.id)) (effectiveAnswers answers) := by
    intro f hf
    rw [Bool.eq_iff_iff, List.contains_iff_mem, mem_visibleIn_iff_isShown hn h hf]
  rw [List.filter_map]
  show (fields.filter fun f => visible.contains f.id).map (·.id) = visible
  rw [List.filter_congr hself]
  exact (visibleAmong_eq_filter h).symm

/-- A new evaluator lists the visible fields in their order. -/
theorem Evaluator.visibleFields_new (capacity : Number) (ha : IsAnswers answers) :
    ((Evaluator.new fields capacity).visibleFields answers).2 = .ok visible := by
  show ((new fields capacity).visible answers).2.map (fun ids =>
    (((new fields capacity).visible answers).1.fields.map (·.id)).filter (ids.contains ·)) = _
  rw [visible_new _ _ ha, fields_visible _ ha, h]
  exact congrArg Except.ok (filter_contains_visible hn h)

/-- Two runs over the same fields find the same exactly when they agree on every field. -/
theorem visibleIn_eq_iff {answers' : Value} {visible' : List String}
    (h' : visibleIn fields answers' = .ok visible') :
    visible = visible' ↔ ∀ f ∈ fields, (f.id ∈ visible ↔ f.id ∈ visible') := by
  constructor
  · rintro rfl _ _
    exact Iff.rfl
  · intro hall
    rw [visibleAmong_eq_filter h, visibleAmong_eq_filter h']
    refine congrArg (List.map _) (List.filter_congr fun f hf => ?_)
    rw [Bool.eq_iff_iff, ← mem_visibleIn_iff_isShown hn h hf, ← mem_visibleIn_iff_isShown hn h' hf]
    exact hall f hf

end Fields

end Questionnaire
