import Questionnaire.Proofs.Visibility.Deciding

/-!
# No answer and the default answer

An evaluator takes a field without answer as `null`, while a session gives it the default answer of
its type.  To some comparisons these are not the same (`Operator.Tells`); which they are depends on
the default (`Operator.tells_emptyText_iff` and so on).

`visibleIn_completed_iff` says when it makes no difference to the visible fields whether answers are
completed with defaults: when no field that is visible in one of the two ways has a condition that
tells no answer from the default.
-/

namespace Questionnaire

namespace Operator

/-! ### Comparisons that tell them apart -/

/-- A comparison has not the same outcome for no answer and for the default answer. -/
def Tells (o : Operator) (default target : Value) : Prop :=
  o.holds .null target ≠ o.holds default target

/-- The operator is equality or its negation. -/
def isEquality : Operator → Bool
  | .equals | .notEquals => true
  | _ => false

/-- The operator asks whether there is an answer. -/
def asksForAnswer : Operator → Bool
  | .isEmpty | .isNotEmpty => true
  | _ => false

/-- The operator is an order, by which the first number stands to the second. -/
def orders (o : Operator) (x y : Binary64) : Bool :=
  match o with
  | .greaterThan => y.lt x
  | .lessThan => x.lt y
  | _ => false

variable {o : Operator} {default target : Value}

/-- What is no number stands in no order. -/
theorem orders_nan (y : Binary64) : o.orders (.nan Binary64.literalMark) y = false := by
  have hleft (p : Option Point) : Point.below none p = false := rfl
  have hright (p : Option Point) : Point.below p none = false := by cases p <;> rfl
  cases o with
  | greaterThan => exact hright y.point?
  | lessThan => exact hleft y.point?
  | _ => rfl

theorem holds_order (ho : o = .greaterThan ∨ o = .lessThan) {x : Binary64} {source : Value}
    (hx : source.asFloat = .ok x) : o.holds source target = target.asFloat.map (o.orders x) := by
  rcases ho with rfl | rfl
  · unfold holds
    rw [hx]
    cases target.asFloat <;> rfl
  · unfold holds
    rw [hx]
    cases target.asFloat <;> rfl

/-- A default answer that counts as the number `x` is told from no answer by what it equals, by its
text, by the question whether there is an answer, or by where it stands in an order. -/
theorem tells_iff {x : Binary64} (hx : default.asFloat = .ok x) :
    o.Tells default target ↔
      (o.isEquality = true ∧ equalTo .null target ≠ equalTo default target) ∨
      (o.looksInText = true ∧ containedIn .null target ≠ containedIn default target) ∨
      (o.asksForAnswer = true ∧ isEmptyAnswer default = false) ∨
      ∃ y, target.asFloat = .ok y ∧ o.orders x y = true := by
  by_cases ho : o = .greaterThan ∨ o = .lessThan
  · have hclass : o.isEquality = false ∧ o.looksInText = false ∧ o.asksForAnswer = false := by
      rcases ho with rfl | rfl <;> exact ⟨rfl, rfl, rfl⟩
    have hnull : Value.null.asFloat = .ok (.nan Binary64.literalMark) := rfl
    unfold Tells
    rw [holds_order ho hnull, holds_order ho hx, hclass.1, hclass.2.1, hclass.2.2]
    -- A target beyond the floats makes both comparisons fail in the same way.
    cases target.asFloat with
    | error e => simp [Except.map]
    | ok y => simp [Except.map, orders_nan]
  · have hunordered (y : Binary64) : o.orders x y = false := by
      cases o with
      | greaterThan => exact absurd (Or.inl rfl) ho
      | lessThan => exact absurd (Or.inr rfl) ho
      | _ => rfl
    simp only [hunordered]
    unfold Tells
    cases o with
    | greaterThan => exact absurd (Or.inl rfl) ho
    | lessThan => exact absurd (Or.inr rfl) ho
    | _ => simp [holds, isEquality, looksInText, asksForAnswer, isEmptyAnswer]

/-! ### The default answers -/

/-- Only null equals null. -/
theorem equalTo_null_iff : equalTo .null target = true ↔ target = .null := by
  cases target <;> simp [equalTo, Value.isTruth, Value.equal, Value.equalScalars, Value.scalarPoint?]

/-- Nothing but `null` equals `null`. -/
theorem equalTo_null_ne_iff (hdefault : equalTo default .null = false) :
    equalTo .null target ≠ equalTo default target ↔
      target = .null ∨ equalTo default target = true := by
  by_cases hnull : target = .null
  · subst hnull
    rw [hdefault]
    simp [equalTo_null_iff]
  · have hne : equalTo .null target = false := by
      rw [← Bool.not_eq_true, equalTo_null_iff]
      exact hnull
    rw [hne]
    simp [hnull]

/-- The text of nothing has no part but the empty one. -/
theorem containedIn_null_iff : containedIn .null target = true ↔ target.asText = "" := by
  show Text.hasPart target.asText.toList [] = true ↔ _
  rw [Text.hasPart_iff, List.infix_nil, String.toList_eq_nil_iff]

theorem tells_iff_of_no_number (hdefault : default.asFloat = .ok (.nan Binary64.literalMark))
    (hnull : equalTo default .null = false) :
    o.Tells default target ↔
      (o.isEquality = true ∧ (target = .null ∨ equalTo default target = true)) ∨
      (o.looksInText = true ∧ ¬(target.asText = "" ↔ containedIn default target = true)) ∨
      (o.asksForAnswer = true ∧ isEmptyAnswer default = false) := by
  have hcontained : containedIn .null target ≠ containedIn default target ↔
      ¬(target.asText = "" ↔ containedIn default target = true) := by
    rw [← containedIn_null_iff, ← Bool.eq_iff_iff]
  rw [tells_iff hdefault, equalTo_null_ne_iff hnull, hcontained]
  simp [orders_nan]

/-- An empty text is told from no answer by an equality only. -/
theorem tells_emptyText_iff :
    o.Tells (.str "") target ↔
      o.isEquality = true ∧ (target = .null ∨ target = .str "") := by
  have hequal : equalTo (.str "") target = true ↔ target = .str "" := by
    cases target <;>
      simp [equalTo, Value.isTruth, Value.equal, Value.equalScalars, Value.scalarPoint?, eq_comm]
  have hcontained : containedIn (.str "") target = true ↔ target.asText = "" := containedIn_null_iff
  rw [tells_iff_of_no_number rfl rfl, hequal, hcontained]
  simp [isEmptyAnswer]

/-- An empty list is told from no answer by an equality, or because it has no text as a part. -/
theorem tells_emptyList_iff :
    o.Tells (.list []) target ↔
      (o.isEquality = true ∧ (target = .null ∨ target = .list [])) ∨
      (o.looksInText = true ∧ target.asText = "") := by
  have hequal : equalTo (.list []) target = true ↔ target = .list [] := by
    rcases target with _ | _ | _ | _ | _ | _ | (_ | _) | _ | _ | _ | _ | _ | _ | _ <;>
      simp [equalTo, Value.isTruth, Value.equal, Value.equalLists, Value.equalScalars, Value.scalarPoint?]
  have hcontained : containedIn (.list []) target = false := rfl
  rw [tells_iff_of_no_number rfl rfl, hequal, hcontained]
  simp [isEmptyAnswer]

theorem toList_eq_iff {s : String} {cs : List Char} : s.toList = cs ↔ s = String.ofList cs := by
  constructor
  · rintro rfl
    exact String.ofList_toList.symm
  · rintro rfl
    exact String.toList_ofList

/-- The parts of the text of an empty object. -/
theorem containedIn_emptyObject_iff :
    containedIn (.dict []) target = true ↔ target.asText = "" ∨
      (target.asText = "\x7b" ∨ target.asText = "\x7d" ∨ target.asText = "\x7b\x7d") := by
  show Text.hasPart target.asText.toList ['\x7b', '\x7d'] = true ↔ _
  rw [Text.hasPart_iff]
  simp only [List.infix_cons_iff, List.prefix_cons_iff, List.prefix_nil, List.infix_nil,
    toList_eq_iff]
  -- The parts of the two characters `{}` are none, the first, both, and the second.
  constructor
  · rintro ((h | ⟨t, h, (rfl | ⟨u, rfl, rfl⟩)⟩) | (h | ⟨t, h, rfl⟩) | h)
    · exact Or.inl h
    · exact Or.inr (Or.inl h)
    · exact Or.inr (Or.inr (Or.inr h))
    · exact Or.inl h
    · exact Or.inr (Or.inr (Or.inl h))
    · exact Or.inl h
  · rintro (h | h | h | h)
    · exact Or.inr (Or.inr h)
    · exact Or.inl (Or.inr ⟨_, h, Or.inl rfl⟩)
    · exact Or.inr (Or.inl (Or.inr ⟨_, h, rfl⟩))
    · exact Or.inl (Or.inr ⟨_, h, Or.inr ⟨_, rfl, rfl⟩⟩)

theorem containedIn_zero_iff :
    containedIn (.int 0) target = true ↔ target.asText = "" ∨ target.asText = "0" := by
  show Text.hasPart target.asText.toList ['0'] = true ↔ _
  rw [Text.hasPart_iff]
  simp only [List.infix_cons_iff, List.prefix_cons_iff, List.prefix_nil, List.infix_nil,
    toList_eq_iff]
  constructor
  · rintro ((h | ⟨t, h, rfl⟩) | h)
    · exact Or.inl h
    · exact Or.inr h
    · exact Or.inl h
  · rintro (h | h)
    · exact Or.inr h
    · exact Or.inl (Or.inr ⟨_, h, rfl⟩)

theorem not_iff_or_iff {p q : Prop} (h : q → ¬p) : ¬(p ↔ p ∨ q) ↔ q := by
  constructor
  · intro hnot
    by_contra hq
    exact hnot (or_iff_left hq).symm
  · exact fun hq hiff => h hq (hiff.mpr (Or.inr hq))

/-- An empty object is told from no answer also by its text, and because it counts as an answer. -/
theorem tells_emptyObject_iff :
    o.Tells (.dict []) target ↔
      (o.isEquality = true ∧ (target = .null ∨ target = .dict [])) ∨
      (o.looksInText = true ∧
        (target.asText = "\x7b" ∨ target.asText = "\x7d" ∨ target.asText = "\x7b\x7d")) ∨
      o.asksForAnswer = true := by
  have hequal : equalTo (.dict []) target = true ↔ target = .dict [] := by
    rcases target with _ | _ | _ | _ | _ | _ | _ | _ | _ | (_ | _) | _ | _ | _ | _ <;>
      simp [equalTo, Value.isTruth, Value.equal, Value.allMembersIn, Value.equalScalars,
        Value.scalarPoint?]
  have hother : target.asText = "\x7b" ∨ target.asText = "\x7d" ∨ target.asText = "\x7b\x7d" →
      target.asText ≠ "" := by
    rintro (h | h | h)
    · rw [h]
      decide
    · rw [h]
      decide
    · rw [h]
      decide
  rw [tells_iff_of_no_number rfl rfl, hequal, containedIn_emptyObject_iff, not_iff_or_iff hother]
  simp [isEmptyAnswer]

/-- Zero is told from no answer also by its text, because it is an answer, and in an order. -/
theorem tells_zero_iff :
    o.Tells (.int 0) target ↔
      (o.isEquality = true ∧ (target = .null ∨ equalTo (.int 0) target = true)) ∨
      (o.looksInText = true ∧ target.asText = "0") ∨ o.asksForAnswer = true ∨
      ∃ y, target.asFloat = .ok y ∧ o.orders .zero y = true := by
  have hother : target.asText = "0" → target.asText ≠ "" := by
    intro h
    rw [h]
    decide
  have hcontained : containedIn .null target ≠ containedIn (.int 0) target ↔
      target.asText = "0" := by
    rw [Ne, Bool.eq_iff_iff, containedIn_null_iff, containedIn_zero_iff, not_iff_or_iff hother]
  have hnull : equalTo (.int 0) .null = false := rfl
  have hzero : (Value.int 0).asFloat = .ok .zero := rfl
  rw [tells_iff hzero, equalTo_null_ne_iff hnull, hcontained]
  simp [isEmptyAnswer]

end Operator

/-! ### Visible fields -/

/-- Some answers have been completed: each field has its answer, or else its default answer. -/
def Completes (fields : List Field) (answers full : Members Value) : Prop :=
  ∀ f ∈ fields, full.get? f.id = some ((answers.get? f.id).getD f.defaultAnswer)

/-- The condition of a field looks at another field, which has no answer, and tells this from the
default answer. -/
def Condition.TellsDefault (fields : List Field) (answers : Members Value) (field : String)
    (c : Condition) : Prop :=
  ∃ g ∈ fields, g.id = c.source ∧ g.id ≠ field ∧ answers.get? g.id = none ∧
    c.operator.Tells g.defaultAnswer c.value

section Completed

variable {fields : List Field} {answers full : Members Value} (hn : (fields.map (·.id)).Nodup)
  (hfull : Completes fields answers full)

include hn hfull

/-- A condition tells an absent answer from the default one exactly when completing the answers changes
what it gives. -/
theorem Condition.tellsDefault_iff {field : String} {c : Condition} :
    c.TellsDefault fields answers field ↔
      c.holds (fields.map (·.id)) field (.dict answers) ≠
        c.holds (fields.map (·.id)) field (.dict full) := by
  by_cases hdead : c.Dead (fields.map (·.id)) field
  -- A condition on no field, or on the field itself, holds of no answers.
  · rw [holds_of_dead hdead, holds_of_dead hdead]
    constructor
    · rintro ⟨g, hg, hsource, hself, _⟩
      rcases hdead with hdead | hdead
      · exact absurd (hsource.trans hdead) hself
      · exact absurd (hsource ▸ List.mem_map_of_mem hg) hdead
    · exact fun h => absurd rfl h
  · rw [holds_of_not_dead hdead, holds_of_not_dead hdead]
    obtain ⟨hself, hmem⟩ := not_or.mp hdead
    rw [not_not] at hmem
    obtain ⟨g, hg, hsource⟩ := List.mem_map.mp hmem
    rw [← hsource, hfull g hg]
    rw [← hsource] at hself
    -- An answer that was given is not replaced, so only an absent one can make a difference.
    cases hanswer : answers.get? g.id with
    | some v =>
      constructor
      · rintro ⟨k, _, hk, _, hnone, _⟩
        rw [hk, ← hsource, hanswer] at hnone
        cases hnone
      · exact fun h => absurd rfl h
    | none =>
      constructor
      · rintro ⟨k, hk, hks, _, _, htells⟩
        obtain rfl := List.inj_on_of_nodup_map hn hk hg (hks.trans hsource.symm)
        exact htells
      · exact fun h => ⟨g, hg, hsource, hself, hanswer, h⟩

/-- Completing answers makes no difference to what is visible exactly when no field that is visible
before or after has a condition that tells no answer from the default. -/
theorem visibleIn_completed_iff {shown kept : List String}
    (hshown : visibleIn fields (.dict answers) = .ok shown)
    (hkept : visibleIn fields (.dict full) = .ok kept) :
    shown = kept ↔ ∀ f ∈ fields, f.id ∈ shown ∨ f.id ∈ kept →
      ∀ c ∈ f.conditionList, ¬c.TellsDefault fields answers f.id := by
  rw [visibleIn_eq_iff hn hshown hkept]
  refine forall₂_congr fun f hf => ?_
  simp only [Condition.tellsDefault_iff hn hfull, not_not]
  rw [mem_visibleIn_iff hn hshown hf, mem_visibleIn_iff hn hkept hf, effectiveAnswers_dict,
    effectiveAnswers_dict]
  constructor
  · -- A field that is visible once is visible twice, and so all its conditions hold twice.
    intro hsame hvisible c hc
    have hbefore := hvisible.elim id hsame.mpr
    have hafter := hvisible.elim hsame.mp id
    rw [hbefore c hc, hafter c hc]
  · intro hequal
    constructor
    · intro h c hc
      rw [← hequal (Or.inl h) c hc]
      exact h c hc
    · intro h c hc
      rw [hequal (Or.inr h) c hc]
      exact h c hc

end Completed

end Questionnaire
