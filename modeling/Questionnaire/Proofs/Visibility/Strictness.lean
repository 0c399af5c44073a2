import Questionnaire.Proofs.Value.Equality

/-!
# Truth values and numbers in comparisons

`equals`, and `contains` on an array, tell a truth value from a number when they compare the two
themselves, but not inside of arrays and objects: there the values are counted, and `true` is one.  So
they compare strictly except where one value has a truth value at the place of an equal number of the
other (`Operator.comparesBy_strictlyEqual_iff`).
-/

namespace Questionnaire.Operator

open Value

variable {a b : Value} {E F : Value → Value → Prop}

/-- `equals` is the equality `E` of two values, and `contains` looks for an item that is equal by it. -/
structure ComparesBy (E : Value → Value → Prop) (a b : Value) : Prop where
  equals : ∃ r, holdsNamed (.str "equals") a b = .ok r ∧ (r = true ↔ E a b)
  contains : ∀ vs, a = .list vs →
    ∃ r, holdsNamed (.str "contains") a b = .ok r ∧ (r = true ↔ ∃ v ∈ vs, E v b)

/-- Two values of one kind are loosely equal, but a truth value faces a number in them. -/
structure Conflated (a b : Value) : Prop where
  kind : a.isTruth = b.isTruth
  equal : LooselyEqual a b
  facing : ∃ x y, Facing x y a b ∧ x.isTruth ≠ y.isTruth

theorem not_kindsAgree_iff :
    ¬KindsAgree a b ↔ ∃ x y, Facing x y a b ∧ x.isTruth ≠ y.isTruth := by
  simp only [KindsAgree, not_forall, exists_prop, ne_eq]

/-- Of what is equal but for the kinds of leaves, some is conflated and the rest is strictly equal. -/
theorem looselyEqual_iff_or : a.isTruth = b.isTruth ∧ LooselyEqual a b ↔
    StrictlyEqual a b ∨ Conflated a b := by
  rw [strictlyEqual_iff]
  constructor
  · rintro ⟨hkind, h⟩
    by_cases hkinds : KindsAgree a b
    · exact .inl ⟨h, hkinds⟩
    · exact .inr ⟨hkind, h, not_kindsAgree_iff.mp hkinds⟩
  · rintro (⟨h, hkinds⟩ | h)
    · exact ⟨hkinds a b .here, h⟩
    · exact ⟨h.kind, h.equal⟩

theorem not_strictlyEqual_of_conflated (h : Conflated a b) : ¬StrictlyEqual a b :=
  fun hstrict => not_kindsAgree_iff.mpr h.facing (strictlyEqual_iff.mp hstrict).2

theorem equalTo_iff (ha : a.IsJson Number.Finite) (hb : b.IsJson Number.Finite) :
    equalTo a b = true ↔ a.isTruth = b.isTruth ∧ LooselyEqual a b := by
  rw [equalTo, Bool.and_eq_true, beq_iff_eq, equal_eq_same ha, same_iff_looselyEqual ha hb]

/-- Two equalities by which the same is compared agree on it. -/
theorem ComparesBy.iff (h : ComparesBy E a b) : ComparesBy F a b ↔
    (E a b ↔ F a b) ∧ ∀ vs, a = .list vs → ((∃ v ∈ vs, E v b) ↔ ∃ v ∈ vs, F v b) := by
  obtain ⟨⟨r, hr, hE⟩, hcontains⟩ := h
  constructor
  · rintro ⟨⟨r', hr', hF⟩, hcontains'⟩
    -- One run gives one result, so the two readings speak of the same `r` and `q`.
    obtain rfl : r = r' := Except.ok.inj (hr.symm.trans hr')
    refine ⟨hE.symm.trans hF, fun vs hvs => ?_⟩
    obtain ⟨q, hq, hE⟩ := hcontains vs hvs
    obtain ⟨q', hq', hF⟩ := hcontains' vs hvs
    obtain rfl : q = q' := Except.ok.inj (hq.symm.trans hq')
    exact hE.symm.trans hF
  · rintro ⟨hEF, hitems⟩
    refine ⟨⟨r, hr, hE.trans hEF⟩, fun vs hvs => ?_⟩
    obtain ⟨q, hq, hE⟩ := hcontains vs hvs
    exact ⟨q, hq, hE.trans (hitems vs hvs)⟩

/-- JSON data is compared loosely, apart from the kind of the values themselves. -/
theorem comparesBy_looselyEqual (ha : a.IsJson Number.Finite) (hb : b.IsJson Number.Finite) :
    ComparesBy (fun a b => a.isTruth = b.isTruth ∧ LooselyEqual a b) a b := by
  refine ⟨⟨equalTo a b, rfl, equalTo_iff ha hb⟩, ?_⟩
  rintro vs rfl
  refine ⟨vs.any (equalTo · b), rfl, List.any_eq_true.trans ?_⟩
  cases ha with
  | list h => exact exists_congr fun v => and_congr_right fun hv => equalTo_iff (h v hv) hb

/-- JSON data is compared strictly at every depth, unless the two values are conflated, or an item is
conflated with the target and none is strictly equal to it. -/
theorem comparesBy_strictlyEqual_iff (ha : a.IsJson Number.Finite) (hb : b.IsJson Number.Finite) :
    ComparesBy (fun a b => StrictlyEqual a b ∨ Conflated a b) a b ∧
      (ComparesBy StrictlyEqual a b ↔ ¬Conflated a b ∧
        ∀ vs, a = .list vs → (∃ v ∈ vs, Conflated v b) → ∃ v ∈ vs, StrictlyEqual v b) := by
  have h : ComparesBy (fun a b => StrictlyEqual a b ∨ Conflated a b) a b := by
    simpa only [looselyEqual_iff_or] using comparesBy_looselyEqual ha hb
  refine ⟨h, h.iff.trans (and_congr ?_ (forall₂_congr fun vs _ => ?_))⟩
  -- Equality itself: a conflated pair is found equal and is not strictly so.
  · constructor
    · exact fun hiff hc => not_strictlyEqual_of_conflated hc (hiff.mp (.inr hc))
    · exact fun hc => or_iff_left hc
  -- Containment: a conflated item does no harm if a strictly equal one is there as well.
  · constructor
    · rintro hiff ⟨v, hv, hc⟩
      exact hiff.mp ⟨v, hv, .inr hc⟩
    · intro hstrict
      constructor
      · rintro ⟨v, hv, h | hc⟩
        · exact ⟨v, hv, h⟩
        · exact hstrict ⟨v, hv, hc⟩
      · rintro ⟨v, hv, h⟩
        exact ⟨v, hv, .inl h⟩

/-- An item with a truth value in the place of a number does not matter beside the right one. -/
theorem comparesBy_strictlyEqual_items :
    (Value.list [.list [.bool true], .list [.int 1]]).IsJson Number.Finite ∧
      (Value.list [.int 1]).IsJson Number.Finite ∧
      ComparesBy StrictlyEqual (.list [.list [.bool true], .list [.int 1]]) (.list [.int 1]) := by
  have hone : (Value.list [.int 1]).IsJson Number.Finite :=
    .list (by simp [IsJson.int, Number.finite_int])
  have htrue : (Value.list [.bool true]).IsJson Number.Finite := .list (by simp [IsJson.bool])
  have ha : (Value.list [.list [.bool true], .list [.int 1]]).IsJson Number.Finite :=
    .list (by simp [hone, htrue])
  refine ⟨ha, hone, (comparesBy_strictlyEqual_iff ha hone).2.mpr ⟨fun hc => ?_, fun vs hvs _ => ?_⟩⟩
  · obtain ⟨ys, hys, hlength, -⟩ := looselyEqual_list_iff.mp hc.equal
    cases hys
    cases hlength
  · cases hvs
    refine ⟨.list [.int 1], by simp, .list rfl fun p hp => ?_⟩
    obtain rfl := List.mem_singleton.mp hp
    exact .leaf (.number rfl rfl (Number.int_eq_int_iff.mpr rfl))

/-- A list of a truth value equals the list of the number that it counts as. -/
theorem not_comparesBy_of_counted :
    ¬ComparesBy StrictlyEqual (.list [.bool true]) (.list [.int 1]) := by
  rintro ⟨⟨r, hr, hiff⟩, -⟩
  have htrue : equalTo (.list [.bool true]) (.list [.int 1]) = true := by
    simp [equalTo, isTruth, equal, equalLists, same, equalScalars, scalarPoint?, Point.same]
  obtain rfl : equalTo (.list [.bool true]) (.list [.int 1]) = r := Except.ok.inj hr
  have hkinds := (strictlyEqual_iff.mp (hiff.mp htrue)).2
  exact absurd (hkinds (.bool true) (.int 1) (.item (List.mem_singleton.mpr rfl) .here)) (by decide)

end Questionnaire.Operator
