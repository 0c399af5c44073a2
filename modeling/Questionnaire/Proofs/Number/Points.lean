import Questionnaire.Value.Basic
import Mathlib.Algebra.Order.Ring.Int
import Mathlib.Data.Nat.Cast.Order.Ring

/-!
# Places on the number line

A number has a place on the number line unless it is not a number.  Numbers are compared by their places,
and the places of whole numbers lie in the order of the numbers (`Point.lt_ofInt_iff`,
`Point.ofInt_inj`).  A float is told by its place, but for the sign of zero
(`Binary64.eq_or_zero_of_point?`).
-/

namespace Questionnaire

/-! ### Magnitudes -/

namespace Magnitude

theorem units_eq (m : Magnitude) : m.units = m.mant * 2 ^ (m.exp + 1074).toNat :=
  Nat.shiftLeft_eq _ _

/-- A magnitude is told by its value: there is one normal form for each. -/
theorem units_inj {m n : Magnitude} : m.units = n.units ↔ m = n := by
  refine ⟨fun h => ?_, congrArg units⟩
  wlog hle : m.exp ≤ n.exp generalizing m n
  · exact (this h.symm (Int.le_of_not_le hle)).symm
  obtain ⟨k, hk⟩ := Int.le.dest hle
  obtain ⟨hmant, hleast, -, -⟩ := m.canonical
  obtain ⟨-, -, -, hnormal⟩ := n.canonical
  have hexp : (n.exp + 1074).toNat = (m.exp + 1074).toNat + k := by omega
  have hshift : m.mant = n.mant * 2 ^ k := by
    rw [units_eq, units_eq, hexp, Nat.pow_add, Nat.mul_left_comm, Nat.mul_comm] at h
    exact Nat.eq_of_mul_eq_mul_left (Nat.two_pow_pos _) h
  cases k with
  | zero =>
    rw [Nat.pow_zero, Nat.mul_one] at hshift
    rw [Int.natCast_zero, Int.add_zero] at hk
    obtain ⟨_, _, _⟩ := m
    obtain ⟨_, _, _⟩ := n
    simp only [Magnitude.mk.injEq]
    exact ⟨hshift, hk⟩
  | succ k =>
    -- The greater exponent is not the least one, so its significand has all its bits.
    have hbits : 0x10000000000000 ≤ n.mant := hnormal.resolve_right (by omega)
    have hpow : 1 ≤ 2 ^ k := Nat.one_le_two_pow
    have : 0x10000000000000 * 2 ≤ n.mant * 2 ^ (k + 1) :=
      Nat.mul_le_mul hbits (by rw [Nat.pow_succ]; omega)
    omega

end Magnitude

/-! ### Places -/

theorem Binary64.unit_pos : (0 : Int) < Binary64.unit := by
  unfold Binary64.unit
  rw [Nat.one_shiftLeft]
  exact_mod_cast Nat.two_pow_pos 1074

namespace Point

theorem lt_ofInt_iff {a b : Int} : (ofInt a).lt (ofInt b) = true ↔ a < b := by
  show decide (a * (Binary64.unit : Int) < b * (Binary64.unit : Int)) = true ↔ _
  rw [decide_eq_true_iff]
  exact Int.mul_lt_mul_right Binary64.unit_pos

theorem ofInt_inj {a b : Int} : ofInt a = ofInt b ↔ a = b := by
  constructor
  · intro h
    exact Int.eq_of_mul_eq_mul_right Binary64.unit_pos.ne' (Point.finite.inj h)
  · rintro rfl
    rfl

theorem same_none {a : Option Point} : same none a = false := by cases a <;> rfl

theorem same_iff {a b : Option Point} : same a b = true ↔ ∃ p, a = some p ∧ b = some p := by
  cases a with
  | none => simp [same]
  | some p =>
    cases b with
    | none => simp [same]
    | some q => simp [same, eq_comm]

end Point

theorem Binary64.point?_nan (mark : Nat) : (Binary64.nan mark).point? = none := rfl

/-- A float is told by its place, but for the sign of zero. -/
theorem Binary64.eq_or_zero_of_point? {x y : Binary64} {p : Point} (hx : x.point? = some p)
    (hy : y.point? = some p) :
    x = y ∨ ∃ neg neg', x = .finite neg .zero ∧ y = .finite neg' .zero := by
  cases x with
  | nan => cases hx
  | infinite neg =>
    cases y with
    | nan => cases hy
    | infinite neg' => cases neg <;> cases neg' <;> cases hx <;> cases hy <;> exact .inl rfl
    | finite => cases neg <;> cases hx <;> cases hy
  | finite neg m =>
    cases y with
    | nan => cases hy
    | infinite neg' => cases neg' <;> cases hx <;> cases hy
    | finite neg' n =>
      -- Finite numbers have their places among the units, with their signs.
      have hunits : (if neg then -(m.units : Int) else m.units) =
          if neg' then -(n.units : Int) else n.units :=
        Point.finite.inj (Option.some.inj (hx.trans hy.symm))
      obtain rfl : m = n := Magnitude.units_inj.mp (by split_ifs at hunits <;> omega)
      by_cases hneg : neg = neg'
      · exact .inl (hneg ▸ rfl)
      · -- With different signs the two have one place only if they are zeros.
        have hzero : m.units = Magnitude.zero.units := by
          show m.units = 0
          cases neg <;> cases neg' <;> simp at hneg hunits <;> omega
        obtain rfl := Magnitude.units_inj.mp hzero
        exact .inr ⟨neg, neg', rfl, rfl⟩

namespace Number

theorem int_lt_int (a b : Int) : (Number.int a).lt (.int b) = decide (a < b) :=
  Bool.eq_iff_iff.mpr (Point.lt_ofInt_iff.trans decide_eq_true_iff.symm)

theorem eq_iff {m n : Number} : m.eq n = true ↔ ∃ p, m.point? = some p ∧ n.point? = some p :=
  Point.same_iff

theorem int_eq_int_iff {a b : Int} : (Number.int a).eq (.int b) = true ↔ a = b := by
  rw [eq_iff]
  constructor
  · rintro ⟨p, ha, hb⟩
    exact Point.ofInt_inj.mp (Option.some.inj (ha.trans hb.symm))
  · rintro rfl
    exact ⟨_, rfl, rfl⟩

end Number
end Questionnaire
