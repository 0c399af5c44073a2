import Questionnaire.Proofs.Number.Points
import Questionnaire.Proofs.Number.Range

/-!
# The order of whole numbers as floats

The float of a whole number lies where the number does after it has been rounded to fifty-three bits
(`Binary64.point?_of_ofInt?`).  Rounding goes to the nearest such number (`Binary64.rounded_near`), keeps
the order (`Binary64.rounded_mono`) and leaves numbers up to `2 ^ 53` alone (`Binary64.rounded_of_le`),
but greater numbers that follow each other may be rounded to the same place.
-/

namespace Questionnaire

/-! ### Rounding naturals -/

theorem roundHalfEven_mono {a b den : ℕ} (h : a ≤ b) : roundHalfEven a den ≤ roundHalfEven b den := by
  have hdiv : a / den ≤ b / den := Nat.div_le_div_right h
  rcases hdiv.lt_or_eq with hlt | heq
  · exact roundHalfEven_le_div_add_one.trans (hlt.trans_le div_le_roundHalfEven)
  · -- With one quotient the remainders are in order, and so is rounding them up.
    have hmod : a % den ≤ b % den := by
      have ha := Nat.div_add_mod a den
      have hb := Nat.div_add_mod b den
      rw [heq] at ha
      omega
    unfold roundHalfEven
    dsimp only
    rw [heq]
    split <;> split <;> omega

/-- Rounding a quotient errs by half at most. -/
theorem roundHalfEven_near {num den : ℕ} (hd : 0 < den) :
    2 * num ≤ 2 * (roundHalfEven num den * den) + den ∧
      2 * (roundHalfEven num den * den) ≤ 2 * num + den := by
  have hnum := Nat.div_add_mod' num den
  have hmod := Nat.mod_lt num hd
  unfold roundHalfEven
  dsimp only
  split
  · omega
  · rw [Nat.add_mul, one_mul]
    omega

/-- The exponent of the last of fifty-three bits. -/
def lastPlace (n : ℕ) : ℕ := n.log2 - 52

/-- A natural number rounded to fifty-three bits; a tie goes to the even last place. -/
def roundedNat (n : ℕ) : ℕ := roundHalfEven n (2 ^ lastPlace n) * 2 ^ lastPlace n

theorem log2_of_le {n : ℕ} (h : n < 2 ^ 53) : n.log2 ≤ 52 := by
  by_cases hn : n = 0
  · rw [hn]
    decide
  · exact Nat.lt_succ_iff.mp ((Nat.log2_lt hn).mpr h)

theorem roundedNat_of_lt {n : ℕ} (h : n < 2 ^ 53) : roundedNat n = n := by
  have hplace : lastPlace n = 0 := Nat.sub_eq_zero_of_le (log2_of_le h)
  rw [roundedNat, hplace, pow_zero, roundHalfEven_one, mul_one]

/-- Of a number of more bits than fifty-three, the last place is what the exponent exceeds 52 by. -/
theorem log2_eq_of_ge {n : ℕ} (h : 2 ^ 53 ≤ n) : n.log2 = lastPlace n + 52 := by
  have hlog : 53 ≤ n.log2 := (Nat.le_log2 (by omega)).mpr h
  rw [lastPlace]
  omega

/-- A number stays within its binade, the end of which is included. -/
theorem roundedNat_bounds {n : ℕ} (hn : n ≠ 0) :
    2 ^ n.log2 ≤ roundedNat n ∧ roundedNat n ≤ 2 ^ (n.log2 + 1) := by
  rcases Nat.lt_or_ge n (2 ^ 53) with hlt | hge
  · rw [roundedNat_of_lt hlt]
    exact ⟨Nat.log2_self_le hn, Nat.lt_log2_self.le⟩
  · have hlog := log2_eq_of_ge hge
    obtain ⟨hlow, hhigh⟩ := Magnitude.le_significand hn hlog
    rw [roundedNat, hlog, add_comm _ 52, Nat.pow_add, add_right_comm, Nat.pow_add]
    exact ⟨Nat.mul_le_mul_right _ hlow, Nat.mul_le_mul_right _ hhigh⟩

theorem roundedNat_mono {m n : ℕ} (h : m ≤ n) : roundedNat m ≤ roundedNat n := by
  by_cases hm : m = 0
  · rw [hm]
    exact Nat.zero_le _
  · have hn : n ≠ 0 := by omega
    have hlog : m.log2 ≤ n.log2 := (Nat.le_log2 hn).mpr ((Nat.log2_self_le hm).trans h)
    rcases hlog.lt_or_eq with hlt | heq
    · calc roundedNat m ≤ 2 ^ (m.log2 + 1) := (roundedNat_bounds hm).2
        _ ≤ 2 ^ n.log2 := Nat.pow_le_pow_right (by decide) hlt
        _ ≤ roundedNat n := (roundedNat_bounds hn).1
    · unfold roundedNat lastPlace
      rw [heq]
      exact Nat.mul_le_mul_right _ (roundHalfEven_mono h)

namespace Magnitude

theorem units_of_ofPair? {mant : ℕ} {exp : ℤ} {m : Magnitude} (h : ofPair? mant exp = some m) :
    m.units = mant * 2 ^ (exp + 1074).toNat := by
  unfold ofPair? at h
  split at h
  · cases h
    exact Nat.shiftLeft_eq mant _
  · cases h

/-- The magnitude nearest to a whole number is the rounded number. -/
theorem units_of_nearest? {n : ℕ} {m : Magnitude} (h : nearest? n 1 = some m) :
    m.units = roundedNat n * Binary64.unit := by
  by_cases hn : n = 0
  · subst hn
    cases h
    rw [roundedNat_of_lt (by decide), Nat.zero_mul]
    rfl
  · rw [Binary64.unit, Nat.one_shiftLeft]
    rcases Nat.lt_or_ge n (2 ^ 53) with hlt | hge
    · have hlog := log2_of_le hlt
      rw [(nearest?_eq_of_lt hn hlt).1] at h
      have hexp : ((n.log2 : ℤ) - 52 + 1074).toNat = n.log2 + 1022 := by omega
      have hsum : 52 - n.log2 + (n.log2 + 1022) = 1074 := by omega
      rw [units_of_ofPair? h, hexp, roundedNat_of_lt hlt, mul_assoc, ← Nat.pow_add, hsum]
    · have hlog := log2_eq_of_ge hge
      rw [roundedNat]
      generalize lastPlace n = k at hlog ⊢
      have hexp : ((k : ℤ) + 1074).toNat = k + 1074 := by omega
      have hexp' : ((k : ℤ) + 1 + 1074).toNat = 1 + (k + 1074) := by omega
      have hunits : m.units = roundHalfEven n (2 ^ k) * 2 ^ (k + 1074) := by
        rw [nearest?_eq_of_log2 hn hlog] at h
        split at h
        · next hround =>
          -- The significand reached the next binade, where it has one bit less.
          rw [units_of_ofPair? h, hexp', hround, Nat.pow_add, ← mul_assoc, ← Nat.pow_add]
        · rw [units_of_ofPair? h, hexp]
      rw [hunits, Nat.pow_add, ← mul_assoc]

end Magnitude

/-! ### Rounding whole numbers -/

namespace Binary64

/-- A whole number rounded to fifty-three bits. -/
def rounded (n : ℤ) : ℤ := if n < 0 then -(roundedNat n.natAbs : ℤ) else roundedNat n.natAbs

/-- Rounding errs by half of the last place at most. -/
theorem rounded_near (n : ℤ) : 2 * (rounded n - n).natAbs ≤ 2 ^ lastPlace n.natAbs := by
  have hnear := @roundHalfEven_near n.natAbs _ (Nat.two_pow_pos (lastPlace n.natAbs))
  unfold rounded roundedNat
  split <;> omega

theorem rounded_mono {m n : ℤ} (h : m ≤ n) : rounded m ≤ rounded n := by
  unfold rounded
  split_ifs with hm hn hn
  · have := roundedNat_mono (show n.natAbs ≤ m.natAbs by omega)
    omega
  · omega
  · omega
  · have := roundedNat_mono (show m.natAbs ≤ n.natAbs by omega)
    omega

theorem lt_of_rounded_lt {m n : ℤ} (h : rounded m < rounded n) : m < n := by
  by_contra hle
  exact absurd (rounded_mono (not_lt.mp hle)) (not_le.mpr h)

theorem rounded_of_le {n : ℤ} (h : n.natAbs ≤ 2 ^ 53) : rounded n = n := by
  have hnat : roundedNat n.natAbs = n.natAbs := by
    rcases h.lt_or_eq with hlt | heq
    · exact roundedNat_of_lt hlt
    · rw [heq]
      decide
  unfold rounded
  rw [hnat]
  split <;> omega

/-- The float of a whole number lies where the rounded number does. -/
theorem point?_of_ofInt? {n : ℤ} {x : Binary64} (h : ofInt? n = some x) :
    x.point? = some (.ofInt (rounded n)) := by
  obtain ⟨m, hm, rfl⟩ := Option.map_eq_some_iff.mp h
  have hunits := Magnitude.units_of_nearest? hm
  show some (Point.finite (if decide (n < 0) = true then -(m.units : ℤ) else m.units)) =
    some (Point.finite (rounded n * (unit : ℤ)))
  unfold rounded
  by_cases hn : n < 0
  · rw [if_pos (decide_eq_true hn), if_pos hn, hunits, Nat.cast_mul, neg_mul]
  · rw [if_neg (by simpa using hn), if_neg hn, hunits, Nat.cast_mul]

/-- The floats of whole numbers are compared as the rounded numbers. -/
theorem lt_iff_rounded_lt {m n : ℤ} {x y : Binary64} (hx : ofInt? m = some x)
    (hy : ofInt? n = some y) : x.lt y = true ↔ rounded m < rounded n := by
  unfold lt
  rw [point?_of_ofInt? hx, point?_of_ofInt? hy]
  exact Point.lt_ofInt_iff

end Binary64
end Questionnaire
