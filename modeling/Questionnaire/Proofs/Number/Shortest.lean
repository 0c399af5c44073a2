import Questionnaire.Proofs.Number.Digits
import Questionnaire.Proofs.Number.Rounding
import Mathlib.Tactic.NormNum

/-!
# The shortest decimal is read back

`Magnitude.nearestDecimal?_shortest` says that the decimal which is written for a magnitude is read as
that magnitude.  A decimal of one of the grids is only taken after it was read; the exact decimal, which
stands in where no grid has one, is read back since a magnitude is nearest to itself.  Zeros at the end
of the digits make no difference to a reader (`Magnitude.nearestDecimal?_mul_pow`).
-/

namespace Questionnaire.Magnitude

/-- A decimal with more zeros at the end of its digits is the same number. -/
theorem nearestDecimal?_mul_pow (n : ℕ) (e : ℤ) (k : ℕ) :
    nearestDecimal? (n * 10 ^ k) (e - k) = nearestDecimal? n e := by
  by_cases hn : n = 0
  · rw [hn, Nat.zero_mul]
    rfl
  · have hpow : 10 ^ k ≠ 0 := by positivity
    -- The longer numeral has `k` more digits and stands `k` places lower.
    have hplaces : ((Nat.toDigits 10 (n * 10 ^ k)).length : ℤ) + (e - k) =
        (Nat.toDigits 10 n).length + e := by
      rw [length_toDigits_mul_pow hn]
      push_cast
      omega
    have hvalue : (if 0 ≤ e - k then nearest? (n * 10 ^ k * Nat.pow 10 (e - k).toNat) 1
          else nearest? (n * 10 ^ k) (Nat.pow 10 (-(e - k)).toNat)) =
        if 0 ≤ e then nearest? (n * Nat.pow 10 e.toNat) 1
          else nearest? n (Nat.pow 10 (-e).toNat) := by
      simp only [Nat.pow_eq]
      split
      · -- Both are whole: the zeros take the place of those of the power.
        rename_i hk
        have he : e.toNat = k + (e - k).toNat := by omega
        rw [if_pos (by omega), he, pow_add, mul_assoc]
      · split
        · -- The longer one has a fraction, all of zeros.
          have hk : k = e.toNat + (-(e - k)).toNat := by omega
          rw [← nearest?_mul (c := 10 ^ (-(e - k)).toNat) one_ne_zero (by positivity), one_mul,
            mul_assoc, ← pow_add, ← hk]
        · have he : (-(e - k)).toNat = (-e).toNat + k := by omega
          rw [he, pow_add, nearest?_mul (by positivity) hpow]
    unfold nearestDecimal?
    rw [if_neg (Nat.mul_ne_zero hn hpow), if_neg hn]
    dsimp only
    rw [hplaces, hvalue]

/-! ### The exact decimal -/

/-- Where the decimal point of a decimal lies within the range of the format, it is read as its
quotient. -/
theorem nearestDecimal?_of_places {n : ℕ} {e : ℤ} (hn : n ≠ 0)
    (hlow : -330 ≤ ((Nat.toDigits 10 n).length : ℤ) + e)
    (hhigh : ((Nat.toDigits 10 n).length : ℤ) + e ≤ 310) :
    nearestDecimal? n e = nearest? (n * 10 ^ e.toNat) (10 ^ (-e).toNat) := by
  unfold nearestDecimal?
  rw [if_neg hn]
  dsimp only
  rw [if_neg (by omega), if_neg (by omega)]
  simp only [Nat.pow_eq]
  split
  · have hzero : (-e).toNat = 0 := by omega
    rw [hzero, pow_zero]
  · have hzero : e.toNat = 0 := by omega
    rw [hzero, pow_zero, mul_one]

theorem two_pow_le_ten_pow {k t : ℕ} (h : k ≤ 93 * t + 1) : 2 ^ k ≤ 10 ^ (28 * t) * 2 :=
  calc 2 ^ k ≤ 2 ^ (93 * t + 1) := Nat.pow_le_pow_right two_pos h
    _ = (2 ^ 93) ^ t * 2 := by rw [pow_succ, pow_mul]
    _ ≤ (10 ^ 28) ^ t * 2 := Nat.mul_le_mul_right 2 (Nat.pow_le_pow_left (by norm_num) t)
    _ = 10 ^ (28 * t) * 2 := by rw [pow_mul]

theorem two_pow_le_five_pow {k t : ℕ} (h : k ≤ 16 * t) : 2 ^ k ≤ 5 ^ (7 * t) :=
  calc 2 ^ k ≤ 2 ^ (16 * t) := Nat.pow_le_pow_right two_pos h
    _ = (2 ^ 16) ^ t := pow_mul 2 16 t
    _ ≤ (5 ^ 7) ^ t := Nat.pow_le_pow_left (by norm_num) t
    _ = 5 ^ (7 * t) := (pow_mul 5 7 t).symm

theorem nearestDecimal?_mant_whole {m : Magnitude} (hm : m.mant ≠ 0) (he : 0 ≤ m.exp) :
    nearestDecimal? (m.mant <<< m.exp.toNat) 0 = some m := by
  obtain ⟨hmant, _, hgreatest, _⟩ := m.canonical
  have hdigits : m.mant <<< m.exp.toNat ≠ 0 := by
    rw [Nat.shiftLeft_eq]
    positivity
  -- The greatest exponent leaves few enough digits for the reader.
  have hlength : (Nat.toDigits 10 (m.mant <<< m.exp.toNat)).length ≤ 28 * 11 + 2 := by
    rw [Nat.length_toDigits_le_iff (by decide) (by omega), Nat.shiftLeft_eq]
    calc m.mant * 2 ^ m.exp.toNat ≤ 2 ^ 53 * 2 ^ m.exp.toNat := Nat.mul_le_mul_right _ (by omega)
      _ = 2 ^ (53 + m.exp.toNat) := (pow_add 2 53 _).symm
      _ ≤ 10 ^ (28 * 11) * 2 := two_pow_le_ten_pow (by omega)
      _ < 10 ^ (28 * 11) * 10 ^ 2 := Nat.mul_lt_mul_of_pos_left (by decide) (by positivity)
      _ = 10 ^ (28 * 11 + 2) := (pow_add 10 (28 * 11) 2).symm
  have hquotient := nearest?_quotient hm
  unfold quotient at hquotient
  rw [if_pos he] at hquotient
  rw [nearestDecimal?_of_places hdigits (by omega) (by omega)]
  simpa using hquotient

/-- The digits of a significand with a fraction: the point stands neither far before them nor far
behind. -/
theorem length_toDigits_mul_five_pow {n k : ℕ} (hn : n ≠ 0) (hlt : n < 0x20000000000000)
    (hk : k ≤ 1074) :
    k ≤ (Nat.toDigits 10 (n * 5 ^ k)).length + 330 ∧
      (Nat.toDigits 10 (n * 5 ^ k)).length ≤ 16 + k := by
  constructor
  · by_contra hshort
    obtain ⟨j, rfl⟩ : ∃ j, k = j + 7 * 47 := ⟨k - 329, by omega⟩
    have hpos := Nat.length_toDigits_pos (b := 10) (n := n * 5 ^ (j + 7 * 47))
    have hlength : (Nat.toDigits 10 (n * 5 ^ (j + 7 * 47))).length ≤ j := by omega
    rw [Nat.length_toDigits_le_iff (by decide) (by omega)] at hlength
    -- A product with so few digits would make `2 ^ k` too great for the least exponent.
    have hfive : 5 ^ j * 5 ^ (7 * 47) < 2 ^ j * 5 ^ j := by
      rw [← pow_add, ← mul_pow]
      exact lt_of_le_of_lt (Nat.le_mul_of_pos_left _ (Nat.pos_of_ne_zero hn)) hlength
    rw [mul_comm (2 ^ j), Nat.mul_lt_mul_left (by positivity)] at hfive
    have hle : 2 ^ j ≤ 5 ^ (7 * 47) := two_pow_le_five_pow (by omega)
    omega
  · rw [Nat.length_toDigits_le_iff (by decide) (by omega), pow_add]
    have hpow : 5 ^ k ≤ 10 ^ k := Nat.pow_le_pow_left (by decide) k
    have hpos : 0 < 10 ^ k := by positivity
    calc n * 5 ^ k ≤ n * 10 ^ k := Nat.mul_le_mul_left _ hpow
      _ < 10 ^ 16 * 10 ^ k := Nat.mul_lt_mul_of_pos_right (by omega) hpos

theorem nearestDecimal?_mant_fraction {m : Magnitude} (hm : m.mant ≠ 0) (he : m.exp < 0) :
    nearestDecimal? (m.mant * 5 ^ (-m.exp).toNat) m.exp = some m := by
  obtain ⟨hmant, hleast, _, _⟩ := m.canonical
  obtain ⟨k, hk⟩ : ∃ k : ℕ, m.exp = -k := ⟨(-m.exp).toNat, by omega⟩
  have hk' : (-m.exp).toNat = k := by omega
  have hdigits : m.mant * 5 ^ k ≠ 0 := Nat.mul_ne_zero hm (by positivity)
  obtain ⟨hlow, hhigh⟩ := length_toDigits_mul_five_pow hm hmant (k := k) (by omega)
  have hquotient := nearest?_quotient hm
  unfold quotient at hquotient
  rw [if_neg (by omega), hk', Nat.shiftLeft_eq, one_mul] at hquotient
  have htoNat : m.exp.toNat = 0 := by omega
  have hten : 10 ^ k = 2 ^ k * 5 ^ k := mul_pow 2 5 k
  rw [hk', nearestDecimal?_of_places hdigits (by omega) (by omega), hk', htoNat, pow_zero, mul_one,
    hten, nearest?_mul (by positivity) (by positivity)]
  exact hquotient

/-- All the digits of a magnitude are read as the magnitude. -/
theorem nearestDecimal?_exactDecimal {m : Magnitude} (hm : m.mant ≠ 0) :
    nearestDecimal? m.exactDecimal.digits m.exactDecimal.exp = some m := by
  unfold exactDecimal
  split
  · exact nearestDecimal?_mant_whole hm ‹_›
  · exact nearestDecimal?_mant_fraction hm (by omega)

/-! ### The shortest decimal -/

theorem isReadFrom_iff {m : Magnitude} {d : Decimal} :
    m.isReadFrom d = true ↔ nearestDecimal? d.digits d.exp = some m := decide_eq_true_iff

/-- A decimal of a grid is only taken if it is read as the magnitude. -/
theorem isReadFrom_of_shortestAt? {m : Magnitude} {n : ℕ} {d : Decimal}
    (h : m.shortestAt? n = some d) : m.isReadFrom d = true := by
  unfold shortestAt? at h
  dsimp only at h
  split at h
  · split at h
    · rwa [← Option.some.inj h]
    · rwa [← Option.some.inj h]
    · rw [← Option.some.inj h]
      split
      · assumption
      · assumption
  · rwa [← Option.some.inj h]
  · rwa [← Option.some.inj h]
  · cases h

theorem nearestDecimal?_stripZeros (steps : ℕ) (d : Decimal) :
    nearestDecimal? (d.stripZeros steps).digits (d.stripZeros steps).exp =
      nearestDecimal? d.digits d.exp := by
  induction steps generalizing d with
  | zero => rfl
  | succ steps ih =>
    rw [Decimal.stripZeros]
    split
    · rename_i h
      rw [ih]
      have hdigits : d.digits / 10 * 10 ^ 1 = d.digits := by omega
      have hexp : d.exp + 1 - (1 : ℕ) = d.exp := by push_cast; omega
      rw [← nearestDecimal?_mul_pow _ (d.exp + 1) 1, hdigits, hexp]
    · rfl

/-- The decimal that is written for a magnitude is read as that magnitude. -/
theorem nearestDecimal?_shortest (m : Magnitude) :
    nearestDecimal? m.shortest.digits m.shortest.exp = some m := by
  unfold shortest
  by_cases hm : m.mant = 0
  · rw [if_pos hm]
    obtain ⟨mant, exp, canonical⟩ := m
    obtain rfl : mant = 0 := hm
    obtain rfl : exp = -1074 := by
      obtain ⟨_, _, _, hnormal⟩ := canonical
      omega
    rfl
  -- Each of the candidates is accepted only if it reads back, and the exact decimal always does.
  · rw [if_neg hm, Decimal.normal, nearestDecimal?_stripZeros]
    cases hgrid : (List.range 17).findSome? fun n => m.shortestAt? (n + 1) with
    | none => exact nearestDecimal?_exactDecimal hm
    | some d =>
      obtain ⟨n, _, hn⟩ := List.exists_of_findSome?_eq_some hgrid
      exact isReadFrom_iff.mp (isReadFrom_of_shortestAt? hn)

end Questionnaire.Magnitude
