import Questionnaire.Number.Shortest
import Mathlib.Algebra.Order.Field.Power
import Mathlib.Data.Int.Log
import Mathlib.Data.Rat.Floor
import Mathlib.Tactic.FieldSimp
import Mathlib.Tactic.Ring

/-!
# Rounding to the nearest magnitude

`Magnitude.nearest?` works on a quotient of whole numbers, but what it gives depends on the value of
the quotient only (`Magnitude.nearest?_mul`).  A magnitude is nearest to itself
(`Magnitude.nearest?_quotient`).

The exponent of the binade is `Int.log` of the quotient (`floorLog2_eq_log`), which is where both come
from: `floorLog2` looks at the bits of the two numbers first and then corrects its guess by at most one.
-/

namespace Questionnaire

/-! ### The binade -/

theorem two_zpow_eq (e : ℤ) : (2 : ℚ) ^ e = 2 ^ e.toNat / 2 ^ (-e).toNat := by
  rcases Int.le_total 0 e with h | h
  · obtain ⟨k, rfl⟩ := Int.eq_ofNat_of_zero_le h
    simp
  · obtain ⟨k, hk⟩ := Int.eq_ofNat_of_zero_le (Int.neg_nonneg_of_nonpos h)
    obtain rfl : e = -(k : ℤ) := by omega
    simp

/-- Powers of two are compared with a quotient by shifting one side of it. -/
theorem two_zpow_le_div_iff (num : ℕ) {den : ℕ} (hd : den ≠ 0) (e : ℤ) :
    (2 : ℚ) ^ e ≤ num / den ↔ den <<< e.toNat ≤ num <<< (-e).toNat := by
  have hden : (0 : ℚ) < den := by exact_mod_cast Nat.pos_of_ne_zero hd
  rw [two_zpow_eq, div_le_div_iff₀ (by positivity) hden, Nat.shiftLeft_eq, Nat.shiftLeft_eq,
    mul_comm ((2 : ℚ) ^ e.toNat)]
  exact_mod_cast Iff.rfl

theorem log_eq_of_le_of_lt {r : ℚ} (hr : 0 < r) {e : ℤ} (hle : (2 : ℚ) ^ e ≤ r)
    (hlt : r < 2 ^ (e + 1)) : Int.log 2 r = e := by
  have h := (Int.zpow_le_iff_le_log (R := ℚ) one_lt_two hr).mp hle
  have h' := (Int.lt_zpow_iff_log_lt (R := ℚ) one_lt_two hr).mp hlt
  omega

/-- The exponent of the binade of a quotient. -/
theorem floorLog2_eq_log {num den : ℕ} (hn : num ≠ 0) (hd : den ≠ 0) :
    floorLog2 num den = Int.log 2 ((num : ℚ) / den) := by
  have hden : (0 : ℚ) < den := by exact_mod_cast Nat.pos_of_ne_zero hd
  have hpos : (0 : ℚ) < num / den := by
    have hnum : (0 : ℚ) < num := by exact_mod_cast Nat.pos_of_ne_zero hn
    positivity
  set g : ℤ := (num.log2 : ℤ) - den.log2 with hg
  -- The number of bits bounds each of the two numbers from both sides.
  have hupper : (num : ℚ) / den < 2 ^ (g + 1) := by
    have hnum : (num : ℚ) < 2 ^ (num.log2 + 1) := by exact_mod_cast Nat.lt_log2_self
    have hlow : (2 : ℚ) ^ den.log2 ≤ den := by exact_mod_cast Nat.log2_self_le hd
    have hsplit : (2 : ℚ) ^ (num.log2 + 1) = 2 ^ (g + 1) * 2 ^ den.log2 := by
      rw [← zpow_natCast, ← zpow_natCast, ← zpow_add₀ two_ne_zero]
      congr 1
      push_cast
      omega
    rw [div_lt_iff₀ hden]
    calc (num : ℚ) < 2 ^ (g + 1) * 2 ^ den.log2 := hsplit ▸ hnum
      _ ≤ 2 ^ (g + 1) * den := by gcongr
  have hlower : (2 : ℚ) ^ (g - 1) ≤ num / den := by
    have hnum : (2 : ℚ) ^ num.log2 ≤ num := by exact_mod_cast Nat.log2_self_le hn
    have hhigh : (den : ℚ) < 2 ^ (den.log2 + 1) := by exact_mod_cast Nat.lt_log2_self
    have hsplit : (2 : ℚ) ^ (g - 1) * 2 ^ (den.log2 + 1) = 2 ^ num.log2 := by
      rw [← zpow_natCast, ← zpow_natCast, ← zpow_add₀ two_ne_zero]
      congr 1
      push_cast
      omega
    rw [le_div_iff₀ hden]
    calc (2 : ℚ) ^ (g - 1) * den ≤ 2 ^ (g - 1) * 2 ^ (den.log2 + 1) := by gcongr
      _ = 2 ^ num.log2 := hsplit
      _ ≤ num := hnum
  have hguess := two_zpow_le_div_iff num hd g
  unfold floorLog2
  by_cases h : den <<< g.toNat ≤ num <<< (-g).toNat
  · rw [if_pos h]
    exact (log_eq_of_le_of_lt hpos (hguess.mpr h) hupper).symm
  · rw [if_neg h]
    have hlt : (num : ℚ) / den < 2 ^ (g - 1 + 1) := by
      rw [sub_add_cancel]
      exact lt_of_not_ge fun hle => h (hguess.mp hle)
    exact (log_eq_of_le_of_lt hpos hlower hlt).symm

theorem floorLog2_mul {num den c : ℕ} (hn : num ≠ 0) (hd : den ≠ 0) (hc : c ≠ 0) :
    floorLog2 (num * c) (den * c) = floorLog2 num den := by
  have hc' : (c : ℚ) ≠ 0 := by exact_mod_cast hc
  rw [floorLog2_eq_log hn hd, floorLog2_eq_log (Nat.mul_ne_zero hn hc) (Nat.mul_ne_zero hd hc)]
  push_cast
  rw [mul_div_mul_right _ _ hc']

/-! ### The significand -/

theorem roundHalfEven_mul {num den c : ℕ} (hc : c ≠ 0) :
    roundHalfEven (num * c) (den * c) = roundHalfEven num den := by
  have hpos : 0 < c := Nat.pos_of_ne_zero hc
  unfold roundHalfEven
  dsimp only
  rw [Nat.mul_div_mul_right _ _ hpos, Nat.mul_mod_mul_right, ← Nat.mul_assoc]
  simp only [Nat.mul_lt_mul_right hpos, Nat.mul_right_cancel_iff hpos]

theorem roundHalfEven_one (n : ℕ) : roundHalfEven n 1 = n := by
  unfold roundHalfEven
  simp [Nat.mod_one]

namespace Magnitude

/-- What is nearest to a quotient is nearest to its value. -/
theorem nearest?_mul {num den c : ℕ} (hd : den ≠ 0) (hc : c ≠ 0) :
    nearest? (num * c) (den * c) = nearest? num den := by
  by_cases hn : num = 0
  · rw [hn, Nat.zero_mul]
    rfl
  · unfold nearest?
    have hshift (a k : ℕ) : (a * c) <<< k = a <<< k * c := by
      rw [Nat.shiftLeft_eq, Nat.shiftLeft_eq]
      ring
    rw [if_neg (Nat.mul_ne_zero hn hc), if_neg hn, floorLog2_mul hn hd hc]
    simp only [hshift, roundHalfEven_mul hc]

/-- A magnitude as a quotient is its significand times a power of two. -/
theorem quotient_div (m : Magnitude) :
    (m.quotient.1 : ℚ) / m.quotient.2 = m.mant * 2 ^ m.exp := by
  rw [two_zpow_eq]
  unfold quotient
  split
  · have hzero : (-m.exp).toNat = 0 := by omega
    rw [hzero]
    push_cast [Nat.shiftLeft_eq]
    ring
  · have hzero : m.exp.toNat = 0 := by omega
    rw [hzero]
    push_cast [Nat.shiftLeft_eq]
    ring

theorem quotient_fst_ne {m : Magnitude} (hm : m.mant ≠ 0) : m.quotient.1 ≠ 0 := by
  unfold quotient
  split
  · rw [Nat.shiftLeft_eq]
    exact Nat.mul_ne_zero hm (by positivity)
  · exact hm

theorem quotient_snd_ne (m : Magnitude) : m.quotient.2 ≠ 0 := by
  unfold quotient
  split
  · exact one_ne_zero
  · rw [Nat.shiftLeft_eq]
    positivity

/-- The significand of a magnitude is the quotient in units of its last place. -/
theorem roundHalfEven_quotient (m : Magnitude) :
    roundHalfEven (m.quotient.1 <<< (-m.exp).toNat) (m.quotient.2 <<< m.exp.toNat) = m.mant := by
  have hround (k : ℕ) : roundHalfEven (m.mant <<< k) (1 <<< k) = m.mant := by
    rw [Nat.shiftLeft_eq, Nat.shiftLeft_eq, roundHalfEven_mul (by positivity), roundHalfEven_one]
  unfold quotient
  split
  · have hzero : (-m.exp).toNat = 0 := by omega
    rw [hzero]
    exact hround _
  · have hzero : m.exp.toNat = 0 := by omega
    rw [hzero]
    exact hround _

/-- The exponent of a magnitude is the one that its binade asks for, or else the least one. -/
theorem max_floorLog2_quotient {m : Magnitude} (hm : m.mant ≠ 0) :
    max (-1074) (floorLog2 m.quotient.1 m.quotient.2 - 52) = m.exp := by
  obtain ⟨hmant, hleast, _, hnormal⟩ := m.canonical
  have hpos : (0 : ℚ) < m.mant * 2 ^ m.exp := by
    have hmant : (0 : ℚ) < m.mant := by exact_mod_cast Nat.pos_of_ne_zero hm
    positivity
  have hupper : (m.mant * 2 ^ m.exp : ℚ) < 2 ^ (m.exp + 53) := by
    have hmant : (m.mant : ℚ) < 2 ^ (53 : ℤ) := by exact_mod_cast hmant
    rw [add_comm, zpow_add₀ two_ne_zero]
    gcongr
  rw [floorLog2_eq_log (quotient_fst_ne hm) m.quotient_snd_ne, m.quotient_div]
  -- A normal significand fixes the logarithm, a subnormal one bounds it.
  rcases hnormal with hnormal | hsubnormal
  · have hlower : (2 : ℚ) ^ (m.exp + 52) ≤ m.mant * 2 ^ m.exp := by
      have hnormal : (2 : ℚ) ^ (52 : ℤ) ≤ m.mant := by exact_mod_cast hnormal
      rw [add_comm, zpow_add₀ two_ne_zero]
      gcongr
    have hupper : (m.mant * 2 ^ m.exp : ℚ) < 2 ^ (m.exp + 52 + 1) := by
      rw [add_assoc]
      exact hupper
    rw [log_eq_of_le_of_lt hpos hlower hupper]
    omega
  · have hlog := (Int.lt_zpow_iff_log_lt (R := ℚ) one_lt_two hpos).mp hupper
    omega

/-- A magnitude other than zero is the nearest one to itself. -/
theorem nearest?_quotient {m : Magnitude} (hm : m.mant ≠ 0) :
    nearest? m.quotient.1 m.quotient.2 = some m := by
  have hmant : m.mant ≠ 0x20000000000000 := by
    have hlt := m.canonical.1
    omega
  unfold nearest?
  rw [if_neg (quotient_fst_ne hm)]
  dsimp only
  rw [max_floorLog2_quotient hm, roundHalfEven_quotient, if_neg hmant]
  exact dif_pos m.canonical

end Magnitude
end Questionnaire
