import Questionnaire.Proofs.Number.Rounding

/-!
# The range of floats

A whole number has a nearest float unless it is at least half a last place above the greatest one:
`Binary64.ofInt?_eq_none_iff` says exactly where the range ends.

The significand of a number with more than fifty-three bits is rounded, and lies between `2 ^ 52` and
`2 ^ 53` with both ends included.  So only the exponent can leave the format, and it does so either by
itself or because the significand is rounded up to the next binade (`roundHalfEven_le_iff`).
-/

namespace Questionnaire

/-! ### Rounding up -/

section Rounding

variable {num den : ℕ}

theorem div_le_roundHalfEven : num / den ≤ roundHalfEven num den := by
  unfold roundHalfEven
  dsimp only
  split <;> omega

theorem roundHalfEven_le_div_add_one : roundHalfEven num den ≤ num / den + 1 := by
  unfold roundHalfEven
  dsimp only
  split <;> omega

/-- What is rounded stays at an odd number as long as it is less than a half above it. -/
theorem roundHalfEven_le_iff {q : ℕ} (hq : q % 2 = 1) (hd : 0 < den) :
    roundHalfEven num den ≤ q ↔ 2 * num < (2 * q + 1) * den := by
  have hsplit : den * (num / den) + num % den = num := Nat.div_add_mod num den
  have hmod : num % den < den := Nat.mod_lt num hd
  have hexpand : (2 * q + 1) * den = 2 * (den * q) + den := by ring
  -- Below `q` rounding up is too little, above it rounding down is too much; at `q` the remainder
  -- decides.
  rcases lt_trichotomy (num / den) q with hlt | heq | hgt
  · have hle : den * (num / den) + den ≤ den * q := by
      rw [← Nat.mul_succ]
      exact Nat.mul_le_mul_left den hlt
    have hup : roundHalfEven num den ≤ num / den + 1 := roundHalfEven_le_div_add_one
    exact iff_of_true (by omega) (by omega)
  · unfold roundHalfEven
    dsimp only
    rw [heq] at hsplit ⊢
    rw [hexpand]
    split <;> omega
  · have hle : den * q + den ≤ den * (num / den) := by
      rw [← Nat.mul_succ]
      exact Nat.mul_le_mul_left den hgt
    have hlow : num / den ≤ roundHalfEven num den := div_le_roundHalfEven
    exact iff_of_false (by omega) (by omega)

end Rounding

/-! ### Whole numbers -/

theorem floorLog2_one {n : ℕ} (hn : n ≠ 0) : floorLog2 n 1 = n.log2 := by
  have hone : Nat.log2 1 = 0 := by decide
  have hlow : 1 <<< n.log2 ≤ n := by
    rw [Nat.one_shiftLeft]
    exact Nat.log2_self_le hn
  unfold floorLog2
  rw [hone]
  exact if_pos (by simpa using hlow)

namespace Magnitude

theorem ofPair?_isSome_iff {mant : ℕ} {exp : ℤ} :
    (ofPair? mant exp).isSome ↔ IsCanonical mant exp := by
  unfold ofPair?
  split <;> simpa

/-- The significand of a whole number with at least fifty-three bits. -/
theorem le_significand {n k : ℕ} (hn : n ≠ 0) (hk : n.log2 = k + 52) :
    2 ^ 52 ≤ roundHalfEven n (2 ^ k) ∧ roundHalfEven n (2 ^ k) ≤ 2 ^ 53 := by
  have hlow : 2 ^ (k + 52) ≤ n := hk ▸ Nat.log2_self_le hn
  have hhigh : n < 2 ^ (k + 53) := by
    have h := Nat.lt_log2_self (n := n)
    rwa [hk] at h
  have hdiv : 2 ^ 52 ≤ n / 2 ^ k := by
    rw [Nat.le_div_iff_mul_le (Nat.two_pow_pos k), ← Nat.pow_add, Nat.add_comm]
    exact hlow
  have hdiv' : n / 2 ^ k < 2 ^ 53 := by
    rw [Nat.div_lt_iff_lt_mul (Nat.two_pow_pos k), ← Nat.pow_add, Nat.add_comm]
    exact hhigh
  exact ⟨hdiv.trans div_le_roundHalfEven, roundHalfEven_le_div_add_one.trans hdiv'⟩

/-- A whole number of at most fifty-three bits is shifted until it has so many. -/
theorem nearest?_eq_of_lt {n : ℕ} (hn : n ≠ 0) (h : n < 2 ^ 53) :
    nearest? n 1 = ofPair? (n * 2 ^ (52 - n.log2)) (n.log2 - 52) ∧
      IsCanonical (n * 2 ^ (52 - n.log2)) (n.log2 - 52) := by
  have hlow : 2 ^ n.log2 ≤ n := Nat.log2_self_le hn
  have hhigh : n < 2 ^ (n.log2 + 1) := Nat.lt_log2_self
  have hlog : n.log2 ≤ 52 := by
    have := (Nat.pow_lt_pow_iff_right (a := 2) (by decide)).mp (hlow.trans_lt h)
    omega
  obtain ⟨k, hk⟩ := Nat.exists_eq_add_of_le hlog
  have hplaces : 52 - n.log2 = k := by omega
  have hexp : max (-1074) ((n.log2 : ℤ) - 52) = -(k : ℤ) := by omega
  have hexp' : (n.log2 : ℤ) - 52 = -(k : ℤ) := by omega
  -- Shifted by `k` places the number becomes a significand of 53 bits.
  have hlow' : 2 ^ 52 ≤ n * 2 ^ k := by
    rw [hk, Nat.pow_add]
    exact Nat.mul_le_mul_right _ hlow
  have hhigh' : n * 2 ^ k < 2 ^ 53 := by
    have hpow : (2 : ℕ) ^ 53 = 2 ^ (n.log2 + 1) * 2 ^ k := by
      rw [← Nat.pow_add]
      congr 1
      omega
    rw [hpow]
    exact Nat.mul_lt_mul_of_pos_right hhigh (Nat.two_pow_pos k)
  have hneg : (- -(k : ℤ)).toNat = k := by omega
  have hpos : (-(k : ℤ)).toNat = 0 := by omega
  -- That is the canonical form, and dividing by one rounds nothing.
  rw [hplaces, hexp']
  refine ⟨?_, hhigh', by omega, by omega, Or.inl hlow'⟩
  unfold nearest?
  rw [if_neg hn]
  dsimp only
  rw [floorLog2_one hn, hexp, hneg, hpos, Nat.shiftLeft_zero, roundHalfEven_one,
    Nat.shiftLeft_eq, if_neg (by omega)]

/-- A whole number with at least fifty-three bits is rounded to so many. -/
theorem nearest?_eq_of_log2 {n k : ℕ} (hn : n ≠ 0) (hk : n.log2 = k + 52) :
    nearest? n 1 = if roundHalfEven n (2 ^ k) = 2 ^ 53 then ofPair? (2 ^ 52) (k + 1)
      else ofPair? (roundHalfEven n (2 ^ k)) k := by
  have hexp : max (-1074) ((n.log2 : ℤ) - 52) = (k : ℤ) := by omega
  have hneg : (-(k : ℤ)).toNat = 0 := by omega
  unfold nearest?
  rw [if_neg hn]
  dsimp only
  rw [floorLog2_one hn, hexp, hneg, Int.toNat_natCast, Nat.shiftLeft_zero, Nat.shiftLeft_eq,
    Nat.one_mul]
  rfl

/-- A whole number of at most fifty-three bits is a magnitude. -/
theorem nearest?_of_lt {n : ℕ} (h : n < 2 ^ 53) : (nearest? n 1).isSome := by
  by_cases hn : n = 0
  · rw [hn]
    rfl
  · obtain ⟨heq, hcanonical⟩ := nearest?_eq_of_lt hn h
    rw [heq, ofPair?_isSome_iff]
    exact hcanonical

/-- A whole number with at least fifty-three bits is a magnitude unless its exponent is too large,
or becomes so when the significand is rounded up. -/
theorem nearest?_isSome_iff {n k : ℕ} (hn : n ≠ 0) (hk : n.log2 = k + 52) :
    (nearest? n 1).isSome ↔ k ≤ 970 ∨ k = 971 ∧ roundHalfEven n (2 ^ k) < 2 ^ 53 := by
  obtain ⟨hlow, hhigh⟩ := le_significand hn hk
  rw [nearest?_eq_of_log2 hn hk]
  split
  · next hround =>
    rw [ofPair?_isSome_iff, IsCanonical]
    omega
  · next hround =>
    rw [ofPair?_isSome_iff, IsCanonical]
    omega

/-- Where the exponents end: half a last place above the greatest significand with the greatest
exponent, which is `e + 1` here. -/
theorem exponent_fits_iff {n k : ℕ} (hn : n ≠ 0) (hk : n.log2 = k + 52) (e : ℕ) :
    k ≤ e ∨ k = e + 1 ∧ roundHalfEven n (2 ^ k) < 2 ^ 53 ↔ n < (2 ^ 54 - 1) * 2 ^ e := by
  have hlow : 2 ^ k * 2 ^ 52 ≤ n := by
    rw [← Nat.pow_add, ← hk]
    exact Nat.log2_self_le hn
  have hhigh : n < 2 ^ k * 2 ^ 53 := by
    rw [← Nat.pow_add, ← Nat.add_assoc k 52 1, ← hk]
    exact Nat.lt_log2_self
  have htop : 2 ^ (e + 1) = 2 * 2 ^ e := Nat.pow_succ'
  -- With one exponent to spare or one too few the bound is plain.
  rcases lt_trichotomy k (e + 1) with hlt | rfl | hgt
  · have hpow : 2 ^ k ≤ 2 ^ e := Nat.pow_le_pow_right (by decide) (by omega)
    exact iff_of_true (Or.inl (by omega)) (by omega)
  · -- The significand `2 ^ 53 - 1` is odd, so the half above it is rounded up.
    have hround : roundHalfEven n (2 ^ (e + 1)) ≤ 2 ^ 53 - 1 ↔
        2 * n < (2 * (2 ^ 53 - 1) + 1) * 2 ^ (e + 1) :=
      roundHalfEven_le_iff (by decide) (Nat.two_pow_pos (e + 1))
    rw [htop] at hround ⊢
    omega
  · have hpow : 2 * 2 ^ (e + 1) ≤ 2 ^ k := by
      rw [← Nat.pow_succ']
      exact Nat.pow_le_pow_right (by decide) hgt
    exact iff_of_false (by omega) (by omega)

end Magnitude

namespace Binary64

/-- The least whole number that no float is near to: half a last place above the greatest float,
which is `(2 ^ 53 - 1) * 2 ^ 971`. -/
def outOfRange : ℕ := (2 ^ 54 - 1) * 2 ^ 970

/-- The whole numbers without a float are those from `outOfRange` on, and their negatives. -/
theorem ofInt?_eq_none_iff {n : ℤ} : ofInt? n = none ↔ outOfRange ≤ n.natAbs := by
  unfold ofInt?
  rw [Option.map_eq_none_iff, ← not_iff_not, ← ne_eq, ← Option.isSome_iff_ne_none, not_le]
  generalize n.natAbs = n
  by_cases hsmall : n < 2 ^ 53
  · refine iff_of_true (Magnitude.nearest?_of_lt hsmall) (hsmall.trans_le ?_)
    exact (by decide : 2 ^ 53 ≤ 2 ^ 54 - 1).trans (Nat.le_mul_of_pos_right _ (pow_pos two_pos _))
  · have hn : n ≠ 0 := by omega
    have hlog : 52 ≤ n.log2 := by
      rw [Nat.le_log2 hn]
      omega
    obtain ⟨k, hk⟩ := Nat.exists_eq_add_of_le' hlog
    rw [Magnitude.nearest?_isSome_iff hn hk]
    exact Magnitude.exponent_fits_iff hn hk 970

end Binary64
end Questionnaire
