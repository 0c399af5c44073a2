import Questionnaire.Proofs.Number.Order
import Questionnaire.Proofs.Visibility.Defaults
import Questionnaire.Proofs.Visibility.Totality

/-!
# Comparing whole numbers

Whole numbers are equal when they are the same, but are ordered as floats.  So `greaterThan` and
`lessThan` compare numbers that are rounded to fifty-three bits (`Operator.finds_of_int`).  Neither
contradicts the order of the numbers, and they decide it for all numbers up to `2 ^ 53`; of two greater
numbers that are rounded to the same place, neither is greater nor less than the other, nor are they
equal (`Operator.finds_none_of_successor`).
-/

namespace Questionnaire.Operator

open Binary64 (rounded)

/-- What the two orders and equality say of two whole numbers. -/
structure Finds (m n : ℤ) (greater less equal : Bool) : Prop where
  greaterThan : holdsNamed (.str "greaterThan") (.int m) (.int n) = .ok greater
  lessThan : holdsNamed (.str "lessThan") (.int m) (.int n) = .ok less
  equals : holdsNamed (.str "equals") (.int m) (.int n) = .ok equal

variable {m n : ℤ}

theorem asFloat_int {x : Binary64} (h : Binary64.ofInt? n = some x) :
    (Value.int n).asFloat = .ok x := by
  simp only [Value.asFloat, h]

theorem equalTo_int : equalTo (.int m) (.int n) = true ↔ m = n := Number.int_eq_int_iff

/-- Where both numbers have floats, all three comparisons are made. -/
theorem exists_finds (hm : m.natAbs < Binary64.outOfRange) (hn : n.natAbs < Binary64.outOfRange) :
    ∃ greater less equal, Finds m n greater less equal ∧
      (greater = true ↔ rounded n < rounded m) ∧ (less = true ↔ rounded m < rounded n) ∧
      (equal = true ↔ m = n) := by
  -- Numbers in range are read, so that no comparison fails.
  have hfloat {k : ℤ} (hk : k.natAbs < Binary64.outOfRange) : ∃ x, Binary64.ofInt? k = some x := by
    rw [← Option.ne_none_iff_exists']
    exact fun hnone => absurd (Binary64.ofInt?_eq_none_iff.mp hnone) (not_le.mpr hk)
  obtain ⟨x, hx⟩ := hfloat hm
  obtain ⟨y, hy⟩ := hfloat hn
  have hxm := asFloat_int hx
  have hyn := asFloat_int hy
  have horder {o : Operator} (ho : o = .greaterThan ∨ o = .lessThan) :
      o.holds (.int m) (.int n) = .ok (o.orders x y) := by
    rw [holds_order ho hxm, hyn]
    rfl
  exact ⟨y.lt x, x.lt y, equalTo (.int m) (.int n), ⟨horder (.inl rfl), horder (.inr rfl), rfl⟩,
    Binary64.lt_iff_rounded_lt hy hx, Binary64.lt_iff_rounded_lt hx hy, equalTo_int⟩

/-- No two comparisons hold of numbers whose order none of them contradicts. -/
theorem count_of_sound {greater less equal : Bool} (hgreater : greater = true → n < m)
    (hless : less = true → m < n) (hequal : equal = true → m = n) :
    [greater, less, equal].count true ≤ 1 ∧
      ([greater, less, equal].count true = 1 ↔ greater = true ∨ less = true ∨ equal = true) := by
  -- At most one of the three can be found, since each excludes the other two.
  cases greater with
  | true =>
    have hlt : n < m := hgreater rfl
    obtain rfl : less = false := Bool.eq_false_iff.mpr fun h => (hless h).not_gt hlt
    obtain rfl : equal = false := Bool.eq_false_iff.mpr fun h => hlt.ne' (hequal h)
    decide
  | false =>
    cases less with
    | true =>
      obtain rfl : equal = false := Bool.eq_false_iff.mpr fun h => (hless rfl).ne (hequal h)
      decide
    | false => cases equal <;> decide

/-- Two whole numbers are ordered as they are rounded: an order that holds is that of the numbers, at
most one of the comparisons holds, and one of them does unless different numbers are rounded to the
same place, which those up to `2 ^ 53` are not. -/
theorem finds_of_int (hm : m.natAbs < 10 ^ 300) (hn : n.natAbs < 10 ^ 300) :
    ∃ greater less equal, Finds m n greater less equal ∧
      (greater = true ↔ rounded n < rounded m) ∧ (less = true ↔ rounded m < rounded n) ∧
      (equal = true ↔ m = n) ∧ (greater = true → n < m) ∧ (less = true → m < n) ∧
      [greater, less, equal].count true ≤ 1 ∧
      ([greater, less, equal].count true = 1 ↔ (rounded m = rounded n → m = n)) ∧
      (m.natAbs ≤ 2 ^ 53 → n.natAbs ≤ 2 ^ 53 → rounded m = m ∧ rounded n = n) := by
  have hrange : 10 ^ 300 < Binary64.outOfRange := by decide +kernel
  obtain ⟨greater, less, equal, hfinds, hgreater, hless, hequal⟩ :=
    exists_finds (hm.trans hrange) (hn.trans hrange)
  have hgt : greater = true → n < m := fun h => Binary64.lt_of_rounded_lt (hgreater.mp h)
  have hlt : less = true → m < n := fun h => Binary64.lt_of_rounded_lt (hless.mp h)
  obtain ⟨hatMost, hone⟩ := count_of_sound hgt hlt hequal.mp
  refine ⟨greater, less, equal, hfinds, hgreater, hless, hequal, hgt, hlt, hatMost, ?_,
    fun hm hn => ⟨Binary64.rounded_of_le hm, Binary64.rounded_of_le hn⟩⟩
  rw [hone, hgreater, hless, hequal]
  -- Exactly one is found unless two integers fall together in rounding without being equal.
  constructor
  · rintro (h | h | h) heq
    · exact absurd heq h.ne'
    · exact absurd heq h.ne
    · exact h
  · intro h
    rcases lt_trichotomy (rounded m) (rounded n) with hlt | heq | hgt
    · exact .inr (.inl hlt)
    · exact .inr (.inr (h heq))
    · exact .inl hgt

/-- Two numbers beyond `2 ^ 53` that are floats, next to each other. -/
theorem finds_of_int_neighbours :
    (2 ^ 53 + 4 : ℤ).natAbs < 10 ^ 300 ∧ (2 ^ 53 + 2 : ℤ).natAbs < 10 ^ 300 ∧
      Finds (2 ^ 53 + 4) (2 ^ 53 + 2) true false false := by
  have hm : (2 ^ 53 + 4 : ℤ).natAbs < 10 ^ 300 := by decide +kernel
  have hn : (2 ^ 53 + 2 : ℤ).natAbs < 10 ^ 300 := by decide +kernel
  obtain ⟨greater, less, equal, hfinds, hgreater, hless, hequal, -⟩ := finds_of_int hm hn
  obtain rfl : greater = true := hgreater.mpr (by decide +kernel)
  obtain rfl : less = false := Bool.eq_false_iff.mpr fun h => absurd (hless.mp h) (by decide +kernel)
  obtain rfl : equal = false := Bool.eq_false_iff.mpr fun h => absurd (hequal.mp h) (by decide)
  exact ⟨hm, hn, hfinds⟩

/-- A number and its successor that are rounded to the same place: none of the comparisons holds. -/
theorem finds_none_of_successor :
    (2 ^ 53 + 1 : ℤ).natAbs < 10 ^ 300 ∧ (2 ^ 53 : ℤ).natAbs < 10 ^ 300 ∧
      (2 ^ 53 : ℤ) < 2 ^ 53 + 1 ∧ Finds (2 ^ 53 + 1) (2 ^ 53) false false false :=
  ⟨by decide +kernel, by decide +kernel, by decide, rfl, rfl, rfl⟩

end Questionnaire.Operator
