import Questionnaire.Number.Shortest
import Questionnaire.Proofs.Number.Numeral
import Questionnaire.Proofs.Number.Shortest

/-!
# The text of a float

`NumeralParts` are the digits before the point of a numeral, those after it, and the exponent.  A numeral
is read by its parts (`Numeral.read?_text`), and the text of a decimal has parts that name the decimal,
perhaps with more zeros (`FloatLayout.exists_parts`).  With the shortest decimal this gives that a float
is read back from its text (`FloatLayout.toBinary64_of_write`).
-/

namespace Questionnaire

/-- The parts of a numeral without its sign. -/
structure NumeralParts where
  whole : List Char
  fraction : List Char
  /-- Whether the exponent is negative, and its digits. -/
  exponent : Option (Bool × List Char)

namespace NumeralParts

/-- The point with the digits after it, unless there are none. -/
def fractionText (p : NumeralParts) : List Char :=
  match p.fraction with
  | [] => []
  | c :: cs => '.' :: c :: cs

/-- The exponent with its sign, unless there is none. -/
def exponentText (p : NumeralParts) : List Char :=
  match p.exponent with
  | none => []
  | some (neg, ds) => 'e' :: (if neg then '-' else '+') :: ds

/-- The numeral without its sign. -/
def text (p : NumeralParts) : List Char := p.whole ++ (p.fractionText ++ p.exponentText)

/-- The exponent as a number. -/
def exponentValue (p : NumeralParts) : Int :=
  match p.exponent with
  | none => 0
  | some (neg, ds) => signed neg (digitsValue ds)

/-- The numeral with a sign. -/
def numeral (p : NumeralParts) (neg : Bool) : Numeral :=
  ⟨neg, digitsValue (p.whole ++ p.fraction), p.exponentValue - p.fraction.length⟩

/-- The parts of a float as JSON has them: digits without a leading zero, and a fraction or an
exponent. -/
structure IsFloat (p : NumeralParts) : Prop where
  whole_digits : IsDigits p.whole
  whole_ne : p.whole ≠ []
  whole_head : p.whole = ['0'] ∨ p.whole.head? ≠ some '0'
  fraction_digits : IsDigits p.fraction
  exponent_digits : ∀ neg ds, p.exponent = some (neg, ds) → IsDigits ds ∧ ds ≠ []
  not_whole : p.fraction ≠ [] ∨ p.exponent ≠ none

end NumeralParts

/-! ### Reading -/

namespace NumeralParts

theorem isExponent_exponentText {p : NumeralParts} (hp : p.IsFloat) : IsExponent p.exponentText := by
  unfold exponentText
  cases hexponent : p.exponent with
  | none => exact .none
  | some e =>
    obtain ⟨neg, ds⟩ := e
    obtain ⟨hds, hne⟩ := hp.exponent_digits neg ds hexponent
    cases neg with
    | true => exact .some (.inl rfl) (some true) hds hne
    | false => exact .some (.inl rfl) (some false) hds hne

theorem readExponent?_text {p : NumeralParts} (hp : p.IsFloat) :
    Numeral.readExponent? p.exponentText = some p.exponentValue := by
  unfold exponentText exponentValue
  cases hexponent : p.exponent with
  | none => rfl
  | some e =>
    obtain ⟨neg, ds⟩ := e
    obtain ⟨hds, hne⟩ := hp.exponent_digits neg ds hexponent
    have hall := hds.all
    cases neg with
    | true => simp [Numeral.readExponent?, takeSign, hne, hall]
    | false => simp [Numeral.readExponent?, takeSign, hne, hall]

theorem exponentText_eq (p : NumeralParts) :
    p.exponentText = [] ∨ ∃ cs, p.exponentText = 'e' :: cs := by
  unfold exponentText
  split
  · exact Or.inl rfl
  · exact Or.inr ⟨_, rfl⟩

theorem IsFloat.fractionText_or_exponentText {p : NumeralParts} (hp : p.IsFloat) :
    ¬(p.fractionText = [] ∧ p.exponentText = []) := by
  rintro ⟨hfraction, hexponent⟩
  unfold fractionText at hfraction
  unfold exponentText at hexponent
  rcases hp.not_whole with h | h
  · split at hfraction
    · exact h ‹_›
    · cases hfraction
  · split at hexponent
    · exact h ‹_›
    · cases hexponent

theorem endsDigits_fractionText (p : NumeralParts) {rest : List Char} (hrest : EndsDigits rest) :
    EndsDigits (p.fractionText ++ rest) := by
  unfold fractionText
  split
  · exact hrest
  · rintro c ⟨⟩
    rfl

end NumeralParts

/-- A numeral is read by its parts. -/
theorem Numeral.read?_text {p : NumeralParts} (hp : p.IsFloat) (neg : Bool) :
    Numeral.read? ((if neg then ['-'] else []) ++ p.text) = some (p.numeral neg) := by
  have hx := NumeralParts.isExponent_exponentText hp
  have hexponent := NumeralParts.readExponent?_text hp
  obtain ⟨sign, hsign, hneg⟩ : ∃ sign, (if neg then ['-'] else []) = signText sign ∧
      (sign == some true) = neg := by
    cases neg
    · exact ⟨none, rfl, rfl⟩
    · exact ⟨some true, rfl, rfl⟩
  rw [hsign, NumeralParts.text, NumeralParts.fractionText, NumeralParts.numeral]
  -- With no fraction there is no point; otherwise the digits of both parts name the number.
  cases hcs : p.fraction with
  | nil =>
    rw [List.nil_append, read?_whole sign hp.whole_digits hp.whole_ne hx, hexponent, hneg]
    simp
  | cons c cs =>
    have hfraction := hp.fraction_digits
    rw [hcs] at hfraction
    dsimp only
    rw [← List.append_assoc p.whole, read?_point sign hp.whole_digits hfraction (.inl hp.whole_ne) hx,
      hexponent, hneg]
    rfl

/-! ### Writing -/

/-- The parts name the number `n · 10 ^ e`, with some more zeros perhaps. -/
def NumeralParts.Names (p : NumeralParts) (n : Nat) (e : Int) : Prop :=
  ∃ k : Nat, digitsValue (p.whole ++ p.fraction) = n * 10 ^ k ∧
    p.exponentValue - p.fraction.length = e - k

namespace FloatLayout

theorem head?_toDigits {n : Nat} (hn : n ≠ 0) (rest : List Char) :
    (Nat.toDigits 10 n ++ rest).head? ≠ some '0' := by
  obtain ⟨c, cs, hcs, hc⟩ := head_toDigits hn
  rw [hcs]
  simpa using hc

/-- Digits on both sides of the point are the parts of a float. -/
theorem isFloat_of_fraction {whole fraction : List Char} (hwhole : IsDigits whole) (hne : whole ≠ [])
    (hhead : whole = ['0'] ∨ whole.head? ≠ some '0') (hfraction : IsDigits fraction)
    (hne' : fraction ≠ []) :
    whole ++ '.' :: fraction = NumeralParts.text ⟨whole, fraction, none⟩ ∧
      NumeralParts.IsFloat ⟨whole, fraction, none⟩ := by
  refine ⟨?_, hwhole, hne, hhead, hfraction, nofun, Or.inl hne'⟩
  obtain ⟨c, cs, rfl⟩ := List.exists_cons_of_ne_nil hne'
  simp [NumeralParts.text, NumeralParts.fractionText, NumeralParts.exponentText]

/-- Digits on both sides of the point name the number that they are together. -/
theorem exists_parts_of_fraction {whole fraction : List Char} (hwhole : IsDigits whole)
    (hne : whole ≠ []) (hhead : whole = ['0'] ∨ whole.head? ≠ some '0')
    (hfraction : IsDigits fraction) (hne' : fraction ≠ []) {n k : Nat} {e : Int}
    (hvalue : digitsValue (whole ++ fraction) = n * 10 ^ k) (hlength : -(fraction.length : Int) = e - k) :
    ∃ p : NumeralParts, whole ++ '.' :: fraction = p.text ∧ p.IsFloat ∧ p.Names n e := by
  obtain ⟨htext, hp⟩ := isFloat_of_fraction hwhole hne hhead hfraction hne'
  refine ⟨_, htext, hp, k, hvalue, ?_⟩
  show (0 : Int) - fraction.length = e - k
  rw [← hlength, Int.zero_sub]

section Positional

variable {ds : List Char} {n : Nat} {e place : Int} (hdigits : IsDigits ds) (hne : ds ≠ [])
  (hvalue : digitsValue ds = n) (hplace : place = ds.length + e)
include hdigits hne hvalue hplace

/-- All digits stand behind the point, after some zeros. -/
theorem parts_behind (h : place ≤ 0) :
    ∃ p : NumeralParts, '0' :: '.' :: (List.replicate (-place).toNat '0' ++ ds) = p.text ∧
      p.IsFloat ∧ p.Names n e := by
  have hfraction : IsDigits (List.replicate (-place).toNat '0' ++ ds) :=
    (IsDigits.replicate_zero _).append hdigits
  have hne' : List.replicate (-place).toNat '0' ++ ds ≠ [] := by simp [hne]
  refine exists_parts_of_fraction (k := 0) (IsDigits.replicate_zero 1) (by simp) (Or.inl rfl)
    hfraction hne' ?_ ?_
  · rw [digitsValue_append, digitsValue_append, digitsValue_replicate_zero,
      digitsValue_replicate_zero, hvalue]
    simp
  · rw [List.length_append, List.length_replicate]
    omega

/-- All digits stand before the point, with zeros up to it. -/
theorem parts_before (hhead : ds.head? ≠ some '0') (h : ds.length ≤ place.toNat) :
    ∃ p : NumeralParts, ds ++ List.replicate (place.toNat - ds.length) '0' ++ ['.', '0'] = p.text ∧
      p.IsFloat ∧ p.Names n e := by
  have hwhole : IsDigits (ds ++ List.replicate (place.toNat - ds.length) '0') :=
    hdigits.append (IsDigits.replicate_zero _)
  have hhead' : (ds ++ List.replicate (place.toNat - ds.length) '0').head? ≠ some '0' := by
    rwa [List.head?_append_of_ne_nil _ hne]
  have hne' : ds ++ List.replicate (place.toNat - ds.length) '0' ≠ [] := by simp [hne]
  have hlength := List.length_pos_iff.mpr hne
  -- All digits are before the point: the zeros behind them belong to the whole part.
  refine exists_parts_of_fraction (k := place.toNat - ds.length + 1) hwhole hne' (Or.inr hhead')
    (IsDigits.replicate_zero 1) (by simp) ?_ ?_
  · rw [List.append_assoc, List.replicate_append_replicate, digitsValue_append,
      digitsValue_replicate_zero, hvalue, List.length_replicate]
    rfl
  · rw [List.length_replicate]
    omega

/-- The point stands between digits. -/
theorem parts_within (hhead : ds.head? ≠ some '0') (h : 0 < place) (h' : place.toNat < ds.length) :
    ∃ p : NumeralParts, ds.take place.toNat ++ '.' :: ds.drop place.toNat = p.text ∧
      p.IsFloat ∧ p.Names n e := by
  have htake : ds.take place.toNat ≠ [] := by
    rw [Ne, List.take_eq_nil_iff, not_or]
    exact ⟨by omega, hne⟩
  have hdrop : ds.drop place.toNat ≠ [] := by
    rw [Ne, List.drop_eq_nil_iff]
    omega
  have hstart : (ds.take place.toNat).head? ≠ some '0' := by
    rwa [List.head?_take, if_neg (by omega)]
  -- The point falls among the digits, and the two parts of the list are read as one number.
  refine exists_parts_of_fraction (k := 0) (hdigits.take _) htake (Or.inr hstart) (hdigits.drop _)
    hdrop ?_ ?_
  · rw [List.take_append_drop, hvalue, pow_zero, mul_one]
  · rw [List.length_drop]
    omega

end Positional

/-- Positional notation is a numeral with a fraction. -/
theorem positional_parts {n : Nat} (hn : n ≠ 0) {e place : Int}
    (hplace : place = (Nat.toDigits 10 n).length + e) :
    ∃ p : NumeralParts, positional (Nat.toDigits 10 n) place = p.text ∧ p.IsFloat ∧ p.Names n e := by
  have hdigits := IsDigits.toDigits n
  have hne : Nat.toDigits 10 n ≠ [] := Nat.toDigits_ne_nil
  have hvalue := digitsValue_toDigits n
  have hhead : (Nat.toDigits 10 n).head? ≠ some '0' := by simpa using head?_toDigits hn []
  unfold positional
  split
  · exact parts_behind hdigits hne hvalue hplace ‹_›
  · split
    · exact parts_before hdigits hne hvalue hplace hhead ‹_›
    · exact parts_within hdigits hne hvalue hplace hhead (by omega) (by omega)

/-- Scientific notation is a numeral with an exponent. -/
theorem scientific_parts {layout : FloatLayout} (hsigned : layout.signedExponent = true) {n : Nat}
    (hn : n ≠ 0) {e exp : Int} (hexp : exp = (Nat.toDigits 10 n).length + e - 1) :
    ∃ p : NumeralParts, layout.scientific (Nat.toDigits 10 n) exp = p.text ∧ p.IsFloat ∧
      p.Names n e := by
  have hdigits := IsDigits.toDigits n
  have hvalue := digitsValue_toDigits n
  obtain ⟨c, cs, hcs, hc⟩ := head_toDigits hn
  rw [hcs] at hdigits hvalue hexp ⊢
  set padding := List.replicate (layout.exponentDigits - (Nat.toDigits 10 exp.natAbs).length) '0'
    with hpadding
  have hamount : IsDigits (padding ++ Nat.toDigits 10 exp.natAbs) :=
    (IsDigits.replicate_zero _).append (IsDigits.toDigits _)
  have hvalue' : digitsValue (padding ++ Nat.toDigits 10 exp.natAbs) = exp.natAbs := by
    rw [digitsValue_append, hpadding, digitsValue_replicate_zero, digitsValue_toDigits]
    simp
  -- One digit before the point, the others behind it, and the exponent with its padding.
  refine ⟨⟨[c], cs, some (decide (exp < 0), padding ++ Nat.toDigits 10 exp.natAbs)⟩, ?_, ?_, 0, ?_, ?_⟩
  · unfold scientific NumeralParts.text NumeralParts.fractionText NumeralParts.exponentText
    rw [hsigned]
    cases cs <;> by_cases hneg : exp < 0 <;> simp [hneg, ← hpadding]
  · refine ⟨fun d hd => hdigits d ?_, by simp, Or.inr (by simpa using hc), hdigits.tail, ?_,
      Or.inr (by simp)⟩
    · rw [List.mem_singleton.mp hd]
      exact List.mem_cons_self
    · rintro neg ds ⟨⟩
      exact ⟨hamount, by simp⟩
  · show digitsValue ([c] ++ cs) = n * 10 ^ 0
    rw [List.singleton_append, hvalue, pow_zero, mul_one]
  · show signed (decide (exp < 0)) (digitsValue (padding ++ Nat.toDigits 10 exp.natAbs)) -
      (cs.length : Int) = e - (0 : Nat)
    rw [hvalue', signed_natAbs, hexp, List.length_cons]
    omega

/-- The text of a decimal is a numeral that names it. -/
theorem exists_parts {layout : FloatLayout} (hsigned : layout.signedExponent = true) {d : Decimal}
    (hd : d.digits ≠ 0) :
    ∃ p : NumeralParts, layout.decimal d = p.text ∧ p.IsFloat ∧ p.Names d.digits d.exp := by
  unfold decimal Decimal.text
  rw [if_neg hd]
  dsimp only
  split
  · exact positional_parts hd rfl
  · exact scientific_parts hsigned hd rfl

/-- A float is read back from its text. -/
theorem toBinary64_of_write (layout : FloatLayout) (hsigned : layout.signedExponent = true)
    (neg : Bool) (m : Magnitude) :
    ∃ p : NumeralParts, layout.decimal m.shortest = p.text ∧ p.IsFloat ∧
      (p.numeral neg).toBinary64 = .finite neg m := by
  have hread := m.nearestDecimal?_shortest
  by_cases hd : m.shortest.digits = 0
  · -- Only zero is written without digits.
    rw [hd] at hread
    obtain rfl : Magnitude.zero = m := Option.some.inj hread
    obtain ⟨htext, hp⟩ := isFloat_of_fraction (IsDigits.replicate_zero 1) (by simp) (Or.inl rfl)
      (IsDigits.replicate_zero 1) (by simp)
    exact ⟨_, htext, hp, rfl⟩
  · obtain ⟨p, htext, hp, k, hdigits, hexp⟩ := exists_parts hsigned hd
    refine ⟨p, htext, hp, ?_⟩
    unfold Numeral.toBinary64 Binary64.ofDecimal NumeralParts.numeral
    dsimp only
    rw [hdigits, hexp, Magnitude.nearestDecimal?_mul_pow, hread]

end FloatLayout
end Questionnaire
