import Questionnaire.Json.Reader
import Questionnaire.Value.Display
import Questionnaire.Proofs.Number.Layout

/-!
# Reading the text of a number

`scanNumber` takes the parts of a number off the text one after the other.  Where what follows the number
cannot belong to it (`EndsNumber`), these are the parts that were written, so a whole number of not too
many digits is read back (`scanNumber_int`), and so is a float (`scanNumber_float`).
-/

namespace Questionnaire.Json

/-- What follows a number does not go on with it. -/
def EndsNumber (rest : List Char) : Prop :=
  ∀ c, rest.head? = some c → c.isDigit = false ∧ c ≠ '.' ∧ c ≠ 'e' ∧ c ≠ 'E'

theorem EndsNumber.endsDigits {rest : List Char} (h : EndsNumber rest) : EndsDigits rest :=
  fun c hc => (h c hc).1

/-- The minus of a negative number. -/
def minusText (neg : Bool) : List Char := if neg then ['-'] else []

/-! ### Parts -/

theorem digitsOf_append {ds rest : List Char} (hds : IsDigits ds) (hrest : EndsDigits rest) :
    digitsOf (ds ++ rest) = ds := takeWhile_digits hds hrest

theorem wholePart_append {whole rest : List Char} (hwhole : IsDigits whole) (hne : whole ≠ [])
    (hhead : whole = ['0'] ∨ whole.head? ≠ some '0') (hrest : EndsDigits rest) :
    wholePart (whole ++ rest) = whole := by
  rcases hhead with rfl | hhead
  · rfl
  · obtain ⟨c, cs, rfl⟩ := List.exists_cons_of_ne_nil hne
    have hread := digitsOf_append hwhole hrest
    unfold wholePart
    split
    · simp_all
    · exact hread

theorem fractionPart_of_head {rest : List Char} (h : ∀ c, rest.head? = some c → c ≠ '.') :
    fractionPart rest = [] := by
  unfold fractionPart
  split
  · exact absurd rfl (h '.' rfl)
  · rfl

theorem exponentPart_of_head {rest : List Char}
    (h : ∀ c, rest.head? = some c → c ≠ 'e' ∧ c ≠ 'E') : exponentPart rest = [] := by
  unfold exponentPart
  split
  · rename_i c cs
    obtain ⟨he, hE⟩ := h c rfl
    simp [he, hE]
  · rfl

variable {rest : List Char}

theorem exponentPart_text {p : NumeralParts} (hp : p.IsFloat) (hrest : EndsNumber rest) :
    exponentPart (p.exponentText ++ rest) = p.exponentText := by
  unfold NumeralParts.exponentText
  cases hexponent : p.exponent with
  | none => exact exponentPart_of_head fun c hc => (hrest c hc).2.2
  | some e =>
    obtain ⟨neg, ds⟩ := e
    obtain ⟨hds, hne⟩ := hp.exponent_digits neg ds hexponent
    have hread := digitsOf_append hds hrest.endsDigits
    cases neg with
    | true => simp [exponentPart, hread, hne]
    | false => simp [exponentPart, hread, hne]

theorem endsDigits_exponentText (p : NumeralParts) (hrest : EndsNumber rest) :
    EndsDigits (p.exponentText ++ rest) := by
  rcases p.exponentText_eq with hnone | ⟨cs, hsome⟩
  · rw [hnone]
    exact hrest.endsDigits
  · rw [hsome]
    rintro c ⟨⟩
    rfl

theorem fractionPart_text {p : NumeralParts} (hp : p.IsFloat) (hrest : EndsNumber rest) :
    fractionPart (p.fractionText ++ (p.exponentText ++ rest)) = p.fractionText := by
  have hends := endsDigits_exponentText p hrest
  unfold NumeralParts.fractionText
  cases hfraction : p.fraction with
  | nil =>
    refine fractionPart_of_head fun c hc => ?_
    rcases p.exponentText_eq with hnone | ⟨cs, hsome⟩
    · rw [hnone] at hc
      exact (hrest c hc).2.1
    · rw [hsome] at hc
      cases hc
      decide
  | cons c cs =>
    have hds := hp.fraction_digits
    rw [hfraction] at hds
    have hread := digitsOf_append hds hends
    simp only [List.cons_append] at hread ⊢
    simp [fractionPart, hread]

/-! ### Numbers -/

/-- A number is read by its parts. -/
theorem scanNumber_of_parts (neg : Bool) {whole : List Char} (fraction exponent : List Char)
    (hwhole : IsDigits whole) (hne : whole ≠ [])
    (hpart : wholePart (whole ++ (fraction ++ (exponent ++ rest))) = whole)
    (hfraction : fractionPart (fraction ++ (exponent ++ rest)) = fraction)
    (hexponent : exponentPart (exponent ++ rest) = exponent) (place : Nat) :
    let text := minusText neg ++ (whole ++ (fraction ++ exponent))
    scanNumber ⟨text ++ rest, place⟩ =
      if fraction = [] ∧ exponent = [] then
        if maxDigits < whole.length then .error (.tooManyDigits whole.length)
        else .ok (.int (signed neg (digitsValue whole)), ⟨rest, place + text.length⟩)
      else .ok (.float (((Numeral.read? text).map Numeral.toBinary64).getD .zero),
        ⟨rest, place + text.length⟩) := by
  intro text
  have hdrop (as bs : List Char) : (as ++ bs).drop as.length = bs := List.drop_left
  have hrest : text ++ rest = minusText neg ++ (whole ++ (fraction ++ (exponent ++ rest))) := by
    simp [text]
  have hsign : decide (minusText neg ≠ []) = neg := by
    cases neg <;> rfl
  unfold scanNumber
  -- The text is taken apart in the order in which the scanner does so.
  extract_lets minus part integral fraction' exponent' all after
  have hminus : minus = minusText neg := by
    obtain ⟨c, cs, rfl⟩ := List.exists_cons_of_ne_nil hne
    cases neg with
    | true => rfl
    | false =>
      have hc : c ≠ '-' := by
        rintro rfl
        exact absurd (hwhole '-' List.mem_cons_self) (by decide)
      simp [minus, hrest, minusText, hc]
  have hwhole' : part = whole := by
    show wholePart ((text ++ rest).drop minus.length) = whole
    rw [hminus, hrest, hdrop, hpart]
  have hintegral : integral = minusText neg ++ whole := by
    show minus ++ part = _
    rw [hminus, hwhole']
  have hdropped : (text ++ rest).drop integral.length = fraction ++ (exponent ++ rest) := by
    rw [hintegral, hrest, ← List.append_assoc, hdrop]
  have hfraction' : fraction' = fraction := by
    show fractionPart ((text ++ rest).drop integral.length) = fraction
    rw [hdropped, hfraction]
  have hexponent' : exponent' = exponent := by
    show exponentPart ((text ++ rest).drop (integral.length + fraction'.length)) = exponent
    rw [← List.drop_drop, hdropped, hfraction', hdrop, hexponent]
  have hall : all = text := by
    show integral ++ fraction' ++ exponent' = text
    rw [hintegral, hfraction', hexponent']
    simp [text]
  have hafter : after = ⟨rest, place + text.length⟩ := by
    show Cursor.mk ((text ++ rest).drop all.length) (place + all.length) = _
    rw [hall, hdrop]
  rw [hwhole', if_neg hne, hfraction', hexponent', hall, hafter, hminus, hsign]

theorem toList_showInt (n : Int) :
    (Value.showInt n).toList = minusText (decide (n < 0)) ++ Nat.toDigits 10 n.natAbs := by
  unfold Value.showInt minusText
  rw [Int.toString_eq_repr, Int.repr_eq_if]
  by_cases hn : n < 0
  · have habs : (-n).toNat = n.natAbs := by omega
    rw [if_neg (by omega), habs, String.toList_append, Nat.toList_repr]
    simp [hn]
  · have habs : n.toNat = n.natAbs := by omega
    rw [if_pos (by omega), habs, Nat.toList_repr]
    simp [hn]

/-- A whole number with not too many digits is read back. -/
theorem scanNumber_int {n : Int} (hn : n.natAbs < 10 ^ maxDigits) (hrest : EndsNumber rest)
    (place : Nat) :
    let text := (Value.showInt n).toList
    scanNumber ⟨text ++ rest, place⟩ = .ok (.int n, ⟨rest, place + text.length⟩) := by
  have hdigits := IsDigits.toDigits n.natAbs
  -- The digits are those of zero or start with another digit.
  have hhead : Nat.toDigits 10 n.natAbs = ['0'] ∨ (Nat.toDigits 10 n.natAbs).head? ≠ some '0' := by
    by_cases hzero : n.natAbs = 0
    · rw [hzero]
      exact Or.inl (Nat.toDigits_zero 10)
    · right
      simpa using FloatLayout.head?_toDigits hzero []
  -- And there are few enough of them to be read.
  have hlength : ¬maxDigits < (Nat.toDigits 10 n.natAbs).length := by
    rw [Nat.not_lt, Nat.length_toDigits_le_iff (by decide) (by decide)]
    exact hn
  have hwhole := wholePart_append hdigits Nat.toDigits_ne_nil hhead hrest.endsDigits
  have hfraction := fractionPart_of_head fun c hc => (hrest c hc).2.1
  have hexponent := exponentPart_of_head fun c hc => (hrest c hc).2.2
  have hscan := scanNumber_of_parts (decide (n < 0)) [] [] hdigits Nat.toDigits_ne_nil
    hwhole hfraction hexponent place
  dsimp only at hscan
  rw [if_pos ⟨rfl, rfl⟩, if_neg hlength, digitsValue_toDigits, signed_natAbs, List.append_nil,
    List.append_nil, ← toList_showInt] at hscan
  exact hscan

/-- A float other than the infinities is read back. -/
theorem scanNumber_float (neg : Bool) (m : Magnitude) (hrest : EndsNumber rest) (place : Nat) :
    let text := (FloatLayout.document.write (.finite neg m)).toList
    scanNumber ⟨text ++ rest, place⟩ = .ok (.float (.finite neg m), ⟨rest, place + text.length⟩) := by
  obtain ⟨p, htext, hp, hvalue⟩ := FloatLayout.toBinary64_of_write .document rfl neg m
  -- The text is a whole part, a fraction and an exponent, one of the last two not empty.
  have hends := p.endsDigits_fractionText (endsDigits_exponentText p hrest)
  have hwhole := wholePart_append hp.whole_digits hp.whole_ne hp.whole_head hends
  have hnumeral : (FloatLayout.document.write (.finite neg m)).toList =
      minusText neg ++ (p.whole ++ (p.fractionText ++ p.exponentText)) := by
    unfold FloatLayout.write
    rw [String.toList_ofList, htext]
    rfl
  have hread : Numeral.read? (minusText neg ++ (p.whole ++ (p.fractionText ++ p.exponentText))) =
      some (p.numeral neg) := Numeral.read?_text hp neg
  intro text
  have hscan := scanNumber_of_parts neg _ _ hp.whole_digits hp.whole_ne hwhole
    (fractionPart_text hp hrest) (exponentPart_text hp hrest) place
  dsimp only at hscan
  rw [if_neg hp.fractionText_or_exponentText, hread, Option.map_some, Option.getD_some, hvalue,
    ← hnumeral] at hscan
  exact hscan

end Questionnaire.Json
