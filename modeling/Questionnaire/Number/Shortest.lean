import Questionnaire.Number.Binary64

/-!
# The shortest decimal text of a number

`Magnitude.shortest` gives the decimal of a magnitude that a reader needs in order to get the
magnitude back: of the grids with one, two, … seventeen significant digits, the first that holds a
decimal which `Magnitude.nearestDecimal?` reads as the magnitude, and of two such decimals of one
grid the nearer (a tie goes to the even digit).

`FloatLayout` is how a written number looks: where positional notation ends, and how an exponent is
written.
-/

namespace Questionnaire

/-- The number `digits · 10 ^ exp`. -/
structure Decimal where
  /-- The significant digits, as a whole number. -/
  digits : Nat
  /-- The exponent of ten. -/
  exp : Int
  deriving DecidableEq, Inhabited

namespace Decimal

/-- Takes zeros off the end of the digits, at most `steps` of them. -/
def stripZeros : Nat → Decimal → Decimal
  | 0, d => d
  | steps + 1, d =>
    if d.digits ≠ 0 ∧ d.digits % 10 = 0 then stripZeros steps ⟨d.digits / 10, d.exp + 1⟩ else d

/-- The digits as characters. -/
def text (d : Decimal) : List Char := Nat.toDigits 10 d.digits

/-- The same number without zeros at the end of its digits. -/
def normal (d : Decimal) : Decimal := d.stripZeros d.text.length

end Decimal

namespace Magnitude

/-- The magnitude as a quotient of whole numbers. -/
def quotient (m : Magnitude) : Nat × Nat :=
  if 0 ≤ m.exp then (m.mant <<< m.exp.toNat, 1) else (m.mant, 1 <<< (-m.exp).toNat)

/-- The number of digits before the decimal point, zero or less for a number below one: the least
`k` with `num / den < 10 ^ k`, found by moving a guess upwards. -/
def pointPlace (num den : Nat) : Int :=
  let guess : Int := ((Nat.toDigits 10 num).length : Int) - (Nat.toDigits 10 den).length
  if num * Nat.pow 10 (-guess).toNat < den * Nat.pow 10 guess.toNat then guess else guess + 1

/-- The decimals of `n` significant digits next to `num / den`, the greatest that is not above it
and its successor, with the doubled remainder that says which is nearer. -/
def neighbours (num den : Nat) (n : Nat) : Decimal × Decimal × Ordering :=
  let exp := pointPlace num den - n
  let top := num * Nat.pow 10 (-exp).toNat
  let bottom := den * Nat.pow 10 exp.toNat
  let q := top / bottom
  (⟨q, exp⟩, ⟨q + 1, exp⟩, compare (2 * (top % bottom)) bottom)

/-- Whether a decimal is read as the magnitude. -/
def isReadFrom (m : Magnitude) (d : Decimal) : Bool :=
  decide (nearestDecimal? d.digits d.exp = some m)

/-- The decimal of `n` significant digits that is read as the magnitude and is nearest to it. -/
def shortestAt? (m : Magnitude) (n : Nat) : Option Decimal :=
  let (num, den) := m.quotient
  let (low, high, side) := neighbours num den n
  match m.isReadFrom low, m.isReadFrom high with
  | true, true =>
    match side with
    | .lt => some low
    | .gt => some high
    | .eq => some (if low.digits % 2 = 0 then low else high)
  | true, false => some low
  | false, true => some high
  | false, false => none

/-- All the digits of a magnitude. -/
def exactDecimal (m : Magnitude) : Decimal :=
  if 0 ≤ m.exp then ⟨m.mant <<< m.exp.toNat, 0⟩
  else ⟨m.mant * Nat.pow 5 (-m.exp).toNat, m.exp⟩

/-- The shortest decimal that is read as the magnitude. -/
def shortest (m : Magnitude) : Decimal :=
  if m.mant = 0 then ⟨0, 0⟩
  else (((List.range 17).findSome? fun n => m.shortestAt? (n + 1)).getD m.exactDecimal).normal

end Magnitude

/-! ### Layout -/

/-- How a number is written. -/
structure FloatLayout where
  /-- The least decimal exponent of the first digit that is written positionally. -/
  leastPositional : Int
  /-- The greatest decimal exponent of the first digit that is written positionally. -/
  greatestPositional : Int
  /-- Whether an exponent that is not negative has a sign. -/
  signedExponent : Bool
  /-- The least number of digits of an exponent. -/
  exponentDigits : Nat
  /-- The text of an infinity. -/
  infinity : String
  /-- The text of what is not a number. -/
  notANumber : String

namespace FloatLayout

/-- Numbers as values show them: positional from `1e-04` to below `1e+16`. -/
def plain : FloatLayout := ⟨-4, 15, true, 2, "inf", "nan"⟩

/-- Numbers of an exported document. -/
def document : FloatLayout := ⟨-4, 15, true, 2, "Infinity", "NaN"⟩

/-- Numbers of a printed validation report: positional from `1e-5`, and a bare exponent. -/
def report : FloatLayout := ⟨-5, 15, false, 1, "null", "null"⟩

/-- The digits of a decimal with its point: zeros fill the gap to the point on either side, and a
whole number ends in `.0`. -/
def positional (digits : List Char) (place : Int) : List Char :=
  if place ≤ 0 then '0' :: '.' :: (List.replicate (-place).toNat '0' ++ digits)
  else if digits.length ≤ place.toNat then
    digits ++ List.replicate (place.toNat - digits.length) '0' ++ ['.', '0']
  else digits.take place.toNat ++ '.' :: digits.drop place.toNat

/-- The digits of a decimal with one before the point, and its exponent. -/
def scientific (layout : FloatLayout) (digits : List Char) (exp : Int) : List Char :=
  let lead := match digits with
    | [] => []
    | [d] => [d]
    | d :: rest => d :: '.' :: rest
  let amount := Nat.toDigits 10 exp.natAbs
  let padding := List.replicate (layout.exponentDigits - amount.length) '0'
  let sign := if exp < 0 then ['-'] else if layout.signedExponent then ['+'] else []
  lead ++ 'e' :: (sign ++ padding ++ amount)

/-- The text of a decimal without sign. -/
def decimal (layout : FloatLayout) (d : Decimal) : List Char :=
  if d.digits = 0 then ['0', '.', '0']
  else
    let digits := d.text
    let place : Int := digits.length + d.exp
    if layout.leastPositional ≤ place - 1 ∧ place - 1 ≤ layout.greatestPositional then
      positional digits place
    else layout.scientific digits (place - 1)

/-- The text of a number. -/
def write (layout : FloatLayout) : Binary64 → String
  | .finite neg m => String.ofList ((if neg then ['-'] else []) ++ layout.decimal m.shortest)
  | .infinite neg => (if neg then "-" else "") ++ layout.infinity
  | .nan _ => layout.notANumber

end FloatLayout

end Questionnaire
