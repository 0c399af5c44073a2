/-!
# Binary64 numbers

`Magnitude` is a non-negative finite binary64 number: a whole multiple `mant · 2 ^ exp` of a power
of two, in the one normal form that the format allows.  `Binary64` adds a sign, the infinities and
the values that are not numbers.

Every decimal text, whole number and quotient enters through `Magnitude.nearest?`, which rounds a
quotient of naturals to the nearest magnitude and sends a tie to the even one.  All comparison is
exact: a finite number is a whole number of units of `2 ^ (-1074)` (`Binary64.point?`), so floats and
whole numbers of any size compare without rounding.

A value that is not a number carries a `mark`, which says where it came from.  Two such values
never compare as numbers, but a container that holds one is equal to a container that holds the
very same one.
-/

namespace Questionnaire

/-! ### Magnitudes -/

/-- The normal form of a finite magnitude: fifty-three bits, the first of them set unless the
exponent is the least one. -/
def IsCanonical (mant : Nat) (exp : Int) : Prop :=
  mant < 0x20000000000000 ∧ -1074 ≤ exp ∧ exp ≤ 971 ∧ (0x10000000000000 ≤ mant ∨ exp = -1074)

instance (mant : Nat) (exp : Int) : Decidable (IsCanonical mant exp) :=
  inferInstanceAs (Decidable (_ ∧ _ ∧ _ ∧ _))

/-- The number `mant · 2 ^ exp`. -/
structure Magnitude where
  /-- The significand. -/
  mant : Nat
  /-- The exponent of two. -/
  exp : Int
  /-- The pair is the normal form of its value. -/
  canonical : IsCanonical mant exp
  deriving DecidableEq

namespace Magnitude

/-- Zero. -/
def zero : Magnitude := ⟨0, -1074, by decide⟩

instance : Inhabited Magnitude := ⟨zero⟩

/-- The pair as a magnitude, when it is in normal form. -/
def ofPair? (mant : Nat) (exp : Int) : Option Magnitude :=
  if h : IsCanonical mant exp then some ⟨mant, exp, h⟩ else none

/-- The value in units of `2 ^ (-1074)`. -/
def units (m : Magnitude) : Nat := m.mant <<< (m.exp + 1074).toNat

end Magnitude

/-- The exponent of the greatest power of two that is at most `num / den`. -/
def floorLog2 (num den : Nat) : Int :=
  let guess : Int := (num.log2 : Int) - (den.log2 : Int)
  if den <<< guess.toNat ≤ num <<< (-guess).toNat then guess else guess - 1

/-- The whole number nearest to `num / den`; a tie goes to the even one. -/
def roundHalfEven (num den : Nat) : Nat :=
  let q := num / den
  let r := num % den
  if 2 * r < den ∨ (2 * r = den ∧ q % 2 = 0) then q else q + 1

/-- The magnitude nearest to `num / den`, a tie going to the even significand, and `none` when the
quotient rounds beyond the greatest magnitude. -/
def Magnitude.nearest? (num den : Nat) : Option Magnitude :=
  if num = 0 then some .zero
  else
    let exp := max (-1074) (floorLog2 num den - 52)
    let mant := roundHalfEven (num <<< (-exp).toNat) (den <<< exp.toNat)
    if mant = 0x20000000000000 then Magnitude.ofPair? 0x10000000000000 (exp + 1)
    else Magnitude.ofPair? mant exp

/-- The magnitude nearest to `digits · 10 ^ exp`.  An exponent far outside the range of the format is
decided without forming the power. -/
def Magnitude.nearestDecimal? (digits : Nat) (exp : Int) : Option Magnitude :=
  if digits = 0 then some .zero
  else
    let places : Int := (Nat.toDigits 10 digits).length + exp
    if 310 < places then none
    else if places < -330 then some .zero
    else if 0 ≤ exp then Magnitude.nearest? (digits * Nat.pow 10 exp.toNat) 1
    else Magnitude.nearest? digits (Nat.pow 10 (-exp).toNat)

/-! ### Signed numbers -/

/-- A binary64 number. -/
inductive Binary64 where
  /-- A finite number; zero has two signs. -/
  | finite (neg : Bool) (mag : Magnitude)
  /-- An infinity. -/
  | infinite (neg : Bool)
  /-- Not a number; `mark` tells one such value from another. -/
  | nan (mark : Nat)
  deriving DecidableEq, Inhabited

namespace Binary64

/-- The mark shared by every value that a literal of a text names. -/
def literalMark : Nat := 0

/-- Positive zero. -/
def zero : Binary64 := .finite false .zero

/-- The number nearest to `± digits · 10 ^ exp`; a magnitude beyond the greatest becomes infinite. -/
def ofDecimal (neg : Bool) (digits : Nat) (exp : Int) : Binary64 :=
  match Magnitude.nearestDecimal? digits exp with
  | some m => .finite neg m
  | none => .infinite neg

/-- The number nearest to a whole number, unless it rounds beyond the greatest magnitude. -/
def ofInt? (n : Int) : Option Binary64 :=
  (Magnitude.nearest? n.natAbs 1).map (.finite (decide (n < 0)))

/-- The whole number of units in one. -/
def unit : Nat := 1 <<< 1074

/-- Neither infinite nor without value. -/
def isFinite : Binary64 → Bool
  | .finite .. => true
  | _ => false

/-- Not a number. -/
def isNaN : Binary64 → Bool
  | .nan _ => true
  | _ => false

end Binary64

/-! ### Comparison -/

/-- A point of the number line with both infinities, in units of `2 ^ (-1074)`. -/
inductive Point where
  | negInfinity
  | finite (units : Int)
  | posInfinity
  deriving DecidableEq

namespace Point

/-- Strictly to the left of. -/
def lt : Point → Point → Bool
  | .finite a, .finite b => decide (a < b)
  | .negInfinity, .negInfinity => false
  | .negInfinity, _ => true
  | .posInfinity, _ => false
  | .finite _, .posInfinity => true
  | .finite _, .negInfinity => false

/-- The point of a whole number. -/
def ofInt (n : Int) : Point := .finite (n * (Binary64.unit : Int))

end Point

/-- The point of a number; what is not a number has none. -/
def Binary64.point? : Binary64 → Option Point
  | .finite neg m => some (.finite (if neg then -(m.units : Int) else m.units))
  | .infinite true => some .negInfinity
  | .infinite false => some .posInfinity
  | .nan _ => none

/-- Whether the first of two points that exist lies strictly to the left. -/
def Point.below (a b : Option Point) : Bool :=
  match a, b with
  | some x, some y => x.lt y
  | _, _ => false

/-- Whether two points exist and are the same. -/
def Point.same (a b : Option Point) : Bool :=
  match a, b with
  | some x, some y => decide (x = y)
  | _, _ => false

namespace Binary64

/-- The whole number that a finite number without fraction is. -/
def toInt? (x : Binary64) : Option Int :=
  match x.point? with
  | some (.finite u) => if u % (unit : Int) = 0 then some (u / (unit : Int)) else none
  | _ => none

/-- Numerical order; it is false when either side is not a number. -/
def lt (x y : Binary64) : Bool := Point.below x.point? y.point?

/-- Numerical equality: the two zeros are equal, and what is not a number equals nothing. -/
def eq (x y : Binary64) : Bool := Point.same x.point? y.point?

end Binary64

end Questionnaire
