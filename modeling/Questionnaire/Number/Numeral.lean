import Questionnaire.Number.Binary64
import Questionnaire.Text.Blank
import Questionnaire.Text.Digit

/-!
# Numerals

A numeral is an optional sign, digits with or without a decimal point (at least one digit on one
side of it), and an optional exponent.  `Numeral.read?` reads one and keeps its exact value;
`readNumber?` also knows the words for infinity and for what is not a number.

Whole numbers may group their digits by single underscores.  `Integer.read` accepts the digits of
any script and refuses a numeral of more than `maxDigits` digits.
-/

namespace Questionnaire

/-- Takes a sign off the front; `true` for a minus. -/
def takeSign : List Char → Bool × List Char
  | '-' :: rest => (true, rest)
  | '+' :: rest => (false, rest)
  | rest => (false, rest)

/-- The number that a row of digits writes. -/
def digitsValue (cs : List Char) : Nat := cs.foldl (fun n c => n * 10 + (c.toNat - 0x30)) 0

/-- Applies a sign. -/
def signed (neg : Bool) (n : Nat) : Int := if neg then -(n : Int) else n

/-- The number `± digits · 10 ^ exp`. -/
structure Numeral where
  neg : Bool
  digits : Nat
  exp : Int
  deriving DecidableEq

namespace Numeral

/-- The exponent part of a numeral: nothing, or a letter e with a whole number. -/
def readExponent? : List Char → Option Int
  | [] => some 0
  | e :: rest =>
    let (neg, digits) := takeSign rest
    if (e = 'e' ∨ e = 'E') ∧ digits ≠ [] ∧ digits.all Char.isDigit then
      some (signed neg (digitsValue digits))
    else none

/-- Reads a whole text as a numeral. -/
def read? (cs : List Char) : Option Numeral :=
  let (neg, body) := takeSign cs
  let (whole, rest) := body.span Char.isDigit
  let (fraction, rest) := match rest with
    | '.' :: rest => rest.span Char.isDigit
    | rest => ([], rest)
  if whole = [] ∧ fraction = [] then none
  else (readExponent? rest).map fun exp =>
    ⟨neg, digitsValue (whole ++ fraction), exp - fraction.length⟩

/-- The float nearest to a numeral. -/
def toBinary64 (n : Numeral) : Binary64 := .ofDecimal n.neg n.digits n.exp

end Numeral

/-! ### Floats -/

/-- A character in lower case, for the words that numerals use. -/
def asciiLower (cs : List Char) : List Char := cs.map Char.toLower

/-- Reads a numeral, a word for infinity or a word for what is not a number. -/
def readNumber? (cs : List Char) : Option Binary64 :=
  let (neg, body) := takeSign cs
  let word := String.ofList (asciiLower body)
  if word = "inf" ∨ word = "infinity" then some (.infinite neg)
  else if word = "nan" then some (.nan Binary64.literalMark)
  else (Numeral.read? cs).map Numeral.toBinary64

/-- Writes the decimal digits of all scripts with the ASCII ones. -/
def asciiDigits (cs : List Char) : List Char :=
  cs.map fun c => match Text.digitValue? c.toNat with
    | some d => Char.ofNat (0x30 + d)
    | none => c

/-- Takes out underscores, each of which must stand between two digits. -/
def ungroup? : List Char → Option (List Char)
  | [] => some []
  | '_' :: _ => none
  | c :: '_' :: d :: rest =>
    if c.isDigit ∧ d.isDigit then (ungroup? (d :: rest)).map (c :: ·) else none
  | c :: rest => (ungroup? rest).map (c :: ·)

/-- Reads a text as a float: white space around it, digits of any script and grouped digits are
allowed. -/
def readFloat? (s : String) : Option Binary64 :=
  (ungroup? (Text.trim Text.isWhiteSpace (asciiDigits s.toList))).bind readNumber?

/-! ### Whole numbers -/

/-- The most digits that a whole number may have in a text. -/
def maxDigits : Nat := 4300

/-- What a text says about a whole number. -/
inductive Integer where
  /-- The number. -/
  | value (n : Int)
  /-- The text is no numeral of a whole number. -/
  | malformed
  /-- The numeral has too many digits. -/
  | tooLong (digits : Nat)

/-- The digits of a row that single underscores may group; there is at least one. -/
def groupedDigits? (cs : List Char) : Option (List Char) :=
  match cs, ungroup? cs with
  | _ :: _, some digits => if digits.all Char.isDigit then some digits else none
  | _, _ => none

/-- Reads a text as a whole number: white space around it, digits of any script and grouped digits
are allowed. -/
def Integer.read (s : String) : Integer :=
  let (neg, body) := takeSign (Text.trim Text.isWhiteSpace (asciiDigits s.toList))
  match groupedDigits? body with
  | none => .malformed
  | some digits =>
    if maxDigits < digits.length then .tooLong digits.length
    else .value (signed neg (digitsValue digits))

end Questionnaire
