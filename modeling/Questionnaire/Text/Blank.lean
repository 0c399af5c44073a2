/-!
# Blank characters

Two sets of blanks are in use.  `isWhiteSpace` is the white space of the character standard, which
may surround a numeral.  `isBlank` adds the four information separators to it; it is what is
stripped from an answer, and what a pattern means by a space.
-/

namespace Questionnaire.Text

/-- White space of the character standard. -/
def isWhiteSpace (c : Char) : Bool :=
  c = ' ' || (0x9 ≤ c.toNat && c.toNat ≤ 0xd) || c.toNat = 0x85 || c.toNat = 0xa0 ||
    c.toNat = 0x1680 || (0x2000 ≤ c.toNat && c.toNat ≤ 0x200a) || c.toNat = 0x2028 ||
    c.toNat = 0x2029 || c.toNat = 0x202f || c.toNat = 0x205f || c.toNat = 0x3000

/-- White space or an information separator. -/
def isBlank (c : Char) : Bool := isWhiteSpace c || (0x1c ≤ c.toNat && c.toNat ≤ 0x1f)

/-- A text without the characters of a class at its ends. -/
def trim (p : Char → Bool) (cs : List Char) : List Char :=
  ((cs.dropWhile p).reverse.dropWhile p).reverse

/-- A text without blanks at its ends. -/
def strip (s : String) : List Char := trim isBlank s.toList

end Questionnaire.Text
