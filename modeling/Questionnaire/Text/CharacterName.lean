import Questionnaire.Text.CharacterName.Table
import Questionnaire.Text.Hex
import Questionnaire.Text.Ranges

/-!
# Names of characters

`characterNamed?` finds the code point of a character by its name.  Most names stand in a table, and
are found in any case.  The names of syllables of Hangul are spelled from the names of their letters,
and the names of ideographs end in their code points.
-/

namespace Questionnaire.Text

/-! ### Syllables of Hangul -/

/-- The names of the leading consonants. -/
def hangulLeads : List String :=
  ["G", "GG", "N", "D", "DD", "R", "M", "B", "BB", "S", "SS", "", "J", "JJ", "C", "K", "T", "P", "H"]

/-- The names of the vowels. -/
def hangulVowels : List String :=
  ["A", "AE", "YA", "YAE", "EO", "E", "YEO", "YE", "O", "WA", "WAE", "OE", "YO", "U", "WEO", "WE",
    "WI", "YU", "EU", "YI", "I"]

/-- The names of the trailing consonants, of which there may be none. -/
def hangulTails : List String :=
  ["", "G", "GG", "GS", "N", "NJ", "NH", "D", "L", "LG", "LM", "LB", "LS", "LT", "LP", "LH", "M", "B",
    "BS", "S", "SS", "NG", "J", "C", "K", "T", "P", "H"]

/-- The number of the longest name at the start of a text, and the text after it. -/
def longestName? (names : List String) (cs : List Char) : Option (Nat × List Char) :=
  let fits := names.zipIdx.filter fun (name, _) => name.toList.isPrefixOf cs
  (fits.foldl (fun best fit =>
    match best with
    | some (name, _) => if fit.1.length ≤ name.length then best else some fit
    | none => some fit) (none : Option (String × Nat))).map
    fun (name, n) => (n, cs.drop name.length)

/-- The code point of a syllable that is spelled by its letters. -/
def hangulSyllable? (cs : List Char) : Option Nat := do
  let (lead, cs) ← longestName? hangulLeads cs
  let (vowel, cs) ← longestName? hangulVowels cs
  let (tail, cs) ← longestName? hangulTails cs
  if cs.isEmpty then some (0xac00 + (lead * 21 + vowel) * 28 + tail) else none

/-! ### Ideographs -/

/-- The unified ideographs. -/
def ideographRanges : List (Nat × Nat) :=
  [(0x3400, 0x4dbf), (0x4e00, 0x9fff), (0x20000, 0x2a6df), (0x2a700, 0x2b738), (0x2b740, 0x2b81d),
    (0x2b820, 0x2cea1), (0x2ceb0, 0x2ebe0), (0x30000, 0x3134a)]

/-- Other characters that are named by their code points, with the words before these. -/
def numberedRanges : List (String × List (Nat × Nat)) :=
  [("CJK COMPATIBILITY IDEOGRAPH-", [(0xf900, 0xfa6d), (0xfa70, 0xfad9), (0x2f800, 0x2fa1d)]),
    ("KHITAN SMALL SCRIPT CHARACTER-", [(0x18b00, 0x18cd5)]),
    ("NUSHU CHARACTER-", [(0x1b170, 0x1b2fb)])]

/-- The code point among ranges that four or five upper-case hexadecimal digits write. -/
def codePointIn? (ranges : List (Nat × Nat)) (cs : List Char) : Option Nat :=
  if (cs.length = 4 ∨ cs.length = 5) ∧ cs.all (fun c => !('a' ≤ c && c ≤ 'f')) then
    (hexNumber? cs).filter (inRanges ranges)
  else none

/-! ### The table -/

/-- The entries of the table. -/
def characterNameEntries : List String :=
  (characterNameTable.splitOn "\n").flatMap (·.splitOn "|")

/-- Looks a name up among the entries of a table, which follow a name of some words; the next entry
is for the code point `n`. -/
def lookUpName? (name : List String) : List String → Nat → List String → Option Nat
  | _, _, [] => none
  | before, n, entry :: entries =>
    match entry.toList with
    | '@' :: digits => lookUpName? name before ((hexNumber? digits).getD n) entries
    | count :: rest =>
      let words := before.take (count.toNat - 0x30) ++ (String.ofList rest).splitOn " "
      if words = name then some n else lookUpName? name words (n + 1) entries
    | [] => lookUpName? name before n entries

/-- The code point that a name ends in, if it begins with one of the words for such names. -/
def numbered? (cs : List Char) : Option Nat :=
  numberedRanges.findSome? fun (words, ranges) =>
    if words.toList.isPrefixOf cs then codePointIn? ranges (cs.drop words.length) else none

/-- A name in upper case. -/
def upperName (cs : List Char) : List Char := cs.map (·.toUpper)

/-! ### All names -/

/-- The code point of the character of a name. -/
def characterNamed? (name : String) : Option Nat :=
  let cs := name.toList
  let after := fun (words : String) =>
    if words.toList.isPrefixOf cs then some (cs.drop words.length) else none
  match after "HANGUL SYLLABLE " with
  | some letters => hangulSyllable? letters
  | none =>
    match after "CJK UNIFIED IDEOGRAPH-" with
    | some digits => codePointIn? ideographRanges digits
    | none =>
      let upper := upperName cs
      (numbered? upper).or
        (lookUpName? ((String.ofList upper).splitOn " ") [] 0 characterNameEntries)

end Questionnaire.Text
