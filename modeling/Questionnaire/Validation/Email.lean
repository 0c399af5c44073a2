import Questionnaire.Pattern.Matching

/-!
# Email addresses

The shape of an email address: a local part without a dot at its start or two dots in a row, an at
sign, labels each followed by a dot, and a last label of letters.  Case is ignored, which lets in the
few letters of other scripts that are case variants of ASCII letters.
-/

namespace Questionnaire

open Pattern

namespace Email

/-- A character by itself. -/
def exactly (c : Char) : SetItem := .char c.toNat

/-- All characters from one to another. -/
def between (first last : Char) : SetItem := .range first.toNat last.toNat

/-- Letters, digits and the punctuation of a local part. -/
def localItems : List SetItem :=
  [between 'A' 'Z', between '0' '9', exactly '_', exactly '\'', exactly '+', exactly '-', exactly '.']

/-- What a local part can end with. -/
def localEndItems : List SetItem :=
  [between 'A' 'Z', between '0' '9', exactly '_', exactly '+', exactly '-']

/-- What a label can start with. -/
def labelStartItems : List SetItem := [between 'A' 'Z', between '0' '9']

/-- What a label can go on with. -/
def labelItems : List SetItem := [between 'A' 'Z', between '0' '9', exactly '-']

/-- A set of characters repeated from some number of times on. -/
def many (min : Nat) (items : List SetItem) : Node := .repeated .greedy min none [.oneOf false items]

/-- A dot. -/
def dot : Node := .char '.'.toNat

/-- The shape of an email address. -/
def pattern : Program where
  nodes :=
    [.look false true [dot],
      .look false true [.repeated .greedy 0 none [.any], dot, dot],
      .group (some 1) [] [] [many 0 localItems],
      .oneOf false localEndItems,
      .char '@'.toNat,
      .repeated .greedy 1 none
        [.group (some 2) [] [] [.oneOf false labelStartItems, many 0 labelItems, dot]],
      many 2 [between 'A' 'Z']]
  flags := ['i']
  groups := [some ⟨0, maxWidth⟩, some ⟨2, maxWidth⟩]

/-- Whether a text has the shape of an email address. -/
def isAddress (s : String) : Bool := pattern.matchesAll s

end Email
end Questionnaire
