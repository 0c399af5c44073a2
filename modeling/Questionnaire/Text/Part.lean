/-!
# Parts of texts

`hasPart` looks for a text inside another one; the empty text is a part of every text.
-/

namespace Questionnaire.Text

/-- Whether a text has another as a part. -/
def hasPart (part : List Char) : List Char → Bool
  | [] => part.isEmpty
  | c :: cs => part.isPrefixOf (c :: cs) || hasPart part cs

theorem hasPart_iff {part cs : List Char} : hasPart part cs ↔ part <:+: cs := by
  induction cs with
  | nil => simp [hasPart]
  | cons c cs ih => simp [hasPart, ih, List.infix_cons_iff, List.isPrefixOf_iff_prefix]

end Questionnaire.Text
