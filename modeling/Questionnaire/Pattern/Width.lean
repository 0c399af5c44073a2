import Questionnaire.Pattern.Basic

/-!
# The width of what a pattern matches

The least and the greatest number of characters that a sequence of nodes can match, both cut off at
`maxWidth`.  A reference to a group counts with the width of that group.
-/

namespace Questionnaire.Pattern

/-- The width that stands for all greater ones. -/
def maxWidth : Nat := 0x10000000000000000

/-- The least and the greatest number of characters. -/
structure Width where
  least : Nat
  greatest : Nat
  deriving DecidableEq, Inhabited

/-- The widths of the groups by number; an open group has none yet. -/
abbrev GroupWidths := List (Option Width)

/-- The width of a group that is closed. -/
def GroupWidths.closed? (groups : GroupWidths) (number : Nat) : Option Width :=
  if number = 0 then none else (groups[number - 1]?).join

mutual

/-- The width of one node. -/
def Node.width (groups : GroupWidths) : Node → Width
  | .char _ | .any | .oneOf .. => ⟨1, 1⟩
  | .anchor _ | .look .. => ⟨0, 0⟩
  | .branch alternatives => branchWidth groups alternatives
  | .group _ _ _ body | .atomic body => sequenceWidth groups body
  | .repeated _ min max body =>
    let w := sequenceWidth groups body
    ⟨w.least * min, match max with
      | some m => w.greatest * m
      | none => if w.greatest = 0 then 0 else maxWidth⟩
  | .backref number => (groups.closed? number).getD ⟨0, 0⟩
  | .ifGroup _ yes no =>
    let w := sequenceWidth groups yes
    let v := sequenceWidth groups no
    ⟨Nat.min w.least v.least, Nat.max w.greatest v.greatest⟩

/-- The width of a sequence of nodes. -/
def sequenceWidth (groups : GroupWidths) : List Node → Width
  | [] => ⟨0, 0⟩
  | n :: ns =>
    let w := n.width groups
    let v := sequenceWidth groups ns
    ⟨Nat.min (w.least + v.least) maxWidth, Nat.min (w.greatest + v.greatest) maxWidth⟩

/-- The width of alternatives. -/
def branchWidth (groups : GroupWidths) : List (List Node) → Width
  | [] => ⟨maxWidth, 0⟩
  | a :: as =>
    let w := sequenceWidth groups a
    let v := branchWidth groups as
    ⟨Nat.min w.least v.least, Nat.max w.greatest v.greatest⟩

end
end Questionnaire.Pattern
