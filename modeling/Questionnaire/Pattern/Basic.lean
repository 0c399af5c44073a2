/-!
# Patterns

A pattern is a sequence of nodes.  A node matches one character, nothing at a place of some kind, or
what its parts match; characters are given by code point, since a pattern can name code points that
no text holds.

Patterns are read and matched by the documented rules.  There are corners where implementations of
these rules are known to depart from them.  In a set of a pattern that ignores case, letters beyond the
first `0x10000` code points may be met only as they are written.  And a group that was met in a round
of a possessive repetition which is then given up may still count as met for a condition on it.
-/

namespace Questionnaire.Pattern

/-- The letters of the modes that are on. -/
abbrev Flags := List Char

/-- The letters of the modes that decide between ASCII and all scripts. -/
def scriptFlags : List Char := ['a', 'u', 'L']

/-- Turns modes on and off; choosing a script mode ends the one in force. -/
def Flags.change (flags added removed : Flags) : Flags :=
  let kept := if added.any (scriptFlags.contains ·) then flags.filter (!scriptFlags.contains ·) else flags
  (kept ++ added).filter (!removed.contains ·)

/-- A class of characters. -/
inductive Category where
  | digit
  | space
  | word
  deriving DecidableEq

/-- One item of a set of characters. -/
inductive SetItem where
  | char (n : Nat)
  | range (first last : Nat)
  | category (c : Category) (negated : Bool)
  deriving DecidableEq

/-- A kind of place. -/
inductive Anchor where
  /-- The start of the text, or of a line. -/
  | lineStart
  /-- The end of the text, the place before a line break at its end, or the end of a line. -/
  | lineEnd
  | textStart
  | textEnd
  /-- Between a character of a word and one that is none. -/
  | boundary
  | notBoundary
  deriving DecidableEq

/-- How often a repetition prefers to repeat. -/
inductive Greed where
  /-- As often as possible, and less often if what follows requires it. -/
  | greedy
  /-- As seldom as possible. -/
  | lazy
  /-- As often as possible, once and for all. -/
  | possessive
  deriving DecidableEq

/-- A part of a pattern. -/
inductive Node where
  | char (n : Nat)
  /-- Any character; a line break only in the mode for it. -/
  | any
  | oneOf (negated : Bool) (items : List SetItem)
  | anchor (a : Anchor)
  | branch (alternatives : List (List Node))
  /-- A group, with its number if it is captured, and the modes it turns on and off. -/
  | group (number : Option Nat) (added removed : Flags) (body : List Node)
  /-- The first way in which the body matches, and no other. -/
  | atomic (body : List Node)
  | repeated (greed : Greed) (min : Nat) (max : Option Nat) (body : List Node)
  /-- What a group has captured. -/
  | backref (number : Nat)
  /-- One of two sequences, as a group has captured something or not. -/
  | ifGroup (number : Nat) (yes no : List Node)
  /-- Whether the body matches from here on, or up to here. -/
  | look (behind negated : Bool) (body : List Node)
  deriving Inhabited

end Questionnaire.Pattern
