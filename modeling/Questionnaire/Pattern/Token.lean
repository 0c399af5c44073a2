import Questionnaire.Pattern.Fault
import Questionnaire.Pattern.Width

/-!
# Tokens of a pattern

A pattern is read token by token; a token is a character, or a backslash with the character after it.
`Parse` is a step of reading: it takes tokens from the `Source`, which also keeps what is known about
the groups and the modes of the part before, or stops at a defect.
-/

namespace Questionnaire.Pattern

/-- A character, or a backslash with the character after it. -/
abbrev Token := List Char

/-- What is left of a pattern, and what is known about the part before. -/
structure Source where
  rest : List Char
  /-- The place at which `rest` starts. -/
  place : Nat
  /-- The modes for the whole pattern. -/
  flags : Flags
  /-- The groups opened so far. -/
  groups : GroupWidths
  names : List (String × Nat)
  /-- Inside a look-behind: the number of the first group that would be opened in it. -/
  lookbehind : Option Nat
  /-- The groups that conditions ask for by number, with the places of their first mention. -/
  mentions : List (Nat × Nat)

/-- A step of reading. -/
abbrev Parse := StateT Source (Except Fault)

/-- Stops at the place that lies a number of characters before the next token. -/
def stop {α : Type} (defect : Defect) (back : Nat) : Parse α := do
  throw (.foundAt ((← get).place - back) defect)

/-- Stops at a given place. -/
def stopAt {α : Type} (defect : Defect) (place : Nat) : Parse α := throw (.foundAt place defect)

/-- The token at the front of a text. -/
def firstToken : List Char → Option Token
  | [] => none
  | '\\' :: c :: _ => some ['\\', c]
  | c :: _ => some [c]

/-- The next token. -/
def peek : Parse (Option Token) := do pure (firstToken (← get).rest)

/-- Goes to a place; a lone backslash there ends the reading. -/
def moveTo (rest : List Char) (place : Nat) : Parse Unit := do
  if rest = ['\\'] then stopAt .escapeAtEnd place
  modify fun s => { s with rest, place }

/-- Takes the next token. -/
def take : Parse (Option Token) := do
  let s ← get
  match firstToken s.rest with
  | none => pure none
  | some t => do
    moveTo (s.rest.drop t.length) (s.place + t.length)
    pure (some t)

/-- Takes the next token if it is the given character. -/
def accept (c : Char) : Parse Bool := do
  if (← peek) = some [c] then
    let _ ← take
    pure true
  else pure false

/-- Takes up to a number of characters of a class. -/
def takeWhile (p : Char → Bool) : Nat → Parse (List Char)
  | 0 => pure []
  | n + 1 => do
    match ← peek with
    | some [c] =>
      if p c then
        let _ ← take
        pure (c :: (← takeWhile p n))
      else pure []
    | _ => pure []

/-- The place of the next token. -/
def here : Parse Nat := do pure (← get).place

/-- The number of characters that are left. -/
def remaining : Parse Nat := do pure (← get).rest.length

/-- Takes a name up to a terminator. -/
def takeName (terminator : Char) (what : String) : Nat → List Char → Parse (List Char)
  | 0, _ => stop (.missingName what) 0
  | fuel + 1, name => do
    match ← take with
    | none =>
      if name = [] then stop (.missingName what) 0
      else stop (.unterminatedName (String.singleton terminator)) name.length
    | some t =>
      if t = [terminator] then
        if name = [] then stop (.missingName what) 1 else pure name
      else takeName terminator what fuel (name ++ t)

/-- Takes a name that is not empty, up to a terminator. -/
def nameUntil (terminator : Char) (what : String) : Parse (List Char) := do
  takeName terminator what ((← remaining) + 1) []

/-- Refuses a reference from a look-behind to a group that is open or of the same look-behind. -/
def checkLookbehind (number : Nat) : Parse Unit := do
  let s ← get
  match s.lookbehind with
  | none => pure ()
  | some first =>
    if (s.groups.closed? number).isNone then stop .openGroup 0
    if first ≤ number then stop .groupOfLookbehind 0

end Questionnaire.Pattern
