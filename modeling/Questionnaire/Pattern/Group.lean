import Questionnaire.Pattern.Token
import Questionnaire.Number.Numeral
import Questionnaire.Text.Identifier
import Questionnaire.Text.Word

/-!
# Repetitions, modes and groups

What stands after a node to repeat it, the letters of modes, and what opens a group.  Groups are
numbered by their opening parentheses; a reference may name a group that is closed, and inside a
look-behind only one from outside.
-/

namespace Questionnaire.Pattern

/-! ### Repetitions -/

/-- A bound of a repetition. -/
def repetitionBound (digits : List Char) : Parse Nat := do
  if maxDigits < digits.length then throw (.tooManyDigits digits.length)
  let n := digitsValue digits
  if 0xffffffff ≤ n then throw .repetitionTooLarge
  pure n

/-- The bounds of a repetition in braces, after the opening brace; `none` when the brace opens no
repetition. -/
def braceBounds : Parse (Option (Nat × Option Nat)) := do
  let s ← get
  let start := s.place
  if (← peek) = some ['\x7d'] then pure none
  else
    let low ← takeWhile Char.isDigit ((← remaining) + 1)
    let high ← if ← accept ',' then takeWhile Char.isDigit ((← remaining) + 1) else pure low
    if !(← accept '\x7d') then
      moveTo s.rest s.place
      pure none
    else
      let min ← if low = [] then pure 0 else repetitionBound low
      if high = [] then pure (some (min, none))
      else
        let max ← repetitionBound high
        if max < min then stopAt .boundsOutOfOrder start
        pure (some (min, some max))

/-- How greedy a repetition is, by the character after it. -/
def takeGreed : Parse Greed := do
  if ← accept '?' then return .lazy
  if ← accept '+' then return .possessive
  return .greedy

/-- Repeats the last node, which `place` says where to blame. -/
def repeatLast (place : Nat) (min : Nat) (max : Option Nat) (done : List Node) :
    Parse (List Node) := do
  match done with
  | [] | .anchor _ :: _ => stopAt .nothingToRepeat place
  | .repeated .. :: _ => stopAt .multipleRepeat place
  | last :: before =>
    pure (.repeated (← takeGreed) min max [last] :: before)

/-! ### Modes -/

/-- The letters of modes. -/
def isFlag (c : Char) : Bool := c ∈ ['i', 'L', 'm', 's', 'x', 'a', 't', 'u']

/-- Stops at a token where a letter of a mode should stand. -/
def stopAtFlag {α : Type} (t : Token) (otherwise : String) : Parse α :=
  match t with
  | [c] => stop (if Text.isLetter c.toNat then .unknownFlag else .missing otherwise) 1
  | _ => stop (.missing otherwise) t.length

/-- The modes to turn on, from a first letter up to the character that ends them. -/
def flagsOn : Nat → Char → List Char → Parse (List Char × Char)
  | 0, _, _ => stop (.missing "-, : or )") 0
  | fuel + 1, c, added => do
    if c = 'L' then stop .localeFlag 0
    let added := if added.contains c then added else added ++ [c]
    if scriptFlags.contains c ∧ 1 < (added.filter (scriptFlags.contains ·)).length then
      stop .incompatibleFlags 0
    match ← take with
    | none => stop (.missing "-, : or )") 0
    | some [d] =>
      if d = ')' ∨ d = '-' ∨ d = ':' then pure (added, d)
      else if isFlag d then flagsOn fuel d added
      else stopAtFlag [d] "-, : or )"
    | some t => stopAtFlag t "-, : or )"

/-- The modes to turn off, from a first letter up to the colon. -/
def flagsOff : Nat → Char → List Char → Parse (List Char)
  | 0, _, _ => stop (.missing ":") 0
  | fuel + 1, c, removed => do
    if scriptFlags.contains c then stop .scriptFlagOff 0
    let removed := if removed.contains c then removed else removed ++ [c]
    match ← take with
    | none => stop (.missing ":") 0
    | some [d] =>
      if d = ':' then pure removed
      else if isFlag d then flagsOff fuel d removed
      else stopAtFlag [d] ":"
    | some t => stopAtFlag t ":"

/-- The modes of a group, from their first letter or the minus; `none` when they are for the whole
pattern. -/
def groupFlags (c : Char) : Parse (Option (Flags × Flags)) := do
  let fuel := (← remaining) + 1
  let (added, ending) ← if c = '-' then pure ([], '-') else flagsOn fuel c []
  if ending = ')' then
    modify fun s => { s with flags := s.flags ++ added }
    pure none
  else
    if added.contains 't' then stop (.globalFlag "on") 1
    let removed ← if ending = '-' then
        match ← take with
        | none => stop (.missing "flag") 0
        | some [d] => if isFlag d then flagsOff fuel d [] else stopAtFlag [d] "flag"
        | some t => stopAtFlag t "flag"
      else pure []
    if removed.contains 't' then stop (.globalFlag "off") 1
    if added.any (removed.contains ·) then stop .flagOnAndOff 1
    pure (some (added, removed))

/-! ### Groups -/

/-- Refuses a name that is no identifier. -/
def checkName (name : List Char) : Parse Unit := do
  if !Text.isIdentifier name then
    stop (.badGroupName (String.ofList name)) (name.length + 1)

/-- The number of a group by its name. -/
def namedGroup (name : List Char) : Parse Nat := do
  match (← get).names.lookup (String.ofList name) with
  | some number => pure number
  | none => stop (.unknownGroupName (String.ofList name)) (name.length + 1)

/-- Opens a group and gives it the next number. -/
def openGroup (name : Option (List Char)) : Parse Nat := do
  let s ← get
  let number := s.groups.length + 1
  match name with
  | none => set { s with groups := s.groups ++ [none] }
  | some name =>
    let text := String.ofList name
    match s.names.lookup text with
    | some earlier => stop (.redefinedGroup text number earlier) (name.length + 1)
    | none => set { s with groups := s.groups ++ [none], names := s.names ++ [(text, number)] }
  pure number

/-- Closes a group with what stands in it. -/
def closeGroup (number : Nat) (body : List Node) : Parse Unit :=
  modify fun s =>
    { s with groups := s.groups.set (number - 1) (some (sequenceWidth s.groups body)) }

/-- Takes the parenthesis that closes a group; `start` is the place of the opening one. -/
def closing (start : Nat) : Parse Unit := do
  if !(← accept ')') then stopAt .unterminatedGroup start

/-- The group that a condition asks for, by name or by number. -/
def conditionGroup : Parse Nat := do
  let name ← nameUntil ')' "group name"
  let number ← if Text.isIdentifier name then namedGroup name
    else match Integer.read (String.ofList name) with
      | .value n =>
        if n < 0 then stop (.badGroupName (String.ofList name)) (name.length + 1)
        else if n = 0 then stop .badGroupNumber (name.length + 1)
        else if 0x3fffffff ≤ n then stop (.unknownGroup n.toNat) (name.length + 1)
        else do
          let place := (← here) - name.length - 1
          modify fun s =>
            if s.mentions.any (·.1 = n.toNat) then s
            else { s with mentions := s.mentions ++ [(n.toNat, place)] }
          pure n.toNat
      | _ => stop (.badGroupName (String.ofList name)) (name.length + 1)
  checkLookbehind number
  pure number

/-- Leaves a comment in parentheses behind. -/
def skipComment (start : Nat) : Nat → Parse Unit
  | 0 => stopAt .unterminatedComment start
  | fuel + 1 => do
    match ← take with
    | none => stopAt .unterminatedComment start
    | some t => if t = [')'] then pure () else skipComment start fuel

/-- Leaves the rest of a line behind. -/
def skipLine : Nat → Parse Unit
  | 0 => pure ()
  | fuel + 1 => do
    match ← take with
    | none => pure ()
    | some t => if t = ['\n'] then pure () else skipLine fuel

/-- A blank that the mode for comments passes over. -/
def isPatternBlank (c : Char) : Bool := c = ' ' || (0x9 ≤ c.toNat && c.toNat ≤ 0xd)

/-- What follows an opening parenthesis. -/
inductive Opening where
  /-- A group of a sequence, captured under a number or not. -/
  | group (captured : Bool) (name : Option (List Char)) (added removed : Flags) (atomic : Bool)
  | look (behind negated : Bool)
  | condition
  | reference (number : Nat)
  /-- Nothing that matches anything. -/
  | nothing

/-- Reads what follows a parenthesis, a question mark and a letter P. -/
def extension : Parse Opening := do
  if ← accept '<' then
    let name ← nameUntil '>' "group name"
    checkName name
    pure (.group true (some name) [] [] false)
  else if ← accept '=' then
    let name ← nameUntil ')' "group name"
    checkName name
    let number ← namedGroup name
    if ((← get).groups.closed? number).isNone then stop .openGroup (name.length + 1)
    checkLookbehind number
    pure (.reference number)
  else match ← take with
    | none => stop .unexpectedEnd 0
    | some t => stop (.unknownExtension ("P" ++ String.ofList t)) (t.length + 2)

/-- Reads what follows an opening parenthesis, up to the contents of the group; `mayBeGlobal` says
whether modes for the whole pattern may stand here. -/
def opening (start : Nat) (mayBeGlobal : Bool) : Parse Opening := do
  if !(← accept '?') then pure (.group true none [] [] false)
  else match ← take with
    | none => stop .unexpectedEnd 0
    | some ['P'] => extension
    | some [':'] => pure (.group false none [] [] false)
    | some ['#'] => do
      skipComment start ((← remaining) + 1)
      pure .nothing
    | some ['='] => pure (.look false false)
    | some ['!'] => pure (.look false true)
    | some ['<'] =>
      match ← take with
      | none => stop .unexpectedEnd 0
      | some ['='] => pure (.look true false)
      | some ['!'] => pure (.look true true)
      | some t => stop (.unknownExtension ("<" ++ String.ofList t)) (t.length + 2)
    | some ['('] => pure .condition
    | some ['>'] => pure (.group false none [] [] true)
    | some [c] =>
      if isFlag c ∨ c = '-' then
        match ← groupFlags c with
        | none =>
          if !mayBeGlobal then stopAt .misplacedFlags start
          pure .nothing
        | some (added, removed) => pure (.group false none added removed false)
      else stop (.unknownExtension (String.singleton c)) 2
    | some t => stop (.unknownExtension (String.ofList t)) (t.length + 1)

end Questionnaire.Pattern
