import Questionnaire.Pattern.Token
import Questionnaire.Text.CharacterName
import Questionnaire.Text.Word

/-!
# Escapes and sets

`escape` reads what a backslash stands for outside of sets: a class of characters, a place in the
text, a character by digits or by name, or a reference to a group.  `charSet` reads a set between
brackets, where fewer escapes have a meaning.
-/

namespace Questionnaire.Pattern

/-! ### Escapes -/

/-- An octal digit. -/
def isOctal (c : Char) : Bool := '0' ≤ c && c ≤ '7'

/-- The number that octal digits write. -/
def octalValue (cs : List Char) : Nat := cs.foldl (fun n c => n * 8 + (c.toNat - 0x30)) 0

/-- An ASCII letter. -/
def isAsciiLetter (c : Char) : Bool := c.isAlpha

/-- The character that a letter after a backslash stands for everywhere. -/
def controlEscape? : Char → Option Nat
  | 'a' => some 0x7
  | 'b' => some 0x8
  | 'f' => some 0xc
  | 'n' => some 0xa
  | 'r' => some 0xd
  | 't' => some 0x9
  | 'v' => some 0xb
  | '\\' => some 0x5c
  | _ => none

/-- The class that a letter after a backslash stands for. -/
def categoryEscape? : Char → Option SetItem
  | 'd' => some (.category .digit false)
  | 'D' => some (.category .digit true)
  | 's' => some (.category .space false)
  | 'S' => some (.category .space true)
  | 'w' => some (.category .word false)
  | 'W' => some (.category .word true)
  | _ => none

/-- The place that a letter after a backslash stands for. -/
def anchorEscape? : Char → Option Anchor
  | 'A' => some .textStart
  | 'b' => some .boundary
  | 'B' => some .notBoundary
  | 'Z' => some .textEnd
  | _ => none

/-- A token with what was taken after it, as text. -/
def tokenText (t : Token) (more : List Char) : String := String.ofList (t ++ more)

/-- A character by a number of hexadecimal digits. -/
def hexEscape (t : Token) (count : Nat) : Parse Nat := do
  let digits ← takeWhile (fun c => (Text.hexValue? c).isSome) count
  if digits.length ≠ count then stop (.incompleteEscape (tokenText t digits)) (t ++ digits).length
  let n := (Text.hexNumber? digits).getD 0
  if 0x10ffff < n then stop (.badEscape (tokenText t digits)) (t ++ digits).length
  pure n

/-- A character by its name. -/
def namedEscape : Parse Nat := do
  if !(← accept '\x7b') then stop .missingOpeningBrace 0
  let name ← nameUntil '\x7d' "character name"
  match Text.characterNamed? (String.ofList name) with
  | some n => pure n
  | none => stop (.undefinedCharacterName (String.ofList name)) (name.length + 4)

/-- The escapes that mean the same inside and outside of sets: by digits, by name, or of a character
that needs none. -/
def plainEscape (t : Token) (c : Char) : Parse Nat := do
  match c with
  | 'x' => hexEscape t 2
  | 'u' => hexEscape t 4
  | 'U' => hexEscape t 8
  | 'N' => namedEscape
  | _ => if isAsciiLetter c then stop (.badEscape (tokenText t [])) t.length else pure c.toNat

/-- An escape inside a set. -/
def setEscape (t : Token) (c : Char) : Parse SetItem := do
  match controlEscape? c, categoryEscape? c with
  | some n, _ => pure (.char n)
  | none, some item => pure item
  | none, none =>
    if isOctal c then
      let digits ← takeWhile isOctal 2
      let n := octalValue (c :: digits)
      if 0o377 < n then stop (.octalTooLarge (tokenText t digits)) (t ++ digits).length
      pure (.char n)
    else if c.isDigit then stop (.badEscape (tokenText t [])) t.length
    else pure (.char (← plainEscape t c))

/-- A reference to a group by its number. -/
def numberedReference (digits : List Char) : Parse Node := do
  let number := digitsValue digits
  let s ← get
  if number ≤ s.groups.length then
    if (s.groups.closed? number).isNone then stop .openGroup (digits.length + 1)
    checkLookbehind number
    pure (.backref number)
  else stop (.unknownGroup number) digits.length

/-- An escape of digits outside of a set: a character in octal digits, or a reference. -/
def digitEscape (t : Token) (c : Char) : Parse Node := do
  if c = '0' then
    let digits ← takeWhile isOctal 2
    pure (.char (octalValue (c :: digits)))
  else
    let second ← takeWhile Char.isDigit 1
    match second with
    | [d] =>
      if isOctal c ∧ isOctal d then
        let third ← takeWhile isOctal 1
        if third ≠ [] then
          let n := octalValue (c :: d :: third)
          if 0o377 < n then stop (.octalTooLarge (tokenText t (d :: third))) 4
          pure (.char n)
        else numberedReference [c, d]
      else numberedReference [c, d]
    | _ => numberedReference [c]

/-- An escape outside of a set. -/
def escape (t : Token) (c : Char) : Parse Node := do
  match categoryEscape? c, anchorEscape? c, controlEscape? c with
  | some item, _, _ => pure (.oneOf false [item])
  | none, some a, _ => pure (.anchor a)
  | none, none, some n => pure (.char n)
  | none, none, none =>
    if c.isDigit then digitEscape t c else pure (.char (← plainEscape t c))

/-! ### Sets -/

/-- One end of a range, or an item on its own. -/
def setToken (t : Token) : Parse SetItem :=
  match t with
  | ['\\', c] => setEscape t c
  | [c] => pure (.char c.toNat)
  | _ => pure (.char 0)

/-- The items of a set up to its closing bracket; `start` is the place of the opening one.  A closing
bracket that comes first is an item. -/
def setItems (start : Nat) : Nat → List SetItem → Parse (List SetItem)
  | 0, _ => stopAt .unterminatedSet start
  | fuel + 1, items => do
    match ← take with
    | none => stopAt .unterminatedSet start
    | some t =>
      if t = [']'] ∧ items ≠ [] then pure items
      else
        let first ← setToken t
        if ← accept '-' then
          match ← take with
          | none => stopAt .unterminatedSet start
          | some u =>
            if u = [']'] then pure (items ++ [first, .char '-'.toNat])
            else
              let last ← setToken u
              match first, last with
              | .char a, .char b =>
                if b < a then
                  stop (.badRange (String.ofList t) (String.ofList u)) (t.length + 1 + u.length)
                else setItems start fuel (items ++ [.range a b])
              | _, _ =>
                stop (.badRange (String.ofList t) (String.ofList u)) (t.length + 1 + u.length)
        else setItems start fuel (items ++ [first])

/-- A set, after its opening bracket. -/
def charSet : Parse Node := do
  let start := (← here) - 1
  let negated ← accept '^'
  let items ← setItems start ((← remaining) + 1) []
  pure (.oneOf negated items)

end Questionnaire.Pattern
