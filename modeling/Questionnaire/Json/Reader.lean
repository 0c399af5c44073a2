import Questionnaire.Value.Basic
import Questionnaire.Number.Numeral
import Questionnaire.Text.Hex

/-!
# Reading JSON text

`read` reads a text that holds one JSON value.  Besides the numbers of the standard, the words
`NaN`, `Infinity` and `-Infinity` are known.  A number with a point or an exponent is a float, any
other a whole number of any size up to `maxDigits` digits.  Of two members of one name the later
wins, in the place of the first.

A text that is not JSON is refused with the first place at which it stops being JSON
(`Problem.message` counts lines and columns from one, and characters from zero).

Two things are not limited or kept here that may be elsewhere.  Arrays and objects are read to any
depth.  And an escape for half of a surrogate pair, without the other half, is read as the replacement
character, since a `String` holds no surrogates; where texts do hold them, they are kept, and a value
with one cannot be written as UTF-8.
-/

namespace Questionnaire.Json

/-! ### Problems -/

/-- What is wrong with a text at some place. -/
inductive Defect where
  | byteOrderMark
  | value
  | propertyName
  | colon
  | comma
  | extraData
  | unterminatedText
  | controlCharacter
  | escape
  | unicodeEscape
  deriving DecidableEq

/-- The words for a defect. -/
def Defect.message : Defect → String
  | .byteOrderMark => "Unexpected UTF-8 BOM (decode using utf-8-sig)"
  | .value => "Expecting value"
  | .propertyName => "Expecting property name enclosed in double quotes"
  | .colon => "Expecting ':' delimiter"
  | .comma => "Expecting ',' delimiter"
  | .extraData => "Extra data"
  | .unterminatedText => "Unterminated string starting at"
  | .controlCharacter => "Invalid control character at"
  | .escape => "Invalid \\escape"
  | .unicodeEscape => "Invalid \\uXXXX escape"

/-- Why a text is refused. -/
inductive Problem where
  /-- The text stops being JSON at a place. -/
  | malformed (defect : Defect) (line column place : Nat)
  /-- A whole number has too many digits. -/
  | tooManyDigits (digits : Nat)

/-- The line of a place in a text and the column in that line, both counted from one. -/
def lineAndColumn (cs : List Char) (place : Nat) : Nat × Nat :=
  let before := cs.take place
  ((before.filter (· = '\n')).length + 1, (before.reverse.takeWhile (· ≠ '\n')).length + 1)

/-- The words for a numeral with too many digits. -/
def tooManyDigitsMessage (digits : Nat) : String :=
  s!"Exceeds the limit ({maxDigits} digits) for integer string conversion: value has {digits} digits; use sys.set_int_max_str_digits() to increase the limit"

/-- The words for a problem. -/
def Problem.message : Problem → String
  | .malformed defect line column place =>
    s!"{defect.message}: line {line} column {column} (char {place})"
  | .tooManyDigits digits => tooManyDigitsMessage digits

/-! ### Scanning -/

/-- What is left of a text, and the place where it starts. -/
structure Cursor where
  rest : List Char
  place : Nat

/-- A step of reading: a result with what is left, or a defect with its place. -/
inductive Failure where
  | stopsAt (place : Nat) (defect : Defect)
  | tooManyDigits (digits : Nat)

/-- The outcome of reading from a cursor. -/
abbrev Scan (α : Type) := Except Failure (α × Cursor)

namespace Cursor

/-- Leaves a number of characters behind. -/
def advance (c : Cursor) (n : Nat) : Cursor := ⟨c.rest.drop n, c.place + n⟩

/-- Leaves the blanks of JSON behind. -/
def skipBlanks (c : Cursor) : Cursor :=
  c.advance (c.rest.takeWhile fun d => d = ' ' || d = '\t' || d = '\n' || d = '\r').length

/-- Whether the text goes on with a word. -/
def startsWith (c : Cursor) (word : String) : Bool := word.toList.isPrefixOf c.rest

end Cursor

/-- A defect at a place. -/
def fail {α : Type} (defect : Defect) (place : Nat) : Scan α := .error (.stopsAt place defect)

/-- The character that a letter after a backslash stands for. -/
def shortEscape? : Char → Option Char
  | '"' => some '"'
  | '\\' => some '\\'
  | '/' => some '/'
  | 'b' => some '\x08'
  | 'f' => some '\x0c'
  | 'n' => some '\n'
  | 'r' => some '\r'
  | 't' => some '\t'
  | _ => none

/-- The number that four hexadecimal digits at the front write. -/
def unit? (cs : List Char) : Option Nat :=
  if 4 ≤ cs.length then Text.hexNumber? (cs.take 4) else none

/-- The character of a unit on its own.  Half of a pair is no character that a `String` can hold, so
the replacement character stands for it. -/
def unitChar (n : Nat) : Char := if 0xd800 ≤ n ∧ n < 0xe000 then '\ufffd' else Char.ofNat n

/-- The characters of a text up to its closing quote; `start` is the place of the opening one. -/
def scanText (start : Nat) : Nat → List Char → Cursor → Scan (List Char)
  | 0, _, _ => fail .unterminatedText start
  | fuel + 1, done, c =>
    match c.rest with
    | [] => fail .unterminatedText start
    | '"' :: rest => .ok (done.reverse, ⟨rest, c.place + 1⟩)
    | '\\' :: [] => fail .unterminatedText start
    | '\\' :: 'u' :: digits =>
      if digits.length ≤ 4 then fail .unicodeEscape (c.place + 1)
      else match unit? digits with
        | none => fail .unicodeEscape (c.place + 1)
        | some high =>
          let after := c.advance 6
          match digits.drop 4 with
          | '\\' :: 'u' :: more =>
            if 0xd800 ≤ high ∧ high < 0xdc00 ∧ 4 < more.length then
              match unit? more with
              | none => fail .unicodeEscape (c.place + 7)
              | some low =>
                if 0xdc00 ≤ low ∧ low < 0xe000 then
                  let code := 0x10000 + (high - 0xd800) * 0x400 + (low - 0xdc00)
                  scanText start fuel (Char.ofNat code :: done) (c.advance 12)
                else scanText start fuel (unitChar high :: done) after
            else scanText start fuel (unitChar high :: done) after
          | _ => scanText start fuel (unitChar high :: done) after
    | '\\' :: letter :: _ =>
      match shortEscape? letter with
      | some d => scanText start fuel (d :: done) (c.advance 2)
      | none => fail .escape c.place
    | d :: rest =>
      if d.toNat < 0x20 then fail .controlCharacter c.place
      else scanText start fuel (d :: done) ⟨rest, c.place + 1⟩

/-- The digits at the front of a text. -/
def digitsOf (cs : List Char) : List Char := cs.takeWhile Char.isDigit

/-- The whole part of a number: a zero, or digits that do not start with a zero. -/
def wholePart (cs : List Char) : List Char :=
  match cs with
  | '0' :: _ => ['0']
  | cs => digitsOf cs

/-- The fraction of a number: a point and at least one digit, or nothing. -/
def fractionPart (cs : List Char) : List Char :=
  match cs with
  | '.' :: rest => if digitsOf rest = [] then [] else '.' :: digitsOf rest
  | _ => []

/-- The exponent of a number: its letter, a sign or none, and at least one digit, or nothing. -/
def exponentPart (cs : List Char) : List Char :=
  match cs with
  | e :: rest =>
    if e = 'e' ∨ e = 'E' then
      let sign := match rest with
        | '+' :: _ => ['+']
        | '-' :: _ => ['-']
        | _ => []
      let digits := digitsOf (rest.drop sign.length)
      if digits = [] then [] else e :: (sign ++ digits)
    else []
  | [] => []

/-- Reads a number. -/
def scanNumber (c : Cursor) : Scan Value :=
  let minus := match c.rest with
    | '-' :: _ => ['-']
    | _ => []
  let whole := wholePart (c.rest.drop minus.length)
  if whole = [] then fail .value c.place
  else
    let integral := minus ++ whole
    let fraction := fractionPart (c.rest.drop integral.length)
    let exponent := exponentPart (c.rest.drop (integral.length + fraction.length))
    let all := integral ++ fraction ++ exponent
    let after := c.advance all.length
    if fraction = [] ∧ exponent = [] then
      if maxDigits < whole.length then .error (.tooManyDigits whole.length)
      else .ok (.int (signed (minus ≠ []) (digitsValue whole)), after)
    else .ok (.float (((Numeral.read? all).map Numeral.toBinary64).getD .zero), after)

/-- The values that words stand for. -/
def words : List (String × Value) :=
  [("null", .null), ("true", .bool true), ("false", .bool false),
    ("NaN", .float (.nan Binary64.literalMark)), ("Infinity", .float (.infinite false)),
    ("-Infinity", .float (.infinite true))]

mutual

/-- Reads a value. -/
def scanValue : Nat → Cursor → Except Failure (Value × Cursor)
  | 0, c => fail .value c.place
  | fuel + 1, c =>
    match c.rest with
    | '"' :: rest => do
      let (cs, after) ← scanText c.place (c.rest.length + 1) [] ⟨rest, c.place + 1⟩
      pure (.str (String.ofList cs), after)
    | '\x7b' :: rest =>
      let inner := Cursor.skipBlanks ⟨rest, c.place + 1⟩
      match inner.rest with
      | '\x7d' :: rest => .ok (.dict [], ⟨rest, inner.place + 1⟩)
      | _ => do
        let (members, after) ← scanMembers fuel [] inner
        pure (.dict members, after)
    | '[' :: rest =>
      let inner := Cursor.skipBlanks ⟨rest, c.place + 1⟩
      match inner.rest with
      | ']' :: rest => .ok (.list [], ⟨rest, inner.place + 1⟩)
      | _ => do
        let (items, after) ← scanItems fuel [] inner
        pure (.list items, after)
    | _ =>
      match words.find? fun w => c.startsWith w.1 with
      | some (word, v) => .ok (v, c.advance word.length)
      | none => scanNumber c

/-- Reads the members of an object that is not empty, from the first name on. -/
def scanMembers : Nat → Members Value → Cursor → Except Failure (Members Value × Cursor)
  | 0, _, c => fail .propertyName c.place
  | fuel + 1, done, c =>
    match c.rest with
    | '"' :: rest => do
      let (name, c) ← scanText c.place (c.rest.length + 1) [] ⟨rest, c.place + 1⟩
      let c := c.skipBlanks
      match c.rest with
      | ':' :: rest =>
        let (v, c) ← scanValue fuel (Cursor.skipBlanks ⟨rest, c.place + 1⟩)
        let done := done.put (String.ofList name) v
        let c := c.skipBlanks
        match c.rest with
        | '\x7d' :: rest => .ok (done, ⟨rest, c.place + 1⟩)
        | ',' :: rest => scanMembers fuel done (Cursor.skipBlanks ⟨rest, c.place + 1⟩)
        | _ => fail .comma c.place
      | _ => fail .colon c.place
    | _ => fail .propertyName c.place

/-- Reads the items of an array that is not empty, from the first one on. -/
def scanItems : Nat → List Value → Cursor → Except Failure (List Value × Cursor)
  | 0, _, c => fail .value c.place
  | fuel + 1, done, c => do
    let (v, c) ← scanValue fuel c
    let c := c.skipBlanks
    match c.rest with
    | ']' :: rest => .ok ((v :: done).reverse, ⟨rest, c.place + 1⟩)
    | ',' :: rest => scanItems fuel (v :: done) (Cursor.skipBlanks ⟨rest, c.place + 1⟩)
    | _ => fail .comma c.place

end

/-- A failure with the line and the column of its place. -/
def Failure.locate (cs : List Char) : Failure → Problem
  | .stopsAt place defect =>
    let (line, column) := lineAndColumn cs place
    .malformed defect line column place
  | .tooManyDigits digits => .tooManyDigits digits

/-- Reads one value and the blanks around it from the whole of a text. -/
def readChars (cs : List Char) : Except Failure Value :=
  if cs.head? = some '\ufeff' then .error (.stopsAt 0 .byteOrderMark)
  else do
    let (v, c) ← scanValue (2 * cs.length + 2) (Cursor.skipBlanks ⟨cs, 0⟩)
    let c := c.skipBlanks
    if c.rest.isEmpty then pure v else .error (.stopsAt c.place .extraData)

/-- Reads the one value that a text holds. -/
def read (s : String) : Except Problem Value :=
  (readChars s.toList).mapError (Failure.locate s.toList)

end Questionnaire.Json
