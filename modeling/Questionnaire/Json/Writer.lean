import Questionnaire.Value.Display

/-!
# Writing JSON text

`write` prints a value as JSON text, on one line or with an indentation.  A tuple is an array, a set
or anything else that JSON does not know is the text that shows it.  A `Style` says how characters
and floats are written: `Style.ascii` keeps to ASCII and escapes all other characters, `Style.report`
escapes only what JSON requires.
-/

namespace Questionnaire.Json

/-- How texts and floats are written. -/
structure Style where
  /-- Whether characters outside ASCII are escaped. -/
  asciiOnly : Bool
  /-- How a float is written. -/
  floats : FloatLayout

/-- ASCII text, in which infinities and what is not a number have words of their own. -/
def Style.ascii : Style := ⟨true, .document⟩

/-- Text in all scripts, in which a number without finite value is `null`. -/
def Style.report : Style := ⟨false, .report⟩

/-! ### Texts -/

/-- The escape of one unit of sixteen bits. -/
def unitEscape (n : Nat) : List Char := '\\' :: 'u' :: Text.hexPadded 4 n

/-- The escape of a character: one unit, or the two units of a pair. -/
def charEscape (c : Char) : List Char :=
  let n := c.toNat
  if n < 0x10000 then unitEscape n
  else unitEscape (0xd800 + (n - 0x10000) / 0x400) ++ unitEscape (0xdc00 + (n - 0x10000) % 0x400)

/-- One character of a text. -/
def textChar (asciiOnly : Bool) (c : Char) : List Char :=
  if c = '"' then ['\\', '"']
  else if c = '\\' then ['\\', '\\']
  else if c = '\n' then ['\\', 'n']
  else if c = '\r' then ['\\', 'r']
  else if c = '\t' then ['\\', 't']
  else if c.toNat = 0x8 then ['\\', 'b']
  else if c.toNat = 0xc then ['\\', 'f']
  else if c.toNat < 0x20 ∨ (asciiOnly = true ∧ 0x7f ≤ c.toNat) then charEscape c
  else [c]

/-- A text between quotes. -/
def text (asciiOnly : Bool) (s : String) : String :=
  String.ofList ('"' :: (s.toList.flatMap (textChar asciiOnly) ++ ['"']))

/-! ### Values -/

/-- The break before an item at a level: a new line with indentation, or nothing. -/
def lineBreak (indent : Option Int) (level : Nat) : String :=
  match indent with
  | none => ""
  | some n => "\n" ++ String.ofList (List.replicate (n.toNat * level) ' ')

/-- Items between brackets, on lines of their own if there is an indentation. -/
def bracketed (indent : Option Int) (level : Nat) (opening closing : String) (items : List String) :
    String :=
  if items.isEmpty then opening ++ closing
  else
    let separator := (if indent.isNone then ", " else ",") ++ lineBreak indent (level + 1)
    opening ++ lineBreak indent (level + 1) ++ separator.intercalate items ++
      lineBreak indent level ++ closing

mutual

/-- The text of a value that stands at a level of nesting. -/
def writeAt (style : Style) (indent : Option Int) (level : Nat) : Value → String
  | .null => "null"
  | .bool b => if b then "true" else "false"
  | .int n => Value.showInt n
  | .float x => style.floats.write x
  | .str s => text style.asciiOnly s
  | .list items | .tuple items =>
    bracketed indent level "[" "]" (writeItems style indent (level + 1) items)
  | .dict members | .record _ members =>
    bracketed indent level "\x7b" "\x7d" (writeMembers style indent (level + 1) members)
  | v => text style.asciiOnly v.display

/-- The texts of items. -/
def writeItems (style : Style) (indent : Option Int) (level : Nat) : List Value → List String
  | [] => []
  | x :: xs => writeAt style indent level x :: writeItems style indent level xs

/-- The texts of members. -/
def writeMembers (style : Style) (indent : Option Int) (level : Nat) :
    List (String × Value) → List String
  | [] => []
  | (name, x) :: ms =>
    (text style.asciiOnly name ++ ": " ++ writeAt style indent level x) ::
      writeMembers style indent level ms

end

/-- The text of a value, on one line or indented by a number of spaces at each level. -/
def write (style : Style) (indent : Option Int) (v : Value) : String := writeAt style indent 0 v

end Questionnaire.Json
