import Questionnaire.Value.Basic
import Questionnaire.Number.Shortest
import Questionnaire.Text.Quoted

/-!
# Values as text

`quoted` shows a value inside a message or a container, with its texts in quotes; `display` is the
same for a value on its own, except that a text or a date stands there without quotes.
`kind` names the kind of a value, as messages about unfit values do.
-/

namespace Questionnaire.Value

/-- The name of the kind of a value. -/
def kind : Value → String
  | .missing => "_Missing"
  | .null => "NoneType"
  | .bool _ => "bool"
  | .int _ => "int"
  | .float _ => "float"
  | .str _ => "str"
  | .list _ => "list"
  | .tuple _ => "tuple"
  | .set _ => "set"
  | .dict _ => "dict"
  | .bytes _ => "bytes"
  | .date _ => "date"
  | .file _ => "SimpleNamespace"
  | .record k _ => k.name

/-- The name of the kind of a value with the name of the library that it belongs to. -/
def qualifiedKind : Value → String
  | .date _ => "datetime.date"
  | .file _ => "types.SimpleNamespace"
  | v => v.kind

/-- The text of a whole number. -/
def showInt (n : Int) : String := toString n

/-- A date in quotes: its three numbers. -/
def quotedDate (s : String) : String :=
  "datetime.date(" ++ ", ".intercalate ((s.splitOn "-").map fun part =>
    String.ofList (let digits := part.toList.dropWhile (· = '0'); if digits = [] then ['0'] else digits))
    ++ ")"

mutual

/-- A value inside a message or a container. -/
def quoted : Value → String
  | .missing => "MISSING"
  | .null => "None"
  | .bool b => if b then "True" else "False"
  | .int n => showInt n
  | .float x => FloatLayout.plain.write x
  | .str s => Text.quoted s
  | .list items => "[" ++ ", ".intercalate (quotedItems items) ++ "]"
  | .tuple items =>
    match quotedItems items with
    | [one] => "(" ++ one ++ ",)"
    | many => "(" ++ ", ".intercalate many ++ ")"
  | .set items =>
    if items.isEmpty then "set()" else "\x7b" ++ ", ".intercalate (quotedItems items) ++ "\x7d"
  | .dict members => "\x7b" ++ ", ".intercalate (quotedMembers members) ++ "\x7d"
  | .bytes data => Text.quotedBytes data
  | .date s => quotedDate s
  | .file attributes => "namespace(" ++ ", ".intercalate (quotedArguments attributes) ++ ")"
  | .record k members => k.name ++ "(" ++ ", ".intercalate (quotedArguments members) ++ ")"

/-- The items of a container. -/
def quotedItems : List Value → List String
  | [] => []
  | x :: xs => x.quoted :: quotedItems xs

/-- The members of an object. -/
def quotedMembers : List (String × Value) → List String
  | [] => []
  | (name, x) :: ms => (Text.quoted name ++ ": " ++ x.quoted) :: quotedMembers ms

/-- The attributes of an object that is no plain data. -/
def quotedArguments : List (String × Value) → List String
  | [] => []
  | (name, x) :: ms => (name ++ "=" ++ x.quoted) :: quotedArguments ms

end

/-- A value on its own. -/
def display : Value → String
  | .str s => s
  | .date s => s
  | v => v.quoted

end Questionnaire.Value
