import Questionnaire.Reading.Basic

/-!
# Reading scalars, sequences and members

One lenient reader for each kind of scalar, the readers of sequences and mappings over a reader of
their items, and `findMember`, which looks a member up under either of its two spellings.
-/

namespace Questionnaire.Reading

/-- The text of bytes in UTF-8. -/
def utf8? (data : List UInt8) : Option String := String.fromUTF8? ⟨data.toArray⟩

/-! ### Texts and truth values -/

/-- A text; bytes in UTF-8 count as one. -/
def text : Value → Reading String
  | .str s => .read s
  | .bytes data =>
    match utf8? data with
    | some s => .read s
    | none => misfit .notText
  | _ => misfit .notText

/-- The truth value that a word stands for, in any case. -/
def truthWord? (s : String) : Option Bool :=
  let word := String.ofList (asciiLower s.toList)
  if word ∈ ["1", "t", "y", "on", "yes", "true"] then some true
  else if word ∈ ["0", "f", "n", "no", "off", "false"] then some false
  else none

/-- Whole numbers of sixty-four bits, the least one excluded. -/
def isWord64 (n : Int) : Bool :=
  decide (-0x8000000000000000 < n) && decide (n < 0x8000000000000000)

/-- Zero or one as a truth value. -/
def truthOfInt (n : Int) : Reading Bool :=
  if n = 0 then .read false else if n = 1 then .read true else misfit .unreadableTruth

/-- A truth value, zero or one, or a word for one. -/
def truth : Value → Reading Bool
  | .bool b => .read b
  | .int n => if isWord64 n || n = -0x8000000000000000 then truthOfInt n else misfit .notTruth
  | .float x =>
    match x.toInt? with
    | some n => if isWord64 n then truthOfInt n else misfit .notTruth
    | none => misfit .notTruth
  | .str s =>
    match truthWord? s with
    | some b => .read b
    | none => misfit .unreadableTruth
  | .bytes data =>
    match (utf8? data).bind truthWord? with
    | some b => .read b
    | none => misfit .unreadableTruth
  | _ => misfit .notTruth

/-! ### Numbers -/

/-- The whole number of a text: an optional sign, digits that single underscores may group, and
perhaps a point with zeros only. -/
def integerText? (cs : List Char) : Option Int :=
  let (neg, body) := takeSign cs
  let (whole, rest) := body.span (· ≠ '.')
  let zeros := match rest with
    | [] => true
    | _ :: fraction => fraction ≠ [] && fraction.all (· = '0')
  if zeros then (groupedDigits? whole).map fun digits => signed neg (digitsValue digits) else none

/-- Reads a text as a whole number. -/
def integerOfText (s : String) : Reading Int :=
  let cs := Text.trim Text.isWhiteSpace s.toList
  if maxDigits < cs.length then misfit .integerTooLarge
  else match integerText? cs with
    | some n => .read n
    | none => misfit .unreadableInteger

/-- A whole number, a truth value, a float without fraction, or a text of a whole number. -/
def integer : Value → Reading Int
  | .int n => .read n
  | .bool b => .read (if b then 1 else 0)
  | .float x =>
    if !x.isFinite then misfit .notFinite
    else match x.toInt? with
      | some n => if isWord64 n then .read n else misfit .integerTooLarge
      | none => misfit .fraction
  | .str s => integerOfText s
  | .bytes data =>
    match utf8? data with
    | some s => integerOfText s
    | none => misfit .unreadableInteger
  | _ => misfit .notInteger

/-- The float of a text: a numeral whose digits single underscores may group, or a word. -/
def floatText? (s : String) : Option Binary64 :=
  match readNumber? (Text.trim Text.isWhiteSpace s.toList) with
  | some x => some x
  | none => (ungroup? s.toList).bind readNumber?

/-- A text as a whole number or else as a float. -/
def numberOfText (s : String) : Reading Number :=
  match integerOfText s with
  | .read n => .read (.int n)
  | .refused ms =>
    match floatText? s with
    | some x => .read (.float x)
    | none =>
      Reading.refused (ms.map (fun m => { m with path := .key "int" :: m.path }) ++
        [⟨[.key "float"], .unreadableFloat⟩])

/-- What is wrong with a value that is neither a whole number nor a float. -/
def notNumber (asInteger asFloat : Misfit) : Reading Number :=
  .refused [⟨[.key "int"], asInteger⟩, ⟨[.key "float"], asFloat⟩]

/-- A whole number or a float, as it is, or the text of one. -/
def number : Value → Reading Number
  | .int n => .read (.int n)
  | .bool b => .read (.int (if b then 1 else 0))
  | .float x => .read (.float x)
  | .str s => numberOfText s
  | .bytes data =>
    match utf8? data with
    | some s => numberOfText s
    | none => notNumber .unreadableInteger .unreadableFloat
  | _ => notNumber .notInteger .notFloat

/-! ### Choices from a list of names -/

/-- The item that a text names. -/
def named {α : Type} (byName : String → Option α) (otherwise : Misfit) (v : Value) : Reading α :=
  match v.text?.bind byName with
  | some a => .read a
  | none => misfit otherwise

/-! ### Sequences and mappings -/

variable {α : Type}

/-- Reads items by their index. -/
def itemsFrom (f : Value → Reading α) : Nat → List Value → Reading (List α)
  | _, [] => .read []
  | n, v :: vs => List.cons <$> (f v).under (.index n) <*> itemsFrom f (n + 1) vs

/-- The items of a sequence: an array, a tuple or a set. -/
def sequence (otherwise : Misfit) (f : Value → Reading α) : Value → Reading (List α)
  | .list vs | .tuple vs | .set vs => itemsFrom f 0 vs
  | _ => misfit otherwise

/-- Reads members by their name. -/
def membersOf (f : Value → Reading α) : List (String × Value) → Reading (Members α)
  | [] => .read []
  | (name, v) :: ms =>
    List.cons <$> (Prod.mk name <$> (f v).under (.key name)) <*> membersOf f ms

/-- The members of a mapping. -/
def mapping (f : Value → Reading α) : Value → Reading (Members α)
  | .dict ms => membersOf f ms
  | _ => misfit .notMapping

/-- Reads a value that may be `null`. -/
def optional (f : Value → Reading α) : Value → Reading (Option α)
  | .null => .read none
  | v => some <$> f v

/-- Any value as it is. -/
def any (v : Value) : Reading Value := .read v

/-! ### Members of a record -/

/-- The member found under the first of two spellings, or else under the second. -/
def findMember (ms : Members Value) (camel name : String) : Option (String × Value) :=
  match ms.get? camel with
  | some v => some (camel, v)
  | none => (ms.get? name).map (Prod.mk name)

/-- Reads a required member; it is reported under the spelling that was found. -/
def requireMember (ms : Members Value) (camel name : String) (f : Value → Reading α) : Reading α :=
  match findMember ms camel name with
  | some (spelling, v) => (f v).under (.key spelling)
  | none => (misfit .absent).under (.key camel)

/-- Reads a member that may be absent. -/
def memberOr (ms : Members Value) (camel name : String) (default : α) (f : Value → Reading α) :
    Reading α :=
  match findMember ms camel name with
  | some (spelling, v) => (f v).under (.key spelling)
  | none => .read default

/-- The members of a record: an object, or a record of that kind which was read before. -/
def recordMembers? (kind : RecordKind) : Value → Option (Members Value)
  | .dict ms => some ms
  | .record k ms => if k = kind then some ms else none
  | _ => none

/-- Reads a record by its members. -/
def ofRecord (kind : RecordKind) (f : Members Value → Reading α) (v : Value) : Reading α :=
  match recordMembers? kind v with
  | some ms => f ms
  | none => misfit .notRecord

end Questionnaire.Reading
