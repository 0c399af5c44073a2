import Questionnaire.Fault

/-!
# Frozen data

`freeze` turns JSON data into a form in which the kind of every value is part of it and the members
of an object are sorted by name.  Tuples, sets, bytes and anything else that JSON does not have
cannot be frozen.

`Frozen.key` also forgets the sign of zero.  Two answers have the same key when they are equal as
data with equal kinds everywhere; what is not a number has the key of nothing but itself.

A `Datum` may have objects in it with names that are no texts, and anything else.  Neither can be
frozen.

Data of any depth is frozen.  There is no limit to the recursion, which goes as deep as the data.
-/

namespace Questionnaire

/-- Data in which kinds are told apart and members are sorted. -/
inductive Frozen where
  | null
  | bool (b : Bool)
  | int (n : Int)
  | float (x : Binary64)
  | str (s : String)
  | list (items : List Frozen)
  | dict (members : List (String × Frozen))
  deriving Inhabited

namespace Frozen

mutual

/-- Decides equality. -/
def decEq : (a b : Frozen) → Decidable (a = b)
  | .null, .null => isTrue rfl
  | .bool a, .bool b => if h : a = b then isTrue (h ▸ rfl) else isFalse (by simpa using h)
  | .int a, .int b => if h : a = b then isTrue (h ▸ rfl) else isFalse (by simpa using h)
  | .float a, .float b => if h : a = b then isTrue (h ▸ rfl) else isFalse (by simpa using h)
  | .str a, .str b => if h : a = b then isTrue (h ▸ rfl) else isFalse (by simpa using h)
  | .list as, .list bs =>
    match decEqList as bs with
    | isTrue h => isTrue (h ▸ rfl)
    | isFalse h => isFalse (by simpa using h)
  | .dict ms, .dict ns =>
    match decEqMembers ms ns with
    | isTrue h => isTrue (h ▸ rfl)
    | isFalse h => isFalse (by simpa using h)
  | .null, .bool _ | .null, .int _ | .null, .float _ | .null, .str _ | .null, .list _
  | .null, .dict _ | .bool _, .null | .bool _, .int _ | .bool _, .float _ | .bool _, .str _
  | .bool _, .list _ | .bool _, .dict _ | .int _, .null | .int _, .bool _ | .int _, .float _
  | .int _, .str _ | .int _, .list _ | .int _, .dict _ | .float _, .null | .float _, .bool _
  | .float _, .int _ | .float _, .str _ | .float _, .list _ | .float _, .dict _ | .str _, .null
  | .str _, .bool _ | .str _, .int _ | .str _, .float _ | .str _, .list _ | .str _, .dict _
  | .list _, .null | .list _, .bool _ | .list _, .int _ | .list _, .float _ | .list _, .str _
  | .list _, .dict _ | .dict _, .null | .dict _, .bool _ | .dict _, .int _ | .dict _, .float _
  | .dict _, .str _ | .dict _, .list _ => isFalse (by simp)

/-- Decides equality of lists. -/
def decEqList : (as bs : List Frozen) → Decidable (as = bs)
  | [], [] => isTrue rfl
  | [], _ :: _ => isFalse (by simp)
  | _ :: _, [] => isFalse (by simp)
  | a :: as, b :: bs =>
    match decEq a b, decEqList as bs with
    | isTrue h, isTrue h' => isTrue (h ▸ h' ▸ rfl)
    | isFalse h, _ => isFalse (by simp [h])
    | _, isFalse h => isFalse (by simp [h])

/-- Decides equality of members. -/
def decEqMembers : (ms ns : List (String × Frozen)) → Decidable (ms = ns)
  | [], [] => isTrue rfl
  | [], _ :: _ => isFalse (by simp)
  | _ :: _, [] => isFalse (by simp)
  | (m, a) :: ms, (n, b) :: ns =>
    if h : m = n then
      match decEq a b, decEqMembers ms ns with
      | isTrue h', isTrue h'' => isTrue (h ▸ h' ▸ h'' ▸ rfl)
      | isFalse h', _ => isFalse (by simp [h'])
      | _, isFalse h' => isFalse (by simp [h'])
    else isFalse (by simp [h])

end

instance : DecidableEq Frozen := decEq

mutual

/-- The same data without the sign of zero. -/
def key : Frozen → Frozen
  | .float (.finite neg m) => .float (if m.mant = 0 then .zero else .finite neg m)
  | .list fs => .list (keyList fs)
  | .dict ms => .dict (keyMembers ms)
  | f => f

/-- The keys of items. -/
def keyList : List Frozen → List Frozen
  | [] => []
  | f :: fs => f.key :: keyList fs

/-- The keys of members. -/
def keyMembers : List (String × Frozen) → List (String × Frozen)
  | [] => []
  | (name, f) :: ms => (name, f.key) :: keyMembers ms

end

/-- The name of the kind of frozen data. -/
def kind : Frozen → String
  | .null => "NoneType"
  | .bool _ => "bool"
  | .int _ => "int"
  | .float _ => "float"
  | .str _ => "str"
  | .list _ => "list"
  | .dict _ => "dict"

mutual

/-- Frozen data as pairs of a kind and a value. -/
def toValue : Frozen → Value
  | .null => .tuple [.str "NoneType", .null]
  | .bool b => .tuple [.str "bool", .bool b]
  | .int n => .tuple [.str "int", .int n]
  | .float x => .tuple [.str "float", .float x]
  | .str s => .tuple [.str "str", .str s]
  | .list fs => .tuple [.str "list", .tuple (toValues fs)]
  | .dict ms => .tuple [.str "dict", .tuple (toPairs ms)]

/-- Frozen items. -/
def toValues : List Frozen → List Value
  | [] => []
  | f :: fs => f.toValue :: toValues fs

/-- Frozen members as pairs. -/
def toPairs : List (String × Frozen) → List Value
  | [] => []
  | (name, f) :: ms => .tuple [.str name, f.toValue] :: toPairs ms

end

/-- Members sorted by name. -/
def sortMembers (ms : List (String × Frozen)) : List (String × Frozen) :=
  ms.mergeSort fun a b => decide (a.1 ≤ b.1)

end Frozen

namespace Value

mutual

/-- JSON data with its kinds told apart and its members sorted. -/
def freeze : Value → Outcome Frozen
  | .null => .ok .null
  | .bool b => .ok (.bool b)
  | .int n => .ok (.int n)
  | .float x => .ok (.float x)
  | .str s => .ok (.str s)
  | .list vs => do pure (.list (← freezeItems vs))
  | .dict ms => do pure (.dict (Frozen.sortMembers (← freezeMembers ms)))
  | .missing => misuse (.notFreezable .missing)
  | .tuple vs => misuse (.notFreezable (.tuple vs))
  | .set vs => misuse (.notFreezable (.set vs))
  | .bytes data => misuse (.notFreezable (.bytes data))
  | .date s => misuse (.notFreezable (.date s))
  | .file ms => misuse (.notFreezable (.file ms))
  | .record k ms => misuse (.notFreezable (.record k ms))

/-- Frozen items. -/
def freezeItems : List Value → Outcome (List Frozen)
  | [] => .ok []
  | v :: vs => do
    let f ← v.freeze
    pure (f :: (← freezeItems vs))

/-- Frozen members. -/
def freezeMembers : List (String × Value) → Outcome (List (String × Frozen))
  | [] => .ok []
  | (name, v) :: ms => do
    let f ← v.freeze
    pure ((name, f) :: (← freezeMembers ms))

end
end Value

/-! ### Names that are no texts -/

/-- Data as callers may hold it: a value, or a list or an object of such data, where the names in an
object need not be texts.  Of anything else only the name of its kind is known. -/
inductive Datum where
  | value (v : Value)
  | list (items : List Datum)
  | object (entries : List (Value × Datum))
  | other (kind : String)

namespace Datum

variable {α : Type}

/-- Whether all names are texts. -/
def hasTextNames (entries : List (Value × α)) : Bool := entries.all (·.1.text?.isSome)

/-- The entries whose names are texts, as members. -/
def textNamed (entries : List (Value × α)) : Members α :=
  entries.filterMap fun e => e.1.text?.map fun name => (name, e.2)

/-- An object made of pairs, of which a later one of the same name wins. -/
def ofPairs (pairs : List (Value × Value)) : Datum :=
  if hasTextNames pairs then .value (.dict (Members.ofPairs (textNamed pairs)))
  else .object (pairs.map fun p => (p.1, .value p.2))

theorem hasTextNames_texts (ms : Members α) :
    hasTextNames (ms.map fun m => (Value.str m.1, m.2)) = true := by
  simp [hasTextNames, Value.text?]

theorem textNamed_texts (ms : Members α) :
    textNamed (ms.map fun m => (Value.str m.1, m.2)) = ms := by
  rw [textNamed, List.filterMap_map]
  exact List.filterMap_some

theorem ofPairs_texts (ms : Members Value) :
    ofPairs (ms.map fun m => (Value.str m.1, m.2)) = .value (.dict (Members.ofPairs ms)) := by
  rw [ofPairs, if_pos (hasTextNames_texts ms), textNamed_texts]

mutual

/-- Data with its kinds told apart and its members sorted. -/
def freeze : Datum → Outcome Frozen
  | .value v => v.freeze
  | .list ds => do pure (.list (← freezeItems ds))
  | .object es =>
    if hasTextNames es then do
      pure (.dict (Frozen.sortMembers (textNamed (← freezeEntries es))))
    else misuse .notTextNames
  | .other kind => misuse (.notFreezableKind kind)

/-- Frozen items. -/
def freezeItems : List Datum → Outcome (List Frozen)
  | [] => .ok []
  | d :: ds => do
    let f ← d.freeze
    pure (f :: (← freezeItems ds))

/-- Frozen entries. -/
def freezeEntries : List (Value × Datum) → Outcome (List (Value × Frozen))
  | [] => .ok []
  | (name, d) :: es => do
    let f ← d.freeze
    pure ((name, f) :: (← freezeEntries es))

end
end Datum
end Questionnaire
