import Questionnaire.Value.Basic

/-!
# Equality of values

`equal` compares two values as data: numbers by exact value, whatever their kind, truth values as
zero and one, objects without regard to the order of their members, and sets without any order.  A
list is not a tuple, and what is not a number equals nothing.

Inside a container an item is also equal to the very same item (`same`), which matters for what is
not a number only.
-/

namespace Questionnaire.Value

/-- The place of a number or a truth value on the number line, if the value is such. -/
def scalarPoint? : Value → Option (Option Point)
  | .bool b => some (some (.ofInt (if b then 1 else 0)))
  | .int n => some (some (.ofInt n))
  | .float x => some x.point?
  | _ => none

/-- Equality of values without items. -/
def equalScalars (a b : Value) : Bool :=
  match a, b with
  | .missing, .missing => true
  | .null, .null => true
  | .str s, .str t => s = t
  | .bytes s, .bytes t => s = t
  | .date s, .date t => s = t
  | _, _ =>
    match a.scalarPoint?, b.scalarPoint? with
    | some p, some q => Point.same p q
    | _, _ => false

mutual

/-- Equality as data. -/
def equal : Value → Value → Bool
  | .list xs, .list ys => equalLists xs ys
  | .tuple xs, .tuple ys => equalLists xs ys
  | .set xs, .set ys => xs.length = ys.length && allIn xs ys
  | .dict ms, .dict ns => ms.length = ns.length && allMembersIn ms ns
  | a, b => equalScalars a b

/-- Equality of two items of containers. -/
def same : Value → Value → Bool
  | .float (.nan m), .float (.nan n) => m = n
  | .list xs, .list ys => equalLists xs ys
  | .tuple xs, .tuple ys => equalLists xs ys
  | .set xs, .set ys => xs.length = ys.length && allIn xs ys
  | .dict ms, .dict ns => ms.length = ns.length && allMembersIn ms ns
  | a, b => equalScalars a b

/-- Item by item. -/
def equalLists : List Value → List Value → Bool
  | [], [] => true
  | x :: xs, y :: ys => same x y && equalLists xs ys
  | _, _ => false

/-- Every item of the first list occurs in the second. -/
def allIn : List Value → List Value → Bool
  | [], _ => true
  | x :: xs, ys => ys.any (fun y => same x y) && allIn xs ys

/-- Every member of the first object occurs in the second. -/
def allMembersIn : List (String × Value) → List (String × Value) → Bool
  | [], _ => true
  | (name, x) :: ms, ns =>
    (match Members.get? ns name with
      | some y => same x y
      | none => false) && allMembersIn ms ns

end

/-- A set of the items, each taken once. -/
def setOf (items : List Value) : Value :=
  .set (items.foldl (fun kept x => if kept.any (same · x) then kept else kept ++ [x]) [])

end Questionnaire.Value
