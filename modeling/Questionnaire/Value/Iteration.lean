import Questionnaire.Fault

/-!
# Values as sequences and as objects

`iterate` gives the items that a value consists of: the items of a container, the characters of a
text, the names of the members of an object.  `toMembers` makes an object of a value: an object is
one already, and any other value has to consist of pairs of a name and a value.
-/

namespace Questionnaire.Value

/-- The items that a value consists of, if it consists of items. -/
def iterate? : Value → Option (List Value)
  | .list vs | .tuple vs | .set vs => some vs
  | .str s => some (s.toList.map fun c => .str (String.singleton c))
  | .dict ms => some (ms.map fun m => .str m.1)
  | .bytes data => some (data.map fun b => .int b.toNat)
  | .record _ ms => some (ms.map fun m => .tuple [.str m.1, m.2])
  | _ => none

/-- The items that a value consists of. -/
def iterate (v : Value) : Outcome (List Value) :=
  match v.iterate? with
  | some vs => .ok vs
  | none => misuse (.notIterable v)

/-- The number of items of a value. -/
def length (v : Value) : Outcome Nat :=
  match v with
  | .record .. => misuse (.noLength v)
  | v =>
    match v.iterate? with
    | some vs => .ok vs.length
    | none => misuse (.noLength v)

mutual

/-- The part of a value for which it can be no name in an object and no item of a set. -/
def unhashable? : Value → Option Value
  | .list vs => some (.list vs)
  | .set vs => some (.set vs)
  | .dict ms => some (.dict ms)
  | .file ms => some (.file ms)
  | .tuple vs => unhashableItem? vs
  | _ => none

/-- The first such part among items. -/
def unhashableItem? : List Value → Option Value
  | [] => none
  | v :: vs => v.unhashable?.or (unhashableItem? vs)

end

/-- Requires that a value can be a name in an object. -/
def requireHashable (v : Value) : Outcome Unit :=
  match v.unhashable? with
  | some part => misuse (.notHashable part)
  | none => .ok ()

/-- The pairs that values at given positions are. -/
def pairsFrom : Nat → List Value → Outcome (List (Value × Value))
  | _, [] => .ok []
  | n, v :: vs =>
    match v.iterate? with
    | none => misuse (.notPair n)
    | some [a, b] => do
      a.requireHashable
      pure ((a, b) :: (← pairsFrom (n + 1) vs))
    | some items => misuse (.pairLength n items.length)

/-- A value as an object, with names of any kind. -/
def toPairs : Value → Outcome (List (Value × Value))
  | .dict ms | .record _ ms => .ok (ms.map fun m => (.str m.1, m.2))
  | v => do pairsFrom 0 (← v.iterate)

/-- A value as an object. -/
def toMembers (v : Value) : Outcome (Members Value) :=
  match v with
  | .dict ms => .ok ms
  | v => do
    let pairs ← v.toPairs
    pure (Members.ofPairs (pairs.map fun p => (p.1.display, p.2)))

/-- The members of a value that is an object, for an operation that asks for its items. -/
def membersFor (operation : String) : Value → Outcome (Members Value)
  | .dict ms => .ok ms
  | v => misuse (.noMember v operation)

end Questionnaire.Value
