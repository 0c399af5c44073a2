import Questionnaire.Session.Basic

/-!
# Entries of repeatable sections

The answer of a repeatable section is a list of entries, and each entry an object of answers to the
sub-fields.  Adding and removing entries keeps within the bounds of the section; an operation that
would not do so changes nothing and says so.  Entries are addressed by position, a negative one
counting from the end.
-/

namespace Questionnaire.Session

/-! ### Looking -/

/-- The repeatable section with an id. -/
def requireSection (s : Session) (id : Value) : Outcome Field := do
  let f ← s.requireField id
  if f.type = .repeatable then pure f else refuse (.notSection id)

/-- The answer of a section; no answer counts as no entries. -/
def sectionAnswer (s : Session) (id : String) : Value :=
  let v := s.answer id
  if v.isTruthy then v else .list []

/-- The entries of a section. -/
def entries (s : Session) (id : Value) : Outcome (List Value) := do
  (s.sectionAnswer (← s.requireSection id).id).iterate

/-- Whether the count of the entries of a section compares with one of its bounds; an absent bound
and zero are no bounds. -/
def boundAllows (s : Session) (f : Field) (bound : Option Number) (allows : Number → Number → Bool) :
    Outcome Bool :=
  match bound.filter (!·.isZero) with
  | none => .ok true
  | some limit => do
    let n ← (s.sectionAnswer f.id).length
    pure (allows (.ofNat n) limit)

/-- Whether a section may take one more entry. -/
def canAddEntry (s : Session) (id : Value) : Outcome Bool := do
  let f ← s.requireSection id
  s.boundAllows f (f.constraints.bind (·.max)) fun n limit => n.lt limit

/-- Whether a section may lose an entry. -/
def canRemoveEntry (s : Session) (id : Value) : Outcome Bool := do
  let f ← s.requireSection id
  s.boundAllows f (f.constraints.bind (·.min)) fun n limit => limit.lt n

/-! ### Changing -/

/-- Adds an entry without answers to a section, unless it has as many as it may have. -/
def addEntry (id : Value) : InSession Bool := do
  let s ← get
  let f ← s.requireSection id
  if ← s.canAddEntry id then
    let entry := Value.dict (Members.ofPairs (f.children.map fun c => (c.id, .null)))
    put f.id (.list ((← s.entries id) ++ [entry]))
    pure true
  else pure false

/-- The position in a list that an index means; a negative one counts from its end. -/
def resolveIndex (index : Value) (count : Nat) (assignment : Bool) : Outcome Nat :=
  let resolve := fun (n : Int) =>
    let k := if n < 0 then n + count else n
    (if 0 ≤ k ∧ k < count then .ok k.toNat else misuse (.positionOutOfRange assignment) : Outcome Nat)
  match index with
  | .int n =>
    if -0x8000000000000000 ≤ n ∧ n < 0x8000000000000000 then resolve n else misuse .positionTooLarge
  | .bool b => resolve (if b then 1 else 0)
  | v => misuse (.noPosition v)

/-- Removes an entry of a section, unless it has as few as it may have. -/
def removeEntry (id index : Value) : InSession Bool := do
  let s ← get
  if ← s.canRemoveEntry id then
    let f ← s.requireSection id
    let entries ← s.entries id
    let n ← resolveIndex index entries.length true
    put f.id (.list (entries.eraseIdx n))
    pure true
  else pure false

/-- Answers a sub-field in an entry of a section. -/
def setEntryAnswer (id index sub v : Value) : InSession Unit := do
  let s ← get
  let f ← s.requireSection id
  match f.child? sub with
  | none => throw (.refusal (.noChild sub))
  | some c =>
    let entries ← s.entries id
    let n ← resolveIndex index entries.length false
    let entry ← ((entries[n]?).getD .null).toMembers
    put f.id (.list (entries.set n (.dict (entry.put c.id v))))

end Questionnaire.Session
