import Questionnaire.Store.Basic

/-!
# Places of fields

A field is addressed by its id alone, wherever it stands.  `Schema.locate` finds its `Place`, at the
top of the form or in a section, and `Store.putAt` puts another field there, which makes one complete
new form that the store accepts or refuses as a whole.
-/

namespace Questionnaire

/-- A field and the section that it stands in, if it stands in one. -/
structure Place where
  owner? : Option Field
  field : Field
  deriving Inhabited

namespace Schema

/-- The place of the field with an id. -/
def locate (s : Schema) (id : Value) : Outcome Place :=
  match s.field? id with
  | some f => .ok ⟨none, f⟩
  | none =>
    match s.parent? id with
    | some p =>
      match p.child? id with
      | some f => .ok ⟨some p, f⟩
      | none => refuse (.noField id)
    | none => refuse (.noField id)

/-- The top-level field with an id, which may have conditions. -/
def conditioned (s : Schema) (id : Value) : Outcome Field :=
  match s.field? id with
  | some f => .ok f
  | none => if (s.parent? id).isSome then refuse (.conditionBelowTop id) else refuse (.noField id)

/-- The repeatable section with an id. -/
def sectionOf (s : Schema) (id : Value) : Outcome Field :=
  match s.field? id with
  | none => refuse (.noField id)
  | some f => if f.type = .repeatable then .ok f else refuse (.notSection id)

end Schema

namespace Field

/-- Puts a sub-field in the place of the one with an id. -/
def putChild (f : Field) (id : String) (g : Field) : Field :=
  { f with subFields := some (f.children.map fun s => if s.id = id then g else s) }

/-- The sub-field with an id, which a section must have. -/
def requireChild (f : Field) (id : Value) : Outcome Field :=
  match f.child? id with
  | some s => .ok s
  | none => refuse (.noChild id)

/-- The option with an id, which a field must have. -/
def requireChoice (f : Field) (id option : Value) : Outcome Choice :=
  match f.choice? option with
  | some o => .ok o
  | none => refuse (.noChoice option id)

end Field

namespace Store

/-- Puts a field in the place of another. -/
def putAt (s : Store) (place : Place) (g : Field) : Outcome Store :=
  match place.owner? with
  | none => s.commit (s.schema.putField place.field.id g)
  | some p => s.commit (s.schema.putField p.id (p.putChild place.field.id g))

end Store

end Questionnaire
