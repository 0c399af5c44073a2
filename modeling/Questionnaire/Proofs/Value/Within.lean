import Questionnaire.Value.Basic

/-!
# Values in values

A value has others in it, as items or members of it or of what is in it (`Value.Within`).  It is plain
throughout if all of them have a form that JSON has, whatever the names and numbers in it
(`Value.PlainThroughout`).
-/

namespace Questionnaire.Value

/-- A value stands in another one, at any depth. -/
inductive Within (v : Value) : Value → Prop
  | self : Within v v
  | list {vs : List Value} {w : Value} (hw : w ∈ vs) (h : Within v w) : Within v (.list vs)
  | tuple {vs : List Value} {w : Value} (hw : w ∈ vs) (h : Within v w) : Within v (.tuple vs)
  | set {vs : List Value} {w : Value} (hw : w ∈ vs) (h : Within v w) : Within v (.set vs)
  | dict {ms : Members Value} {m : String × Value} (hm : m ∈ ms) (h : Within v m.2) :
      Within v (.dict ms)
  | file {ms : Members Value} {m : String × Value} (hm : m ∈ ms) (h : Within v m.2) :
      Within v (.file ms)
  | record {kind : RecordKind} {ms : Members Value} {m : String × Value} (hm : m ∈ ms)
      (h : Within v m.2) : Within v (.record kind ms)

/-- The value is a leaf of JSON data, an array or an object. -/
def IsPlain : Value → Prop
  | .null | .bool _ | .int _ | .float _ | .str _ | .list _ | .dict _ => True
  | .missing | .tuple _ | .set _ | .bytes _ | .date _ | .file _ | .record _ _ => False

/-- The value is plain, and so is everything in it. -/
def PlainThroughout (v : Value) : Prop := ∀ w : Value, w.Within v → w.IsPlain

variable {vs : List Value} {ms : Members Value}

theorem plainThroughout_list_iff :
    (Value.list vs).PlainThroughout ↔ ∀ v ∈ vs, v.PlainThroughout := by
  constructor
  · exact fun h v hv w hw => h w (.list hv hw)
  · rintro h _ (_ | ⟨hv, hw⟩)
    · trivial
    · exact h _ hv _ hw

theorem plainThroughout_dict_iff :
    (Value.dict ms).PlainThroughout ↔ ∀ m ∈ ms, m.2.PlainThroughout := by
  constructor
  · exact fun h m hm w hw => h w (.dict hm hw)
  · rintro h _ (_ | _ | _ | _ | ⟨hm, hw⟩)
    · trivial
    · exact h _ hm _ hw

end Questionnaire.Value
