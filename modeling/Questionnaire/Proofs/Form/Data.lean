import Questionnaire.Form.Spelling
import Questionnaire.Proofs.Form.Portable
import Questionnaire.Proofs.Outcome

/-!
# Forms made of JSON data

A form that is read from JSON data has an id for every field, and JSON data in all of its conditions
(`Field.ofJson_of_read`).  The other way round a form like this is shown as JSON data
(`Field.isJson_toValue`), and so it remains one when JSON data is put over its members.
-/

namespace Questionnaire

open Reading

/-- A field with an id, and with JSON data in its conditions. -/
structure Field.OfJson (N : Number → Prop) (f : Field) : Prop where
  id_ne : f.id ≠ ""
  conditions : ∀ c ∈ f.conditionList, c.value.IsJson N

/-! ### Forms as data -/

section View

variable {view : View} {N : Number → Prop}

/-- Members that are present come from JSON if each of them does. -/
theorem isJson_present {parts : Members (Option Value)} (hn : parts.names.Nodup)
    (h : ∀ p ∈ parts, ∀ v, p.2 = some v → v.IsJson N) :
    (Value.dict (Members.present parts)).IsJson N := by
  refine .dict (hn.sublist (Members.names_present_sublist parts)) fun m hm => ?_
  exact h _ (Members.mem_of_mem_present hm) _ rfl

/-- A part that is there. -/
theorem isJson_some {v : Value} (h : v.IsJson N) : ∀ w, some v = some w → w.IsJson N := by
  rintro w ⟨⟩
  exact h

/-- A part that may be absent. -/
theorem isJson_map {α : Type} {o : Option α} {g : α → Value} (h : ∀ a, o = some a → (g a).IsJson N) :
    ∀ w, o.map g = some w → w.IsJson N := by
  intro w hw
  obtain ⟨a, ha, rfl⟩ := Option.map_eq_some_iff.mp hw
  exact h a ha

/-- A list of parts that may be absent. -/
theorem isJson_map_list {α : Type} {o : Option (List α)} {g : α → Value}
    (h : ∀ a ∈ o.getD [], (g a).IsJson N) :
    ∀ w, o.map (fun as => Value.list (as.map g)) = some w → w.IsJson N := by
  refine isJson_map fun as has => .list fun v hv => ?_
  obtain ⟨a, ha, rfl⟩ := List.mem_map.mp hv
  exact h a (by rw [has]; exact ha)

/-- The numbers in constraints. -/
def Constraints.numbers (c : Constraints) : List Number :=
  c.min.toList ++ c.max.toList ++ (c.minLength.map Number.int).toList ++
    (c.maxLength.map Number.int).toList ++ c.maxFileSize.toList ++ (c.maxFiles.map Number.int).toList

/-- The numbers in the constraints of a field. -/
def Field.numbers (f : Field) : List Number := (f.constraints.map (·.numbers)).getD []

variable (hview : view ≠ .attributes)
include hview

/-- A choice comes from JSON in every view: it holds texts and a flag. -/
theorem Choice.isJson_toValue (o : Choice) : (o.toValue view).IsJson N := by
  unfold toValue
  rw [o.members_eq hview]
  refine isJson_present o.nodup_names_parts ?_
  unfold parts
  simp only [List.forall_mem_cons]
  exact ⟨isJson_some (.str _), isJson_some (.str _), isJson_some (.str _),
    isJson_map fun b _ => .bool b, List.forall_mem_nil _⟩

/-- Constraints come from JSON if their numbers do. -/
theorem Constraints.isJson_toValue {c : Constraints} (h : ∀ n ∈ c.numbers, N n) :
    (c.toValue view).IsJson N := by
  unfold numbers at h
  simp only [List.forall_mem_append] at h
  obtain ⟨⟨⟨⟨⟨hmin, hmax⟩, hminLength⟩, hmaxLength⟩, hfileSize⟩, hfiles⟩ := h
  have hnumber {o : Option Number} (ho : ∀ n ∈ o.toList, N n) (n : Number) (hn : o = some n) :
      n.toValue.IsJson N := .number (ho n (by rw [hn]; exact List.mem_singleton_self n))
  have hint {o : Option Int} (ho : ∀ n ∈ (o.map Number.int).toList, N n) (n : Int) (hn : o = some n) :
      (Value.int n).IsJson N := .int (ho (.int n) (by rw [hn]; exact List.mem_singleton_self _))
  unfold toValue
  rw [c.members_eq hview]
  refine isJson_present c.nodup_names_parts ?_
  unfold parts
  simp only [List.forall_mem_cons]
  exact ⟨isJson_map (hnumber hmin), isJson_map (hnumber hmax), isJson_map (hint hminLength),
    isJson_map (hint hmaxLength), isJson_map fun s _ => .str s, isJson_map fun ss _ => .texts ss,
    isJson_map (hnumber hfileSize), isJson_map (hint hfiles), isJson_map fun s _ => .str s,
    List.forall_mem_nil _⟩

/-- A condition comes from JSON if its value does. -/
theorem Condition.isJson_toValue {c : Condition} (h : c.value.IsJson N) :
    (c.toValue view).IsJson N := by
  -- Only the value is not a text; it is shown as it is, as its portable form, or not at all.
  have hnull : (Value.dict [("sourceFieldId", .str c.source),
      ("operator", .str c.operator.name)]).IsJson N := by
    refine .dict (by simp [Members.names]) ?_
    simp only [List.forall_mem_cons]
    exact ⟨.str _, .str _, List.forall_mem_nil _⟩
  have hdata (v : Value) (hv : v.IsJson N) : (Value.dict [("sourceFieldId", .str c.source),
      ("operator", .str c.operator.name), ("value", v)]).IsJson N := hnull.put "value" hv
  have hportable : c.value.portable.IsJson N := h.portable.mono fun _ hn => hn.1
  obtain ⟨source, operator, value⟩ := c
  cases view with
  | attributes => exact absurd rfl hview
  | document =>
    cases value with
    | null => exact hnull
    | _ => exact hdata _ h
  | portable =>
    cases value with
    | null => exact hnull
    | _ => exact hdata _ hportable

/-- A field comes from JSON if the conditions and the numbers in its tree do. -/
theorem Field.isJson_toValue (f : Field)
    (h : ∀ g ∈ f.tree, g.OfJson N ∧ ∀ n ∈ g.numbers, N n) : (f.toValue view).IsJson N := by
  induction f using childrenInduction with
  | step f ih =>
    obtain ⟨⟨hf, hnumbers⟩, hchildren⟩ := (forall_tree_iff f).mp h
    have hsubFields : ∀ k ∈ f.children, (k.toValue view).IsJson N :=
      fun k hk => ih k hk (hchildren k hk)
    have hconstraints (c : Constraints) (hc : f.constraints = some c) : (c.toValue view).IsJson N := by
      refine Constraints.isJson_toValue hview fun n hn => hnumbers n ?_
      unfold numbers
      rw [hc]
      exact hn
    unfold toValue
    rw [f.members_eq hview]
    refine isJson_present (f.nodup_names_parts view) ?_
    unfold parts
    simp only [List.forall_mem_cons]
    exact ⟨isJson_some (.str _), isJson_some (.str _), isJson_some (.str _), isJson_some (.bool _),
      isJson_map fun s _ => .str s, isJson_map fun s _ => .str s,
      isJson_map_list fun o _ => o.isJson_toValue hview, isJson_map hconstraints,
      isJson_map_list fun c hc => Condition.isJson_toValue hview (hf.conditions c hc),
      isJson_map_list hsubFields, List.forall_mem_nil _⟩

end View

/-! ### Reading data -/

namespace Reading

variable {α : Type}

/-- Placing the complaints elsewhere does not change what is read. -/
theorem under_eq_read_iff {step : Step} {x : Reading α} {a : α} :
    x.under step = .read a ↔ x = .read a := by
  cases x with
  | read b => rfl
  | refused misplaced => exact ⟨nofun, nofun⟩

/-- What is read from items one after the other is read from one of them each. -/
theorem exists_of_itemsFrom {f : Value → Reading α} {n : Nat} {vs : List Value} {as : List α}
    (h : itemsFrom f n vs = .read as) : ∀ a ∈ as, ∃ v ∈ vs, f v = .read a := by
  induction vs generalizing n as with
  | nil =>
    cases h
    exact nofun
  | cons v vs ih =>
    rw [Reading.itemsFrom] at h
    simp only [seq_eq_read_iff, map_eq_read_iff, under_eq_read_iff] at h
    obtain ⟨_, as, ⟨a, ha, rfl⟩, has, rfl⟩ := h
    refine List.forall_mem_cons.mpr ⟨⟨v, List.mem_cons_self, ha⟩, fun b hb => ?_⟩
    obtain ⟨w, hw, hread⟩ := ih has b hb
    exact ⟨w, List.mem_cons_of_mem _ hw, hread⟩

/-- Whatever the reader makes of JSON data has a property. -/
def Yields (N : Number → Prop) (f : Value → Reading α) (P : α → Prop) : Prop :=
  ∀ v a, v.IsJson N → f v = .read a → P a

variable {N : Number → Prop} {f : Value → Reading α} {P : α → Prop} {ms : Members Value}
  {camel name : String}

/-- A member of a mapping from JSON comes from JSON, whatever its spelling. -/
theorem isJson_of_findMember (hms : (Value.dict ms).IsJson N) {spelling : String} {v : Value}
    (h : findMember ms camel name = some (spelling, v)) : v.IsJson N := by
  unfold findMember at h
  split at h
  · obtain ⟨-, rfl⟩ := Prod.mk.inj (Option.some.inj h)
    exact hms.get? ‹_›
  · obtain ⟨w, hw, hv⟩ := Option.map_eq_some_iff.mp h
    obtain ⟨-, rfl⟩ := Prod.mk.inj hv
    exact hms.get? hw

namespace Yields

theorem memberOr (hf : Yields N f P) (hms : (Value.dict ms).IsJson N) {default a : α}
    (hdefault : P default) (h : memberOr ms camel name default f = .read a) : P a := by
  unfold Reading.memberOr at h
  split at h
  · exact hf _ _ (isJson_of_findMember hms ‹_›) (under_eq_read_iff.mp h)
  · cases h
    exact hdefault

theorem optional (hf : Yields N f P) : Yields N (optional f) fun o => ∀ a, o = some a → P a := by
  rintro v o hv h a rfl
  unfold Reading.optional at h
  split at h
  · cases h
  · obtain ⟨b, hb, hab⟩ := map_eq_read_iff.mp h
    cases hab
    exact hf _ _ hv hb

theorem itemsFrom (hf : Yields N f P) {n : Nat} {vs : List Value} {as : List α}
    (hvs : ∀ v ∈ vs, v.IsJson N) (h : itemsFrom f n vs = .read as) : ∀ a ∈ as, P a := by
  intro a ha
  obtain ⟨v, hv, hread⟩ := exists_of_itemsFrom h a ha
  exact hf v a (hvs v hv) hread

theorem sequence (hf : Yields N f P) (m : Misfit) :
    Yields N (sequence m f) fun as => ∀ a ∈ as, P a := by
  intro v as hv h
  cases hv with
  | list hvs => exact hf.itemsFrom hvs h
  | _ => cases h

end Yields
end Reading

variable {N : Number → Prop}

/-- The items of JSON data are JSON data. -/
theorem Value.IsJson.iterate {v : Value} (hv : v.IsJson N) {vs : List Value}
    (h : v.iterate = .ok vs) : ∀ w ∈ vs, w.IsJson N := by
  cases hv with
  | list hvs =>
    cases h
    exact hvs
  | str s =>
    cases h
    intro w hw
    obtain ⟨c, -, rfl⟩ := List.mem_map.mp hw
    exact .str _
  | dict nodup hms =>
    cases h
    intro w hw
    obtain ⟨m, -, rfl⟩ := List.mem_map.mp hw
    exact .str _
  | _ => cases h

/-- The value of a condition that is read comes from JSON. -/
theorem Condition.isJson_of_ofMembers {ms : Members Value} (hms : (Value.dict ms).IsJson N)
    {c : Condition} (h : Condition.ofMembers ms = .read c) : c.value.IsJson N := by
  unfold Condition.ofMembers at h
  simp only [seq_eq_read_iff, map_eq_read_iff] at h
  obtain ⟨_, v, ⟨_, _, ⟨_, _, rfl⟩, _, rfl⟩, hv, rfl⟩ := h
  have hany : Yields N any (Value.IsJson N) := by
    rintro v w hjson hw
    cases hw
    exact hjson
  exact hany.memberOr hms .null hv

theorem Condition.yields_read : Yields N Condition.read fun c => c.value.IsJson N := by
  intro v c hv h
  cases hv with
  | dict nodup hms => exact isJson_of_ofMembers (.dict nodup hms) h
  | _ => cases h

namespace Field

/-- No identifier that is read is empty. -/
theorem id_ne_of_readId {v : Value} {id : String} (h : readId v = .read id) : id ≠ "" := by
  unfold readId at h
  split at h
  · cases h
  · rintro rfl
    exact absurd h ‹_›

theorem id_ne_of_requireMember {ms : Members Value} {id : String}
    (h : requireMember ms "id" "id" readId = .read id) : id ≠ "" := by
  unfold requireMember at h
  split at h
  · exact id_ne_of_readId (under_eq_read_iff.mp h)
  · cases h

/-- A field is read as it is iff each of its parts is. -/
theorem ofMembers_eq_read_iff {ms : Members Value} {subFields : Reading (Option (List Field))}
    {f : Field} : ofMembers ms subFields = .read f ↔
      requireMember ms "id" "id" readId = .read f.id ∧
      requireMember ms "type" "type" (named FieldType.ofName? .notMemberOfEnumeration) =
        .read f.type ∧
      requireMember ms "label" "label" text = .read f.label ∧
      memberOr ms "required" "required" false truth = .read f.required ∧
      memberOr ms "placeholder" "placeholder" none (optional text) = .read f.placeholder ∧
      memberOr ms "helpText" "help_text" none (optional text) = .read f.helpText ∧
      memberOr ms "options" "options" none (optional (sequence .notTuple Choice.read)) =
        .read f.options ∧
      memberOr ms "validations" "validations" none (optional Constraints.read) =
        .read f.constraints ∧
      memberOr ms "conditions" "conditions" none (optional (sequence .notTuple Condition.read)) =
        .read f.conditions ∧
      subFields = .read f.subFields := by
  constructor
  -- The record is built by one application for each member, taken apart from the last to the first.
  · intro h
    unfold ofMembers at h
    simp only [seq_eq_read_iff, map_eq_read_iff] at h
    obtain ⟨_, children, ⟨_, conditions, ⟨_, constraints, ⟨_, options, ⟨_, helpText, ⟨_, placeholder,
      ⟨_, required, ⟨_, label, ⟨_, type, ⟨id, hid, rfl⟩, htype, rfl⟩, hlabel, rfl⟩, hrequired, rfl⟩,
      hplaceholder, rfl⟩, hhelpText, rfl⟩, hoptions, rfl⟩, hconstraints, rfl⟩, hconditions, rfl⟩,
      hsubFields, rfl⟩ := h
    exact ⟨hid, htype, hlabel, hrequired, hplaceholder, hhelpText, hoptions, hconstraints,
      hconditions, hsubFields⟩
  · rintro ⟨hid, htype, hlabel, hrequired, hplaceholder, hhelpText, hoptions, hconstraints,
      hconditions, rfl⟩
    unfold ofMembers
    rw [hid, htype, hlabel, hrequired, hplaceholder, hhelpText, hoptions, hconstraints, hconditions]
    cases f
    rfl

/-- Sub-fields are read from the items of a value. -/
theorem exists_item_of_readChildren {v : Value} {subFields : Option (List Field)}
    (h : readChildren v = .read subFields) :
    ∀ g ∈ subFields.getD [], ∃ vs, v.iterate = .ok vs ∧ ∃ w ∈ vs, Field.read w = .read g := by
  have hitems {vs : List Value} (h : some <$> readFrom 0 vs = .read subFields) :
      ∀ g ∈ subFields.getD [], ∃ w ∈ vs, Field.read w = .read g := by
    obtain ⟨fields, hread, rfl⟩ := map_eq_read_iff.mp h
    rw [readFrom_eq] at hread
    exact exists_of_itemsFrom hread
  cases v with
  | null =>
    cases h
    exact nofun
  | list vs => exact fun g hg => ⟨vs, rfl, hitems h g hg⟩
  | tuple vs => exact fun g hg => ⟨vs, rfl, hitems h g hg⟩
  | set vs => exact fun g hg => ⟨vs, rfl, hitems h g hg⟩
  | _ => cases h

/-- The sub-fields of a field were read from the items of one of its members. -/
theorem exists_item_of_preferred {ms : Members Value} {f : Field}
    (h : preferred (readMember "subFields" ms) (readMember "sub_fields" ms) = .read f.subFields) :
    ∀ g ∈ f.children, ∃ name v vs, ms.get? name = some v ∧ v.iterate = .ok vs ∧
      ∃ w ∈ vs, Field.read w = .read g := by
  rw [readMember_eq, readMember_eq] at h
  -- Whichever spelling is there, its items are read as children.
  have hmember {name spelling : String} {v : Value} (hv : ms.get? name = some v)
      (h : (readChildren v).under (.key spelling) = .read f.subFields) (g : Field)
      (hg : g ∈ f.children) : ∃ name v vs, ms.get? name = some v ∧ v.iterate = .ok vs ∧
        ∃ w ∈ vs, Field.read w = .read g := by
    obtain ⟨vs, hvs, hread⟩ := exists_item_of_readChildren (under_eq_read_iff.mp h) g hg
    exact ⟨name, v, vs, hv, hvs, hread⟩
  cases hcamel : ms.get? "subFields" with
  | some v =>
    rw [hcamel] at h
    exact hmember hcamel h
  | none =>
    rw [hcamel] at h
    cases hname : ms.get? "sub_fields" with
    | some v =>
      rw [hname] at h
      exact hmember hname h
    | none =>
      rw [hname] at h
      unfold children
      rw [← Reading.read.inj h]
      exact nofun

/-- A field that is read from JSON data is a field of JSON data, and so are all below it. -/
theorem ofJson_of_read {f : Field} {v : Value} (hv : v.IsJson N) (h : Field.read v = .read f) :
    ∀ g ∈ f.tree, g.OfJson N := by
  -- By induction on the field that is read: its sub-fields are items of one of its members.
  induction f using childrenInduction generalizing v with
  | step f ih =>
    cases hv with
    | dict nodup hms =>
      have hms := Value.IsJson.dict nodup hms
      rw [Field.read] at h
      obtain ⟨hid, -, -, -, -, -, -, -, hconditions, hsubFields⟩ := ofMembers_eq_read_iff.mp h
      refine (forall_tree_iff f).mpr ⟨?_, ?_⟩
      · refine ⟨id_ne_of_requireMember hid, fun c hc => ?_⟩
        have hsequence := (Condition.yields_read (N := N)).sequence .notTuple
        have hall := hsequence.optional.memberOr hms (by simp) hconditions
        unfold conditionList at hc
        cases hcs : f.conditions with
        | none =>
          rw [hcs] at hc
          cases hc
        | some cs =>
          rw [hcs] at hc
          exact hall cs hcs c hc
      · intro k hk
        obtain ⟨_, v, vs, hv, hvs, w, hw, hread⟩ := exists_item_of_preferred hsubFields k hk
        exact ih k hk ((hms.get? hv).iterate hvs w hw) hread
    | _ => cases h

/-! ### Changing data -/

/-- A field of JSON data with fields of JSON data below it. -/
def TreeOfJson (f : Field) : Prop := ∀ g ∈ f.tree, g.OfJson Number.Any

theorem treeOfJson_iff {f : Field} :
    f.TreeOfJson ↔ f.OfJson Number.Any ∧ ∀ k ∈ f.children, k.TreeOfJson :=
  forall_tree_iff f

/-- A field of JSON data remains one under changes that touch neither its id nor its conditions, nor
what is below it. -/
theorem TreeOfJson.congr {f g : Field} (h : f.TreeOfJson) (hid : g.id = f.id)
    (hconditions : g.conditions = f.conditions) (hsubFields : g.subFields = f.subFields) :
    g.TreeOfJson := by
  obtain ⟨hf, hchildren⟩ := treeOfJson_iff.mp h
  refine treeOfJson_iff.mpr ⟨⟨?_, ?_⟩, ?_⟩
  · rw [hid]
    exact hf.id_ne
  · unfold conditionList
    rw [hconditions]
    exact hf.conditions
  · unfold children
    rw [hsubFields]
    exact hchildren

end Field

/-- The fields of a form were read from the items of one of its members. -/
theorem Schema.exists_item_of_read {fallback : Reading Settings} {v : Value} {s : Schema}
    (h : Schema.read fallback v = .ok s) :
    ∀ f ∈ s.fields, ∃ ms fields vs, recordMembers? .schema v = some ms ∧
      ms.get? "fields" = some fields ∧ fields.iterate = .ok vs ∧
        ∃ w ∈ vs, Field.read w = .read f := by
  have hall {fields : Value} (h : Field.readAll fields = .read s.fields) (f : Field)
      (hf : f ∈ s.fields) :
      ∃ vs, fields.iterate = .ok vs ∧ ∃ w ∈ vs, Field.read w = .read f := by
    have hitems {vs : List Value} (h : Field.readFrom 0 vs = .read s.fields) :
        ∃ w ∈ vs, Field.read w = .read f := by
      rw [Field.readFrom_eq] at h
      exact exists_of_itemsFrom h f hf
    -- Only the sequences can be read as fields.
    cases fields with
    | list vs => exact ⟨vs, rfl, hitems h⟩
    | tuple vs => exact ⟨vs, rfl, hitems h⟩
    | set vs => exact ⟨vs, rfl, hitems h⟩
    | _ => cases h
  have hmembers {ms : Members Value} {settings : Reading Settings}
      (h : (Schema.ofMembers ms settings).outcome .schema = .ok s) (f : Field) (hf : f ∈ s.fields) :
      ∃ fields vs, ms.get? "fields" = some fields ∧ fields.iterate = .ok vs ∧
        ∃ w ∈ vs, Field.read w = .read f := by
    have h := outcome_eq_ok_iff.mp h
    unfold Schema.ofMembers at h
    simp only [seq_eq_read_iff, map_eq_read_iff] at h
    obtain ⟨_, _, ⟨_, fields, ⟨_, _, ⟨_, _, rfl⟩, _, rfl⟩, hread, rfl⟩, _, rfl⟩ := h
    unfold memberOr findMember at hread
    cases hget : ms.get? "fields" with
    | none =>
      rw [hget] at hread
      cases hread
      cases hf
    | some v =>
      rw [hget] at hread
      obtain ⟨vs, hvs, hw⟩ := hall (under_eq_read_iff.mp hread) f hf
      exact ⟨v, vs, rfl, hvs, hw⟩
  intro f hf
  unfold Schema.read at h
  cases hms : recordMembers? .schema v with
  | none =>
    rw [hms] at h
    cases h
  | some ms =>
    rw [hms] at h
    dsimp only at h
    obtain ⟨settings, h⟩ : ∃ settings, (Schema.ofMembers ms settings).outcome .schema = .ok s := by
      split at h
      · exact ⟨_, h⟩
      · split at h
        · exact ⟨_, h⟩
        · cases h
    obtain ⟨fields, vs, hfields⟩ := hmembers h f hf
    exact ⟨ms, fields, vs, rfl, hfields⟩

namespace RecordKind

variable {kind : RecordKind}

theorem isJson_of_renameFrom {done : Members Value} (hdone : (Value.dict done).IsJson N)
    {ms : List (String × Value)} (hms : ∀ m ∈ ms, m.2.IsJson N) {renamed : Members Value}
    (h : kind.renameFrom done ms = .ok renamed) : (Value.dict renamed).IsJson N := by
  induction ms generalizing done with
  | nil =>
    cases h
    exact hdone
  | cons m ms ih =>
    rw [List.forall_mem_cons] at hms
    rw [renameFrom] at h
    split at h
    · exact ih (hdone.put _ hms.1) hms.2 h
    · exact absurd h Outcome.refuse_ne_ok

theorem isJson_of_documentMembers {v : Value} (hv : v.IsJson N) {ms : Members Value}
    (h : kind.documentMembers v = .ok ms) : (Value.dict ms).IsJson N := by
  obtain ⟨members, hmembers, h⟩ := Outcome.bind_eq_ok_iff.mp h
  cases hv with
  | dict nodup hms =>
    cases hmembers
    have hnil : (Value.dict []).IsJson N := .dict List.nodup_nil (by simp)
    exact isJson_of_renameFrom hnil hms h
  | _ => cases hmembers

end RecordKind
end Questionnaire
