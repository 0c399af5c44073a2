import Mathlib.Data.List.Forall2
import Mathlib.Data.Option.Basic
import Questionnaire.Proofs.Builder.Merging

/-!
# Either spelling of a member

`Respelled` relates two values that differ in the spellings of members only, at any depth: in the
members of a record, and in those of the records that it is made of.  What else is in a value is
data, which has no spellings.  No record mentions a member in both spellings (`SpelledOnce`).

Two values that are related in this way are read alike (`Respelled.agree`): they give the same
record, or neither gives one.
-/

namespace Questionnaire

/-! ### Spellings -/

/-- What stands at a place in a record. -/
inductive Slot where
  /-- Data without spellings. -/
  | data
  /-- A record of a kind. -/
  | record (kind : RecordKind)
  /-- A sequence of such records. -/
  | records (kind : RecordKind)

namespace RecordKind

/-- The members of records that are made of records, under their names in documents. -/
def slots : RecordKind → Members Slot
  | .field =>
    [("options", .records .choice), ("validations", .record .constraints),
      ("conditions", .records .condition), ("subFields", .records .field)]
  | .schema => [("fields", .records .field), ("settings", .record .settings)]
  | _ => []

/-- What a member of a record is, under either of its names. -/
def slot (kind : RecordKind) (name : String) : Slot :=
  ((kind.documentName? name).bind kind.slots.get?).getD .data

/-- Two names are the same, or the two spellings of one member. -/
def SameMember (kind : RecordKind) (a b : String) : Prop :=
  a = b ∨ (kind.documentName? a).isSome ∧ kind.documentName? a = kind.documentName? b

instance (kind : RecordKind) (a b : String) : Decidable (kind.SameMember a b) :=
  inferInstanceAs (Decidable (_ ∨ _))

/-- Members with distinct names, no two of which are the spellings of one member. -/
def SpelledOnce (kind : RecordKind) (ms : Members Value) : Prop :=
  ms.Pairwise fun m m' => ¬kind.SameMember m.1 m'.1

instance (kind : RecordKind) (ms : Members Value) : Decidable (kind.SpelledOnce ms) :=
  inferInstanceAs (Decidable (ms.Pairwise _))

variable {kind : RecordKind} {name camel a b : String} {ms ns : Members Value}

theorem documentName?_of_mem_spellings (h : (name, camel) ∈ kind.spellings) :
    kind.documentName? name = some camel := by
  have hlookup : ∀ p ∈ kind.spellings, kind.spellings.lookup p.1 = some p.2 := by
    cases kind <;> decide
  unfold documentName?
  rw [hlookup _ h]

theorem mem_documentNames_of_mem_spellings (h : (name, camel) ∈ kind.spellings) :
    camel ∈ kind.documentNames := List.mem_map_of_mem h

/-- A member is named by its two spellings and by nothing else. -/
theorem documentName?_eq_some_iff (h : (name, camel) ∈ kind.spellings) :
    kind.documentName? a = some camel ↔ a = camel ∨ a = name := by
  constructor
  -- A name is found in the table of spellings or is a document name already.
  · intro ha
    unfold documentName? at ha
    split at ha
    · rename_i camel' hlookup
      obtain rfl := Option.some.inj ha
      have hmem : (a, camel') ∈ kind.spellings := by
        obtain ⟨before, after, hspellings, -⟩ := List.lookup_eq_some_iff.mp hlookup
        rw [hspellings]
        exact List.mem_append_right _ List.mem_cons_self
      -- No document name has two other spellings.
      have hinj : ∀ p ∈ kind.spellings, ∀ q ∈ kind.spellings, p.2 = q.2 → p.1 = q.1 := by
        cases kind <;> decide
      exact Or.inr (hinj _ hmem _ h rfl)
    · split at ha
      · exact Or.inl (Option.some.inj ha)
      · cases ha
  · rintro (rfl | rfl)
    · exact documentName?_of_mem (mem_documentNames_of_mem_spellings h)
    · exact documentName?_of_mem_spellings h

theorem SameMember.documentName?_eq (h : kind.SameMember a b) :
    kind.documentName? a = kind.documentName? b :=
  h.elim (congrArg _) And.right

theorem SameMember.symm (h : kind.SameMember a b) : kind.SameMember b a := by
  rcases h with rfl | ⟨hsome, heq⟩
  · exact Or.inl rfl
  · exact Or.inr ⟨heq ▸ hsome, heq.symm⟩

theorem SameMember.trans {c : String} (h : kind.SameMember a b) (h' : kind.SameMember b c) :
    kind.SameMember a c := by
  rcases h with rfl | ⟨hsome, heq⟩
  · exact h'
  · exact Or.inr ⟨hsome, heq.trans h'.documentName?_eq⟩

theorem slot_of_documentName? (h : kind.documentName? a = some camel) :
    kind.slot a = kind.slot camel := by
  unfold slot
  rw [h, documentName?_of_mem (mem_documentNames_of_documentName? h)]

/-! ### Members under either spelling -/

/-- What is said of a member that is spelled once is what is found under one of its names. -/
theorem SpelledOnce.said?_eq (hms : kind.SpelledOnce ms) (h : (name, camel) ∈ kind.spellings) :
    kind.said? ms camel = (ms.get? camel).or (ms.get? name) := by
  induction ms with
  | nil => rfl
  -- By induction on the members. At most one of them is a spelling of the name.
  | cons m ms ih =>
    obtain ⟨hm, hms⟩ := List.pairwise_cons.mp hms
    rw [said?_cons, ih hms, Members.get?_cons, Members.get?_cons]
    by_cases hsame : kind.documentName? m.1 = some camel
    · -- None of the other members is another spelling of this one.
      have hnone {other : String} (hother : kind.documentName? other = some camel) :
          Members.get? ms other = none := by
        rw [Members.get?_eq_none_iff]
        intro hmem
        obtain ⟨n, hn, rfl⟩ := List.mem_map.mp hmem
        exact hm n hn (Or.inr ⟨by rw [hsame]; rfl, hsame.trans hother.symm⟩)
      rw [hnone ((documentName?_eq_some_iff h).mpr (.inl rfl)),
        hnone ((documentName?_eq_some_iff h).mpr (.inr rfl)), if_pos hsame]
      rcases (documentName?_eq_some_iff h).mp hsame with hcamel | hname
      · rw [if_pos hcamel]
        rfl
      · rw [if_pos hname]
        split <;> rfl
    · rw [documentName?_eq_some_iff h, not_or] at hsame
      rw [if_neg hsame.1, if_neg hsame.2, if_neg, Option.or_none]
      rw [documentName?_eq_some_iff h, not_or]
      exact hsame

end RecordKind

/-- Two values differ in the spellings of members only, where they stand.  The lists are paired off
by `zip`, so that an induction reaches the values in them. -/
inductive Respelled : Slot → Value → Value → Prop
  | same (slot : Slot) (v : Value) : Respelled slot v v
  | record {kind : RecordKind} {ms ns : Members Value} (honce : kind.SpelledOnce ms)
      (hlength : ms.length = ns.length)
      (hnames : ∀ m n, (m, n) ∈ ms.zip ns → kind.SameMember m.1 n.1)
      (hvalues : ∀ m n, (m, n) ∈ ms.zip ns → Respelled (kind.slot m.1) m.2 n.2) :
      Respelled (.record kind) (.dict ms) (.dict ns)
  | list {kind : RecordKind} {vs ws : List Value} (hlength : vs.length = ws.length)
      (hitems : ∀ v w, (v, w) ∈ vs.zip ws → Respelled (.record kind) v w) :
      Respelled (.records kind) (.list vs) (.list ws)
  | tuple {kind : RecordKind} {vs ws : List Value} (hlength : vs.length = ws.length)
      (hitems : ∀ v w, (v, w) ∈ vs.zip ws → Respelled (.record kind) v w) :
      Respelled (.records kind) (.tuple vs) (.tuple ws)

/-- A member may have its other name, and a value in a relation for what stands there. -/
def RecordKind.Renamed (R : Slot → Value → Value → Prop) (kind : RecordKind)
    (m n : String × Value) : Prop :=
  kind.SameMember m.1 n.1 ∧ R (kind.slot m.1) m.2 n.2

/-- A record is the same, or an object whose members are mentioned once and are respelled one by
one. -/
theorem Respelled.eq_or_forall₂ {kind : RecordKind} {v w : Value}
    (h : Respelled (.record kind) v w) :
    v = w ∨ ∃ ms ns, v = .dict ms ∧ w = .dict ns ∧ kind.SpelledOnce ms ∧
      List.Forall₂ (kind.Renamed Respelled) ms ns := by
  cases h with
  | same => exact Or.inl rfl
  | @record _ ms ns honce hlength hnames hvalues =>
    refine Or.inr ⟨ms, ns, rfl, rfl, honce, List.forall₂_iff_zip.mpr ⟨hlength, fun hmem => ?_⟩⟩
    exact ⟨hnames _ _ hmem, hvalues _ _ hmem⟩

/-- One member, at any place in an object, may have its other name and a value that is respelled. -/
theorem Respelled.member {kind : RecordKind} (before after : Members Value) {a b : String}
    {v w : Value} (honce : kind.SpelledOnce (before ++ (a, v) :: after))
    (hsame : kind.SameMember a b) (hvw : Respelled (kind.slot a) v w) :
    Respelled (.record kind) (.dict (before ++ (a, v) :: after))
      (.dict (before ++ (b, w) :: after)) := by
  have hrefl (ms : Members Value) : List.Forall₂ (kind.Renamed Respelled) ms ms :=
    List.forall₂_same.mpr fun m _ => ⟨Or.inl rfl, .same _ m.2⟩
  have hmember : kind.Renamed Respelled (a, v) (b, w) := ⟨hsame, hvw⟩
  obtain ⟨hlength, hmembers⟩ := List.forall₂_iff_zip.mp
    (List.rel_append (hrefl before) (.cons hmember (hrefl after)))
  exact .record honce hlength (fun _ _ hmem => (hmembers hmem).1) fun _ _ hmem => (hmembers hmem).2

/-- One item, at any place in a list, may be respelled. -/
theorem Respelled.item {kind : RecordKind} (before after : List Value) {v w : Value}
    (hvw : Respelled (.record kind) v w) :
    Respelled (.records kind) (.list (before ++ v :: after)) (.list (before ++ w :: after)) := by
  have hrefl (vs : List Value) : List.Forall₂ (Respelled (.record kind)) vs vs :=
    List.forall₂_same.mpr fun v _ => .same _ v
  obtain ⟨hlength, hitems⟩ := List.forall₂_iff_zip.mp
    (List.rel_append (hrefl before) (.cons hvw (hrefl after)))
  exact .list hlength fun _ _ hmem => hitems hmem

/-! ### Members that correspond -/

/-- The values of the members, under whichever of their names they are found, are in a relation for
what stands there. -/
def Members.Corresponds (R : Slot → Value → Value → Prop) (kind : RecordKind)
    (ms ns : Members Value) : Prop :=
  ∀ name camel, (name, camel) ∈ kind.spellings →
    Option.Rel (R (kind.slot camel)) ((ms.get? camel).or (ms.get? name))
      ((ns.get? camel).or (ns.get? name))

section Members

variable {R : Slot → Value → Value → Prop} {kind : RecordKind} {ms ns : Members Value}
  (h : List.Forall₂ (kind.Renamed R) ms ns)
include h

/-- Under each of its names in documents, the same is said in both, as far as the relation tells. -/
theorem rel_said? (camel : String) :
    Option.Rel (R (kind.slot camel)) (kind.said? ms camel) (kind.said? ns camel) := by
  induction h with
  | nil => exact .none
  | @cons m n ms ns hmn _ ih =>
    obtain ⟨hsame, hvalue⟩ := hmn
    rw [RecordKind.said?_cons, RecordKind.said?_cons, ← hsame.documentName?_eq]
    refine rel_or ih ?_
    by_cases hcamel : kind.documentName? m.1 = some camel
    · rw [if_pos hcamel, if_pos hcamel]
      exact .some (RecordKind.slot_of_documentName? hcamel ▸ hvalue)
    · rw [if_neg hcamel, if_neg hcamel]
      exact .none

theorem RecordKind.SpelledOnce.of_forall₂ (hms : kind.SpelledOnce ms) : kind.SpelledOnce ns := by
  induction h with
  | nil => exact hms
  | @cons m n ms ns hmn hrest ih =>
    obtain ⟨hm, hms⟩ := List.pairwise_cons.mp hms
    refine List.pairwise_cons.mpr ⟨fun n' hn' hsame => ?_, ih hms⟩
    obtain ⟨m', hm', hsame'⟩ : ∃ m' ∈ ms, kind.SameMember m'.1 n'.1 := by
      obtain ⟨i, hi, rfl⟩ := List.getElem_of_mem hn'
      have hlength := hrest.length_eq
      exact ⟨ms[i], List.getElem_mem _, (hrest.get (by omega) hi).1⟩
    exact hm m' hm' ((hmn.1.trans hsame).trans hsame'.symm)

/-- Members that are spelled once correspond to those with other spellings. -/
theorem corresponds_of_forall₂ (hms : kind.SpelledOnce ms) : Members.Corresponds R kind ms ns := by
  intro name camel hmem
  rw [← hms.said?_eq hmem, ← (hms.of_forall₂ h).said?_eq hmem]
  exact rel_said? h camel

end Members

/-! ### Readings that are alike -/

namespace Reading

variable {α β : Type} {x x' : Reading α} {R : Slot → Value → Value → Prop} {kind : RecordKind}
  {ms ns : Members Value} {name camel : String} {f : Value → Reading α}

/-- Two readings give the same, or neither gives anything; what does not fit may be reported at
other paths. -/
def Alike (x y : Reading α) : Prop := x.toOption = y.toOption

theorem Alike.refl (x : Reading α) : x.Alike x := rfl

theorem toOption_under (s : Step) (x : Reading α) : (x.under s).toOption = x.toOption := by
  cases x <;> rfl

theorem Alike.under (h : x.Alike x') (s s' : Step) : (x.under s).Alike (x'.under s') := by
  unfold Alike
  rw [toOption_under, toOption_under]
  exact h

theorem Alike.map (h : x.Alike x') (g : α → β) : (g <$> x).Alike (g <$> x') := by
  have htoOption (x : Reading α) : (g <$> x).toOption = x.toOption.map g := by cases x <;> rfl
  unfold Alike
  rw [htoOption, htoOption, h]

theorem Alike.seq {g g' : Reading (α → β)} (hg : g.Alike g') (h : x.Alike x') :
    (g <*> x).Alike (g' <*> x') := by
  have htoOption (g : Reading (α → β)) (x : Reading α) :
      (g <*> x).toOption = g.toOption.bind fun g => x.toOption.map g := by
    cases g <;> cases x <;> rfl
  unfold Alike
  rw [htoOption, htoOption, hg, h]

theorem map_snd_findMember (ms : Members Value) (camel name : String) :
    (findMember ms camel name).map Prod.snd = (ms.get? camel).or (ms.get? name) := by
  unfold findMember
  cases ms.get? camel with
  | some v => rfl
  | none =>
    rw [Option.map_map]
    exact Option.map_id'

/-- A member that corresponds is found in both, perhaps under another name, or in neither. -/
theorem findMember_cases (h : Members.Corresponds R kind ms ns)
    (hmem : (name, camel) ∈ kind.spellings) :
    findMember ms camel name = none ∧ findMember ns camel name = none ∨
      ∃ s v s' w, findMember ms camel name = some (s, v) ∧ findMember ns camel name = some (s', w) ∧
        R (kind.slot camel) v w := by
  have hfound := h name camel hmem
  rw [← map_snd_findMember, ← map_snd_findMember] at hfound
  rcases hms : findMember ms camel name with _ | ⟨s, v⟩
  · rcases hns : findMember ns camel name with _ | ⟨s', w⟩
    · exact Or.inl ⟨rfl, rfl⟩
    · rw [hms, hns] at hfound
      cases hfound
  · rcases hns : findMember ns camel name with _ | ⟨s', w⟩
    · rw [hms, hns] at hfound
      cases hfound
    · rw [hms, hns] at hfound
      cases hfound with
      | some hvw => exact Or.inr ⟨s, v, s', w, rfl, rfl, hvw⟩

theorem requireMember_alike (h : Members.Corresponds R kind ms ns)
    (hmem : (name, camel) ∈ kind.spellings)
    (hf : ∀ v w, R (kind.slot camel) v w → (f v).Alike (f w)) :
    (requireMember ms camel name f).Alike (requireMember ns camel name f) := by
  unfold requireMember
  rcases findMember_cases h hmem with ⟨hms, hns⟩ | ⟨s, v, s', w, hms, hns, hvw⟩
  · rw [hms, hns]
    exact .refl _
  · rw [hms, hns]
    exact (hf v w hvw).under _ _

theorem memberOr_alike {default : α} (h : Members.Corresponds R kind ms ns)
    (hmem : (name, camel) ∈ kind.spellings)
    (hf : ∀ v w, R (kind.slot camel) v w → (f v).Alike (f w)) :
    (memberOr ms camel name default f).Alike (memberOr ns camel name default f) := by
  unfold memberOr
  rcases findMember_cases h hmem with ⟨hms, hns⟩ | ⟨s, v, s', w, hms, hns, hvw⟩
  · rw [hms, hns]
    exact .refl _
  · rw [hms, hns]
    exact (hf v w hvw).under _ _

theorem itemsFrom_alike {vs ws : List Value} (h : List.Forall₂ (fun v w => (f v).Alike (f w)) vs ws)
    (n : Nat) : (itemsFrom f n vs).Alike (itemsFrom f n ws) := by
  induction h generalizing n with
  | nil => exact .refl _
  | cons hvw _ ih => exact ((hvw.under _ _).map _).seq (ih (n + 1))

end Reading

/-! ### Records -/

open Reading

/-- The values are read alike where they stand, and data is the same. -/
def Slot.Agree : Slot → Value → Value → Prop
  | .data, v, w => v = w
  | .record .choice, v, w => (Choice.read v).Alike (Choice.read w)
  | .record .constraints, v, w =>
    (optional Constraints.read v).Alike (optional Constraints.read w)
  | .record .condition, v, w => (Condition.read v).Alike (Condition.read w)
  | .record .settings, v, w => (Settings.read v).Alike (Settings.read w)
  | .record .field, v, w => (Field.read v).Alike (Field.read w)
  | .record .schema, v, w => ∀ fallback,
    (Schema.read fallback v).toOption = (Schema.read fallback w).toOption
  | .records .choice, v, w => (optional (sequence .notTuple Choice.read) v).Alike
    (optional (sequence .notTuple Choice.read) w)
  | .records .condition, v, w => v.isTruthy = w.isTruthy ∧
    (optional (sequence .notTuple Condition.read) v).Alike
      (optional (sequence .notTuple Condition.read) w)
  | .records .field, v, w => (Field.readChildren v).Alike (Field.readChildren w) ∧
    (Field.readAll v).Alike (Field.readAll w)
  | _, _, _ => True

theorem Slot.Agree.refl (slot : Slot) (v : Value) : slot.Agree v v := by
  cases slot with
  | data => rfl
  | record kind => cases kind <;> first | exact fun _ => rfl | exact .refl _ | trivial
  | records kind => cases kind <;> first | exact ⟨rfl, .refl _⟩ | exact .refl _ | trivial

section Records

variable {ms ns : Members Value}

section Data

variable {α : Type} {kind : RecordKind} {name camel : String}
  (h : Members.Corresponds Slot.Agree kind ms ns) (hmem : (name, camel) ∈ kind.spellings)
  (hdata : kind.slot camel = .data)
include h hmem hdata

/-- Data that corresponds is the same, so every reader reads it alike. -/
theorem requireData_alike (f : Value → Reading α) :
    (requireMember ms camel name f).Alike (requireMember ns camel name f) := by
  refine requireMember_alike h hmem fun v w hvw => ?_
  rw [hdata] at hvw
  cases hvw
  exact .refl _

theorem dataOr_alike (default : α) (f : Value → Reading α) :
    (memberOr ms camel name default f).Alike (memberOr ns camel name default f) := by
  refine memberOr_alike h hmem fun v w hvw => ?_
  rw [hdata] at hvw
  cases hvw
  exact .refl _

end Data

theorem Choice.ofMembers_alike (h : Members.Corresponds Slot.Agree .choice ms ns) :
    (Choice.ofMembers ms).Alike (Choice.ofMembers ns) :=
  ((((requireData_alike h (by decide) rfl text).map _).seq
    (requireData_alike h (by decide) rfl text)).seq
    (requireData_alike h (by decide) rfl text)).seq
    (dataOr_alike h (by decide) rfl none (optional truth))

theorem Constraints.ofMembers_alike (h : Members.Corresponds Slot.Agree .constraints ms ns) :
    (Constraints.ofMembers ms).Alike (Constraints.ofMembers ns) :=
  (((((((((dataOr_alike h (by decide) rfl none (optional number)).map _).seq
    (dataOr_alike h (by decide) rfl none (optional number))).seq
    (dataOr_alike h (by decide) rfl none (optional integer))).seq
    (dataOr_alike h (by decide) rfl none (optional integer))).seq
    (dataOr_alike h (by decide) rfl none (optional text))).seq
    (dataOr_alike h (by decide) rfl none (optional (sequence .notTuple text)))).seq
    (dataOr_alike h (by decide) rfl none (optional number))).seq
    (dataOr_alike h (by decide) rfl none (optional integer))).seq
    (dataOr_alike h (by decide) rfl none (optional text))

theorem Condition.ofMembers_alike (h : Members.Corresponds Slot.Agree .condition ms ns) :
    (Condition.ofMembers ms).Alike (Condition.ofMembers ns) :=
  (((requireData_alike h (by decide) rfl text).map _).seq
    (requireData_alike h (by decide) rfl (named Operator.ofName? .notMemberOfEnumeration))).seq
    (dataOr_alike h (by decide) rfl .null any)

theorem Settings.ofMembers_alike (h : Members.Corresponds Slot.Agree .settings ms ns) :
    (Settings.ofMembers ms).Alike (Settings.ofMembers ns) :=
  (((dataOr_alike h (by decide) rfl _ truth).map _).seq
    (dataOr_alike h (by decide) rfl _ truth)).seq (dataOr_alike h (by decide) rfl _ text)

/-- Sub-fields are read like any other member. -/
theorem Field.preferred_eq_memberOr (ms : Members Value) :
    preferred (readMember "subFields" ms) (readMember "sub_fields" ms) =
      memberOr ms "subFields" "sub_fields" none readChildren := by
  rw [readMember_eq, readMember_eq]
  unfold memberOr findMember
  cases ms.get? "subFields" with
  | some v => rfl
  | none => cases ms.get? "sub_fields" <;> rfl

/-- Fields spelled differently are read alike. -/
theorem Field.read_alike (h : Members.Corresponds Slot.Agree .field ms ns) :
    (Field.read (.dict ms)).Alike (Field.read (.dict ns)) := by
  have hsubFields : (preferred (readMember "subFields" ms) (readMember "sub_fields" ms)).Alike
      (preferred (readMember "subFields" ns) (readMember "sub_fields" ns)) := by
    rw [preferred_eq_memberOr, preferred_eq_memberOr]
    exact memberOr_alike h (by decide) fun _ _ hvw => hvw.1
  have hoptions : (memberOr ms "options" "options" none
      (optional (sequence .notTuple Choice.read))).Alike
      (memberOr ns "options" "options" none (optional (sequence .notTuple Choice.read))) :=
    memberOr_alike h (by decide) fun _ _ hvw => hvw
  have hconstraints :
      (memberOr ms "validations" "validations" none (optional Constraints.read)).Alike
      (memberOr ns "validations" "validations" none (optional Constraints.read)) :=
    memberOr_alike h (by decide) fun _ _ hvw => hvw
  have hconditions : (memberOr ms "conditions" "conditions" none
      (optional (sequence .notTuple Condition.read))).Alike
      (memberOr ns "conditions" "conditions" none (optional (sequence .notTuple Condition.read))) :=
    memberOr_alike h (by decide) fun _ _ hvw => hvw.2
  -- One step for each member, in the order in which they are read.
  exact ((((((((((requireData_alike h (by decide) rfl readId).map _).seq
    (requireData_alike h (by decide) rfl (named FieldType.ofName? .notMemberOfEnumeration))).seq
    (requireData_alike h (by decide) rfl text)).seq
    (dataOr_alike h (by decide) rfl false truth)).seq
    (dataOr_alike h (by decide) rfl none (optional text))).seq
    (dataOr_alike h (by decide) rfl none (optional text))).seq
    hoptions).seq hconstraints).seq hconditions).seq hsubFields

/-- Schemas spelled differently are read alike. -/
theorem Schema.read_alike (h : Members.Corresponds Slot.Agree .schema ms ns)
    (fallback : Reading Settings) :
    (Schema.read fallback (.dict ms)).toOption = (Schema.read fallback (.dict ns)).toOption := by
  have houtcome {x y : Reading Schema} (hxy : x.Alike y) :
      (x.outcome .schema).toOption = (y.outcome .schema).toOption := by
    have htoOption (x : Reading Schema) : (x.outcome .schema).toOption = x.toOption := by
      cases x <;> rfl
    rw [htoOption, htoOption]
    exact hxy
  have hfields : (memberOr ms "fields" "fields" [] Field.readAll).Alike
      (memberOr ns "fields" "fields" [] Field.readAll) :=
    memberOr_alike h (by decide) fun _ _ hvw => hvw.2
  have hmembers {x y : Reading Settings} (hxy : x.Alike y) :
      (Schema.ofMembers ms x).Alike (Schema.ofMembers ns y) :=
    ((((requireData_alike h (by decide) rfl text).map _).seq
      (dataOr_alike h (by decide) rfl "" text)).seq hfields).seq hxy
  -- The settings may be absent from both, and then both fall back in the same way.
  have hrel := h "settings" "settings" (by decide)
  rw [Option.or_self, Option.or_self] at hrel
  simp only [Schema.read, recordMembers?]
  generalize ms.get? "settings" = o at hrel ⊢
  generalize ns.get? "settings" = o' at hrel ⊢
  cases hrel with
  | some hvw => exact houtcome (hmembers (Alike.under hvw _ _))
  | none =>
    cases fallback with
    | read settings => exact houtcome (hmembers (.refl _))
    | refused misplaced => rfl

/-- Objects whose members correspond are read alike. -/
theorem Slot.Agree.record {kind : RecordKind} (h : Members.Corresponds Slot.Agree kind ms ns) :
    (Slot.record kind).Agree (.dict ms) (.dict ns) := by
  cases kind with
  | choice => exact Choice.ofMembers_alike h
  | constraints => exact (Constraints.ofMembers_alike h).map some
  | condition => exact Condition.ofMembers_alike h
  | field => exact Field.read_alike h
  | settings => exact Settings.ofMembers_alike h
  | schema => exact Schema.read_alike h
  | _ => trivial

/-- Sequences of items that are read alike are read alike. -/
theorem Slot.Agree.records {kind : RecordKind} {vs ws : List Value}
    (h : List.Forall₂ (Slot.record kind).Agree vs ws) :
    (Slot.records kind).Agree (.list vs) (.list ws) ∧
      (Slot.records kind).Agree (.tuple vs) (.tuple ws) := by
  have htruthy : (!vs.isEmpty) = !ws.isEmpty := by cases h <;> rfl
  cases kind with
  | choice => exact ⟨(itemsFrom_alike h 0).map some, (itemsFrom_alike h 0).map some⟩
  | condition =>
    exact ⟨⟨htruthy, (itemsFrom_alike h 0).map some⟩, htruthy, (itemsFrom_alike h 0).map some⟩
  | field =>
    have hread : (Field.readFrom 0 vs).Alike (Field.readFrom 0 ws) := by
      rw [Field.readFrom_eq, Field.readFrom_eq]
      exact itemsFrom_alike h 0
    exact ⟨⟨hread.map some, hread⟩, hread.map some, hread⟩
  | _ => exact ⟨trivial, trivial⟩

/-- Values that differ in the spellings of members only are read alike where they stand. -/
theorem Respelled.agree {slot : Slot} {v w : Value} (h : Respelled slot v w) : slot.Agree v w := by
  induction h with
  | same slot v => exact .refl slot v
  | record honce hlength hnames _ ih =>
    exact .record (corresponds_of_forall₂ (List.forall₂_iff_zip.mpr
      ⟨hlength, fun hmem => ⟨hnames _ _ hmem, ih _ _ hmem⟩⟩) honce)
  | list hlength _ ih =>
    exact (Slot.Agree.records (List.forall₂_iff_zip.mpr ⟨hlength, fun hmem => ih _ _ hmem⟩)).1
  | tuple hlength _ ih =>
    exact (Slot.Agree.records (List.forall₂_iff_zip.mpr ⟨hlength, fun hmem => ih _ _ hmem⟩)).2

end Records

end Questionnaire
