import Questionnaire.Proofs.Form.Soundness

/-!
# The first offence in a form

`checkFields` recurses into sub-fields and passes the ids it has seen along.  `checkList_eq_pass` says
that this is a plain pass over the document, the list of all fields in their order, which stops at the
first field with an offence.  So the refusal is about the first field of the document that breaks a
rule, and belongs to the first rule that this field breaks (`checkFields_exact`).
-/

namespace Questionnaire

/-! ### Documents -/

/-- A field of a document. -/
structure Placed where
  /-- Whether the field stands in a section. -/
  nested : Bool
  field : Field

namespace Field

/-- All fields of a list, at any depth, in the order of the document. -/
def document (nested : Bool) (fs : List Field) : List Placed :=
  fs.flatMap fun f => ⟨nested, f⟩ :: (treeList f.children).map (.mk true)

theorem document_cons (nested : Bool) (f : Field) (fs : List Field) :
    document nested (f :: fs) =
      (⟨nested, f⟩ :: (treeList f.children).map (.mk true)) ++ document nested fs :=
  List.flatMap_cons

/-- Below the top level every field stands in a section. -/
theorem document_true (fs : List Field) : document true fs = (treeList fs).map (.mk true) := by
  unfold document
  rw [treeList_eq_flatMap, List.map_flatMap]
  simp only [tree_eq, List.map_cons]

end Field

/-! ### Rules -/

/-- The rules that the fields of a form keep, in the order in which they are checked. -/
inductive FormRule where
  /-- The id is not that of an earlier field, and not retired. -/
  | freshId
  /-- No condition looks at the field itself. -/
  | noSelfCondition
  /-- No two choices have the same id. -/
  | distinctChoices
  /-- Only a section at the top has sub-fields. -/
  | nesting

namespace FormRule

/-- All rules in their order. -/
def all : List FormRule := [.freshId, .noSelfCondition, .distinctChoices, .nesting]

/-- The refusals that belong to a rule. -/
def family : FormRule → Refusal.Family
  | .freshId => .duplicate
  | .noSelfCondition => .selfReference
  | .distinctChoices => .integrity
  | .nesting => .nesting

/-- The field breaks the rule; `before` are the fields before it in the document. -/
def Broken (retired : List String) (before : List Placed) (p : Placed) : FormRule → Prop
  | .freshId => (∃ q ∈ before, q.field.id = p.field.id) ∨ p.field.id ∈ retired
  | .noSelfCondition => ∃ c ∈ p.field.conditionList, c.source = p.field.id
  | .distinctChoices => ¬(p.field.choices.map (·.id)).Nodup
  | .nesting =>
    p.nested = true ∧ p.field.type = .repeatable ∨
      p.field.children ≠ [] ∧ p.field.type ≠ .repeatable

/-- The field breaks the rule, and none before it. -/
def FirstBroken (retired : List String) (before : List Placed) (p : Placed) (rule : FormRule) :
    Prop :=
  ∃ earlier later, all = earlier ++ rule :: later ∧ rule.Broken retired before p ∧
    ∀ other ∈ earlier, ¬other.Broken retired before p

/-- What a field that breaks the rule is refused for; `seen` are the ids before it. -/
def refusal? (retired seen : List String) (p : Placed) : FormRule → Option Refusal
  | .freshId =>
    if p.field.id ∈ seen then some (.duplicateId p.field.id)
    else if p.field.id ∈ retired then some (.retiredId p.field.id)
    else none
  | .noSelfCondition =>
    if p.field.conditionList.any (·.source = p.field.id) then some (.selfCondition p.field.id)
    else none
  | .distinctChoices =>
    if Field.hasDuplicateChoice p.field.choices then some (.duplicateChoice p.field.id) else none
  | .nesting =>
    if p.nested ∧ p.field.type = .repeatable then some (.nestedSection p.field.id)
    else if p.field.children ≠ [] ∧ p.field.type ≠ .repeatable then
      some (.strayChildren p.field.id p.field.type)
    else none

/-- There are no more rules than those listed. -/
theorem mem_all (rule : FormRule) : rule ∈ all := by cases rule <;> simp [all]

/-- A refusal names the field it is about and the rule it follows from. -/
theorem of_refusal? {retired seen : List String} {p : Placed} {rule : FormRule} {r : Refusal}
    (h : rule.refusal? retired seen p = some r) :
    r.fieldId = .str p.field.id ∧ r.family = rule.family := by
  -- Each refusal of a rule names the field and is of the family of the rule.
  cases rule <;> rw [refusal?] at h <;> split_ifs at h <;> cases h <;> exact ⟨rfl, rfl⟩

end FormRule

/-! ### Single fields -/

namespace Placed

/-- The ids of a document, the latest first. -/
def seenIds (before : List Placed) : List String := (before.map (·.field.id)).reverse

/-- An identifier was seen when an earlier field has it. -/
theorem mem_seenIds {before : List Placed} {id : String} :
    id ∈ seenIds before ↔ ∃ q ∈ before, q.field.id = id := by
  unfold seenIds
  rw [List.mem_reverse, List.mem_map]

/-- What has been seen grows by one identifier at a time. -/
theorem seenIds_append_singleton (before : List Placed) (p : Placed) :
    seenIds (before ++ [p]) = p.field.id :: seenIds before := by
  unfold seenIds
  rw [List.map_append, List.reverse_append]
  rfl

/-- Neither branch refuses. -/
theorem ite_some_eq_none_iff {α : Type} {q : Prop} [Decidable q] {a : α} {o : Option α} :
    (if q then some a else o) = none ↔ ¬q ∧ o = none := by
  split <;> simp [*]

variable {retired : List String} {before : List Placed} {p : Placed}

/-- A rule refuses what breaks it and nothing else. -/
theorem refusal?_eq_none_iff {rule : FormRule} :
    rule.refusal? retired (seenIds before) p = none ↔ ¬rule.Broken retired before p := by
  cases rule with
  | freshId =>
    simp only [FormRule.refusal?, FormRule.Broken, ite_some_eq_none_iff, mem_seenIds, not_or,
      and_true]
  | noSelfCondition =>
    simp only [FormRule.refusal?, FormRule.Broken, ite_some_eq_none_iff, List.any_eq_true,
      decide_eq_true_eq, and_true]
  | distinctChoices =>
    rw [FormRule.refusal?, FormRule.Broken, ite_some_eq_none_iff, Bool.not_eq_true,
      Field.hasDuplicateChoice_eq_false_iff, not_not, and_iff_left rfl]
  | nesting =>
    simp only [FormRule.refusal?, FormRule.Broken, ite_some_eq_none_iff, not_or, and_true]

/-- What a field is refused for, if it is; `seen` are the ids before it. -/
def offence? (retired seen : List String) (p : Placed) : Option Refusal :=
  FormRule.all.findSome? (·.refusal? retired seen p)

/-- A field that breaks no rule is not refused, and any other is. -/
theorem offence?_eq_none_iff :
    p.offence? retired (seenIds before) = none ↔
      ∀ rule : FormRule, ¬rule.Broken retired before p := by
  unfold offence?
  rw [List.findSome?_eq_none_iff]
  constructor
  · intro h rule
    exact refusal?_eq_none_iff.mp (h rule rule.mem_all)
  · intro h rule _
    exact refusal?_eq_none_iff.mpr (h rule)

/-- A field is refused for the first rule that it breaks. -/
theorem firstBroken_of_offence? {r : Refusal}
    (h : p.offence? retired (seenIds before) = some r) :
    r.fieldId = .str p.field.id ∧
      ∃ rule, FormRule.FirstBroken retired before p rule ∧ r.family = rule.family := by
  obtain ⟨earlier, rule, later, hall, hr, hearlier⟩ := List.findSome?_eq_some_iff.mp h
  obtain ⟨hid, hfamily⟩ := FormRule.of_refusal? hr
  refine ⟨hid, rule, ⟨earlier, later, hall, ?_, fun other hother => ?_⟩, hfamily⟩
  · by_contra hkept
    rw [refusal?_eq_none_iff.mpr hkept] at hr
    cases hr
  · exact refusal?_eq_none_iff.mp (hearlier other hother)

end Placed

/-! ### The pass -/

namespace Field

/-- Refuses if there is reason to, and goes on otherwise. -/
def refuseOr {β : Type} (reason : Option Refusal) (rest : Except Refusal β) : Except Refusal β :=
  match reason with
  | some r => .error r
  | none => rest

/-- Refusing the first of several offences is refusing them in turn. -/
theorem refuseOr_findSome? {α β : Type} (f : α → Option Refusal) (as : List α)
    (rest : Except Refusal β) :
    refuseOr (as.findSome? f) rest = as.foldr (fun a rest => refuseOr (f a) rest) rest := by
  induction as with
  | nil => rfl
  | cons a as ih =>
    rw [List.findSome?_cons, List.foldr_cons, ← ih]
    cases f a <;> rfl

/-- A test in front refuses first. -/
theorem refuseOr_ite {β : Type} {p : Prop} [Decidable p] {r : Refusal} {o : Option Refusal}
    {rest : Except Refusal β} :
    refuseOr (if p then some r else o) rest = if p then .error r else refuseOr o rest := by
  split <;> rfl

/-- Goes through a document and stops at the first offence; `seen` are the ids before it. -/
def pass (retired : List String) : List Placed → List String → Except Refusal (List String)
  | [], seen => .ok seen
  | p :: rest, seen =>
    refuseOr (p.offence? retired seen) (pass retired rest (p.field.id :: seen))

/-- A pass over two lists is a pass over one after the other. -/
theorem pass_append (retired : List String) (ps qs : List Placed) (seen : List String) :
    pass retired (ps ++ qs) seen = pass retired ps seen >>= pass retired qs := by
  induction ps generalizing seen with
  | nil => rfl
  | cons p ps ih =>
    rw [List.cons_append, pass, pass]
    cases p.offence? retired seen with
    | some r => rfl
    | none => exact ih (p.field.id :: seen)

/-- A guard refuses before anything else is done. -/
theorem guard_eq {β : Type} {p : Prop} [Decidable p] {r : Refusal} {rest : Except Refusal β} :
    (do if p then throw r
        rest) = if p then .error r else rest := by
  split <;> rfl

/-- Sub-fields are checked as nested fields, under a section only. -/
theorem checkChildren_eq (retired : List String) (id : String) (type : FieldType)
    (subFields : Option (List Field)) (seen : List String) :
    checkChildren retired id type subFields seen =
      if subFields.getD [] ≠ [] ∧ type ≠ .repeatable then .error (.strayChildren id type)
      else checkList retired true (subFields.getD []) seen := by
  rcases subFields with _ | _ | ⟨f, fs⟩
  · simp [checkChildren, checkList]
  · simp [checkChildren, checkList]
  · rw [checkChildren, guard_eq]
    simp [checkList]

/-- A field is checked for its own offences, and then its sub-fields are. -/
theorem check_eq (retired : List String) (nested : Bool) (f : Field) (seen : List String) :
    check retired nested f seen =
      refuseOr ((Placed.mk nested f).offence? retired seen)
        (checkList retired true f.children (f.id :: seen)) := by
  obtain ⟨id, type, _, _, _, _, options, _, conditions, subFields⟩ := f
  rw [check]
  simp only [guard_eq, checkChildren_eq, Placed.offence?, refuseOr_findSome?, FormRule.all,
    List.foldr_cons, List.foldr_nil, FormRule.refusal?, refuseOr_ite]
  rfl

/-- A list passes where each of its fields does. -/
theorem checkList_eq_pass_of_forall {retired : List String} {nested : Bool} {fs : List Field}
    (ih : ∀ f ∈ fs, ∀ seen, check retired nested f seen =
      pass retired (⟨nested, f⟩ :: (treeList f.children).map (.mk true)) seen)
    (seen : List String) :
    checkList retired nested fs seen = pass retired (document nested fs) seen := by
  induction fs generalizing seen with
  | nil => rfl
  | cons f fs ihl =>
    have hrest : checkList retired nested fs = pass retired (document nested fs) :=
      funext (ihl fun g hg => ih g (List.mem_cons_of_mem _ hg))
    rw [checkList, document_cons, pass_append, ih f List.mem_cons_self, hrest]

/-- Checking a field is passing over it and its sub-fields. -/
theorem check_eq_pass (retired : List String) (f : Field) : ∀ (nested : Bool) (seen : List String),
    check retired nested f seen =
      pass retired (⟨nested, f⟩ :: (treeList f.children).map (.mk true)) seen := by
  induction f using childrenInduction with
  | step f ih =>
    intro nested seen
    rw [check_eq, pass, checkList_eq_pass_of_forall fun g hg => ih g hg true, document_true]

/-- The check of a list of fields is a pass over its document. -/
theorem checkList_eq_pass (retired : List String) (nested : Bool) (fs : List Field)
    (seen : List String) :
    checkList retired nested fs seen = pass retired (document nested fs) seen :=
  checkList_eq_pass_of_forall (fun f _ => check_eq_pass retired f nested) seen

/-- A pass over a document that begins after the fields `start` fails at the first field that breaks a
rule. -/
theorem pass_eq_error {retired : List String} {start ps : List Placed} {r : Refusal}
    (h : pass retired ps (Placed.seenIds start) = .error r) :
    ∃ before p after, ps = before ++ p :: after ∧
      (∀ prior q rest, before = prior ++ q :: rest →
        q.offence? retired (Placed.seenIds (start ++ prior)) = none) ∧
      p.offence? retired (Placed.seenIds (start ++ before)) = some r := by
  -- By induction on the fields still to come; `start` holds those that have passed.
  induction ps generalizing start with
  | nil => cases h
  | cons p ps ih =>
    rw [pass] at h
    cases hp : p.offence? retired (Placed.seenIds start) with
    | some r' =>
      rw [hp] at h
      cases h
      refine ⟨[], p, ps, rfl, fun prior q rest hsplit => ?_, by rwa [List.append_nil]⟩
      exact absurd hsplit.symm (List.append_ne_nil_of_right_ne_nil prior (List.cons_ne_nil q rest))
    | none =>
      rw [hp, ← Placed.seenIds_append_singleton] at h
      obtain ⟨before, q, after, rfl, hbefore, hq⟩ := ih h
      refine ⟨p :: before, q, after, rfl, fun prior k rest hsplit => ?_, by simpa using hq⟩
      cases prior with
      | nil =>
        obtain ⟨rfl, _⟩ := List.cons.inj hsplit
        rwa [List.append_nil]
      | cons p' prior =>
        obtain ⟨rfl, rfl⟩ := List.cons.inj hsplit
        simpa using hbefore prior k rest rfl

end Field

/-! ### The check -/

/-- No field of the list, at any depth, breaks a rule. -/
structure Intact (retired : List String) (fields : List Field) : Prop where
  ids_nodup : ((Field.treeList fields).map (·.id)).Nodup
  unretired : ∀ f ∈ Field.treeList fields, f.id ∉ retired
  no_self_condition : ∀ f ∈ Field.treeList fields, ∀ c ∈ f.conditionList, c.source ≠ f.id
  choice_ids_nodup : ∀ f ∈ Field.treeList fields, (f.choices.map (·.id)).Nodup
  section_of_children : ∀ f ∈ Field.treeList fields, f.children ≠ [] → f.type = .repeatable
  plain_of_child : ∀ f ∈ Field.treeList fields, ∀ g ∈ f.children, g.type ≠ .repeatable

section Intact

variable {retired : List String} {fields : List Field}

/-- A field below another is a sub-field of one in its tree. -/
theorem Field.exists_parent (f : Field) :
    ∀ g ∈ treeList f.children, ∃ k ∈ f.tree, g ∈ k.children := by
  induction f using childrenInduction with
  | step f ih =>
    intro g hg
    rw [tree_eq]
    obtain ⟨c, hc, rfl | hg⟩ := mem_treeList.mp hg
    · exact ⟨f, List.mem_cons_self, hc⟩
    · obtain ⟨k, hk, hchild⟩ := ih c hc g hg
      rw [tree_eq] at hk
      exact ⟨k, List.mem_cons_of_mem _ (mem_treeList.mpr ⟨c, hc, List.mem_cons.mp hk⟩), hchild⟩

/-- An intact form is a sound one without retired identifiers. -/
theorem intact_iff :
    Intact retired fields ↔
      SoundFields fields ∧ ∀ id ∈ Field.allIdsList fields, id ∉ retired := by
  rw [Field.allIdsList_eq_treeList, List.forall_mem_map]
  have htop : ∀ f ∈ fields, f ∈ Field.treeList fields := fun f hf =>
    Field.mem_treeList.mpr ⟨f, hf, Or.inl rfl⟩
  constructor
  -- Nesting is one level deep, so what the rules say of parents covers the whole tree.
  · intro h
    refine ⟨⟨Field.allIdsList_eq_treeList fields ▸ h.ids_nodup, h.no_self_condition,
      h.choice_ids_nodup, fun f hf => h.section_of_children f (htop f hf), ?_⟩, h.unretired⟩
    intro f hf g hg
    obtain ⟨k, hk, hchild⟩ := f.exists_parent g hg
    rw [Field.tree_eq] at hk
    have hplain : g.type ≠ .repeatable :=
      h.plain_of_child k (Field.mem_treeList.mpr ⟨f, hf, List.mem_cons.mp hk⟩) g hchild
    refine ⟨hplain, ?_⟩
    by_contra hchildren
    exact hplain (h.section_of_children g (Field.mem_treeList.mpr ⟨f, hf, Or.inr hg⟩) hchildren)
  · rintro ⟨h, hunretired⟩
    refine ⟨Field.allIdsList_eq_treeList fields ▸ h.ids_nodup, hunretired, h.no_self_condition,
      h.choice_ids_nodup, fun g hg hchildren => ?_, fun g hg k hk => ?_⟩
    · obtain ⟨f, hf, rfl | hg⟩ := Field.mem_treeList.mp hg
      · exact h.section_of_children g hf hchildren
      · exact absurd (h.leaf_of_nested f hf g hg).2 hchildren
    · obtain ⟨f, hf, rfl | hg⟩ := Field.mem_treeList.mp hg
      · exact (h.leaf_of_nested g hf k (Field.mem_treeList.mpr ⟨k, hk, Or.inl rfl⟩)).1
      · rw [(h.leaf_of_nested f hf g hg).2] at hk
        cases hk

/-- The order of the top-level fields does not matter. -/
theorem Intact.perm {fields' : List Field} (h : Intact retired fields)
    (hperm : fields.Perm fields') : Intact retired fields' := by
  have htree : (Field.treeList fields).Perm (Field.treeList fields') := by
    rw [Field.treeList_eq_flatMap, Field.treeList_eq_flatMap]
    exact hperm.flatMap_right _
  have hmem (f : Field) (hf : f ∈ Field.treeList fields') : f ∈ Field.treeList fields :=
    htree.mem_iff.mpr hf
  exact {
    ids_nodup := (htree.map _).nodup_iff.mp h.ids_nodup
    unretired := fun f hf => h.unretired f (hmem f hf)
    no_self_condition := fun f hf => h.no_self_condition f (hmem f hf)
    choice_ids_nodup := fun f hf => h.choice_ids_nodup f (hmem f hf)
    section_of_children := fun f hf => h.section_of_children f (hmem f hf)
    plain_of_child := fun f hf => h.plain_of_child f (hmem f hf) }

/-- A form is accepted when no rule is broken in it. -/
theorem checkFields_eq_ok_iff_intact :
    checkFields fields retired = .ok () ↔ Intact retired fields := by
  rw [checkFields_eq_ok_iff, intact_iff]

end Intact

/-- `checkFields` accepts exactly the fields of which none breaks a rule.  A refusal names the first
field of the document that breaks one, and is of the family of the first rule that this field breaks.
The order of the top-level fields decides nothing but which field is refused. -/
theorem checkFields_exact (fields : List Field) (retired : List String) :
    (checkFields fields retired = .ok () ↔ Intact retired fields) ∧
      (∀ r, checkFields fields retired = .error r →
        ∃ before p after, Field.document false fields = before ++ p :: after ∧
          (∀ prior q rest, before = prior ++ q :: rest →
            ∀ rule : FormRule, ¬rule.Broken retired prior q) ∧
          r.fieldId = .str p.field.id ∧
          ∃ rule, FormRule.FirstBroken retired before p rule ∧ r.family = rule.family) ∧
      ∀ fields', fields.Perm fields' →
        (checkFields fields' retired = .ok () ↔ checkFields fields retired = .ok ()) := by
  refine ⟨checkFields_eq_ok_iff_intact, fun r h => ?_, fun fields' hperm => ?_⟩
  -- The check stops at the first field with an offence, and that field breaks a rule.
  · have hpass : Field.pass retired (Field.document false fields) (Placed.seenIds []) = .error r := by
      rw [← Field.checkList_eq_pass]
      show Field.checkList retired false fields [] = .error r
      unfold checkFields at h
      cases hlist : Field.checkList retired false fields [] with
      | error r' =>
        rw [hlist] at h
        cases h
        rfl
      | ok seen =>
        rw [hlist] at h
        cases h
    obtain ⟨before, p, after, hsplit, hbefore, hp⟩ := Field.pass_eq_error hpass
    obtain ⟨hid, hrule⟩ := Placed.firstBroken_of_offence? hp
    refine ⟨before, p, after, hsplit, fun prior q rest hq => ?_, hid, hrule⟩
    exact Placed.offence?_eq_none_iff.mp (hbefore prior q rest hq)
  · rw [checkFields_eq_ok_iff_intact, checkFields_eq_ok_iff_intact]
    exact ⟨fun h => h.perm hperm.symm, fun h => h.perm hperm⟩

/-- A section with a sub-field that has a condition on itself, and then a field with the same id. -/
def clashingFields : List Field :=
  [⟨"pets", .repeatable, "Pets", false, none, none, none, none, none,
      some [⟨"name", .text, "Name", false, none, none, none, none,
        some [⟨"name", .isEmpty, .null⟩], none⟩]⟩,
    ⟨"name", .text, "Name", false, none, none, none, none, none, none⟩]

/-- The sub-field comes first, so it is refused, and not the field that repeats its id. -/
theorem clashingFields_refused :
    checkFields clashingFields [] = .error (.selfCondition "name") ∧
      ∃ before p after, Field.document false clashingFields = before ++ p :: after ∧
        p.field.id = "name" ∧
        ∃ rule, FormRule.FirstBroken [] before p rule ∧ rule.family = .selfReference := by
  have hrefused : checkFields clashingFields [] = .error (.selfCondition "name") := rfl
  obtain ⟨before, p, after, hsplit, _, hid, rule, hfirst, hfamily⟩ :=
    (checkFields_exact clashingFields []).2.1 _ hrefused
  exact ⟨hrefused, before, p, after, hsplit, (Value.str.inj hid).symm, rule, hfirst, hfamily.symm⟩

end Questionnaire
