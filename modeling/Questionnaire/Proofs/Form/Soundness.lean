import Questionnaire.Form.Integrity
import Mathlib.Data.List.Nodup

/-!
# What the check of a list of fields says

`SoundFields` states the rules of sound forms about the tree of fields as a whole, without going
through it in any order.  `checkFields_eq_ok_iff` says that `checkFields` accepts exactly the sound
lists in which no id is retired.

`Field.check` passes the ids it has seen from one field to the next.  What such a pass says about
ids is `Admits`, which splits along `++` (`Admits.append_iff`); all else that is checked is local to
one field (`Field.Fit`).
-/

namespace Questionnaire

/-! ### The tree of fields -/

namespace Field

mutual

/-- A field and all its sub-fields, at any depth, in the order of the document. -/
def tree : Field → List Field
  | f@⟨_, _, _, _, _, _, _, _, _, subFields⟩ => f :: treeOpt subFields

/-- The trees of an optional list of fields. -/
def treeOpt : Option (List Field) → List Field
  | none => []
  | some fields => treeList fields

/-- The trees of a list of fields. -/
def treeList : List Field → List Field
  | [] => []
  | f :: fs => f.tree ++ treeList fs

end

theorem tree_eq (f : Field) : f.tree = f :: treeList f.children := by
  obtain ⟨_, _, _, _, _, _, _, _, _, subFields⟩ := f
  cases subFields <;> rfl

theorem allIds_eq (f : Field) : f.allIds = f.id :: allIdsList f.children := by
  obtain ⟨_, _, _, _, _, _, _, _, _, subFields⟩ := f
  cases subFields <;> rfl

mutual

theorem allIds_eq_tree : ∀ f : Field, f.allIds = f.tree.map (·.id)
  | ⟨_, _, _, _, _, _, _, _, _, none⟩ => rfl
  | ⟨_, _, _, _, _, _, _, _, _, some fields⟩ =>
    congrArg (List.cons _) (allIdsList_eq_treeList fields)

/-- The ids of fields are those of the fields in their trees. -/
theorem allIdsList_eq_treeList : ∀ fs : List Field, allIdsList fs = (treeList fs).map (·.id)
  | [] => rfl
  | f :: fs => by
    rw [allIdsList, treeList, List.map_append, allIds_eq_tree f, allIdsList_eq_treeList fs]

end

theorem allIdsList_eq_flatMap (fs : List Field) : allIdsList fs = fs.flatMap allIds := by
  induction fs with
  | nil => rfl
  | cons f fs ih => rw [allIdsList, ih, List.flatMap_cons]

theorem mem_treeList {g : Field} {fs : List Field} :
    g ∈ treeList fs ↔ ∃ f ∈ fs, g = f ∨ g ∈ treeList f.children := by
  induction fs with
  | nil => simp [treeList]
  | cons f fs ih =>
    rw [treeList, List.mem_append, ih, tree_eq, List.mem_cons, List.exists_mem_cons_iff]

theorem treeList_eq_flatMap (fs : List Field) : treeList fs = fs.flatMap tree := by
  induction fs with
  | nil => rfl
  | cons f fs ih => rw [treeList, ih, List.flatMap_cons]

theorem forall_treeList_iff {P : Field → Prop} {fs : List Field} :
    (∀ g ∈ treeList fs, P g) ↔ ∀ f ∈ fs, ∀ g ∈ f.tree, P g := by
  rw [treeList_eq_flatMap]
  simp only [List.mem_flatMap, forall_exists_index, and_imp]
  exact ⟨fun h f hf g hg => h g f hf hg, fun h g f hf hg => h f hf g hg⟩

/-- What holds in the tree of a field holds of the field and in the trees of its sub-fields. -/
theorem forall_tree_iff {P : Field → Prop} (f : Field) :
    (∀ g ∈ f.tree, P g) ↔ P f ∧ ∀ k ∈ f.children, ∀ g ∈ k.tree, P g := by
  rw [tree_eq, List.forall_mem_cons, forall_treeList_iff]

mutual

/-- The induction over a field, given for all fields of an optional list. -/
theorem forall_childrenOpt {P : Field → Prop} (step : ∀ f : Field, (∀ g ∈ f.children, P g) → P f) :
    ∀ fields : Option (List Field), ∀ g ∈ fields.getD [], P g
  | none, _, h => absurd h List.not_mem_nil
  | some fields, g, h => forall_childrenList step fields g h

/-- The induction over a field, given for all fields of a list. -/
theorem forall_childrenList {P : Field → Prop} (step : ∀ f : Field, (∀ g ∈ f.children, P g) → P f) :
    ∀ fields : List Field, ∀ g ∈ fields, P g
  | [], _, h => absurd h List.not_mem_nil
  | f :: fs, g, h => by
    rcases List.mem_cons.mp h with h | h
    · exact h ▸ childrenInduction step f
    · exact forall_childrenList step fs g h

/-- What holds of a field as soon as it holds of its sub-fields holds of every field. -/
theorem childrenInduction {P : Field → Prop} (step : ∀ f : Field, (∀ g ∈ f.children, P g) → P f) :
    ∀ f : Field, P f
  | ⟨_, _, _, _, _, _, _, _, _, subFields⟩ => step _ (forall_childrenOpt step subFields)

end

end Field

/-! ### The rules -/

/-- The rules of sound forms: no id occurs twice, no field has a condition on itself, the options of
each field have distinct ids, and only top-level repeatable sections have sub-fields. -/
structure SoundFields (fields : List Field) : Prop where
  ids_nodup : (Field.allIdsList fields).Nodup
  no_self_condition : ∀ f ∈ Field.treeList fields, ∀ c ∈ f.conditionList, c.source ≠ f.id
  choice_ids_nodup : ∀ f ∈ Field.treeList fields, (f.choices.map (·.id)).Nodup
  section_of_children : ∀ f ∈ fields, f.children ≠ [] → f.type = .repeatable
  leaf_of_nested : ∀ f ∈ fields, ∀ g ∈ Field.treeList f.children,
    g.type ≠ .repeatable ∧ g.children = []

/-- A form whose fields keep the rules. -/
def Schema.Sound (s : Schema) : Prop := SoundFields s.fields

namespace Field

/-- The rules that concern one field alone; `nested` tells whether it stands in a section. -/
structure Fit (nested : Bool) (f : Field) : Prop where
  no_self_condition : ∀ c ∈ f.conditionList, c.source ≠ f.id
  choice_ids_nodup : (f.choices.map (·.id)).Nodup
  plain_of_nested : nested = true → f.type ≠ .repeatable
  section_of_children : f.children ≠ [] → f.type = .repeatable

/-- A nested field that is fit has no sub-fields. -/
theorem Fit.children_eq_nil {f : Field} (h : f.Fit true) : f.children = [] := by
  by_contra hc
  exact h.plain_of_nested rfl (h.section_of_children hc)

end Field

/-- A sound form is one without repeated identifiers in which every field fits. -/
theorem soundFields_iff {fields : List Field} :
    SoundFields fields ↔ (Field.allIdsList fields).Nodup ∧
      ∀ f ∈ fields, f.Fit false ∧ ∀ g ∈ Field.treeList f.children, g.Fit true := by
  constructor
  · intro h
    refine ⟨h.ids_nodup, fun f hf => ⟨?_, fun g hg => ?_⟩⟩
    · have hm := Field.mem_treeList.mpr ⟨f, hf, Or.inl rfl⟩
      exact ⟨h.no_self_condition f hm, h.choice_ids_nodup f hm, by simp, h.section_of_children f hf⟩
    · have hm := Field.mem_treeList.mpr ⟨f, hf, Or.inr hg⟩
      obtain ⟨ht, hc⟩ := h.leaf_of_nested f hf g hg
      exact ⟨h.no_self_condition g hm, h.choice_ids_nodup g hm, fun _ => ht, fun hn => absurd hc hn⟩
  -- Any field of the tree is a top-level one or nested in one, and fits as such.
  · rintro ⟨hn, h⟩
    have hfit : ∀ g ∈ Field.treeList fields, ∃ nested, g.Fit nested := by
      intro g hg
      obtain ⟨f, hf, rfl | hg⟩ := Field.mem_treeList.mp hg
      · exact ⟨false, (h g hf).1⟩
      · exact ⟨true, (h f hf).2 g hg⟩
    refine ⟨hn, fun g hg => ?_, fun g hg => ?_, fun f hf => (h f hf).1.section_of_children, ?_⟩
    · obtain ⟨_, hg⟩ := hfit g hg
      exact hg.no_self_condition
    · obtain ⟨_, hg⟩ := hfit g hg
      exact hg.choice_ids_nodup
    · intro f hf g hg
      have hg := (h f hf).2 g hg
      exact ⟨hg.plain_of_nested rfl, hg.children_eq_nil⟩

/-! ### The pass over the ids -/

/-- A pass over `ids` that began with the ids `seen` meets none of them, none that is retired and
none twice, and ends with `seen'`. -/
structure Admits (retired ids seen seen' : List String) : Prop where
  nodup : ids.Nodup
  unseen : ∀ id ∈ ids, id ∉ seen
  unretired : ∀ id ∈ ids, id ∉ retired
  seen_eq : seen' = ids.reverse ++ seen

namespace Admits

variable {retired ids seen seen' : List String}

theorem nil_iff : Admits retired [] seen seen' ↔ seen' = seen := by
  constructor
  · rintro ⟨_, _, _, h⟩
    exact h
  · rintro rfl
    exact ⟨List.nodup_nil, by simp, by simp, rfl⟩

/-- A pass over two lists of ids is one pass after the other. -/
theorem append_iff {as bs : List String} :
    Admits retired (as ++ bs) seen seen' ↔
      ∃ mid, Admits retired as seen mid ∧ Admits retired bs mid seen' := by
  constructor
  -- The identifiers of both parts are new, and those of the second are new after the first.
  · rintro ⟨hn, hu, hr, rfl⟩
    obtain ⟨ha, hb, hab⟩ := List.nodup_append.mp hn
    refine ⟨as.reverse ++ seen, ⟨ha, ?_, ?_, rfl⟩, hb, ?_, ?_, by simp⟩
    · exact fun id h => hu id (List.mem_append_left _ h)
    · exact fun id h => hr id (List.mem_append_left _ h)
    · intro id h hs
      rcases List.mem_append.mp hs with h' | h'
      · exact hab id (List.mem_reverse.mp h') id h rfl
      · exact hu id (List.mem_append_right _ h) h'
    · exact fun id h => hr id (List.mem_append_right _ h)
  · rintro ⟨_, ⟨ha, hua, hra, rfl⟩, hb, hub, hrb, rfl⟩
    refine ⟨List.nodup_append.mpr ⟨ha, hb, ?_⟩, ?_, ?_, by simp⟩
    · rintro x hx y hy rfl
      exact hub x hy (List.mem_append_left _ (List.mem_reverse.mpr hx))
    · intro id h
      rcases List.mem_append.mp h with h | h
      · exact hua id h
      · exact fun hs => hub id h (List.mem_append_right _ hs)
    · intro id h
      rcases List.mem_append.mp h with h | h
      · exact hra id h
      · exact hrb id h

theorem singleton_iff {id : String} :
    Admits retired [id] seen seen' ↔ id ∉ seen ∧ id ∉ retired ∧ seen' = id :: seen := by
  constructor
  · rintro ⟨_, hu, hr, rfl⟩
    exact ⟨hu id (by simp), hr id (by simp), rfl⟩
  · rintro ⟨hu, hr, rfl⟩
    exact ⟨List.nodup_singleton id, by simpa using hu, by simpa using hr, rfl⟩

theorem cons_iff {id : String} :
    Admits retired (id :: ids) seen seen' ↔
      id ∉ seen ∧ id ∉ retired ∧ Admits retired ids (id :: seen) seen' := by
  rw [← List.singleton_append, append_iff]
  constructor
  · rintro ⟨_, h, h'⟩
    obtain ⟨hu, hr, rfl⟩ := singleton_iff.mp h
    exact ⟨hu, hr, h'⟩
  · rintro ⟨hu, hr, h⟩
    exact ⟨_, singleton_iff.mpr ⟨hu, hr, rfl⟩, h⟩

end Admits

/-! ### The check -/

namespace Field

theorem hasDuplicateChoice_eq_false_iff {os : List Choice} :
    hasDuplicateChoice os = false ↔ (os.map (·.id)).Nodup := by
  induction os with
  | nil => simp [hasDuplicateChoice]
  | cons o os ih =>
    rw [hasDuplicateChoice, Bool.or_eq_false_iff, ih, List.map_cons, List.nodup_cons,
      List.any_eq_false]
    refine and_congr_left fun _ => ⟨?_, ?_⟩
    · intro h hm
      obtain ⟨p, hp, he⟩ := List.mem_map.mp hm
      exact h p hp (by simpa using he)
    · intro h p hp he
      exact h (List.mem_map.mpr ⟨p, hp, by simpa using he⟩)

/-- A check that starts with a guard succeeds iff the guard lets it and the rest succeeds. -/
theorem guard_eq_ok_iff {β : Type} {p : Prop} [Decidable p] {r : Refusal} {rest : Except Refusal β}
    {b : β} :
    (do if p then throw r
        rest) = Except.ok b ↔ ¬p ∧ rest = .ok b := by
  by_cases h : p
  · simp [h, throw, throwThe, MonadExceptOf.throw, bind, Except.bind]
  · simp [h]

variable {retired : List String}

theorem checkList_cons_eq_ok_iff {nested : Bool} {f : Field} {fs : List Field}
    {seen seen' : List String} :
    checkList retired nested (f :: fs) seen = .ok seen' ↔
      ∃ mid, check retired nested f seen = .ok mid ∧
        checkList retired nested fs mid = .ok seen' := by
  rw [checkList]
  cases check retired nested f seen <;> simp [bind, Except.bind]

theorem checkChildren_eq_ok_iff {id : String} {type : FieldType} {subFields : Option (List Field)}
    {seen seen' : List String} :
    checkChildren retired id type subFields seen = .ok seen' ↔
      (subFields.getD [] ≠ [] → type = .repeatable) ∧
        checkList retired true (subFields.getD []) seen = .ok seen' := by
  rcases subFields with _ | _ | ⟨f, fs⟩
  · simp [checkChildren, checkList]
  · simp [checkChildren, checkList]
  · rw [checkChildren, guard_eq_ok_iff]
    simp [checkList]

/-- The check of one field, with the check of its sub-fields left. -/
theorem check_eq_ok_iff {nested : Bool} {f : Field} {seen seen' : List String} :
    check retired nested f seen = .ok seen' ↔ f.Fit nested ∧ f.id ∉ seen ∧ f.id ∉ retired ∧
      checkList retired true f.children (f.id :: seen) = .ok seen' := by
  obtain ⟨id, type, _, _, _, _, options, _, conditions, subFields⟩ := f
  rw [check]
  simp only [guard_eq_ok_iff, checkChildren_eq_ok_iff, Bool.not_eq_true,
    hasDuplicateChoice_eq_false_iff, List.any_eq_false, decide_eq_true_eq, not_and]
  constructor
  · rintro ⟨hs, hr, hc, ho, hn, ht, h⟩
    exact ⟨⟨hc, ho, hn, ht⟩, hs, hr, h⟩
  · rintro ⟨⟨hc, ho, hn, ht⟩, hs, hr, h⟩
    exact ⟨hs, hr, hc, ho, hn, ht, h⟩

/-- The check of a list, given what the check says of each of its fields. -/
theorem checkList_eq_ok_iff_of_forall {nested : Bool} {fs : List Field}
    (ih : ∀ f ∈ fs, ∀ seen seen', check retired nested f seen = .ok seen' ↔
      (f.Fit nested ∧ ∀ g ∈ treeList f.children, g.Fit true) ∧ Admits retired f.allIds seen seen')
    {seen seen' : List String} :
    checkList retired nested fs seen = .ok seen' ↔
      (∀ f ∈ fs, f.Fit nested ∧ ∀ g ∈ treeList f.children, g.Fit true) ∧
        Admits retired (allIdsList fs) seen seen' := by
  -- By induction on the fields: each is checked against what the ones before it have left.
  induction fs generalizing seen with
  | nil =>
    rw [checkList, allIdsList, Admits.nil_iff]
    simp [pure, Except.pure, eq_comm]
  | cons f fs ihl =>
    rw [checkList_cons_eq_ok_iff, allIdsList, Admits.append_iff, List.forall_mem_cons]
    have hf := ih f List.mem_cons_self
    have hfs (mid : List String) : checkList retired nested fs mid = .ok seen' ↔ _ :=
      ihl fun g hg => ih g (List.mem_cons_of_mem _ hg)
    constructor
    · rintro ⟨mid, h, h'⟩
      obtain ⟨ht, ha⟩ := (hf seen mid).mp h
      obtain ⟨hts, has⟩ := (hfs mid).mp h'
      exact ⟨⟨ht, hts⟩, mid, ha, has⟩
    · rintro ⟨⟨ht, hts⟩, mid, ha, has⟩
      exact ⟨mid, (hf seen mid).mpr ⟨ht, ha⟩, (hfs mid).mpr ⟨hts, has⟩⟩

/-- The check of a field succeeds iff the field and all below it are fit and the pass over their ids
succeeds. -/
theorem check_eq_ok_iff_fit (f : Field) : ∀ (nested : Bool) (seen seen' : List String),
    check retired nested f seen = .ok seen' ↔
      (f.Fit nested ∧ ∀ g ∈ treeList f.children, g.Fit true) ∧
        Admits retired f.allIds seen seen' := by
  induction f using childrenInduction with
  | step f ih =>
    intro nested seen seen'
    have hsub : (∀ g ∈ treeList f.children, g.Fit true) ↔
        ∀ g ∈ f.children, g.Fit true ∧ ∀ k ∈ treeList g.children, k.Fit true := by
      constructor
      · intro h g hg
        exact ⟨h g (mem_treeList.mpr ⟨g, hg, Or.inl rfl⟩),
          fun k hk => h k (mem_treeList.mpr ⟨g, hg, Or.inr hk⟩)⟩
      · intro h k hk
        obtain ⟨g, hg, rfl | hk⟩ := mem_treeList.mp hk
        · exact (h k hg).1
        · exact (h g hg).2 k hk
    -- The sub-fields are checked as nested ones, after the id of the field has been seen.
    rw [check_eq_ok_iff, checkList_eq_ok_iff_of_forall fun g hg => ih g hg true, allIds_eq,
      Admits.cons_iff, hsub]
    tauto

theorem checkList_eq_ok_iff {nested : Bool} {fs : List Field} {seen seen' : List String} :
    checkList retired nested fs seen = .ok seen' ↔
      (∀ f ∈ fs, f.Fit nested ∧ ∀ g ∈ treeList f.children, g.Fit true) ∧
        Admits retired (allIdsList fs) seen seen' :=
  checkList_eq_ok_iff_of_forall fun f _ => check_eq_ok_iff_fit f nested

end Field

/-- `checkFields` accepts the sound lists of fields without retired ids, and no other. -/
theorem checkFields_eq_ok_iff {fields : List Field} {retired : List String} :
    checkFields fields retired = .ok () ↔
      SoundFields fields ∧ ∀ id ∈ Field.allIdsList fields, id ∉ retired := by
  have hcheck : checkFields fields retired = .ok () ↔
      ∃ seen', Field.checkList retired false fields [] = .ok seen' := by
    unfold checkFields
    cases Field.checkList retired false fields [] <;> simp [bind, Except.bind, pure, Except.pure]
  rw [hcheck, soundFields_iff]
  constructor
  · rintro ⟨seen', h⟩
    obtain ⟨hfit, ha⟩ := Field.checkList_eq_ok_iff.mp h
    exact ⟨⟨ha.nodup, hfit⟩, ha.unretired⟩
  · rintro ⟨⟨hn, hfit⟩, hr⟩
    exact ⟨_, Field.checkList_eq_ok_iff.mpr ⟨hfit, hn, by simp, hr, rfl⟩⟩

/-! ### Ids of one level -/

namespace Field

theorem sublist_allIdsList (fs : List Field) : (fs.map (·.id)).Sublist (allIdsList fs) := by
  induction fs with
  | nil => exact List.Sublist.slnil
  | cons f fs ih =>
    rw [List.map_cons, allIdsList, allIds_eq, List.cons_append]
    exact (ih.trans (List.sublist_append_right _ _)).cons_cons f.id

theorem sublist_allIdsList_children (fs : List Field) :
    ((fs.flatMap (·.children)).map (·.id)).Sublist (allIdsList fs) := by
  induction fs with
  | nil => exact List.Sublist.slnil
  | cons f fs ih =>
    rw [List.flatMap_cons, List.map_append, allIdsList, allIds_eq]
    exact ((sublist_allIdsList f.children).cons f.id).append ih

end Field

theorem SoundFields.nodup_ids {fields : List Field} (h : SoundFields fields) :
    (fields.map (·.id)).Nodup :=
  h.ids_nodup.sublist (Field.sublist_allIdsList fields)

theorem SoundFields.nodup_childIds {fields : List Field} (h : SoundFields fields) :
    ((fields.flatMap (·.children)).map (·.id)).Nodup :=
  h.ids_nodup.sublist (Field.sublist_allIdsList_children fields)

/-! ### Finding fields -/

theorem Value.isText_iff {v : Value} {s : String} : v.isText s = true ↔ v = .str s := by
  cases v <;> simp [Value.isText, Value.text?]

/-- What is found under an id is among what is searched, and has this id. -/
theorem Value.of_find?_isText {α : Type} {key : α → String} {as : List α} {id : Value} {a : α}
    (h : (as.find? fun b => id.isText (key b)) = some a) : a ∈ as ∧ id = .str (key a) := by
  have hid := @List.find?_some _ (fun b => id.isText (key b)) _ as h
  exact ⟨List.mem_of_find?_eq_some h, isText_iff.mp hid⟩

/-- Among fields with distinct ids each is found under its id. -/
theorem Field.find?_id {fields : List Field} (hn : (fields.map (·.id)).Nodup) {f : Field}
    (hf : f ∈ fields) : (fields.find? fun g => (Value.str f.id).isText g.id) = some f := by
  cases hg : fields.find? fun g => (Value.str f.id).isText g.id with
  | none => exact absurd (Value.isText_iff.mpr rfl) (List.find?_eq_none.mp hg f hf)
  | some g =>
    obtain ⟨hmem, hid⟩ := Value.of_find?_isText hg
    rw [List.inj_on_of_nodup_map hn hmem hf (Value.str.inj hid).symm]

/-- In a sound form a field is found under its id. -/
theorem Schema.Sound.field?_id {schema : Schema} (h : schema.Sound) {f : Field}
    (hf : f ∈ schema.fields) : schema.field? (.str f.id) = some f :=
  Field.find?_id h.nodup_ids hf

end Questionnaire
