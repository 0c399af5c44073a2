import Mathlib.Data.List.Pairwise
import Questionnaire.Builder.Place
import Questionnaire.Proofs.Lists
import Questionnaire.Proofs.Store.Commit

/-!
# Places in sound forms

In a sound form the id of a field leads to the place where it stands, at the top or in a section
(`Schema.Sound.locate_eq_ok_iff`).  Another field that is put there takes the place of this one, and
nothing else changes (`Schema.Sound.replaced`).  If the two differ in nothing that the rules of forms
are about but their options, the new form is taken up iff the options have distinct ids
(`Schema.Replaced.commit_eq_ok_iff`).
-/

namespace Questionnaire

namespace Schema

/-- A form has a place: the field stands at the top, or in a section that stands at the top. -/
def Has (s : Schema) (place : Place) : Prop :=
  match place.owner? with
  | none => place.field ∈ s.fields
  | some p => p ∈ s.fields ∧ place.field ∈ p.children

/-- The form with another field at a place. -/
def putAt (s : Schema) (place : Place) (g : Field) : Schema :=
  match place.owner? with
  | none => s.putField place.field.id g
  | some p => s.putField p.id (p.putChild place.field.id g)

/-- One field has taken the place of another, at the top or in a section, and all else is as it
was. -/
inductive Replaced (f g : Field) : Schema → Schema → Prop
  | top {s : Schema} {before after : List Field} (h : s.fields = before ++ f :: after) :
    Replaced f g s { s with fields := before ++ g :: after }
  | nested {s : Schema} {before after : List Field} {p : Field} {left right : List Field}
    (h : s.fields = before ++ p :: after) (hp : p.subFields = some (left ++ f :: right)) :
    Replaced f g s { s with
      fields := before ++ { p with subFields := some (left ++ g :: right) } :: after }

/-! ### What an id finds -/

variable {s : Schema} {f : Field} {id : Value}

theorem has_top (h : f ∈ s.fields) : s.Has ⟨none, f⟩ := h

theorem mem_treeList_of_has {place : Place} (h : s.Has place) :
    place.field ∈ Field.treeList s.fields := by
  obtain ⟨_ | p, f⟩ := place
  · exact Field.mem_treeList.mpr ⟨f, h, Or.inl rfl⟩
  · obtain ⟨hp, hf⟩ : p ∈ s.fields ∧ f ∈ p.children := h
    exact Field.mem_treeList.mpr ⟨p, hp, Or.inr (Field.mem_treeList.mpr ⟨f, hf, Or.inl rfl⟩)⟩

theorem of_locate {place : Place} (h : s.locate id = .ok place) :
    s.Has place ∧ id = .str place.field.id := by
  unfold locate at h
  split at h
  · cases h
    exact Value.of_find?_isText ‹_›
  · split at h
    · rename_i p hp
      split at h
      · cases h
        obtain ⟨hf, hid⟩ := Value.of_find?_isText ‹_›
        exact ⟨⟨List.mem_of_find?_eq_some hp, hf⟩, hid⟩
      · exact absurd h Outcome.refuse_ne_ok
    · exact absurd h Outcome.refuse_ne_ok

theorem of_conditioned (h : s.conditioned id = .ok f) : f ∈ s.fields ∧ id = .str f.id := by
  unfold conditioned at h
  split at h
  · cases h
    exact Value.of_find?_isText ‹_›
  · split at h
    · exact absurd h Outcome.refuse_ne_ok
    · exact absurd h Outcome.refuse_ne_ok

theorem of_sectionOf (h : s.sectionOf id = .ok f) : f ∈ s.fields ∧ id = .str f.id := by
  unfold sectionOf at h
  split at h
  · exact absurd h Outcome.refuse_ne_ok
  · split at h
    · cases h
      exact Value.of_find?_isText ‹_›
    · exact absurd h Outcome.refuse_ne_ok

end Schema

namespace Field

theorem of_requireChild {p f : Field} {id : Value} (h : p.requireChild id = .ok f) :
    f ∈ p.children ∧ id = .str f.id := by
  unfold requireChild at h
  split at h
  · cases h
    exact Value.of_find?_isText ‹_›
  · exact absurd h Outcome.refuse_ne_ok

theorem of_requireChoice {f : Field} {id option : Value} {o : Choice}
    (h : f.requireChoice id option = .ok o) : o ∈ f.choices ∧ option = .str o.id := by
  unfold requireChoice at h
  split at h
  · cases h
    exact Value.of_find?_isText ‹_›
  · exact absurd h Outcome.refuse_ne_ok

end Field

theorem Store.putAt_eq_commit (s : Store) (place : Place) (g : Field) :
    s.putAt place g = s.commit (s.schema.putAt place g) := by
  unfold putAt Schema.putAt
  cases place.owner? with
  | none => rfl
  | some p => rfl

namespace Schema.Sound

variable {s : Schema} (h : s.Sound)
include h

/-! ### Where an id leads -/

theorem nodup_allIds {p : Field} (hp : p ∈ s.fields) : p.allIds.Nodup := by
  have hnodup := h.ids_nodup
  rw [Field.allIdsList_eq_flatMap] at hnodup
  exact (List.nodup_flatMap.mp hnodup).1 p hp

theorem nodup_children {p : Field} (hp : p ∈ s.fields) : (p.children.map (·.id)).Nodup := by
  have hnodup := h.nodup_allIds hp
  rw [Field.allIds_eq] at hnodup
  exact hnodup.of_cons.sublist (Field.sublist_allIdsList p.children)

/-- Two top-level fields share no id, neither of their own nor of a field below them. -/
theorem eq_of_mem_allIds {p q : Field} (hp : p ∈ s.fields) (hq : q ∈ s.fields) {id : String}
    (hpid : id ∈ p.allIds) (hqid : id ∈ q.allIds) : p = q := by
  have hnodup := h.ids_nodup
  rw [Field.allIdsList_eq_flatMap] at hnodup
  -- The ids of different top-level fields are disjoint.
  by_contra hne
  have : Std.Symm (Function.onFun List.Disjoint Field.allIds) := ⟨fun _ _ hd _ hp hq => hd hq hp⟩
  exact (List.nodup_flatMap.mp hnodup).2.forall hp hq hne hpid hqid

theorem child?_id {p f : Field} (hp : p ∈ s.fields) (hf : f ∈ p.children) :
    p.child? (.str f.id) = some f :=
  Field.find?_id (h.nodup_children hp) hf

/-- The id of a sub-field is none of a top-level field. -/
theorem field?_child {p f : Field} (hp : p ∈ s.fields) (hf : f ∈ p.children) :
    s.field? (.str f.id) = none := by
  have hbelow : f.id ∈ Field.allIdsList p.children :=
    (Field.sublist_allIdsList p.children).subset (List.mem_map_of_mem hf)
  rw [Schema.field?, List.find?_eq_none]
  intro q hq hid
  have hid : f.id = q.id := Value.str.inj (Value.isText_iff.mp hid)
  have hown : f.id ∈ q.allIds := by
    rw [Field.allIds_eq, hid]
    exact List.mem_cons_self
  have hpid : f.id ∈ p.allIds := by
    rw [Field.allIds_eq]
    exact List.mem_cons_of_mem _ hbelow
  obtain rfl := h.eq_of_mem_allIds hp hq hpid hown
  have hnodup := h.nodup_allIds hp
  rw [Field.allIds_eq, ← hid] at hnodup
  exact (List.nodup_cons.mp hnodup).1 hbelow

theorem parent?_child {p f : Field} (hp : p ∈ s.fields) (hf : f ∈ p.children) :
    s.parent? (.str f.id) = some p := by
  have hfound : (p.child? (.str f.id)).isSome := by rw [h.child?_id hp hf]; rfl
  have hmem {q k : Field} (hk : k ∈ q.children) : k.id ∈ q.allIds := by
    rw [Field.allIds_eq]
    exact List.mem_cons_of_mem _
      ((Field.sublist_allIdsList q.children).subset (List.mem_map_of_mem hk))
  unfold Schema.parent?
  cases hq : s.fields.find? fun q => (q.child? (.str f.id)).isSome with
  | none => exact absurd hfound (List.find?_eq_none.mp hq p hp)
  | some q =>
    -- The section that is found has a sub-field with the id of `f`, so it is `p`.
    obtain ⟨k, hk⟩ := Option.isSome_iff_exists.mp (@List.find?_some Field _ q _ hq)
    obtain ⟨hkmem, hkid⟩ := Value.of_find?_isText hk
    have hqid : f.id ∈ q.allIds := Value.str.inj hkid ▸ hmem hkmem
    rw [h.eq_of_mem_allIds hp (List.mem_of_find?_eq_some hq) (hmem hf) hqid]

/-- An id leads to the one place where a field with it stands. -/
theorem locate_eq_ok_iff {place : Place} {id : String} :
    s.locate (.str id) = .ok place ↔ s.Has place ∧ place.field.id = id := by
  constructor
  · intro hlocate
    obtain ⟨hplace, hid⟩ := Schema.of_locate hlocate
    exact ⟨hplace, (Value.str.inj hid).symm⟩
  · rintro ⟨hplace, rfl⟩
    obtain ⟨_ | p, f⟩ := place
    · have hf : f ∈ s.fields := hplace
      unfold Schema.locate
      rw [h.field?_id hf]
    · obtain ⟨hp, hf⟩ : p ∈ s.fields ∧ f ∈ p.children := hplace
      unfold Schema.locate
      rw [h.field?_child hp hf, h.parent?_child hp hf]
      dsimp only
      rw [h.child?_id hp hf]

/-- The section that a field stands in is one. -/
theorem sectionOf_owner {p f : Field} (hp : p ∈ s.fields) (hf : f ∈ p.children) :
    s.sectionOf (.str p.id) = .ok p := by
  have htype : p.type = .repeatable := h.section_of_children p hp (List.ne_nil_of_mem hf)
  unfold Schema.sectionOf
  rw [h.field?_id hp]
  exact if_pos htype

/-! ### Replacing a field -/

omit h in
/-- Among fields with distinct ids, one is replaced by its id. -/
theorem exists_split {fields : List Field} (hn : (fields.map (·.id)).Nodup) {f : Field}
    (hf : f ∈ fields) (g : Field) : ∃ before after, fields = before ++ f :: after ∧
      (fields.map fun k => if k.id = f.id then g else k) = before ++ g :: after := by
  obtain ⟨before, after, rfl⟩ := List.append_of_mem hf
  exact ⟨before, after, rfl, map_at_key hn fun _ => g⟩

/-- What is put at a place takes the place of the field there. -/
theorem replaced {place : Place} (hplace : s.Has place) (g : Field) :
    Replaced place.field g s (s.putAt place g) := by
  obtain ⟨_ | p, f⟩ := place
  -- At the top level the field is the one with its identifier.
  · obtain ⟨before, after, hfields, hmap⟩ := exists_split h.nodup_ids hplace g
    show Replaced f g s { s with fields := s.fields.map fun k => if k.id = f.id then g else k }
    rw [hmap]
    exact .top hfields
  · obtain ⟨hp, hf⟩ : p ∈ s.fields ∧ f ∈ p.children := hplace
    -- In a section it is found twice: the section among the fields, and the sub-field within it.
    obtain ⟨left, right, hchildren, hmap⟩ := exists_split (h.nodup_children hp) hf g
    obtain ⟨before, after, hfields, hput⟩ := exists_split h.nodup_ids hp (p.putChild f.id g)
    have hsubFields : p.subFields = some (left ++ f :: right) := by
      unfold Field.children at hf hchildren
      cases hp : p.subFields with
      | none =>
        rw [hp] at hf
        cases hf
      | some fields =>
        rw [hp] at hchildren
        exact congrArg some hchildren
    show Replaced f g s
      { s with fields := s.fields.map fun k => if k.id = p.id then p.putChild f.id g else k }
    rw [hput]
    unfold Field.putChild
    rw [hmap]
    exact .nested hfields hsubFields

end Schema.Sound

namespace Schema.Replaced

variable {f g : Field} {s s' : Schema} (h : Replaced f g s s')
include h

/-! ### The rules of forms -/

section Alike

variable (hid : g.id = f.id) (htype : g.type = f.type) (hconditions : g.conditions = f.conditions)
  (hsubFields : g.subFields = f.subFields)

omit h in
include hid hsubFields in
theorem allIds_eq : g.allIds = f.allIds := by
  rw [Field.allIds_eq, Field.allIds_eq]
  unfold Field.children
  rw [hid, hsubFields]

include hid hsubFields in
/-- A field with the same id and the same fields below it leaves the form with the ids that it
had. -/
theorem allFieldIds_eq : s'.allFieldIds = s.allFieldIds := by
  -- A field of the same identifiers adds the same ones to any list.
  have hlist (before after : List Field) :
      Field.allIdsList (before ++ g :: after) = Field.allIdsList (before ++ f :: after) := by
    simp only [Field.allIdsList_eq_flatMap, List.flatMap_append, List.flatMap_cons,
      allIds_eq hid hsubFields]
  unfold Schema.allFieldIds
  cases h with
  | top h =>
    rw [h]
    exact hlist _ _
  | @nested before after p left right h hp =>
    have hsection : Field.allIds { p with subFields := some (left ++ g :: right) } = p.allIds := by
      rw [Field.allIds_eq, Field.allIds_eq]
      unfold Field.children
      rw [hp]
      exact congrArg _ (hlist left right)
    simp only [h, Field.allIdsList_eq_flatMap, List.flatMap_append, List.flatMap_cons, hsection]

omit h in
include hid htype hconditions hsubFields in
/-- A field that is like one that fits does so as well iff its options have distinct ids. -/
theorem fit_iff {nested : Bool} (hf : f.Fit nested) :
    g.Fit nested ↔ (g.choices.map (·.id)).Nodup := by
  refine ⟨fun hg => hg.choice_ids_nodup, fun hg => ⟨?_, hg, ?_, ?_⟩⟩
  · unfold Field.conditionList
    rw [hconditions, hid]
    exact hf.no_self_condition
  · rw [htype]
    exact hf.plain_of_nested
  · unfold Field.children
    rw [hsubFields, htype]
    exact hf.section_of_children

include hid htype hconditions hsubFields in
/-- The form remains sound under a field like the one before it iff the options of this field have
distinct ids. -/
theorem sound_iff (hs : s.Sound) : s'.Sound ↔ (g.choices.map (·.id)).Nodup := by
  have hids := h.allFieldIds_eq hid hsubFields
  obtain ⟨hnodup, hfit⟩ := soundFields_iff.mp hs
  have hsound : s'.Sound ↔
      ∀ k ∈ s'.fields, k.Fit false ∧ ∀ k' ∈ Field.treeList k.children, k'.Fit true := by
    refine soundFields_iff.trans ((and_iff_right ?_))
    show s'.allFieldIds.Nodup
    rw [hids]
    exact hnodup
  have hlike {nested : Bool} (hf : f.Fit nested) := fit_iff hid htype hconditions hsubFields hf
  have hbelow : g.children = f.children := by
    unfold Field.children
    rw [hsubFields]
  rw [hsound]
  cases h with
  | top h =>
    simp only [h, List.forall_mem_append, List.forall_mem_cons] at hfit
    obtain ⟨hbefore, ⟨hf, hchildren⟩, hafter⟩ := hfit
    simp only [List.forall_mem_append, List.forall_mem_cons, hlike hf, hbelow]
    constructor
    · rintro ⟨-, ⟨hg, -⟩, -⟩
      exact hg
    · intro hg
      exact ⟨hbefore, ⟨hg, hchildren⟩, hafter⟩
  | @nested before after p left right h hp =>
    have hchildren : p.children = left ++ f :: right := by
      unfold Field.children
      rw [hp]
      rfl
    simp only [h, List.forall_mem_append, List.forall_mem_cons, hchildren, Field.treeList_eq_flatMap,
      List.flatMap_append, List.flatMap_cons, Field.tree_eq f] at hfit
    obtain ⟨hbefore, ⟨hsection, hleft, ⟨hf, htree⟩, hright⟩, hafter⟩ := hfit
    -- The section itself fits as before: it has the same conditions and options, and sub-fields.
    have hput : Field.Fit false { p with subFields := some (left ++ g :: right) } :=
      ⟨hsection.no_self_condition, hsection.choice_ids_nodup, nofun, fun _ =>
        hsection.section_of_children (by simp [hchildren])⟩
    have hputChildren : Field.children { p with subFields := some (left ++ g :: right) } =
      left ++ g :: right := rfl
    simp only [List.forall_mem_append, List.forall_mem_cons, hputChildren, Field.treeList_eq_flatMap,
      List.flatMap_append, List.flatMap_cons, Field.tree_eq g, hbelow, hlike hf]
    constructor
    · rintro ⟨-, ⟨-, -, ⟨hg, -⟩, -⟩, -⟩
      exact hg
    · intro hg
      exact ⟨hbefore, ⟨hput, hleft, ⟨hg, htree⟩, hright⟩, hafter⟩

end Alike
end Schema.Replaced

/-- A store takes up its form with a field like the one before it iff the options of this field have
distinct ids. -/
theorem Schema.Replaced.commit_eq_ok_iff {f g : Field} {s t : Store} {schema : Schema}
    (h : Replaced f g s.schema schema) (hs : s.schema.Sound) (hid : g.id = f.id)
    (htype : g.type = f.type) (hconditions : g.conditions = f.conditions)
    (hsubFields : g.subFields = f.subFields) :
    s.commit schema = .ok t ↔ (g.choices.map (·.id)).Nodup ∧
      t = ⟨schema, Store.record s.issued schema.allFieldIds⟩ := by
  rw [Store.commit_eq_ok_iff, ← h.sound_iff hid htype hconditions hsubFields hs]
  refine and_congr_right fun _ => and_iff_right fun id hmem hretired => ?_
  rw [h.allFieldIds_eq hid hsubFields] at hmem
  exact (Store.mem_retired.mp hretired).2 hmem

end Questionnaire
