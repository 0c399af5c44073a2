import Questionnaire.Proofs.Builder.Place
import Questionnaire.Proofs.Store.Reordering

/-!
# Look-ups that agree

The ids of a form are gathered at any depth, while the look-ups see only the fields at the top and
the fields one level below them, and each takes the first that it meets.  In a sound form all say
the same.  Every id belongs to a field at one place (`Schema.Sound.mem_allFieldIds_iff`,
`Schema.Sound.place_unique`), and each look-up tells something of this place: `find?` the field,
`parent?` the section that it stands in, and `field?` the field if it stands in none.
-/

namespace Questionnaire

/-- The look-ups of a form say the same about an id. -/
structure Schema.LookupsAgree (s : Schema) (id : String) : Prop where
  mem_iff : id ∈ s.allFieldIds ↔ (s.find? (.str id)).isSome
  /-- The id occurs once, and at the field that is found. -/
  once : id ∈ s.allFieldIds → s.allFieldIds.count id = 1
  id_eq : ∀ f, s.find? (.str id) = some f → f.id = id
  /-- The id is either one of a top-level field or one of a field in a section. -/
  one_of : id ∈ s.allFieldIds →
    ((s.field? (.str id)).isSome ↔ ¬(s.parent? (.str id)).isSome)
  of_field? : ∀ f, s.field? (.str id) = some f → s.find? (.str id) = some f
  of_parent? : ∀ p, s.parent? (.str id) = some p →
    p ∈ s.fields ∧ p.type = .repeatable ∧
      ∃ f, p.child? (.str id) = some f ∧ s.find? (.str id) = some f
  /-- The builder is led to the field that is found, in the section that is found. -/
  located : ∀ f, s.find? (.str id) = some f → s.locate (.str id) = .ok ⟨s.parent? (.str id), f⟩
  refused_iff : (∃ r : Refusal, s.locate (.str id) = refuse r ∧ r.family = .noField) ↔
    id ∉ s.allFieldIds

namespace Schema

variable {s : Schema} {f p : Field} {id : String}

/-! ### What the look-ups find -/

theorem has_of_field? (h : s.field? (.str id) = some f) : s.Has ⟨none, f⟩ ∧ f.id = id :=
  (Value.of_find?_isText h).imp_right fun hid => (Value.str.inj hid).symm

theorem has_of_parent? (h : s.parent? (.str id) = some p) :
    ∃ f, s.Has ⟨some p, f⟩ ∧ f.id = id := by
  have hchild := List.find?_some (p := fun q : Field => (q.child? (.str id)).isSome) h
  obtain ⟨f, hf⟩ := Option.isSome_iff_exists.mp hchild
  obtain ⟨hmem, hid⟩ := Value.of_find?_isText hf
  exact ⟨f, ⟨List.mem_of_find?_eq_some h, hmem⟩, (Value.str.inj hid).symm⟩

theorem has_of_find? (h : s.find? (.str id) = some f) :
    ∃ owner?, s.Has ⟨owner?, f⟩ ∧ f.id = id := by
  obtain ⟨p, hp, h⟩ := List.exists_of_findSome?_eq_some h
  split at h
  · next hid =>
    cases h
    exact ⟨none, hp, (Value.str.inj (Value.isText_iff.mp hid)).symm⟩
  · obtain ⟨hf, hid⟩ := Value.of_find?_isText h
    exact ⟨some p, ⟨hp, hf⟩, (Value.str.inj hid).symm⟩

theorem locate_eq_ok_or_refuse (s : Schema) (id : Value) :
    (∃ place, s.locate id = .ok place) ∨ s.locate id = refuse (.noField id) := by
  unfold locate
  split
  · exact .inl ⟨_, rfl⟩
  · split
    · split
      · exact .inl ⟨_, rfl⟩
      · exact .inr rfl
    · exact .inr rfl

namespace Sound

variable (h : s.Sound)
include h

/-! ### The one place of an id -/

theorem place_unique {place place' : Place} (hp : s.Has place) (hp' : s.Has place')
    (hid : place.field.id = place'.field.id) : place = place' :=
  Except.ok.inj ((h.locate_eq_ok_iff.mpr ⟨hp, hid⟩).symm.trans (h.locate_eq_ok_iff.mpr ⟨hp', rfl⟩))

/-- The ids that are gathered at any depth are the ids of the fields that have a place. -/
theorem mem_allFieldIds_iff :
    id ∈ s.allFieldIds ↔ ∃ place, s.Has place ∧ place.field.id = id := by
  rw [Schema.allFieldIds, Field.allIdsList_eq_treeList, List.mem_map]
  constructor
  · rintro ⟨g, hg, rfl⟩
    obtain ⟨f, hf, rfl | hg⟩ := Field.mem_treeList.mp hg
    · exact ⟨⟨none, g⟩, hf, rfl⟩
    · obtain ⟨k, hk, rfl | hg⟩ := Field.mem_treeList.mp hg
      · exact ⟨⟨some f, g⟩, ⟨hf, hk⟩, rfl⟩
      · -- There is nothing below a field in a section.
        have hleaf := (h.leaf_of_nested f hf k (Field.mem_treeList.mpr ⟨k, hk, .inl rfl⟩)).2
        rw [hleaf] at hg
        exact absurd hg List.not_mem_nil
  · rintro ⟨place, hplace, rfl⟩
    exact ⟨place.field, mem_treeList_of_has hplace, rfl⟩

section Place

variable {place : Place} (hplace : s.Has place)
include hplace

theorem field?_eq : s.field? (.str place.field.id) =
    if place.owner? = none then some place.field else none := by
  obtain ⟨_ | p, f⟩ := place
  · exact h.field?_id hplace
  · exact h.field?_child hplace.1 hplace.2

/-- The parent of a placed field is its owner, if it has one. -/
theorem parent?_eq : s.parent? (.str place.field.id) = place.owner? := by
  cases hp : s.parent? (.str place.field.id) with
  | some p =>
    obtain ⟨f, hf, hid⟩ := has_of_parent? hp
    rw [h.place_unique hplace hf hid.symm]
  | none =>
    obtain ⟨_ | p, f⟩ := place
    · rfl
    · rw [h.parent?_child hplace.1 hplace.2] at hp
      cases hp

/-- A placed field is found under its identifier. -/
theorem find?_eq : s.find? (.str place.field.id) = some place.field := by
  cases hf : s.find? (.str place.field.id) with
  | some f =>
    obtain ⟨owner?, hf, hid⟩ := has_of_find? hf
    rw [h.place_unique hplace hf hid.symm]
  | none =>
    -- The search ends at the field, or at the section that it stands in, at the latest.
    have hnone := List.findSome?_eq_none_iff.mp hf
    obtain ⟨_ | p, f⟩ := place
    · have hself := hnone f hplace
      rw [if_pos (Value.isText_iff.mpr rfl)] at hself
      cases hself
    · have hbelow := hnone p hplace.1
      split at hbelow
      · cases hbelow
      · rw [h.child?_id hplace.1 hplace.2] at hbelow
        cases hbelow

end Place

/-! ### Agreement -/

theorem locate_refused_iff :
    (∃ r : Refusal, s.locate (.str id) = refuse r ∧ r.family = .noField) ↔
      id ∉ s.allFieldIds := by
  rw [h.mem_allFieldIds_iff]
  constructor
  · rintro ⟨r, hr, -⟩ ⟨place, hplace⟩
    rw [h.locate_eq_ok_iff.mpr hplace] at hr
    cases hr
  · intro hnone
    obtain ⟨place, hlocate⟩ | hrefused := s.locate_eq_ok_or_refuse (.str id)
    · exact absurd ⟨place, h.locate_eq_ok_iff.mp hlocate⟩ hnone
    · exact ⟨_, hrefused, rfl⟩

/-- In a sound form the look-ups agree about every id. -/
theorem agree (id : String) : s.LookupsAgree id where
  mem_iff := by
    rw [h.mem_allFieldIds_iff]
    constructor
    · rintro ⟨place, hplace, rfl⟩
      rw [h.find?_eq hplace, Option.isSome_some]
    · intro hfind
      obtain ⟨f, hf⟩ := Option.isSome_iff_exists.mp hfind
      obtain ⟨owner?, hplace⟩ := has_of_find? hf
      exact ⟨_, hplace⟩
  once := List.count_eq_one_of_mem h.ids_nodup
  id_eq f hf := by
    obtain ⟨_, -, hid⟩ := has_of_find? hf
    exact hid
  one_of hmem := by
    obtain ⟨place, hplace, rfl⟩ := h.mem_allFieldIds_iff.mp hmem
    rw [h.field?_eq hplace, h.parent?_eq hplace]
    cases place.owner? <;> simp
  of_field? f hf := by
    obtain ⟨hplace, rfl⟩ := has_of_field? hf
    exact h.find?_eq hplace
  of_parent? p hp := by
    obtain ⟨f, hplace, rfl⟩ := has_of_parent? hp
    exact ⟨hplace.1, h.section_of_children p hplace.1 (List.ne_nil_of_mem hplace.2), f,
      h.child?_id hplace.1 hplace.2, h.find?_eq hplace⟩
  located f hf := by
    obtain ⟨owner?, hplace, rfl⟩ := has_of_find? hf
    rw [h.parent?_eq hplace]
    exact h.locate_eq_ok_iff.mpr ⟨hplace, rfl⟩
  refused_iff := h.locate_refused_iff

end Sound
end Schema

/-- In every form that a store comes to hold, the look-ups agree about every id. -/
theorem Store.Reachable.lookups_agree {s : Store} (h : s.Reachable) (id : String) :
    s.schema.LookupsAgree id :=
  h.sound.agree id

/-- The employer is asked for once, in the section of jobs. -/
theorem Store.Reachable.lookups_agree_employer :
    ∃ w p f, Workspace.new .standard ⟨[], 0⟩ (Store.ageForm [Store.employer]) none = .ok w ∧
      w.store.Reachable ∧ p.id = "jobs" ∧ f.id = "firm" ∧
      w.store.schema.locate (.str "firm") = .ok ⟨some p, f⟩ ∧
      w.store.schema.allFieldIds.count "firm" = 1 := by
  obtain ⟨w, p, hw, hp, hid⟩ : ∃ w p,
      Workspace.new .standard ⟨[], 0⟩ (Store.ageForm [Store.employer]) none = .ok w ∧
      w.store.schema.parent? (.str "firm") = some p ∧ p.id = "jobs" := ⟨_, _, rfl, rfl, rfl⟩
  have hreachable : w.store.Reachable := ⟨.standard, ⟨[], 0⟩, _, none, w, [], hw, rfl⟩
  have hagree := Store.Reachable.lookups_agree hreachable "firm"
  obtain ⟨-, -, f, -, hf⟩ := hagree.of_parent? p hp
  have hmem : "firm" ∈ w.store.schema.allFieldIds := hagree.mem_iff.mpr (by rw [hf]; rfl)
  exact ⟨w, p, f, hw, hreachable, hid, hagree.id_eq f hf, hp ▸ hagree.located f hf,
    hagree.once hmem⟩

end Questionnaire
