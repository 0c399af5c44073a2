import Questionnaire.Proofs.Builder.Moving
import Questionnaire.Proofs.Builder.PointEdits
import Questionnaire.Proofs.Visibility.Deciding

/-!
# What edits reveal

The visible fields of a form change with the form in one direction each: a condition that is added
can hide its field and one that is removed can show it, and no other field is concerned; a field
that is removed can hide others, those with conditions on it, and shows none.  The order of the
fields and what stands in sections do not matter.  `Builder.visible_of_edit` says so for the
commands of the builder.

Operators can hold of no answer.  What keeps a removed field from showing others is that a condition
on it is dead from then on, whatever its operator (`Condition.holds_of_subset`).
-/

namespace Questionnaire

/-! ### Sources -/

namespace Condition

variable {sources sources' : List String} {field : String} {answers : Value} {c : Condition}

theorem holds_of_mem_iff (h : c.source ∈ sources ↔ c.source ∈ sources') :
    c.holds sources field answers = c.holds sources' field answers := by
  unfold holds
  simp only [h]

/-- With fewer sources a condition is judged as before, or it does not hold. -/
theorem holds_of_subset (h : sources' ⊆ sources) :
    c.holds sources' field answers = c.holds sources field answers ∨
      c.holds sources' field answers = .ok false := by
  by_cases hc : c.source ∈ sources'
  · exact Or.inl (holds_of_mem_iff (iff_of_true hc (h hc)))
  · exact Or.inr (holds_of_dead (Or.inr hc))

/-- With fewer sources conditions are judged where they were judged before. -/
theorem exists_allHold_of_subset (h : sources' ⊆ sources) {cs : List Condition}
    (hcs : ∃ b, allHold sources field answers cs = .ok b) :
    ∃ b, allHold sources' field answers cs = .ok b := by
  induction cs with
  | nil => exact ⟨true, rfl⟩
  | cons c cs ih =>
    obtain ⟨b, hb⟩ := hcs
    obtain ⟨holds, hc, hrest⟩ := Outcome.bind_eq_ok_iff.mp hb
    rw [allHold]
    rcases holds_of_subset h with hsame | hfalse
    · rw [hsame, hc]
      cases holds with
      | false => exact ⟨false, rfl⟩
      | true => exact ih ⟨b, hrest⟩
    · rw [hfalse]
      exact ⟨false, rfl⟩

end Condition

namespace Field

variable {sources sources' : List String} {answers : Value} {f g : Field}

theorem isShown_of_mem_iff (h : ∀ c ∈ f.conditionList, (c.source ∈ sources ↔ c.source ∈ sources')) :
    f.isShown sources answers = f.isShown sources' answers := by
  rw [Bool.eq_iff_iff, isShown_iff, isShown_iff]
  exact forall₂_congr fun c hc => by rw [Condition.holds_of_mem_iff (h c hc)]

/-- With fewer sources a field is judged where it was judged before. -/
theorem exists_isVisible_of_subset (h : sources' ⊆ sources)
    (hf : ∃ b, f.isVisible sources answers = .ok b) : ∃ b, f.isVisible sources' answers = .ok b :=
  Condition.exists_allHold_of_subset h hf

/-- With fewer sources fewer fields are visible. -/
theorem isShown_of_subset (h : sources' ⊆ sources) (hf : f.isShown sources' answers = true) :
    f.isShown sources answers = true := by
  rw [isShown_iff] at hf ⊢
  intro c hc
  rcases Condition.holds_of_subset h with hsame | hfalse
  · exact hsame.symm.trans (hf c hc)
  · exact absurd (hfalse.symm.trans (hf c hc)) nofun

/-- A field with more conditions is visible less often. -/
theorem isShown_of_conditions_subset (hid : g.id = f.id)
    (h : f.conditionList ⊆ g.conditionList) (hg : g.isShown sources answers = true) :
    f.isShown sources answers = true := by
  rw [isShown_iff] at hg ⊢
  exact fun c hc => hid ▸ hg c (h hc)

end Field

/-! ### Lists of fields -/

variable {fields fields' : List Field} {answers : Value} {old new : List String}

theorem mem_visibleIn_iff_exists (h : visibleIn fields answers = .ok old) {id : String} :
    id ∈ old ↔ ∃ f ∈ fields, f.id = id ∧
      f.isShown (fields.map (·.id)) (effectiveAnswers answers) = true := by
  rw [visibleAmong_eq_filter h, List.mem_map]
  simp only [List.mem_filter, and_assoc]
  exact exists_congr fun f => and_congr_right fun _ => and_comm

theorem exists_visibleAmong_iff {sources : List String} :
    (∃ visible, visibleAmong sources answers fields = .ok visible) ↔
      ∀ f ∈ fields, ∃ b, f.isVisible sources answers = .ok b := by
  induction fields with
  | nil => exact iff_of_true ⟨[], rfl⟩ nofun
  | cons f fields ih =>
    rw [List.forall_mem_cons, ← ih]
    constructor
    · rintro ⟨visible, h⟩
      obtain ⟨b, hb, h⟩ := Outcome.bind_eq_ok_iff.mp h
      obtain ⟨rest, hrest, -⟩ := Outcome.bind_eq_ok_iff.mp h
      exact ⟨⟨b, hb⟩, rest, hrest⟩
    · rintro ⟨⟨b, hb⟩, rest, hrest⟩
      exact ⟨_, Outcome.bind_eq_ok_iff.mpr ⟨b, hb, Outcome.bind_eq_ok_iff.mpr ⟨rest, hrest, rfl⟩⟩⟩

/-- What a field is judged by: its id and its conditions. -/
def Field.gate (f : Field) : String × List Condition := (f.id, f.conditionList)

theorem visibleAmong_of_gates {sources : List String}
    (h : fields.map Field.gate = fields'.map Field.gate) :
    visibleAmong sources answers fields = visibleAmong sources answers fields' := by
  induction fields generalizing fields' with
  | nil =>
    rw [List.map_eq_nil_iff.mp h.symm]
  | cons f fields ih =>
    cases fields' with
    | nil => cases h
    | cons g fields' =>
      obtain ⟨hgate, hrest⟩ := List.cons.inj h
      obtain ⟨hid, hconditions⟩ := Prod.mk.inj hgate
      rw [visibleAmong, visibleAmong, ih hrest, Field.isVisible, Field.isVisible, hid, hconditions]

/-- Fields that are judged by the same are visible alike. -/
theorem visibleIn_of_gates (h : fields.map Field.gate = fields'.map Field.gate) :
    visibleIn fields answers = visibleIn fields' answers := by
  have hids : fields.map (·.id) = fields'.map (·.id) := by
    have hfst := congrArg (List.map Prod.fst) h
    rwa [List.map_map, List.map_map] at hfst
  unfold visibleIn
  rw [hids]
  exact visibleAmong_of_gates h

/-- The order of the fields is only that of the visible ones. -/
theorem visibleIn_perm (hperm : fields.Perm fields') (h : visibleIn fields answers = .ok old) :
    ∃ new, visibleIn fields' answers = .ok new ∧ new.Perm old := by
  have hsources {f : Field} : ∀ c ∈ f.conditionList,
      (c.source ∈ fields.map (·.id) ↔ c.source ∈ fields'.map (·.id)) :=
    fun c _ => (hperm.map (·.id)).mem_iff
  obtain ⟨new, hnew⟩ : ∃ new, visibleIn fields' answers = .ok new := by
    refine exists_visibleAmong_iff.mpr fun f hf => ?_
    exact Field.exists_isVisible_of_subset (hperm.map (·.id)).symm.subset
      (exists_visibleAmong_iff.mp ⟨old, h⟩ f (hperm.symm.subset hf))
  refine ⟨new, hnew, ?_⟩
  rw [visibleAmong_eq_filter h, visibleAmong_eq_filter hnew]
  have hsame : fields'.filter (Field.isShown (fields'.map (·.id)) (effectiveAnswers answers)) =
      fields'.filter (Field.isShown (fields.map (·.id)) (effectiveAnswers answers)) :=
    List.filter_congr fun f _ => (Field.isShown_of_mem_iff hsources).symm
  rw [hsame]
  exact ((hperm.symm.filter _).map _)

section Removed

variable {before after : List Field} {x : Field}
  (h : visibleIn (before ++ x :: after) answers = .ok old)
include h

/-- Without one of its fields a form shows no field that it did not show. -/
theorem visibleIn_removed :
    ∃ new, visibleIn (before ++ after) answers = .ok new ∧ new ⊆ old := by
  have hsub : (before ++ after).Sublist (before ++ x :: after) := (List.Sublist.refl _).middle x
  have hsources := (hsub.map (·.id)).subset
  obtain ⟨new, hnew⟩ : ∃ new, visibleIn (before ++ after) answers = .ok new := by
    refine exists_visibleAmong_iff.mpr fun f hf => ?_
    exact Field.exists_isVisible_of_subset hsources
      (exists_visibleAmong_iff.mp ⟨old, h⟩ f (hsub.subset hf))
  refine ⟨new, hnew, fun id hid => ?_⟩
  obtain ⟨f, hf, hfid, hshown⟩ := (mem_visibleIn_iff_exists hnew).mp hid
  exact (mem_visibleIn_iff_exists h).mpr
    ⟨f, hsub.subset hf, hfid, Field.isShown_of_subset hsources hshown⟩

/-- Without a field that no condition looks at, a form shows the other fields that it showed. -/
theorem mem_visibleIn_removed_iff {new : List String}
    (hnew : visibleIn (before ++ after) answers = .ok new)
    (hn : ((before ++ x :: after).map (·.id)).Nodup)
    (hunused : ∀ f ∈ before ++ after, ∀ c ∈ f.conditionList, c.source ≠ x.id) {id : String} :
    id ∈ new ↔ id ∈ old ∧ id ≠ x.id := by
  -- No condition asks for the removed field, so each of them reads the same in both forms.
  have hne := forall_key_ne hn
  have hshown : ∀ f ∈ before ++ after, ∀ a,
      f.isShown ((before ++ after).map (·.id)) a =
        f.isShown ((before ++ x :: after).map (·.id)) a := by
    refine fun f hf a => Field.isShown_of_mem_iff fun c hc => ?_
    rw [List.map_append, List.map_append, List.map_cons, mem_middle_iff (hunused f hf c hc)]
  rw [mem_visibleIn_iff_exists h, mem_visibleIn_iff_exists hnew]
  constructor
  · rintro ⟨f, hf, rfl, hf'⟩
    rw [hshown f hf] at hf'
    exact ⟨⟨f, (mem_middle_iff (ne_of_apply_ne Field.id (hne f hf))).mpr hf, rfl, hf'⟩, hne f hf⟩
  · rintro ⟨⟨f, hf, rfl, hf'⟩, hid⟩
    have hf := (mem_middle_iff (ne_of_apply_ne Field.id hid)).mp hf
    exact ⟨f, hf, rfl, by rwa [hshown f hf]⟩

end Removed

section Replaced

variable {before after : List Field} {f g : Field} (hid : g.id = f.id)

include hid in
theorem ids_replaced : (before ++ g :: after).map (·.id) = (before ++ f :: after).map (·.id) := by
  simp [hid]

variable (hold : visibleIn (before ++ f :: after) answers = .ok old)
  (hnew : visibleIn (before ++ g :: after) answers = .ok new)
include hid hold hnew

/-- A field with other conditions leaves the other fields as visible as they were. -/
theorem mem_visibleIn_replaced_iff {id : String} (hne : id ≠ f.id) : id ∈ new ↔ id ∈ old := by
  rw [mem_visibleIn_iff_exists hold, mem_visibleIn_iff_exists hnew, ids_replaced hid]
  refine exists_congr fun k => ?_
  by_cases hk : k.id = id
  · have hkf : k ≠ f := ne_of_apply_ne Field.id (hk ▸ hne)
    have hkg : k ≠ g := ne_of_apply_ne Field.id (hk ▸ hid ▸ hne)
    rw [mem_middle_iff hkf, mem_middle_iff hkg]
  · simp [hk]

/-- A field with fewer conditions remains visible. -/
theorem visibleIn_replaced_subset (hconditions : g.conditionList ⊆ f.conditionList) :
    old ⊆ new := by
  intro id hmem
  by_cases hne : id = f.id
  · obtain ⟨k, hk, rfl, hshown⟩ := (mem_visibleIn_iff_exists hold).mp hmem
    rw [mem_visibleIn_iff_exists hnew, ids_replaced hid]
    by_cases hkf : k = f
    · subst hkf
      exact ⟨g, by simp, hid, Field.isShown_of_conditions_subset hid.symm hconditions hshown⟩
    · rw [mem_middle_iff hkf] at hk
      refine ⟨k, ?_, rfl, hshown⟩
      simp only [List.mem_append, List.mem_cons] at hk ⊢
      tauto
  · exact (mem_visibleIn_replaced_iff hid hold hnew hne).mpr hmem

end Replaced

/-! ### Forms -/

namespace Schema.Replaced

variable {f g : Field} {s s' : Schema} (h : Replaced f g s s')
include h

/-- A field that is replaced stands at the top, or in a section, where no field is judged. -/
theorem top_or_gates_eq :
    (∃ before after, s.fields = before ++ f :: after ∧ s'.fields = before ++ g :: after) ∨
      s'.fields.map Field.gate = s.fields.map Field.gate := by
  cases h with
  | top h => exact Or.inl ⟨_, _, h, rfl⟩
  | nested h hp => exact Or.inr (by simp [h, Field.gate, Field.conditionList])

/-- A field that is judged by the same takes the place of another without any effect. -/
theorem visibleIn_eq (hgate : g.gate = f.gate) :
    visibleIn s'.fields answers = visibleIn s.fields answers := by
  refine visibleIn_of_gates ?_
  rcases h.top_or_gates_eq with ⟨before, after, hfields, hfields'⟩ | hgates
  · simp [hfields, hfields', hgate]
  · exact hgates

/-- A field takes the place of another with the same id.  This concerns no other field, and the
field itself only in the direction in which its conditions change. -/
theorem visible (hid : g.id = f.id) (hold : visibleIn s.fields answers = .ok old)
    (hnew : visibleIn s'.fields answers = .ok new) :
    (∀ id, id ≠ f.id → (id ∈ new ↔ id ∈ old)) ∧
      (g.conditionList ⊆ f.conditionList → old ⊆ new) ∧
      (f.conditionList ⊆ g.conditionList → new ⊆ old) := by
  rcases h.top_or_gates_eq with ⟨before, after, hfields, hfields'⟩ | hgates
  · rw [hfields] at hold
    rw [hfields'] at hnew
    exact ⟨fun id hne => mem_visibleIn_replaced_iff hid hold hnew hne,
      visibleIn_replaced_subset hid hold hnew, visibleIn_replaced_subset hid.symm hnew hold⟩
  · rw [visibleIn_of_gates hgates, hold] at hnew
    obtain rfl := Except.ok.inj hnew
    exact ⟨fun _ _ => Iff.rfl, fun _ => List.Subset.refl _, fun _ => List.Subset.refl _⟩

end Schema.Replaced

/-! ### Edits -/

namespace Builder

variable {s t : Store}

section Sound

variable (hs : s.schema.Sound) {id : Value}
include hs

theorem visible_of_addCondition {source operator value : Value} {n : Nat} {f : String}
    (h : addCondition s (.str f) source operator value = .ok (t, n))
    (hold : visibleIn s.schema.fields answers = .ok old)
    (hnew : visibleIn t.schema.fields answers = .ok new) :
    new ⊆ old ∧ ∀ id, id ≠ f → (id ∈ new ↔ id ∈ old) := by
  obtain ⟨f, g, hedits, hreplaced⟩ := edited_of_addCondition hs h
  cases hedits
  obtain ⟨hothers, -, hsubset⟩ := hreplaced.visible rfl hold hnew
  exact ⟨hsubset (List.subset_append_left _ _), hothers⟩

theorem visible_of_removeCondition {index : Value} {f : String}
    (h : removeCondition s (.str f) index = .ok t)
    (hold : visibleIn s.schema.fields answers = .ok old)
    (hnew : visibleIn t.schema.fields answers = .ok new) :
    old ⊆ new ∧ ∀ id, id ≠ f → (id ∈ new ↔ id ∈ old) := by
  obtain ⟨f, g, hedits, hreplaced⟩ := edited_of_removeCondition hs h
  cases hedits with
  | removeCondition hsplit hindex =>
    obtain ⟨hothers, hsubset, -⟩ := hreplaced.visible rfl hold hnew
    refine ⟨hsubset fun k hk => ?_, hothers⟩
    rw [hsplit]
    exact ((List.Sublist.refl _).middle _).subset hk

/-- Without a field of the form the others stand in their order. -/
theorem exists_of_removeField {x : Field} (hx : x ∈ s.schema.fields)
    (h : removeField s (.str x.id) = .ok t) : ∃ before after,
      s.schema.fields = before ++ x :: after ∧ t.schema.fields = before ++ after := by
  -- Removing by identifier removes the one field that has it.
  obtain ⟨before, after, hsplit⟩ := List.append_of_mem hx
  refine ⟨before, after, hsplit, ?_⟩
  have hnodup := hs.nodup_ids
  rw [hsplit] at hnodup
  have hlocate : s.schema.locate (.str x.id) = .ok ⟨none, x⟩ :=
    hs.locate_eq_ok_iff.mpr ⟨Schema.has_top hx, rfl⟩
  unfold removeField at h
  rw [hlocate] at h
  obtain ⟨_, hschema, h⟩ := Outcome.bind_eq_ok_iff.mp (show s.removeField (.str x.id) = .ok t from h)
  obtain ⟨-, rfl⟩ := Store.without_eq_ok_iff.mp hschema
  have hkeep : ∀ f ∈ before ++ x :: after,
      (!(Value.str x.id).isText f.id) = decide (f.id ≠ x.id) := by
    intro f _
    rw [Bool.eq_iff_iff, Bool.not_eq_true', ← Bool.not_eq_true, Value.isText_iff,
      Value.str.injEq, decide_eq_true_iff]
    exact ne_comm
  rw [Store.schema_of_commit h, ← filter_at_key hnodup, hsplit]
  exact List.filter_congr hkeep

theorem perm_of_moveField {index : Value} (h : moveField s id index = .ok t) :
    t.schema.fields.Perm s.schema.fields := by
  unfold moveField at h
  split at h
  · exact absurd h Outcome.refuse_ne_ok
  · rename_i f hf
    obtain ⟨n, _, h⟩ := Outcome.bind_eq_ok_iff.mp h
    rw [Store.schema_of_commit h]
    exact hs.perm_moved (List.mem_of_find?_eq_some hf) n

theorem visible_of_removeSubField {parent : Value} (h : removeSubField s parent id = .ok t) :
    visibleIn t.schema.fields answers = visibleIn s.schema.fields answers := by
  obtain ⟨p, q, hedits, hreplaced⟩ := edited_of_removeSubField hs h
  cases hedits
  exact hreplaced.visibleIn_eq rfl

theorem removeField_of_child {p k : Field} (hp : p ∈ s.schema.fields) (hk : k ∈ p.children) :
    removeField s (.str k.id) = removeSubField s (.str p.id) (.str k.id) := by
  have hlocate : s.schema.locate (.str k.id) = .ok ⟨some p, k⟩ :=
    hs.locate_eq_ok_iff.mpr ⟨⟨hp, hk⟩, rfl⟩
  unfold removeField
  rw [hlocate]
  rfl

end Sound

/-- What accepted edits do to the fields that are visible for some answers.  A new condition hides
at most its field, and one that is removed shows at most its field.  Without a top-level field the
others are visible at most as before, and as before if no condition looks at it.  To move a field,
or to remove a sub-field, makes no difference. -/
theorem visible_of_edit (hs : s.Reachable) (hold : visibleIn s.schema.fields answers = .ok old) :
    (∀ f source operator value t n new,
      addCondition s (.str f) source operator value = .ok (t, n) →
      visibleIn t.schema.fields answers = .ok new →
        new ⊆ old ∧ ∀ id, id ≠ f → (id ∈ new ↔ id ∈ old)) ∧
    (∀ f index t new, removeCondition s (.str f) index = .ok t →
      visibleIn t.schema.fields answers = .ok new →
        old ⊆ new ∧ ∀ id, id ≠ f → (id ∈ new ↔ id ∈ old)) ∧
    (∀ x ∈ s.schema.fields, ∀ t, removeField s (.str x.id) = .ok t →
      ∃ new, visibleIn t.schema.fields answers = .ok new ∧ new ⊆ old ∧ x.id ∉ new ∧
        ((∀ f ∈ s.schema.fields, ∀ c ∈ f.conditionList, c.source ≠ x.id) →
          ∀ id, id ∈ new ↔ id ∈ old ∧ id ≠ x.id)) ∧
    (∀ id index t, moveField s id index = .ok t →
      ∃ new, visibleIn t.schema.fields answers = .ok new ∧ ∀ id, id ∈ new ↔ id ∈ old) ∧
    (∀ parent id t, removeSubField s parent id = .ok t →
      visibleIn t.schema.fields answers = .ok old) ∧
    ∀ p ∈ s.schema.fields, ∀ k ∈ p.children, ∀ t, removeField s (.str k.id) = .ok t →
      visibleIn t.schema.fields answers = .ok old := by
  refine ⟨fun f source operator value t n new h hnew => ?_, fun f index t new h hnew => ?_,
    fun x hx t h => ?_, fun id index t h => ?_, fun parent id t h => ?_, fun p hp k hk t h => ?_⟩
  -- What is visible grows and shrinks with the conditions; removals and moves decide it anew.
  · exact visible_of_addCondition hs.sound h hold hnew
  · exact visible_of_removeCondition hs.sound h hold hnew
  · obtain ⟨before, after, hfields, hfields'⟩ := exists_of_removeField hs.sound hx h
    have hnodup := hs.sound.nodup_ids
    rw [hfields] at hold hnodup
    obtain ⟨new, hnew, hsubset⟩ := visibleIn_removed hold
    rw [hfields']
    refine ⟨new, hnew, hsubset, fun hid => ?_, fun hunused id => ?_⟩
    · obtain ⟨f, hf, hfid, -⟩ := (mem_visibleIn_iff_exists hnew).mp hid
      exact forall_key_ne hnodup f hf hfid
    · refine mem_visibleIn_removed_iff hold hnew hnodup fun f hf => hunused f ?_
      rw [hfields]
      exact ((List.Sublist.refl _).middle x).subset hf
  · obtain ⟨new, hnew, hperm⟩ := visibleIn_perm (perm_of_moveField hs.sound h).symm hold
    exact ⟨new, hnew, fun id => hperm.mem_iff⟩
  · exact (visible_of_removeSubField hs.sound h).trans hold
  · rw [removeField_of_child hs.sound hp hk] at h
    exact (visible_of_removeSubField hs.sound h).trans hold

/-- A name, and a note that is asked for while there is no name. -/
def namelessForm : Value :=
  .dict [("title", .str "Guest"), ("fields", .list [
    .dict [("id", .str "name"), ("type", .str "text"), ("label", .str "Name")],
    .dict [("id", .str "note"), ("type", .str "text"), ("label", .str "Who are you?"),
      ("conditions", .list [.dict [("sourceFieldId", .str "name"), ("operator", .str "isEmpty"),
        ("value", .null)]])]])]

/-- There is no name, so the note is asked for.  Without the field of the name it is not. -/
theorem visible_of_edit_removed :
    ∃ w t, Workspace.new .standard ⟨[], 0⟩ namelessForm none = .ok w ∧ w.store.Reachable ∧
      visibleIn w.store.schema.fields .null = .ok ["name", "note"] ∧
      removeField w.store (.str "name") = .ok t ∧ visibleIn t.schema.fields .null = .ok [] ∧
      ∃ new, visibleIn t.schema.fields .null = .ok new ∧ new ⊆ ["name", "note"] ∧
        "name" ∉ new := by
  obtain ⟨w, t, x, hw, hx, hid, hold, h, hnew⟩ : ∃ w t x,
      Workspace.new .standard ⟨[], 0⟩ namelessForm none = .ok w ∧
      w.store.schema.fields.head? = some x ∧ x.id = "name" ∧
      visibleIn w.store.schema.fields .null = .ok ["name", "note"] ∧
      removeField w.store (.str "name") = .ok t ∧ visibleIn t.schema.fields .null = .ok [] :=
    ⟨_, _, _, rfl, rfl, rfl, rfl, rfl, rfl⟩
  have hreachable : w.store.Reachable := ⟨.standard, ⟨[], 0⟩, _, none, w, [], hw, rfl⟩
  obtain ⟨-, -, hremoved, -⟩ := visible_of_edit hreachable hold
  obtain ⟨new, hnew', hsubset, hgone, -⟩ :=
    hremoved x (List.mem_of_head? hx) t (by rw [hid]; exact h)
  exact ⟨w, t, hw, hreachable, hold, h, hnew, new, hnew', hsubset, hid ▸ hgone⟩

end Builder
end Questionnaire
