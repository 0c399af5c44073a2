import Questionnaire.Proofs.Builder.Commit
import Questionnaire.Proofs.Builder.FreshIds
import Questionnaire.Proofs.Builder.Place
import Questionnaire.Proofs.Store.Reordering

/-!
# New fields are taken up

A field that is made for a type has an id that was never issued, distinct ids of options, no
conditions and nothing below it (`Synthesized`).  So it fits wherever a field of its type may stand,
and a sound form remains sound with it (`Store.commit_of_synthesized`).
`Builder.added_field_accepted` is what follows for the commands that add a field at the end of a
form or of a section, after every run: as long as the words do not give out, they are accepted.
-/

namespace Questionnaire

/-- What is made for a type of field in a store. -/
structure Synthesized (s : Store) (type : FieldType) (f : Field) : Prop where
  type_eq : f.type = type
  id_ne : f.id ≠ ""
  id_new : f.id ∉ s.issued
  nodup_choices : (f.choices.map (·.id)).Nodup
  no_conditions : f.conditionList = []
  no_children : f.children = []

namespace Synthesized

variable {s : Store} {type : FieldType} {f : Field} (h : Synthesized s type f)
include h

/-- A synthesized field has no identifier but its own. -/
theorem allIds_eq : f.allIds = [f.id] := by
  rw [Field.allIds_eq, h.no_children]
  rfl

/-- A synthesized field fits into its place. -/
theorem fit {nested : Bool} (hnested : nested = true → type ≠ .repeatable) : f.Fit nested where
  no_self_condition c hc := by
    rw [h.no_conditions] at hc
    cases hc
  choice_ids_nodup := h.nodup_choices
  plain_of_nested hn := by
    rw [h.type_eq]
    exact hnested hn
  section_of_children hc := absurd h.no_children hc

end Synthesized

/-! ### The field -/

namespace Builder

variable {c : Config} {s : Store} {ids ids' : IdSource}

/-- What draws ids for planned options gives each its own. -/
theorem exists_drawOptions_gives {n : Nat} (hlength : c.idLength = .int n) (hn : 1 ≤ n)
    {issued : List String} {plan : List (String × String × Nat × Option Bool)} {done : List Choice}
    (hids : ids.Written) (hdone : (done.map (·.id)).Nodup)
    (hfinds : (drawOptions c issued done plan).Finds ids) :
    ∃ options ids', (drawOptions c issued done plan).Gives ids options ids' ∧
      (options.map (·.id)).Nodup := by
  induction plan generalizing done ids with
  | nil => exact ⟨done, ids, Drawing.gives_pure_iff.mpr ⟨rfl, rfl⟩, hdone⟩
  | cons planned plan ih =>
    obtain ⟨word, title, k, isColumn⟩ := planned
    obtain ⟨id, mid, hid, -, htaken, -, hmid⟩ :=
      hids.exists_freshId_gives hlength hn hfinds.first
    have hnodup : ((done ++ [numbered id word title k isColumn]).map (·.id)).Nodup := by
      rw [List.map_append, List.nodup_append_comm]
      exact List.nodup_cons.mpr ⟨htaken, hdone⟩
    obtain ⟨options, ids', hgives, hoptions⟩ := ih hmid hnodup (hfinds.next hid)
    exact ⟨options, ids', Drawing.gives_bind_iff.mpr ⟨id, mid, hid, hgives⟩, hoptions⟩

/-- Where an identifier is found, the new field is synthesized. -/
theorem exists_newField_gives {n : Nat} (hlength : c.idLength = .int n) (hn : 1 ≤ n)
    (hids : ids.Written) {type : FieldType} {label : String} {top : Bool}
    (hfinds : (newField c s type label top).Finds ids) :
    ∃ f ids', (newField c s type label top).Gives ids f ids' ∧ Synthesized s type f := by
  have hfirst : (freshId c s.issued (.texts [])).Finds ids := hfinds.first
  obtain ⟨id, mid, hid, hissued, -, hne, hmid⟩ := hids.exists_freshId_gives hlength hn hfirst
  have hrest := hfinds.next hid
  have hnone : (([] : List Choice).map (·.id)).Nodup := List.nodup_nil
  obtain ⟨options, ids', hoptions, hnodup⟩ :=
    exists_drawOptions_gives hlength hn hmid hnone hrest.first
  refine ⟨made id type label top options, ids',
    newField_gives_iff.mpr ⟨id, mid, options, hid, hoptions, hne, rfl⟩, ?_⟩
  exact ⟨rfl, hne, hissued, hnodup, by cases top <;> rfl, by cases type <;> rfl⟩

/-- A field type is read back from its name. -/
theorem fieldType_name (type : FieldType) : fieldType (.str type.name) = .ok type := by
  have hname : (Value.str type.name).text?.bind FieldType.ofName? = some type :=
    FieldType.ofName?_name type
  unfold fieldType
  rw [hname]

end Builder

/-! ### The form -/

namespace Store

variable {s : Store} {type : FieldType} {f : Field}

/-- A form with one new field is taken up, if all its fields fit. -/
theorem commit_of_synthesized (hs : s.Reachable) (hf : Synthesized s type f) {schema : Schema}
    (hids : schema.allFieldIds.Perm (f.id :: s.schema.allFieldIds))
    (hfit : ∀ g ∈ schema.fields, g.Fit false ∧ ∀ k ∈ Field.treeList g.children, k.Fit true) :
    ∃ t, s.commit schema = .ok t ∧ t.schema = schema := by
  have hnodup : schema.allFieldIds.Nodup :=
    hids.nodup_iff.mpr (List.nodup_cons.mpr
      ⟨fun hid => hf.id_new (hs.issued hid), hs.sound.ids_nodup⟩)
  refine ⟨_, commit_eq_ok_iff.mpr ⟨soundFields_iff.mpr ⟨hnodup, hfit⟩, ?_, rfl⟩, rfl⟩
  intro id hid hretired
  obtain ⟨hissued, hgone⟩ := mem_retired.mp hretired
  rcases List.mem_cons.mp (hids.subset hid) with rfl | hid
  · exact hf.id_new hissued
  · exact hgone hid

/-- A new field is taken up at the end of a form. -/
theorem append_of_synthesized (hs : s.Reachable) (hf : Synthesized s type f) :
    ∃ t, s.append f = .ok t ∧ t.schema = { s.schema with fields := s.schema.fields ++ [f] } := by
  refine commit_of_synthesized hs hf ?_ ?_
  · unfold Schema.allFieldIds extended
    rw [Field.allIdsList_eq_flatMap, Field.allIdsList_eq_flatMap, List.flatMap_append,
      List.flatMap_singleton, hf.allIds_eq]
    exact List.perm_append_singleton _ _
  · obtain ⟨-, hfit⟩ := soundFields_iff.mp hs.sound
    refine List.forall_mem_append.mpr ⟨hfit, List.forall_mem_singleton.mpr ⟨hf.fit nofun, ?_⟩⟩
    rw [hf.no_children]
    nofun

/-- A new field that is no section is taken up at the end of a section. -/
theorem putAt_of_synthesized (hs : s.Reachable) (hf : Synthesized s type f)
    (htype : type ≠ .repeatable) {before after : List Field} {p : Field}
    (hfields : s.schema.fields = before ++ p :: after) (hp : p.type = .repeatable) :
    ∃ t, s.putAt ⟨none, p⟩ { p with subFields := some (p.children ++ [f]) } = .ok t ∧
      t.schema = { s.schema with
        fields := before ++ { p with subFields := some (p.children ++ [f]) } :: after } := by
  obtain ⟨g, hg⟩ : ∃ g : Field, g = { p with subFields := some (p.children ++ [f]) } := ⟨_, rfl⟩
  have hput : s.schema.putAt ⟨none, p⟩ g = { s.schema with fields := before ++ g :: after } := by
    have hnodup := hs.sound.nodup_ids
    rw [hfields] at hnodup
    show s.schema.putField p.id g = _
    unfold Schema.putField
    rw [hfields, map_at_key hnodup fun _ => g]
  -- Putting the section back replaces it, so the identifiers gain that of the new sub-field at its
  -- end.
  have hchildren : g.children = p.children ++ [f] := by rw [hg]; rfl
  have hallIds : g.allIds = p.allIds ++ [f.id] := by
    rw [Field.allIds_eq, Field.allIds_eq, hchildren, Field.allIdsList_eq_flatMap,
      Field.allIdsList_eq_flatMap, List.flatMap_append, List.flatMap_singleton, hf.allIds_eq, hg]
    rfl
  rw [← hg, putAt_eq_commit, hput]
  refine commit_of_synthesized hs hf ?_ ?_
  · unfold Schema.allFieldIds
    rw [hfields]
    simp only [Field.allIdsList_eq_flatMap, List.flatMap_append, List.flatMap_cons, hallIds,
      List.append_assoc, List.singleton_append]
    rw [← List.append_assoc, ← List.append_assoc]
    exact List.perm_middle
  -- The section fits as before: its conditions and options are untouched and the new sub-field has
  -- none.
  · obtain ⟨-, hfit⟩ := soundFields_iff.mp hs.sound
    rw [hfields, List.forall_mem_append, List.forall_mem_cons] at hfit
    obtain ⟨hbefore, ⟨hsection, hbelow⟩, hafter⟩ := hfit
    refine List.forall_mem_append.mpr ⟨hbefore, List.forall_mem_cons.mpr ⟨⟨?_, ?_⟩, hafter⟩⟩
    · rw [hg]
      exact ⟨hsection.no_self_condition, hsection.choice_ids_nodup, nofun, fun _ => hp⟩
    · rw [hchildren, Field.treeList_eq_flatMap, List.flatMap_append, List.flatMap_singleton,
        ← Field.treeList_eq_flatMap, Field.tree_eq, hf.no_children]
      exact List.forall_mem_append.mpr ⟨hbelow, List.forall_mem_singleton.mpr
        (hf.fit fun _ => htype)⟩

end Store

/-! ### The commands -/

/-- A field of a type is in the form of `t`, under an id that is new to the ledger of `s` and to all
forms that there were. -/
structure Introduced (past : List Schema) (s t : Store) (type : FieldType) (f : Field) : Prop where
  committed : s.Committed t
  type_eq : f.type = type
  id_new : f.id ∉ s.issued
  id_unused : ∀ schema ∈ past, f.id ∉ schema.allFieldIds
  nodup_choices : (f.choices.map (·.id)).Nodup

/-- A committed field is introduced: its identifier was never in use. -/
theorem Synthesized.introduced {past : List Schema} {s t : Store} {type : FieldType} {f : Field}
    (hf : Synthesized s type f)
    (hpast : ∀ id, id ∈ s.issued ↔ ∃ schema ∈ past, id ∈ schema.allFieldIds)
    (ht : s.Committed t) : Introduced past s t type f where
  committed := ht
  type_eq := hf.type_eq
  id_new := hf.id_new
  id_unused schema hschema hid := hf.id_new ((hpast f.id).mpr ⟨schema, hschema, hid⟩)
  nodup_choices := hf.nodup_choices

namespace Builder

variable {c : Config} {n : Nat} {ids : IdSource} {s : Store}

section Commands

variable (hs : s.Reachable) (hlength : c.idLength = .int n) (hn : 1 ≤ n) (hids : ids.Written)
include hs hlength hn hids

/-- Where identifiers are found, a field is added at the end. -/
theorem exists_addField_gives {type : FieldType}
    (hfinds : (addField c s (.str type.name)).Finds ids) :
    ∃ t f ids', (addField c s (.str type.name)).Gives ids (t, f.id) ids' ∧
      Synthesized s type f ∧ s.Committed t ∧
      t.schema = { s.schema with fields := s.schema.fields ++ [f] } := by
  have htype := fieldType_name type
  obtain ⟨f, ids', hf, hnew⟩ :=
    exists_newField_gives hlength hn hids (hfinds.next_ok htype).first
  obtain ⟨t, ht, hschema⟩ := Store.append_of_synthesized hs hnew
  refine ⟨t, f, ids', ?_, hnew, Store.committed_of_commit ht, hschema⟩
  unfold addField
  simp only [Drawing.gives_bind_iff, Drawing.gives_lift_iff, Drawing.gives_pure_iff]
  exact ⟨type, ids, ⟨htype, rfl⟩, f, ids', hf, t, ids', ⟨ht, rfl⟩, rfl, rfl⟩

/-- Where identifiers are found, a sub-field is added at the end of its section. -/
theorem exists_addSubField_gives {before after : List Field} {p : Field}
    (hfields : s.schema.fields = before ++ p :: after) (hp : p.type = .repeatable)
    {type : FieldType} (hplain : type ≠ .repeatable)
    (hfinds : (addSubField c s (.str p.id) (.str type.name)).Finds ids) :
    ∃ t f ids', (addSubField c s (.str p.id) (.str type.name)).Gives ids (t, f.id) ids' ∧
      Synthesized s type f ∧ s.Committed t ∧
      t.schema = { s.schema with
        fields := before ++ { p with subFields := some (p.children ++ [f]) } :: after } := by
  have htype := fieldType_name type
  have hsection : s.schema.sectionOf (.str p.id) = .ok p := by
    unfold Schema.sectionOf
    rw [hs.sound.field?_id (by simp [hfields])]
    exact if_pos hp
  have hrest := ((hfinds.next_ok hsection).next_ok htype).of_guard hplain
  obtain ⟨f, ids', hf, hnew⟩ := exists_newField_gives hlength hn hids hrest.first
  obtain ⟨t, ht, hschema⟩ := Store.putAt_of_synthesized hs hnew hplain hfields hp
  refine ⟨t, f, ids', ?_, hnew, committed_of_putAt ht, hschema⟩
  unfold addSubField
  simp only [Drawing.gives_bind_iff, Drawing.gives_lift_iff, Drawing.gives_pure_iff,
    Drawing.gives_guard_iff]
  exact ⟨p, ids, ⟨hsection, rfl⟩, type, ids, ⟨htype, rfl⟩, hplain, f, ids', hf, t, ids',
    ⟨ht, rfl⟩, rfl, rfl⟩

end Commands

/-- After every run, and whatever words are to come, a new field of any type is accepted at the end
of the form, and one of any type but a section at the end of every section, unless the words give
out.  Its id is new to the ledger and to all forms of the lifetime, its options have distinct ids,
and all other fields are as they were. -/
theorem added_field_accepted {c₀ : Config} {ids₀ : IdSource} {v : Value}
    {plan : Option Workspace.SessionPlan} {w : Workspace}
    (h : Workspace.new c₀ ids₀ v plan = .ok w) (events : List Workspace.Event)
    (hlength : c.idLength = .int n) (hn : 1 ≤ n) (hids : ids.Written) :
    let s := (w.afterAll events).store
    let past := (w.chronicle ⟨[w.store.schema], []⟩ events).lasting
    (∀ type : FieldType, (addField c s (.str type.name)).Finds ids →
      ∃ t f ids', (addField c s (.str type.name)).Gives ids (t, f.id) ids' ∧
        Introduced past s t type f ∧
        t.schema = { s.schema with fields := s.schema.fields ++ [f] }) ∧
    ∀ before p after, s.schema.fields = before ++ p :: after → p.type = .repeatable →
      ∀ type : FieldType, type ≠ .repeatable →
        (addSubField c s (.str p.id) (.str type.name)).Finds ids →
      ∃ t f ids', (addSubField c s (.str p.id) (.str type.name)).Gives ids (t, f.id) ids' ∧
        Introduced past s t type f ∧
        t.schema = { s.schema with
          fields := before ++ { p with subFields := some (p.children ++ [f]) } :: after } := by
  intro s past
  have hs : s.Reachable := ⟨c₀, ids₀, v, plan, w, events, h, rfl⟩
  have hpast := (Workspace.kept_of_new h events).mem_issued
  refine ⟨fun type hfinds => ?_, fun before p after hfields hp type hplain hfinds => ?_⟩
  · obtain ⟨t, f, ids', hgives, hnew, ht, hschema⟩ :=
      exists_addField_gives hs hlength hn hids hfinds
    exact ⟨t, f, ids', hgives, hnew.introduced hpast ht, hschema⟩
  · obtain ⟨t, f, ids', hgives, hnew, ht, hschema⟩ :=
      exists_addSubField_gives hs hlength hn hids hfields hp hplain hfinds
    exact ⟨t, f, ids', hgives, hnew.introduced hpast ht, hschema⟩

/-- A section with one question, both with ids of one character. -/
def shortSection : Value :=
  .dict [("title", .str "Guests"), ("fields", .list [
    .dict [("id", .str "s"), ("type", .str "repeatable"), ("label", .str "Guest"),
      ("subFields", .list [
        .dict [("id", .str "a"), ("type", .str "text"), ("label", .str "Name")]])]])]

/-- Words are cut to one character.  The first two give ids of fields, and the third of the others
the id of an option before it; each time the next word is taken. -/
theorem added_field_accepted_short :
    let c := { Config.standard with idLength := .int 1 }
    let ids : IdSource := ⟨["a0", "s1", "b2", "c3", "d4", "d5", "e6"], 0⟩
    ∃ w t f ids', Workspace.new .standard ⟨[], 0⟩ shortSection none = .ok w ∧
      (addSubField c w.store (.str "s") (.str "radio")).Gives ids (t, f.id) ids' ∧
      Introduced [w.store.schema] w.store t .radio f ∧ f.id = "b" ∧
      t.schema.allFieldIds = ["s", "a", "b"] ∧
      t.schema.fields.flatMap (fun p => p.children.map fun k => k.choices.map (·.id)) =
        [[], ["c", "d", "e"]] := by
  intro c ids
  obtain ⟨w, t, p, ids', hw, hfields, hp, hid, hrun, hids, hchoices⟩ : ∃ w t p ids',
      Workspace.new .standard ⟨[], 0⟩ shortSection none = .ok w ∧
      w.store.schema.fields = [] ++ p :: [] ∧ p.type = .repeatable ∧ p.id = "s" ∧
      (addSubField c w.store (.str "s") (.str FieldType.radio.name)).Gives ids (t, "b") ids' ∧
      t.schema.allFieldIds = ["s", "a", "b"] ∧
      t.schema.fields.flatMap (fun p => p.children.map fun k => k.choices.map (·.id)) =
        [[], ["c", "d", "e"]] := ⟨_, _, _, _, rfl, rfl, rfl, rfl, rfl, rfl, rfl⟩
  have hwritten : ids.Written := by unfold IdSource.Written; decide
  obtain ⟨-, hsections⟩ := @added_field_accepted c 1 ids _ _ _ _ w hw [] rfl (by decide) hwritten
  rw [← hid] at hrun
  obtain ⟨t', f, rest, hgives, hnew, -⟩ :=
    hsections [] p [] hfields hp .radio (by decide) hrun.finds
  obtain ⟨hsame, -⟩ := Prod.mk.inj (hrun.symm.trans hgives)
  obtain ⟨rfl, hf⟩ := Prod.mk.inj (Except.ok.inj hsame)
  rw [hid] at hgives
  exact ⟨w, t, f, rest, hw, hgives, hnew, hf.symm, hids, hchoices⟩

end Builder
end Questionnaire
