import Questionnaire.Proofs.Builder.Commit
import Questionnaire.Proofs.Store.Updating

/-!
# Edits of the lists in a field

The options, the conditions and the sub-fields of a field are lists, and a command that edits one of
them makes the list anew.  `Builder.Edits` says what comes of that: one item is new at the end, or
changed or gone at its position, and the field is otherwise as it was.  `Builder.edits_of_run` says
that every such command comes to this, and that nothing else of the form changes.

That a new list may as well be handed on as a change of the field is `Builder.updateField_options`
with its kin.
-/

namespace Questionnaire

open Reading

/-! ### Edits -/

/-- The value is the position, as a number or, of the first two, as a truth value. -/
def Value.IsPosition : Value → Nat → Prop
  | .int n, k => n = k
  | .bool b, k => b.toNat = k
  | _, _ => False

namespace Builder

/-- The command edits a list in a field. -/
def Command.EditsList : Command → Prop
  | .addOption _ | .updateOption _ _ _ | .removeOption _ _ | .addRow _ | .addColumn _
  | .addCondition _ _ _ _ | .updateCondition _ _ _ | .removeCondition _ _
  | .updateSubField _ _ _ | .removeSubField _ _ => True
  | _ => False

/-- The command makes the second field of the first by editing one item of one list. -/
inductive Edits : Command → Field → Field → Prop
  | addOption {f : Field} {o : Choice} (hcolumn : o.isColumn = none) :
    Edits (.addOption (.str f.id)) f { f with options := some (f.choices ++ [o]) }
  | addRow {f : Field} {o : Choice} (hmatrix : f.type = .matrix)
    (hcolumn : o.isColumn = some false) :
    Edits (.addRow (.str f.id)) f { f with options := some (f.choices ++ [o]) }
  | addColumn {f : Field} {o : Choice} (hmatrix : f.type = .matrix)
    (hcolumn : o.isColumn = some true) :
    Edits (.addColumn (.str f.id)) f { f with options := some (f.choices ++ [o]) }
  | updateOption {f : Field} {before after : List Choice} {o : Choice} {label : String}
    (h : f.choices = before ++ o :: after) :
    Edits (.updateOption (.str f.id) (.str o.id) (.str label)) f
      { f with
        options := some (before ++ { o with label, value := Choice.valueOf label } :: after) }
  | removeOption {f : Field} {before after : List Choice} {o : Choice}
    (h : f.choices = before ++ o :: after) :
    Edits (.removeOption (.str f.id) (.str o.id)) f { f with options := some (before ++ after) }
  | addCondition {f : Field} {source operator : Value} {k : Condition} :
    Edits (.addCondition (.str f.id) source operator k.value) f
      { f with conditions := some (f.conditionList ++ [k]) }
  | updateCondition {f : Field} {index changes : Value} {before after : List Condition}
    {k k' : Condition} {ms : Members Value} (h : f.conditionList = before ++ k :: after)
    (hindex : index.IsPosition before.length)
    (hchanges : RecordKind.condition.documentMembers changes = .ok ms)
    (hread : Condition.ofMembers (Members.overlay (k.members .document) ms) = .read k') :
    Edits (.updateCondition (.str f.id) index changes) f
      { f with conditions := some (before ++ k' :: after) }
  | removeCondition {f : Field} {index : Value} {before after : List Condition} {k : Condition}
    (h : f.conditionList = before ++ k :: after) (hindex : index.IsPosition before.length) :
    Edits (.removeCondition (.str f.id) index) f { f with conditions := some (before ++ after) }
  | updateSubField {p : Field} {left right : List Field} {f g : Field} {changes : Members Value}
    (h : p.children = left ++ f :: right) (hmerged : f.Merged changes g) :
    Edits (.updateSubField (.str p.id) (.str f.id) (.dict changes)) p
      { p with subFields := some (left ++ g :: right) }
  | removeSubField {p : Field} {left right : List Field} {f : Field}
    (h : p.children = left ++ f :: right) :
    Edits (.removeSubField (.str p.id) (.str f.id)) p { p with subFields := some (left ++ right) }

variable {c : Config} {s t : Store} {ids ids' : IdSource} {new : String}

/-- An edit has been made of one field of the form, at its place. -/
def Edited (command : Command) (s t : Store) : Prop :=
  ∃ f g, Edits command f g ∧ Schema.Replaced f g s.schema t.schema

theorem replaced_of_putAt (hs : s.schema.Sound) {place : Place} (hplace : s.schema.Has place)
    {g : Field} (h : s.putAt place g = .ok t) :
    Schema.Replaced place.field g s.schema t.schema := by
  rw [Store.putAt_eq_commit] at h
  rw [Store.schema_of_commit h]
  exact hs.replaced hplace g

/-! ### Options -/

section Options

variable (hs : s.schema.Sound) {id : Value}
include hs

theorem replaced_of_addNumbered {place : Place} (hplace : s.schema.Has place)
    {word title : String} {n : Nat} {isColumn : Option Bool}
    (h : (addNumbered c s place word title n isColumn).Gives ids (t, new) ids') :
    Schema.Replaced place.field
      { place.field with
        options := some (place.field.choices ++ [numbered new word title n isColumn]) }
      s.schema t.schema := by
  unfold addNumbered at h
  simp only [Drawing.gives_bind_iff, Drawing.gives_lift_iff, Drawing.gives_pure_iff] at h
  obtain ⟨id, _, _, t', _, ⟨ht, _⟩, h, _⟩ := h
  obtain ⟨rfl, rfl⟩ := Prod.mk.inj h
  exact replaced_of_putAt hs hplace ht

theorem edited_of_addOption (h : (addOption c s id).Gives ids (t, new) ids') :
    Edited (.addOption id) s t := by
  obtain ⟨place, _, hlocate, hadd⟩ := Drawing.gives_bind_iff.mp h
  obtain ⟨hplace, rfl⟩ := Schema.of_locate (Drawing.gives_lift_iff.mp hlocate).1
  exact ⟨_, _, .addOption rfl, replaced_of_addNumbered hs hplace hadd⟩

theorem edited_of_addRow (h : (addRow c s id).Gives ids (t, new) ids') :
    Edited (.addRow id) s t := by
  obtain ⟨place, _, hlocate, hguarded⟩ := Drawing.gives_bind_iff.mp h
  obtain ⟨hplace, rfl⟩ := Schema.of_locate (Drawing.gives_lift_iff.mp hlocate).1
  obtain ⟨hmatrix, hadd⟩ := Drawing.gives_guard_iff.mp hguarded
  exact ⟨_, _, .addRow (not_not.mp hmatrix) rfl, replaced_of_addNumbered hs hplace hadd⟩

theorem edited_of_addColumn (h : (addColumn c s id).Gives ids (t, new) ids') :
    Edited (.addColumn id) s t := by
  obtain ⟨place, _, hlocate, hguarded⟩ := Drawing.gives_bind_iff.mp h
  obtain ⟨hplace, rfl⟩ := Schema.of_locate (Drawing.gives_lift_iff.mp hlocate).1
  obtain ⟨hmatrix, hadd⟩ := Drawing.gives_guard_iff.mp hguarded
  exact ⟨_, _, .addColumn (not_not.mp hmatrix) rfl, replaced_of_addNumbered hs hplace hadd⟩

omit hs in
theorem of_valueOfLabel {label : Value} {value : String}
    (h : Choice.valueOfLabel label = .ok value) :
    ∃ text, label = .str text ∧ value = Choice.valueOf text := by
  cases label with
  | str text => exact ⟨text, rfl, (Except.ok.inj h).symm⟩
  | _ => cases h

theorem edited_of_updateOption {option label : Value}
    (h : updateOption s id option label = .ok t) : Edited (.updateOption id option label) s t := by
  obtain ⟨place, hlocate, hrest⟩ := Outcome.bind_eq_ok_iff.mp h
  obtain ⟨hplace, hid⟩ := Schema.of_locate hlocate
  obtain ⟨o, ho, hrest⟩ := Outcome.bind_eq_ok_iff.mp hrest
  obtain ⟨hmem, hoption⟩ := Field.of_requireChoice ho
  obtain ⟨value, hvalue, hput⟩ := Outcome.bind_eq_ok_iff.mp hrest
  obtain ⟨text, rfl, rfl⟩ := of_valueOfLabel hvalue
  obtain ⟨before, after, hsplit⟩ := List.append_of_mem hmem
  -- The options have distinct ids, so this is the only one that has another label.
  have hnodup := hs.choice_ids_nodup _ (Schema.mem_treeList_of_has hplace)
  have hput : putOptions s place (place.field.choices.map fun p =>
    if p.id = o.id then { p with label := text, value := Choice.valueOf text } else p) = .ok t :=
    hput
  have hreplaced := replaced_of_putAt hs hplace hput
  rw [hsplit] at hnodup hreplaced
  rw [map_at_key hnodup fun p : Choice =>
    { p with label := text, value := Choice.valueOf text }] at hreplaced
  rw [hid, hoption]
  exact ⟨_, _, .updateOption hsplit, hreplaced⟩

theorem replaced_of_removeOption {option : Value} (h : removeOption s id option = .ok t) :
    ∃ place before o after, s.schema.locate id = .ok place ∧ option = .str o.id ∧
      place.field.choices = before ++ o :: after ∧
      Schema.Replaced place.field { place.field with options := some (before ++ after) }
        s.schema t.schema := by
  obtain ⟨place, hlocate, hrest⟩ := Outcome.bind_eq_ok_iff.mp h
  obtain ⟨hplace, hid⟩ := Schema.of_locate hlocate
  obtain ⟨o, ho, hput⟩ := Outcome.bind_eq_ok_iff.mp hrest
  obtain ⟨hmem, hoption⟩ := Field.of_requireChoice ho
  obtain ⟨before, after, hsplit⟩ := List.append_of_mem hmem
  have hnodup := hs.choice_ids_nodup _ (Schema.mem_treeList_of_has hplace)
  have hreplaced := replaced_of_putAt hs hplace hput
  rw [hsplit] at hnodup hreplaced
  rw [filter_at_key hnodup] at hreplaced
  exact ⟨place, before, o, after, hlocate, hoption, hsplit, hreplaced⟩

theorem edited_of_removeOption {option : Value} (h : removeOption s id option = .ok t) :
    Edited (.removeOption id option) s t := by
  obtain ⟨place, before, o, after, hlocate, hoption, hsplit, hreplaced⟩ :=
    replaced_of_removeOption hs h
  obtain ⟨-, hid⟩ := Schema.of_locate hlocate
  rw [hid, hoption]
  exact ⟨_, _, .removeOption hsplit, hreplaced⟩

end Options

/-! ### Conditions -/

section Conditions

variable (hs : s.schema.Sound) {id : Value}

/-- An index of a condition is the position at which the conditions are taken apart. -/
theorem of_conditionIndex {f : Field} {index : Value} {n : Nat}
    (h : conditionIndex f id index = .ok n) : ∃ before k after,
      f.conditionList = before ++ k :: after ∧ before.length = n ∧ index.IsPosition n := by
  have hwithin {i : Int} (h : (if 0 ≤ i ∧ i < f.conditionList.length then .ok i.toNat
      else refuse (.noCondition id index) : Outcome Nat) = .ok n) :
      n < f.conditionList.length ∧ i = n := by
    split at h
    · cases h
      omega
    · exact absurd h Outcome.refuse_ne_ok
  -- A float within the bounds is compared and then fails as an index; it is no position.
  have hindex : n < f.conditionList.length ∧ index.IsPosition n := by
    cases index with
    | int i => exact hwithin h
    | bool b =>
      obtain ⟨hlt, hn⟩ := hwithin h
      refine ⟨hlt, ?_⟩
      cases b with
      | false => exact Int.ofNat_inj.mp hn
      | true => exact Int.ofNat_inj.mp hn
    | float x =>
      simp only [conditionIndex] at h
      split at h
      · exact absurd h Outcome.refuse_ne_ok
      · cases h
    | _ => cases h
  obtain ⟨hlt, hposition⟩ := hindex
  refine ⟨f.conditionList.take n, f.conditionList[n], f.conditionList.drop (n + 1), ?_,
    List.length_take_of_le (Nat.le_of_lt hlt), hposition⟩
  rw [← List.drop_eq_getElem_cons hlt, List.take_append_drop]

include hs

theorem edited_of_addCondition {source operator value : Value} {n : Nat}
    (h : addCondition s id source operator value = .ok (t, n)) :
    Edited (.addCondition id source operator value) s t := by
  obtain ⟨f, hf, hrest⟩ := Outcome.bind_eq_ok_iff.mp h
  obtain ⟨hmem, hid⟩ := Schema.of_conditioned hf
  obtain ⟨found, _, hrest⟩ := Outcome.bind_eq_ok_iff.mp hrest
  obtain ⟨k, hk, hrest⟩ := Outcome.bind_eq_ok_iff.mp hrest
  obtain ⟨t', hput, hrest⟩ := Outcome.bind_eq_ok_iff.mp hrest
  obtain ⟨rfl, _⟩ := Prod.mk.inj (Outcome.pure_eq_ok_iff.mp hrest)
  have hvalue : value = k.value := by
    have hread := Reading.outcome_eq_ok_iff.mp (Outcome.ofUnread_eq_ok_iff.mp hk)
    unfold Condition.ofMembers at hread
    simp only [seq_eq_read_iff, map_eq_read_iff] at hread
    obtain ⟨_, v, ⟨_, _, ⟨_, _, rfl⟩, _, rfl⟩, hv, rfl⟩ := hread
    exact Reading.read.inj ((memberOr_eq_read_of_find (f := any) rfl).mp hv)
  rw [hid, hvalue]
  exact ⟨_, _, .addCondition, replaced_of_putAt hs (Schema.has_top hmem) hput⟩

theorem edited_of_updateCondition {index changes : Value}
    (h : updateCondition s id index changes = .ok t) :
    Edited (.updateCondition id index changes) s t := by
  -- The index picks one condition, which is overlaid and read again; the others are set back.
  obtain ⟨f, hf, hrest⟩ := Outcome.bind_eq_ok_iff.mp h
  obtain ⟨hmem, hid⟩ := Schema.of_conditioned hf
  obtain ⟨n, hn, hrest⟩ := Outcome.bind_eq_ok_iff.mp hrest
  obtain ⟨before, k, after, hsplit, rfl, hposition⟩ := of_conditionIndex hn
  obtain ⟨ms, hchanges, hput⟩ := Outcome.bind_eq_ok_iff.mp hrest
  have hk : f.conditionList[before.length]? = some k := by simp [hsplit]
  rw [hk] at hput
  split at hput
  · rename_i k' hread
    have hset : (before ++ k :: after).set before.length k' = before ++ k' :: after := by simp
    have hreplaced := replaced_of_putAt hs (Schema.has_top hmem) hput
    rw [hsplit, hset] at hreplaced
    rw [hid]
    exact ⟨_, _, .updateCondition hsplit hposition hchanges hread, hreplaced⟩
  · exact absurd hput Outcome.refuse_ne_ok

theorem edited_of_removeCondition {index : Value} (h : removeCondition s id index = .ok t) :
    Edited (.removeCondition id index) s t := by
  obtain ⟨f, hf, hrest⟩ := Outcome.bind_eq_ok_iff.mp h
  obtain ⟨hmem, hid⟩ := Schema.of_conditioned hf
  obtain ⟨n, hn, hput⟩ := Outcome.bind_eq_ok_iff.mp hrest
  obtain ⟨before, k, after, hsplit, rfl, hposition⟩ := of_conditionIndex hn
  have herase : (before ++ k :: after).eraseIdx before.length = before ++ after := by
    simp [List.eraseIdx_append_of_length_le]
  have hreplaced := replaced_of_putAt hs (Schema.has_top hmem) hput
  rw [hsplit, herase] at hreplaced
  rw [hid]
  exact ⟨_, _, .removeCondition hsplit hposition, hreplaced⟩

end Conditions

/-! ### Sub-fields -/

section SubFields

variable (hs : s.schema.Sound) {parent id : Value}
include hs

theorem edited_of_updateSubField (hnamed : s.schema.All Field.Named) {v : Value}
    (h : updateSubField s parent id v = .ok t) : Edited (.updateSubField parent id v) s t := by
  obtain ⟨p, hp, hrest⟩ := Outcome.bind_eq_ok_iff.mp h
  obtain ⟨hmem, hparent⟩ := Schema.of_sectionOf hp
  obtain ⟨f, hf, hrest⟩ := Outcome.bind_eq_ok_iff.mp hrest
  obtain ⟨hchild, hid⟩ := Field.of_requireChild hf
  obtain ⟨ms, hms, hput⟩ := Outcome.bind_eq_ok_iff.mp hrest
  obtain ⟨changes, rfl⟩ : ∃ changes, v = .dict changes := by
    obtain ⟨_, hrenamed, _⟩ := Outcome.bind_eq_ok_iff.mp hms
    exact RecordKind.exists_changes hrenamed
  split at hput
  · exact absurd hput Outcome.refuse_ne_ok
  · split at hput
    · rename_i g hread
      obtain ⟨-, -, hoverlaid⟩ := overlaid_of_completeChanges hms
      have hmerged := hoverlaid.merged ((Field.named_iff.mp (hnamed p hmem)).2 f hchild) hread
      obtain ⟨left, right, hsplit⟩ := List.append_of_mem hchild
      have hnodup := hs.nodup_children hmem
      -- What is put in the place of a sub-field is put in its section, and this in its own place.
      have hreplaced : Schema.Replaced p (p.putChild f.id g) s.schema t.schema :=
        replaced_of_putAt hs (Schema.has_top hmem) hput
      unfold Field.putChild at hreplaced
      rw [hsplit] at hnodup hreplaced
      rw [map_at_key hnodup fun _ => g] at hreplaced
      rw [hparent, hid]
      exact ⟨_, _, .updateSubField hsplit hmerged, hreplaced⟩
    · exact absurd hput Outcome.refuse_ne_ok

theorem edited_of_removeSubField (h : removeSubField s parent id = .ok t) :
    Edited (.removeSubField parent id) s t := by
  obtain ⟨p, hp, hrest⟩ := Outcome.bind_eq_ok_iff.mp h
  obtain ⟨hmem, hparent⟩ := Schema.of_sectionOf hp
  obtain ⟨f, hf, hput⟩ := Outcome.bind_eq_ok_iff.mp hrest
  obtain ⟨hchild, hid⟩ := Field.of_requireChild hf
  obtain ⟨left, right, hsplit⟩ := List.append_of_mem hchild
  have hnodup := hs.nodup_children hmem
  have hreplaced := replaced_of_putAt hs (Schema.has_top hmem) hput
  rw [hsplit] at hnodup hreplaced
  rw [filter_at_key hnodup] at hreplaced
  rw [hparent, hid]
  exact ⟨_, _, .removeSubField hsplit, hreplaced⟩

end SubFields

/-! ### Commands -/

/-- Every accepted command that edits a list in a field edits one item of it: the item is new at
the end, or changed or gone at the position that the command addresses.  All other items, all else
of the field and all else of the form are as they were. -/
theorem edits_of_run (hs : s.Reachable) {command : Command} (hc : command.EditsList) {e : Effect}
    (h : (run c s command).Gives ids e ids') (ht : e.store? = some t) :
    ∃ f g, Edits command f g ∧ Schema.Replaced f g s.schema t.schema := by
  -- One inversion for each command that edits a list.
  cases command with
  | addOption id =>
    obtain ⟨_, _, h⟩ := store_of_gives_named h ht
    exact edited_of_addOption hs.sound h
  | updateOption id option label =>
    exact edited_of_updateOption hs.sound (store_of_gives_silent h ht)
  | removeOption id option => exact edited_of_removeOption hs.sound (store_of_gives_silent h ht)
  | addRow id =>
    obtain ⟨_, _, h⟩ := store_of_gives_named h ht
    exact edited_of_addRow hs.sound h
  | addColumn id =>
    obtain ⟨_, _, h⟩ := store_of_gives_named h ht
    exact edited_of_addColumn hs.sound h
  | addCondition id source operator value =>
    obtain ⟨⟨t', n⟩, _, ho, h⟩ := Drawing.gives_bind_iff.mp h
    obtain ⟨rfl, _⟩ := Drawing.gives_pure_iff.mp h
    obtain rfl : t' = t := Option.some.inj ht
    exact edited_of_addCondition hs.sound (Drawing.gives_lift_iff.mp ho).1
  | updateCondition id index changes =>
    exact edited_of_updateCondition hs.sound (store_of_gives_silent h ht)
  | removeCondition id index =>
    exact edited_of_removeCondition hs.sound (store_of_gives_silent h ht)
  | updateSubField parent id changes =>
    exact edited_of_updateSubField hs.sound hs.named (store_of_gives_silent h ht)
  | removeSubField parent id =>
    exact edited_of_removeSubField hs.sound (store_of_gives_silent h ht)
  | _ => exact hc.elim

/-- A section with two questions, of which the first has two options. -/
def sectionOfQuestions : Value :=
  .dict [("title", .str "Guests"), ("fields", .list [
    .dict [("id", .str "s"), ("type", .str "repeatable"), ("label", .str "Guest"),
      ("subFields", .list [
        .dict [("id", .str "a"), ("type", .str "radio"), ("label", .str "Coming?"),
          ("options", .list [
            .dict [("id", .str "y"), ("value", .str "yes"), ("label", .str "Yes")],
            .dict [("id", .str "n"), ("value", .str "no"), ("label", .str "No")]])],
        .dict [("id", .str "b"), ("type", .str "text"), ("label", .str "Why?")]])]])]

/-- An option of a question in a section has another label.  Its id and the other option are as they
were. -/
theorem edits_of_run_relabelled :
    ∃ w t, Workspace.new .standard ⟨[], 0⟩ sectionOfQuestions none = .ok w ∧ w.store.Reachable ∧
      (run .standard w.store (.updateOption (.str "a") (.str "n") (.str "Not me"))).Gives w.ids
        (.silent t) w.ids ∧
      (∃ f g, Edits (.updateOption (.str "a") (.str "n") (.str "Not me")) f g ∧
        Schema.Replaced f g w.store.schema t.schema) ∧
      t.schema.fields.flatMap (fun p => p.children.map fun f => (f.id, f.choices)) =
        [("a", [⟨"y", "yes", "Yes", none⟩, ⟨"n", "not_me", "Not me", none⟩]), ("b", [])] := by
  obtain ⟨w, t, hw, hrun, hchoices⟩ : ∃ w t,
      Workspace.new .standard ⟨[], 0⟩ sectionOfQuestions none = .ok w ∧
      (run .standard w.store (.updateOption (.str "a") (.str "n") (.str "Not me"))).Gives w.ids
        (.silent t) w.ids ∧
      t.schema.fields.flatMap (fun p => p.children.map fun f => (f.id, f.choices)) =
        [("a", [⟨"y", "yes", "Yes", none⟩, ⟨"n", "not_me", "Not me", none⟩]), ("b", [])] :=
    ⟨_, _, rfl, rfl, rfl⟩
  have hreachable : w.store.Reachable := ⟨.standard, ⟨[], 0⟩, _, none, w, [], hw, rfl⟩
  have hlist : (Command.updateOption (.str "a") (.str "n") (.str "Not me")).EditsList := trivial
  exact ⟨w, t, hw, hreachable, hrun, edits_of_run hreachable hlist hrun rfl, hchoices⟩

end Builder
end Questionnaire
