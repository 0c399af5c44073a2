import Questionnaire.Proofs.Builder.PointEdits
import Questionnaire.Proofs.Number.Digits
import Questionnaire.Proofs.Throughout

/-!
# Numbers of options

A new option is given the number that comes after the count of the options of its kind, and its
value is made of this number.  Options are removed without the others being numbered anew, so a
number can be given twice.  `Workspace.option_values_nodup_iff` says when: the values of the options
stay distinct through a run exactly if no option is added to others of its kind of which one has the
number that is next.  While only the last option of a kind is ever removed, the options of the kind
are numbered from one on, and this does not happen.

Options of different kinds never share a value, and no two options share an id.
-/

namespace Questionnaire

/-! ### Numbered values -/

namespace Choice

/-- The word that options of a kind are numbered with. -/
def kindWord : Option Bool → String
  | none => "option"
  | some false => "row"
  | some true => "column"

/-- The value of the `n`-th option of a kind. -/
def valueAt (kind : Option Bool) (n : Nat) : String := kindWord kind ++ toString n

/-- The options of a kind: options as such, rows or columns. -/
def ofKind (os : List Choice) (kind : Option Bool) : List Choice := os.filter (·.isColumn = kind)

/-- Each option has the value of some number of its kind. -/
def Numbered (os : List Choice) : Prop := ∀ o ∈ os, ∃ n, o.value = valueAt o.isColumn n

/-- One of the options of a kind has the number that the next one is to get. -/
def NextTaken (os : List Choice) (kind : Option Bool) : Prop :=
  ∃ o ∈ ofKind os kind, o.value = valueAt kind ((ofKind os kind).length + 1)

instance (os : List Choice) (kind : Option Bool) : Decidable (NextTaken os kind) :=
  inferInstanceAs (Decidable (∃ _ ∈ _, _))

/-- The options of each kind are numbered from one on, in their order. -/
def InOrder (os : List Choice) : Prop :=
  ∀ kind, (ofKind os kind).map (·.value) =
    (List.range (ofKind os kind).length).map fun i => valueAt kind (i + 1)

/-- The value tells the kind and the number. -/
theorem valueAt_inj {kind kind' : Option Bool} {m n : Nat} (h : valueAt kind m = valueAt kind' n) :
    kind = kind' ∧ m = n := by
  -- The words of different kinds begin with different letters.
  have hhead : (valueAt kind m).toList.head? = (valueAt kind' n).toList.head? := by rw [h]
  have hkind : kind = kind' := by
    unfold valueAt at hhead
    rw [String.toList_append, String.toList_append] at hhead
    rcases kind with _ | _ | _ <;> rcases kind' with _ | _ | _ <;> first | rfl | cases hhead
  subst hkind
  exact ⟨rfl, toString_nat_inj ((String.append_right_inj (kindWord kind)).mp h)⟩

/-- Numbered options with one value are of one kind. -/
theorem Numbered.kind_eq {os : List Choice} (h : Numbered os) {o p : Choice} (ho : o ∈ os)
    (hp : p ∈ os) (hvalue : o.value = p.value) : o.isColumn = p.isColumn := by
  obtain ⟨m, hm⟩ := h o ho
  obtain ⟨n, hn⟩ := h p hp
  exact (valueAt_inj (hm.symm.trans (hvalue.trans hn))).1

variable {os before after : List Choice} {o : Choice} {kind : Option Bool}

theorem mem_ofKind : o ∈ ofKind os kind ↔ o ∈ os ∧ o.isColumn = kind := by
  simp [ofKind]

theorem ofKind_append (before after : List Choice) (kind : Option Bool) :
    ofKind (before ++ after) kind = ofKind before kind ++ ofKind after kind :=
  List.filter_append ..

theorem ofKind_cons (o : Choice) (os : List Choice) (kind : Option Bool) :
    ofKind (o :: os) kind = if o.isColumn = kind then o :: ofKind os kind else ofKind os kind := by
  simp [ofKind, List.filter_cons]

/-- Numbered options remain distinct with one more exactly if none has its number. -/
theorem nodup_append_iff (hnumbered : Numbered os)
    (ho : o.value = valueAt o.isColumn ((ofKind os o.isColumn).length + 1)) :
    ((os ++ [o]).map (·.value)).Nodup ↔ (os.map (·.value)).Nodup ∧ ¬NextTaken os o.isColumn := by
  have hmem : o.value ∈ os.map (·.value) ↔ NextTaken os o.isColumn := by
    constructor
    · intro h
      obtain ⟨p, hp, hvalue⟩ := List.mem_map.mp h
      obtain ⟨n, hn⟩ := hnumbered p hp
      obtain ⟨hkind, rfl⟩ := valueAt_inj (hn.symm.trans (hvalue.trans ho))
      exact ⟨p, mem_ofKind.mpr ⟨hp, hkind⟩, hvalue.trans ho⟩
    · rintro ⟨p, hp, hvalue⟩
      exact List.mem_map.mpr ⟨p, (mem_ofKind.mp hp).1, hvalue.trans ho.symm⟩
  rw [List.map_append, List.nodup_append_comm, List.map_singleton, List.singleton_append,
    List.nodup_cons, hmem, and_comm]

namespace InOrder

theorem numbered (h : InOrder os) : Numbered os := by
  intro o ho
  have hvalue : o.value ∈ (ofKind os o.isColumn).map (·.value) :=
    List.mem_map_of_mem (mem_ofKind.mpr ⟨ho, rfl⟩)
  rw [h o.isColumn] at hvalue
  obtain ⟨i, -, hi⟩ := List.mem_map.mp hvalue
  exact ⟨i + 1, hi.symm⟩

/-- Options that are numbered in order have distinct values. -/
theorem nodup (h : InOrder os) (hids : (os.map (·.id)).Nodup) : (os.map (·.value)).Nodup := by
  have hos : os.Nodup := List.Nodup.of_map _ hids
  refine (List.nodup_map_iff_inj_on hos).mpr fun o ho p hp hvalue => ?_
  -- Equal values are of one kind, and within a kind the numbers are distinct.
  have hkind := h.numbered.kind_eq ho hp hvalue
  have hdistinct : ((ofKind os o.isColumn).map (·.value)).Nodup := by
    rw [h o.isColumn]
    refine List.Nodup.map (fun i j hij => ?_) List.nodup_range
    exact Nat.succ.inj (valueAt_inj hij).2
  exact List.inj_on_of_nodup_map hdistinct (mem_ofKind.mpr ⟨ho, rfl⟩)
    (mem_ofKind.mpr ⟨hp, hkind.symm⟩) hvalue

theorem append (h : InOrder os)
    (ho : o.value = valueAt o.isColumn ((ofKind os o.isColumn).length + 1)) :
    InOrder (os ++ [o]) := by
  intro kind
  rw [ofKind_append, ofKind_cons]
  by_cases hkind : o.isColumn = kind
  · subst hkind
    rw [if_pos rfl, List.map_append, h o.isColumn, List.length_append]
    simp [ofKind, List.range_succ, ho]
  · rw [if_neg hkind]
    simpa [ofKind] using h kind

/-- Options remain numbered in order without the last one of its kind. -/
theorem remove (h : InOrder (before ++ o :: after)) (hlast : ∀ p ∈ after, p.isColumn ≠ o.isColumn) :
    InOrder (before ++ after) := by
  intro kind
  have hkind := h kind
  rw [ofKind_append, ofKind_cons] at hkind
  rw [ofKind_append]
  by_cases ho : o.isColumn = kind
  · have hafter : ofKind after kind = [] :=
      List.filter_eq_nil_iff.mpr fun p hp => by simpa [ho] using hlast p hp
    rw [if_pos ho, hafter, List.map_append, List.length_append, List.length_singleton,
      List.range_succ, List.map_append] at hkind
    rw [hafter, List.append_nil]
    exact (List.append_inj' hkind rfl).1
  · rwa [if_neg ho] at hkind

end InOrder
end Choice

/-! ### Options of a field -/

namespace Schema

/-- The field with an id, at the top or in a section. -/
def fieldAt? (s : Schema) (id : String) : Option Field :=
  (s.locate (.str id)).toOption.map (·.field)

/-- The options of the field with an id. -/
def optionsOf (s : Schema) (id : String) : List Choice :=
  ((s.fieldAt? id).map (·.choices)).getD []

theorem Sound.fieldAt?_eq_some_iff {s : Schema} (h : s.Sound) {id : String} {f : Field} :
    s.fieldAt? id = some f ↔ ∃ place, s.Has place ∧ place.field = f ∧ f.id = id := by
  unfold fieldAt?
  rw [Option.map_eq_some_iff]
  constructor
  · rintro ⟨place, hplace, rfl⟩
    obtain ⟨hhas, hid⟩ := h.locate_eq_ok_iff.mp (Outcome.toOption_eq_some_iff.mp hplace)
    exact ⟨place, hhas, rfl, hid⟩
  · rintro ⟨place, hhas, rfl, hid⟩
    exact ⟨place, Outcome.toOption_eq_some_iff.mpr (h.locate_eq_ok_iff.mpr ⟨hhas, hid⟩), rfl⟩

theorem Replaced.fieldAt?_eq {f g : Field} {s s' : Schema} (h : Replaced f g s s')
    (hs' : s'.Sound) : s'.fieldAt? g.id = some g := by
  rw [hs'.fieldAt?_eq_some_iff]
  cases h with
  | top h => exact ⟨⟨none, g⟩, by simp [Has], rfl, rfl⟩
  | @nested before after p left right h hp =>
    exact ⟨⟨some { p with subFields := some (left ++ g :: right) }, g⟩,
      by simp [Has, Field.children], rfl, rfl⟩

end Schema

namespace Builder

/-- The field with an id is of a type, and its options are of the kinds of the type and numbered. -/
structure Optioned (id : String) (type : FieldType) (s : Store) : Prop where
  sound : s.schema.Sound
  field : ∃ f, s.schema.fieldAt? id = some f ∧ f.type = type
  suited : ∀ o ∈ s.schema.optionsOf id, o.isColumn.isSome = decide (type = .matrix)
  numbered : Choice.Numbered (s.schema.optionsOf id)

/-- The command adds an option of a kind that a type of field has to the field with an id, or
removes one. -/
def Command.Resizes (id : String) (type : FieldType) : Command → Prop
  | .addOption v => v = .str id ∧ type.isChoice = true
  | .addRow v | .addColumn v => v = .str id ∧ type = .matrix
  | .removeOption v _ => v = .str id
  | _ => False

/-- The kind of option that a command adds. -/
def Command.kind? : Command → Option (Option Bool)
  | .addOption _ => some none
  | .addRow _ => some (some false)
  | .addColumn _ => some (some true)
  | _ => none

/-- What a command makes of options: a new one comes at the end with the next number of its kind, or
one is gone. -/
inductive Resized : Command → List Choice → List Choice → Prop
  | added {command : Command} {os : List Choice} {o : Choice}
    (hkind : command.kind? = some o.isColumn)
    (ho : o.value = Choice.valueAt o.isColumn ((Choice.ofKind os o.isColumn).length + 1)) :
    Resized command os (os ++ [o])
  | removed {v : Value} {before after : List Choice} {o : Choice} :
    Resized (.removeOption v (.str o.id)) (before ++ o :: after) (before ++ after)

/-- What holds of all options, and of a new one, holds of all options afterwards. -/
theorem Resized.forall {command : Command} {os os' : List Choice} (h : Resized command os os')
    {P : Choice → Prop} (hP : ∀ o ∈ os, P o)
    (hnew : ∀ (o : Choice) (n : Nat), command.kind? = some o.isColumn →
      o.value = Choice.valueAt o.isColumn n → P o) : ∀ o ∈ os', P o := by
  cases h with
  | added hkind ho =>
    exact List.forall_mem_append.mpr ⟨hP, List.forall_mem_singleton.mpr (hnew _ _ hkind ho)⟩
  | removed =>
    rw [List.forall_mem_append, List.forall_mem_cons] at hP
    exact List.forall_mem_append.mpr ⟨hP.1, hP.2.2⟩

/-- A command keeps numbered values distinct exactly if it adds no option whose number is taken. -/
theorem Resized.values_nodup_iff {command : Command} {os os' : List Choice}
    (h : Resized command os os') (hnumbered : Choice.Numbered os)
    (hn : (os.map (·.value)).Nodup) :
    (os'.map (·.value)).Nodup ↔ ∀ kind, command.kind? = some kind → ¬Choice.NextTaken os kind := by
  cases h with
  | added hkind ho =>
    rw [Choice.nodup_append_iff hnumbered ho, and_iff_right hn]
    constructor
    · rintro htaken kind hkind'
      exact Option.some.inj (hkind.symm.trans hkind') ▸ htaken
    · exact fun h => h _ hkind
  | removed =>
    refine iff_of_true ?_ nofun
    exact hn.sublist (((List.Sublist.refl _).middle _).map _)

/-- A command that removes no option but the last one of its kind keeps the options in order. -/
theorem Resized.inOrder {command : Command} {os os' : List Choice} (h : Resized command os os')
    (hos : Choice.InOrder os)
    (hlast : ∀ v before o after, command = .removeOption v (.str o.id) →
      os = before ++ o :: after → ∀ p ∈ after, p.isColumn ≠ o.isColumn) : Choice.InOrder os' := by
  cases h with
  | added hkind ho => exact hos.append ho
  | removed => exact hos.remove (hlast _ _ _ _ rfl rfl)

variable {c : Config} {s t : Store} {ids ids' : IdSource} {id new : String} {type : FieldType}

namespace Optioned

variable (hs : Optioned id type s)
include hs

theorem nodup_ids : ((s.schema.optionsOf id).map (·.id)).Nodup := by
  obtain ⟨f, hf, -⟩ := hs.field
  obtain ⟨place, hhas, rfl, -⟩ := hs.sound.fieldAt?_eq_some_iff.mp hf
  unfold Schema.optionsOf
  rw [hf]
  exact hs.sound.choice_ids_nodup _ (Schema.mem_treeList_of_has hhas)

theorem of_locate {place : Place} (h : s.schema.locate (.str id) = .ok place) :
    place.field.id = id ∧ place.field.type = type ∧
      place.field.choices = s.schema.optionsOf id := by
  have hat : s.schema.fieldAt? id = some place.field := by
    unfold Schema.fieldAt?
    rw [h]
    rfl
  obtain ⟨f, hf, htype⟩ := hs.field
  obtain rfl := Option.some.inj (hat.symm.trans hf)
  refine ⟨(hs.sound.locate_eq_ok_iff.mp h).2, htype, ?_⟩
  unfold Schema.optionsOf
  rw [hat]
  rfl

/-- A field whose options a command has made anew is still one with numbered options. -/
theorem of_replaced {command : Command} {place : Place} {os : List Choice}
    (hplace : s.schema.locate (.str id) = .ok place) (ht : t.schema.Sound)
    (hreplaced : Schema.Replaced place.field { place.field with options := some os }
      s.schema t.schema)
    (hresized : Resized command place.field.choices os)
    (hkind : ∀ kind, command.kind? = some kind → kind.isSome = decide (type = .matrix)) :
    Optioned id type t ∧ Resized command (s.schema.optionsOf id) (t.schema.optionsOf id) := by
  -- The place stays where it is and carries the new options.
  obtain ⟨hid, htype, hchoices⟩ := hs.of_locate hplace
  have hat : t.schema.fieldAt? id = some { place.field with options := some os } :=
    hid ▸ hreplaced.fieldAt?_eq ht
  have hos : t.schema.optionsOf id = os := by
    unfold Schema.optionsOf
    rw [hat]
    rfl
  rw [← hos, hchoices] at hresized
  refine ⟨⟨ht, ⟨_, hat, htype⟩, ?_, ?_⟩, hresized⟩
  · exact hresized.forall hs.suited fun o _ hadds _ => hkind o.isColumn hadds
  · exact hresized.forall hs.numbered fun o n _ ho => ⟨n, ho⟩

theorem resized_of_addNumbered {command : Command} {place : Place} {title : String}
    {kind : Option Bool} {n : Nat} (hplace : s.schema.locate (.str id) = .ok place)
    (hkind : command.kind? = some kind) (hsome : kind.isSome = decide (type = .matrix))
    (hn : n = (Choice.ofKind place.field.choices kind).length + 1)
    (h : (addNumbered c s place (Choice.kindWord kind) title n kind).Gives ids (t, new) ids') :
    Optioned id type t ∧ Resized command (s.schema.optionsOf id) (t.schema.optionsOf id) := by
  obtain ⟨hhas, -⟩ := hs.sound.locate_eq_ok_iff.mp hplace
  subst hn
  refine hs.of_replaced hplace (committed_of_addNumbered h).sound
    (replaced_of_addNumbered hs.sound hhas h) (.added hkind rfl) fun kind' hkind' => ?_
  obtain rfl := Option.some.inj (hkind.symm.trans hkind')
  exact hsome

/-- An accepted command that adds an option or removes one does so by the numbers. -/
theorem resized_of_run {command : Command} (hc : command.Resizes id type) {e : Effect}
    (h : (run c s command).Gives ids e ids') (ht : e.store? = some t) :
    Optioned id type t ∧ Resized command (s.schema.optionsOf id) (t.schema.optionsOf id) := by
  have hsuited {place : Place} (hplace : s.schema.locate (.str id) = .ok place) :
      ∀ o ∈ place.field.choices, o.isColumn.isSome = decide (type = .matrix) := by
    rw [(hs.of_locate hplace).2.2]
    exact hs.suited
  cases command with
  | addOption v =>
    obtain ⟨rfl, hchoice⟩ := hc
    obtain ⟨_, _, h⟩ := store_of_gives_named h ht
    obtain ⟨place, _, hlocate, hadd⟩ := Drawing.gives_bind_iff.mp h
    have hplace := (Drawing.gives_lift_iff.mp hlocate).1
    have hmatrix : decide (type = .matrix) = false := by
      cases type <;> first | rfl | cases hchoice
    -- All options of a field of choices are of the one kind.
    have hall : Choice.ofKind place.field.choices none = place.field.choices :=
      List.filter_eq_self.mpr fun o ho => by simpa [hmatrix] using hsuited hplace o ho
    exact hs.resized_of_addNumbered hplace rfl hmatrix.symm (by rw [hall]) hadd
  | addRow v =>
    obtain ⟨rfl, rfl⟩ := hc
    obtain ⟨_, _, h⟩ := store_of_gives_named h ht
    obtain ⟨place, _, hlocate, hguarded⟩ := Drawing.gives_bind_iff.mp h
    obtain ⟨-, hadd⟩ := Drawing.gives_guard_iff.mp hguarded
    have hplace := (Drawing.gives_lift_iff.mp hlocate).1
    -- All options of a matrix but the columns are rows.
    have hrows : place.field.rows = Choice.ofKind place.field.choices (some false) :=
      List.filter_congr fun o ho => by
        have ho := hsuited hplace o ho
        rcases hcolumn : o.isColumn with _ | _ | _ <;> simp_all
    exact hs.resized_of_addNumbered hplace rfl rfl (by rw [hrows]) hadd
  | addColumn v =>
    obtain ⟨rfl, rfl⟩ := hc
    obtain ⟨_, _, h⟩ := store_of_gives_named h ht
    obtain ⟨place, _, hlocate, hguarded⟩ := Drawing.gives_bind_iff.mp h
    obtain ⟨-, hadd⟩ := Drawing.gives_guard_iff.mp hguarded
    exact hs.resized_of_addNumbered (Drawing.gives_lift_iff.mp hlocate).1 rfl rfl rfl hadd
  | removeOption v option =>
    obtain rfl : v = .str id := hc
    have h := store_of_gives_silent h ht
    obtain ⟨place, before, o, after, hplace, rfl, hsplit, hreplaced⟩ :=
      replaced_of_removeOption hs.sound h
    exact hs.of_replaced hplace (committed_of_removeOption h).sound hreplaced
      (hsplit ▸ .removed) nofun
  | _ => exact hc.elim

end Optioned

/-! ### Fields that are made -/

/-- The command makes a field of a type. -/
def Command.Makes (type : FieldType) : Command → Prop
  | .addField v | .addSubField _ v => fieldType v = .ok type
  | _ => False

/-- The options of a new field are numbered in order, and they are of the kinds of its type. -/
theorem inOrder_of_planned {os : List Choice}
    (hos : os.map (fun o => (o.value, o.isColumn)) = (optionPlan type).map planned) :
    Choice.InOrder os ∧ ∀ o ∈ os, o.isColumn.isSome = decide (type = .matrix) := by
  constructor
  · intro kind
    have hvalues : (Choice.ofKind os kind).map (·.value) =
        (((optionPlan type).map planned).filter (·.2 = kind)).map (·.1) := by
      rw [← hos, List.filter_map, List.map_map]
      rfl
    rw [← List.length_map (·.value), hvalues]
    cases type <;> rcases kind with _ | _ | _ <;> rfl
  · have hkinds : ∀ p ∈ (optionPlan type).map planned, p.2.isSome = decide (type = .matrix) := by
      cases type <;> decide
    exact fun o ho => hkinds (o.value, o.isColumn) (hos ▸ List.mem_map_of_mem ho)

theorem Optioned.of_fieldAt? (hsound : t.schema.Sound) {f : Field}
    (hf : t.schema.fieldAt? id = some f) (htype : f.type = type)
    (hplan : f.choices.map (fun o => (o.value, o.isColumn)) = (optionPlan type).map planned) :
    Optioned id type t ∧ Choice.InOrder (t.schema.optionsOf id) := by
  have hchoices : t.schema.optionsOf id = f.choices := by
    unfold Schema.optionsOf
    rw [hf]
    rfl
  obtain ⟨horder, hsuited⟩ := inOrder_of_planned hplan
  rw [← hchoices] at horder hsuited
  exact ⟨⟨hsound, ⟨f, hf, htype⟩, hsuited, horder.numbered⟩, horder⟩

/-- A field that is made has options that are numbered in order. -/
theorem optioned_of_makes {command : Command} (hmakes : command.Makes type)
    (h : (run c s command).Gives ids (.named (t, id)) ids') :
    Optioned id type t ∧ Choice.InOrder (t.schema.optionsOf id) := by
  -- The identifier in the answer is that of the new field.
  have hnamed {d : Drawing (Store × String)}
      (h : (do pure (Effect.named (← d)) : Drawing Effect).Gives ids (.named (t, id)) ids') :
      ∃ mid, d.Gives ids (t, id) mid := by
    simp only [Drawing.gives_bind_iff, Drawing.gives_pure_iff] at h
    obtain ⟨⟨t', id'⟩, mid, h, heffect, _⟩ := h
    cases heffect
    exact ⟨mid, h⟩
  cases command with
  | addField v =>
    obtain ⟨_, h⟩ := hnamed h
    have hsound := (committed_of_addField h).sound
    unfold addField at h
    -- The new field stands at the end, at the top level or in its section.
    simp only [Drawing.gives_bind_iff, Drawing.gives_lift_iff, Drawing.gives_pure_iff] at h
    obtain ⟨type', _, ⟨htype', _⟩, f, _, hf, t', _, ⟨ht, _⟩, h, _⟩ := h
    obtain ⟨rfl, rfl⟩ := Prod.mk.inj h
    obtain rfl := Except.ok.inj (htype'.symm.trans hmakes)
    obtain ⟨htype, hplan⟩ := choices_of_newField hf
    have hmem : f ∈ t'.schema.fields := by
      rw [Store.schema_of_commit ht]
      exact List.mem_append_right _ List.mem_cons_self
    have hat := hsound.fieldAt?_eq_some_iff.mpr ⟨⟨none, f⟩, hmem, rfl, rfl⟩
    exact Optioned.of_fieldAt? hsound hat htype hplan
  | addSubField parent v =>
    obtain ⟨_, h⟩ := hnamed h
    have hsound := (committed_of_addSubField h).sound
    unfold addSubField at h
    simp only [Drawing.gives_bind_iff, Drawing.gives_lift_iff, Drawing.gives_pure_iff,
      Drawing.gives_guard_iff] at h
    obtain ⟨p, _, ⟨hp, _⟩, type', _, ⟨htype', _⟩, _, f, _, hf, t', _, ⟨ht, _⟩, h, _⟩ := h
    obtain ⟨rfl, rfl⟩ := Prod.mk.inj h
    obtain rfl := Except.ok.inj (htype'.symm.trans hmakes)
    obtain ⟨htype, hplan⟩ := choices_of_newField hf
    have hmem : { p with subFields := some (p.children ++ [f]) } ∈ t'.schema.fields := by
      rw [Store.schema_of_commit ht]
      exact List.mem_map.mpr ⟨p, (Schema.of_sectionOf hp).1, if_pos rfl⟩
    have hat := hsound.fieldAt?_eq_some_iff.mpr
      ⟨⟨some { p with subFields := some (p.children ++ [f]) }, f⟩,
        ⟨hmem, List.mem_append_right _ List.mem_cons_self⟩, rfl, rfl⟩
    exact Optioned.of_fieldAt? hsound hat htype hplan
  | _ => exact hmakes.elim

end Builder

/-! ### Runs -/

namespace Workspace

/-- The event is a command that adds an option to the field with an id, or removes one. -/
def Event.Resizes (id : String) (type : FieldType) (e : Event) : Prop :=
  ∃ command, e = .command (.builder command) ∧ command.Resizes id type

/-- An accepted event adds an option of a kind. -/
def Adds (w : Workspace) (e : Event) (kind : Option Bool) : Prop :=
  ∃ command, e = .command (.builder command) ∧ command.kind? = some kind ∧ (w.proposal e).isSome

/-- The event removes no option of the field with an id but the last one of its kind. -/
def RemovesLast (id : String) (w : Workspace) (e : Event) : Prop :=
  ∀ v before o after, e = .command (.builder (.removeOption v (.str o.id))) →
    w.store.schema.optionsOf id = before ++ o :: after → ∀ p ∈ after, p.isColumn ≠ o.isColumn

open Builder (Optioned Resized)

variable {w : Workspace} {id : String} {type : FieldType} {e : Event}

/-- What an event makes of numbered options: it is refused, or does so by the numbers. -/
theorem optioned_after (hs : w.store.Lawful) (hw : Optioned id type w.store)
    (he : e.Resizes id type) :
    Optioned id type (w.after e).store ∧
      (w.proposal e = none ∧ (w.after e).store = w.store ∨
        ∃ command, e = .command (.builder command) ∧ (w.proposal e).isSome ∧
          Resized command (w.store.schema.optionsOf id)
            ((w.after e).store.schema.optionsOf id)) := by
  obtain ⟨command, rfl, hresizes⟩ := he
  rw [store_after hs]
  cases hp : w.proposal (.command (.builder command)) with
  | none => exact ⟨hw, Or.inl ⟨rfl, rfl⟩⟩
  | some t =>
    obtain ⟨effect, hrun, ht⟩ := Option.bind_eq_some_iff.mp hp
    obtain ⟨ht, hresized⟩ := hw.resized_of_run hresizes
      (Prod.ext (Outcome.toOption_eq_some_iff.mp hrun) rfl) ht
    exact ⟨ht, Or.inr ⟨command, rfl, rfl, hresized⟩⟩

/-- An event keeps the values distinct exactly if it adds no option whose number is taken. -/
theorem values_nodup_after (hs : w.store.Lawful) (hw : Optioned id type w.store)
    (he : e.Resizes id type) (hn : ((w.store.schema.optionsOf id).map (·.value)).Nodup) :
    (((w.after e).store.schema.optionsOf id).map (·.value)).Nodup ↔
      ∀ kind, w.Adds e kind → ¬Choice.NextTaken (w.store.schema.optionsOf id) kind := by
  rcases (optioned_after hs hw he).2 with ⟨hp, hstore⟩ | ⟨command, rfl, hp, hresized⟩
  · rw [hstore]
    refine iff_of_true hn fun kind hadds => ?_
    obtain ⟨_, _, _, hsome⟩ := hadds
    rw [hp] at hsome
    cases hsome
  · rw [hresized.values_nodup_iff hw.numbered hn]
    constructor
    · rintro h kind ⟨_, hcommand, hkind, -⟩
      cases hcommand
      exact h kind hkind
    · exact fun h kind hkind => h kind ⟨command, rfl, hkind, hp⟩

theorem inOrder_after (hs : w.store.Lawful) (hw : Optioned id type w.store)
    (he : e.Resizes id type) (hos : Choice.InOrder (w.store.schema.optionsOf id)) (hlast : w.RemovesLast id e) :
    Choice.InOrder ((w.after e).store.schema.optionsOf id) := by
  rcases (optioned_after hs hw he).2 with ⟨-, hstore⟩ | ⟨command, rfl, -, hresized⟩
  · rwa [hstore]
  · exact hresized.inOrder hos fun v before o after hcommand =>
      hlast v before o after (by rw [hcommand])

theorem optioned_afterAll (hs : w.store.Lawful) (hw : Optioned id type w.store)
    {events : List Event} (hevents : ∀ e ∈ events, e.Resizes id type) :
    Optioned id type (w.afterAll events).store := by
  induction events generalizing w with
  | nil => exact hw
  | cons e events ih =>
    rw [List.forall_mem_cons] at hevents
    exact ih (lawful_after hs e) (optioned_after hs hw hevents.1).1 hevents.2

theorem inOrder_afterAll (hs : w.store.Lawful) (hw : Optioned id type w.store)
    (horder : Choice.InOrder (w.store.schema.optionsOf id)) {events : List Event}
    (hevents : ∀ e ∈ events, e.Resizes id type)
    (hlast : Throughout after (RemovesLast id) w events) {done : List Event}
    (hdone : done <+: events) : Choice.InOrder ((w.afterAll done).store.schema.optionsOf id) := by
  induction events generalizing w done with
  | nil =>
    obtain rfl := List.prefix_nil.mp hdone
    exact horder
  | cons e events ih =>
    rw [List.forall_mem_cons] at hevents
    rcases List.prefix_cons_iff.mp hdone with rfl | ⟨later, rfl, hlater⟩
    · exact horder
    · exact ih (lawful_after hs e) (optioned_after hs hw hevents.1).1
        (inOrder_after hs hw hevents.1 horder hlast.1) hevents.2 hlast.2 hlater

/-- Values that are distinct remain so through a run exactly if no number is given that is taken. -/
theorem values_nodup_afterAll_iff (hs : w.store.Lawful) (hw : Optioned id type w.store)
    (hn : ((w.store.schema.optionsOf id).map (·.value)).Nodup) {events : List Event}
    (hevents : ∀ e ∈ events, e.Resizes id type) :
    (∀ done, done <+: events →
      (((w.afterAll done).store.schema.optionsOf id).map (·.value)).Nodup) ↔
    Throughout after (fun w e => ∀ kind, w.Adds e kind →
      ¬Choice.NextTaken (w.store.schema.optionsOf id) kind) w events := by
  let distinct (w : Workspace) : Prop := ((w.store.schema.optionsOf id).map (·.value)).Nodup
  have hiff := @Throughout.forall_prefix_iff _ _ after
    (fun w e => ∀ kind, w.Adds e kind → ¬Choice.NextTaken (w.store.schema.optionsOf id) kind)
    distinct (fun w => w.store.Lawful ∧ Optioned id type w.store) (Event.Resizes id type)
    (fun w e hw he => ⟨lawful_after hw.1 e, (optioned_after hw.1 hw.2 he).1⟩)
    (fun w e hw he hn => values_nodup_after hw.1 hw.2 he hn) w events ⟨hs, hw⟩ hevents
  exact hiff.trans (and_iff_right hn)

/-- The store after a command that gives one. -/
theorem store_after_named (hs : w.store.Lawful) {command : Builder.Command} {t : Store} {new : String} {rest : IdSource}
    (h : (Builder.run w.config w.store command).Gives w.ids (.named (t, new)) rest) :
    (w.after (.command (.builder command))).store = t := by
  have hproposal : w.proposal (.command (.builder command)) = some t := by
    show ((Builder.run w.config w.store command).run.run w.ids).1.toOption.bind
      Builder.Effect.store? = some t
    rw [h]
    rfl
  rw [store_after hs, hproposal]
  rfl

/-- A field that the builder has made in a lawful store, as every store is that a run comes to
(`lawful_afterAll`), keeps its type while options are added to it and removed.  Its options have
distinct ids, and those of different kinds have different values.  All values are distinct throughout
exactly if no accepted addition meets an option of its kind with the number that is next; so they are
if no option is removed but the last one of its kind. -/
theorem option_values_nodup_iff (hs : w.store.Lawful) {command : Builder.Command}
    (hmakes : command.Makes type) {t : Store} {rest : IdSource}
    (hmade : (Builder.run w.config w.store command).Gives w.ids (.named (t, id)) rest)
    {events : List Event} (hevents : ∀ e ∈ events, e.Resizes id type) :
    let made := w.after (.command (.builder command))
    let options := fun (w : Workspace) => w.store.schema.optionsOf id
    (∀ done, done <+: events →
      (∃ f, (made.afterAll done).store.schema.fieldAt? id = some f ∧ f.type = type) ∧
      ((options (made.afterAll done)).map (·.id)).Nodup ∧
      ∀ o ∈ options (made.afterAll done), ∀ p ∈ options (made.afterAll done),
        o.isColumn ≠ p.isColumn → o.value ≠ p.value) ∧
    ((∀ done, done <+: events → ((options (made.afterAll done)).map (·.value)).Nodup) ↔
      Throughout after (fun w e => ∀ kind, w.Adds e kind → ¬Choice.NextTaken (options w) kind)
        made events) ∧
    (Throughout after (RemovesLast id) made events →
      ∀ done, done <+: events → ((options (made.afterAll done)).map (·.value)).Nodup) := by
  intro made options
  -- The field starts with its options in order; what the events keep is that they are numbered.
  obtain ⟨hstart, horder⟩ := Builder.optioned_of_makes hmakes hmade
  have hmadeLawful : made.store.Lawful := lawful_after hs _
  rw [← store_after_named hs hmade] at hstart horder
  have hat {done : List Event} (hdone : done <+: events) :
      Optioned id type (made.afterAll done).store :=
    optioned_afterAll hmadeLawful hstart fun e he => hevents e (hdone.subset he)
  refine ⟨fun done hdone => ⟨(hat hdone).field, (hat hdone).nodup_ids, ?_⟩, ?_, ?_⟩
  · exact fun o ho p hp => mt ((hat hdone).numbered.kind_eq ho hp)
  · exact values_nodup_afterAll_iff hmadeLawful hstart (horder.nodup hstart.nodup_ids) hevents
  · exact fun hlast done hdone =>
      (inOrder_afterAll hmadeLawful hstart horder hevents hlast hdone).nodup (hat hdone).nodup_ids

/-- A matrix loses its last column and gets a row.  No number is given twice. -/
theorem option_values_nodup_iff_matrix :
    let remove : Event := .command (.builder (.removeOption (.str "m") (.str "e")))
    let add : Event := .command (.builder (.addRow (.str "m")))
    ∃ w t rest,
      Workspace.new .standard ⟨["m", "a", "b", "c", "d", "e", "f"], 0⟩ .null none = .ok w ∧
      (Builder.run w.config w.store (.addField (.str "matrix"))).Gives w.ids (.named (t, "m"))
        rest ∧
      let made := w.after (.command (.builder (.addField (.str "matrix"))))
      ((made.afterAll [remove, add]).store.schema.optionsOf "m").map (fun o => (o.id, o.value)) =
        [("a", "row1"), ("b", "row2"), ("c", "column1"), ("d", "column2"), ("f", "row3")] ∧
      (((made.afterAll [remove, add]).store.schema.optionsOf "m").map (·.value)).Nodup := by
  intro remove add
  obtain ⟨w, t, rest, made, hw, rfl, hmade, hvalues, hfree⟩ : ∃ w t rest made,
      Workspace.new .standard ⟨["m", "a", "b", "c", "d", "e", "f"], 0⟩ .null none = .ok w ∧
      made = w.after (.command (.builder (.addField (.str "matrix")))) ∧
      (Builder.run w.config w.store (.addField (.str "matrix"))).Gives w.ids (.named (t, "m"))
        rest ∧
      ((made.afterAll [remove, add]).store.schema.optionsOf "m").map (fun o => (o.id, o.value)) =
        [("a", "row1"), ("b", "row2"), ("c", "column1"), ("d", "column2"), ("f", "row3")] ∧
      ¬Choice.NextTaken ((made.after remove).store.schema.optionsOf "m") (some false) :=
    ⟨_, _, _, _, rfl, rfl, rfl, rfl, by decide +kernel⟩
  have hevents : ∀ e ∈ [remove, add], e.Resizes "m" .matrix :=
    List.forall_mem_cons.mpr ⟨⟨_, rfl, rfl⟩, List.forall_mem_singleton.mpr ⟨_, rfl, rfl, rfl⟩⟩
  have hmakes : (Builder.Command.addField (.str "matrix")).Makes .matrix := rfl
  obtain ⟨-, hiff, -⟩ := option_values_nodup_iff (lawful_of_new hw) hmakes hmade hevents
  have hdistinct := hiff.mpr ⟨?_, ?_, trivial⟩
  · exact ⟨w, t, rest, hw, hmade, hvalues, hdistinct _ (List.prefix_refl _)⟩
  -- Of the two events only the second adds an option, and its number is free.
  · rintro kind ⟨_, hcommand, hkind, -⟩
    obtain rfl := Command.builder.inj (Event.command.inj hcommand)
    cases hkind
  · rintro kind ⟨_, hcommand, hkind, -⟩
    obtain rfl := Command.builder.inj (Event.command.inj hcommand)
    obtain rfl := Option.some.inj hkind
    exact hfree

/-- A field of choices loses its first option and gets another one, which shares its value with the
last of the two that were left. -/
theorem option_values_not_nodup :
    let events : List Event := [.command (.builder (.removeOption (.str "f") (.str "a"))),
      .command (.builder (.addOption (.str "f")))]
    ∃ w t rest, Workspace.new .standard ⟨["f", "a", "b", "c", "d"], 0⟩ .null none = .ok w ∧
      (Builder.run w.config w.store (.addField (.str "radio"))).Gives w.ids (.named (t, "f")) rest ∧
      (∀ e ∈ events, e.Resizes "f" .radio) ∧
      let made := w.after (.command (.builder (.addField (.str "radio"))))
      ((made.afterAll events).store.schema.optionsOf "f").map (·.value) =
        ["option2", "option3", "option3"] ∧
      ¬(((made.afterAll events).store.schema.optionsOf "f").map (·.value)).Nodup := by
  intro events
  have hevents : ∀ e ∈ events, e.Resizes "f" .radio :=
    List.forall_mem_cons.mpr ⟨⟨_, rfl, rfl⟩, List.forall_mem_singleton.mpr ⟨_, rfl, rfl, rfl⟩⟩
  exact ⟨_, _, _, rfl, rfl, hevents, rfl, by decide +kernel⟩

end Workspace
end Questionnaire
