import Questionnaire.Proofs.Form.Respelling

/-!
# Commands in either spelling

What is handed to a command may spell each member of each record in either way.  A whole form and a
whole field are read alike in all spellings (`Respelled.agree`).  Changes are renamed first, and of
two spellings of a member the later one counts (`Restated`); what is renamed is `Matched`, member by
member, and stays so when the constraints are completed and when it is put over a definition.

So a command in another spelling makes the same store, or is refused in the same family and for the
same field (`Builder.alike_of_restated`).
-/

namespace Questionnaire

/-! ### Outcomes that callers cannot tell apart -/

/-- Faults that callers cannot tell apart: refusals of one family about one field, or the same. -/
inductive Fault.Alike : Fault → Fault → Prop
  | same (e : Fault) : Alike e e
  | refusal {r r' : Refusal} (hfamily : r.family = r'.family) (hfieldId : r.fieldId = r'.fieldId) :
      Alike (.refusal r) (.refusal r')

/-- Both succeed, with results in a relation, or both fail, and callers cannot tell how. -/
inductive Outcome.Alike {α β : Type} (R : α → β → Prop) : Outcome α → Outcome β → Prop
  | ok {a : α} {b : β} (h : R a b) : Alike R (.ok a) (.ok b)
  | error {e e' : Fault} (h : e.Alike e') : Alike R (.error e) (.error e')

namespace Outcome

variable {α β γ δ : Type} {R : α → β → Prop} {S : γ → δ → Prop} {o : Outcome α} {o' : Outcome β}

theorem Alike.refl (o : Outcome α) : Alike Eq o o := by
  cases o with
  | ok a => exact .ok rfl
  | error e => exact .error (.same e)

theorem Alike.bind {f : α → Outcome γ} {g : β → Outcome δ} (h : Alike R o o')
    (hfg : ∀ a b, R a b → Alike S (f a) (g b)) : Alike S (o >>= f) (o' >>= g) := by
  cases h with
  | ok h => exact hfg _ _ h
  | error h => exact .error h

theorem Alike.mono {S : α → β → Prop} (h : Alike R o o') (hRS : ∀ a b, R a b → S a b) :
    Alike S o o' := by
  cases h with
  | ok h => exact .ok (hRS _ _ h)
  | error h => exact .error h

/-- A computation may go on in two ways that are alike. -/
theorem Alike.bind_left (o : Outcome α) {f : α → Outcome γ} {g : α → Outcome δ}
    (hfg : ∀ a, Alike S (f a) (g a)) : Alike S (o >>= f) (o >>= g) :=
  (Alike.refl o).bind fun a _ hab => hab ▸ hfg a

end Outcome

/-- What is made of readings that are alike is made of one result, or of two refusals. -/
@[elab_as_elim]
theorem Reading.Alike.elim {α : Type} {motive : Reading α → Reading α → Prop} {x y : Reading α}
    (h : x.Alike y) (read : ∀ a, motive (.read a) (.read a))
    (refused : ∀ ms ns, motive (.refused ms) (.refused ns)) : motive x y := by
  cases x with
  | read a =>
    cases y with
    | read b =>
      obtain rfl : a = b := Option.some.inj h
      exact read a
    | refused ns => cases h
  | refused ms =>
    cases y with
    | read b => cases h
    | refused ns => exact refused ms ns

/-! ### Changes that come to the same -/

/-- Changes that come to the same: they differ in the spellings of members only, or some member is
left out that a later one outdoes, since it is the same member. -/
inductive Restated (kind : RecordKind) : Value → Value → Prop
  | respelled {v w : Value} (h : Respelled (.record kind) v w) : Restated kind v w
  | outdone (before : Members Value) {after : Members Value} {name : String} {v : Value}
      (hlater : ∃ m ∈ after, kind.SameMember name m.1) :
      Restated kind (.dict (before ++ (name, v) :: after)) (.dict (before ++ after))

namespace RecordKind

variable {kind : RecordKind} {ms ns done : Members Value} {name : String}

/-- Changes mention none but members that the record has. -/
def Knows (kind : RecordKind) (ms : Members Value) : Prop :=
  ∀ m ∈ ms, (kind.documentName? m.1).isSome

/-- Two changes mention known members only, or neither does, and they say the same of each. -/
structure SaysSame (kind : RecordKind) (ms ns : Members Value) : Prop where
  knows : kind.Knows ms ↔ kind.Knows ns
  said (name : String) :
    Option.Rel (Respelled (kind.slot name)) (kind.said? ms name) (kind.said? ns name)

theorem SaysSame.refl (ms : Members Value) : kind.SaysSame ms ms := by
  refine ⟨Iff.rfl, fun name => ?_⟩
  cases kind.said? ms name with
  | none => exact .none
  | some v => exact .some (.same _ v)

theorem said?_append (ms ns : Members Value) (name : String) :
    kind.said? (ms ++ ns) name = (kind.said? ns name).or (kind.said? ms name) := by
  unfold said?
  rw [List.reverse_append, List.find?_append, Option.map_or]

/-- A later member is said last. -/
theorem isSome_said?_of_mem {m : String × Value} (hm : m ∈ ms)
    (hname : kind.documentName? m.1 = some name) : (kind.said? ms name).isSome := by
  unfold said?
  rw [Option.isSome_map, List.find?_isSome]
  exact ⟨m, List.mem_reverse.mpr hm, by simpa using hname⟩

/-- A member that a later one outdoes says nothing. -/
theorem SaysSame.of_outdone {before after : Members Value} {v : Value}
    (hlater : ∃ m ∈ after, kind.SameMember name m.1) :
    kind.SaysSame (before ++ (name, v) :: after) (before ++ after) := by
  obtain ⟨m, hm, hsame⟩ := hlater
  -- Dropping it leaves the known names, since the later member has the same one.
  constructor
  · constructor
    · intro h n hn
      refine h n ?_
      rcases List.mem_append.mp hn with hn | hn
      · exact List.mem_append_left _ hn
      · exact List.mem_append_right _ (List.mem_cons_of_mem _ hn)
    · intro h n hn
      rcases List.mem_append.mp hn with hn | hn
      · exact h n (List.mem_append_left _ hn)
      · rcases List.mem_cons.mp hn with rfl | hn
        · rw [hsame.documentName?_eq]
          exact h m (List.mem_append_right _ hm)
        · exact h n (List.mem_append_right _ hn)
  -- And for each name the last word is the later member's, or was not this one's.
  · intro other
    have heq : kind.said? (before ++ (name, v) :: after) other =
        kind.said? (before ++ after) other := by
      rw [said?_append, said?_append, said?_cons]
      by_cases hother : kind.documentName? name = some other
      · obtain ⟨w, hw⟩ := Option.isSome_iff_exists.mp
          (isSome_said?_of_mem hm (hsame.documentName?_eq.symm.trans hother))
        rw [hw]
        rfl
      · rw [if_neg hother, Option.or_none]
    rw [heq]
    exact (SaysSame.refl _).said other

theorem knows_iff_of_forall₂ {R : Slot → Value → Value → Prop}
    (h : List.Forall₂ (kind.Renamed R) ms ns) :
    kind.Knows ms ↔ kind.Knows ns := by
  unfold Knows
  induction h with
  | nil => exact Iff.rfl
  | cons hmn _ ih => rw [List.forall_mem_cons, List.forall_mem_cons, hmn.1.documentName?_eq, ih]

/-- Changes that come to the same are the same, or objects that say the same. -/
theorem saysSame_of_restated {v w : Value} (h : Restated kind v w) :
    v = w ∨ ∃ ms ns, v = .dict ms ∧ w = .dict ns ∧ kind.SaysSame ms ns := by
  cases h with
  | respelled h =>
    refine h.eq_or_forall₂.imp_right ?_
    rintro ⟨ms, ns, rfl, rfl, -, h⟩
    exact ⟨ms, ns, rfl, rfl, knows_iff_of_forall₂ h, rel_said? h⟩
  | outdone before hlater => exact Or.inr ⟨_, _, rfl, rfl, .of_outdone hlater⟩

/-! ### Changes under their names in documents -/

/-- Changes under their names in documents, with values in a relation for what stands there. -/
structure Matched (R : Slot → Value → Value → Prop) (kind : RecordKind) (ms ns : Members Value) :
    Prop where
  left : kind.Documented ms
  right : kind.Documented ns
  get? (name : String) : Option.Rel (R (kind.slot name)) (ms.get? name) (ns.get? name)

variable {R : Slot → Value → Value → Prop}

theorem Matched.put (h : kind.Matched R ms ns) (hname : name ∈ kind.documentNames) {v w : Value}
    (hvw : R (kind.slot name) v w) : kind.Matched R (ms.put name v) (ns.put name w) := by
  refine ⟨h.left.put hname v, h.right.put hname w, fun other => ?_⟩
  rw [Members.get?_put, Members.get?_put]
  by_cases hother : name = other
  · rw [if_pos hother, if_pos hother]
    exact .some (hother ▸ hvw)
  · rw [if_neg hother, if_neg hother]
    exact h.get? other

theorem Matched.agree (h : kind.Matched Respelled ms ns) : kind.Matched Slot.Agree ms ns := by
  refine ⟨h.left, h.right, fun name => ?_⟩
  have hrel := h.get? name
  generalize ms.get? name = o at hrel ⊢
  generalize ns.get? name = o' at hrel ⊢
  cases hrel with
  | none => exact .none
  | some h => exact .some h.agree

/-- Put over the members of one definition, they are found there or in the definition. -/
theorem Matched.corresponds (h : kind.Matched Slot.Agree ms ns) (old : Members Value) :
    Members.Corresponds Slot.Agree kind (Members.overlay old ms) (Members.overlay old ns) := by
  have hfound (other : String) : Option.Rel (kind.slot other).Agree
      ((Members.overlay old ms).get? other) ((Members.overlay old ns).get? other) := by
    rw [Members.get?_overlay_of_nodup h.left.nodup, Members.get?_overlay_of_nodup h.right.nodup]
    refine rel_or (h.get? other) ?_
    cases old.get? other with
    | none => exact .none
    | some v => exact .some (.refl _ v)
  intro name camel hmem
  refine rel_or (hfound camel) ?_
  rw [← slot_of_documentName? (documentName?_of_mem_spellings hmem)]
  exact hfound name

/-- Renaming stops at the first member that the record does not have. -/
theorem renameFrom_cases (ms done : Members Value) :
    kind.Knows ms ∧ (∃ renamed, kind.renameFrom done ms = .ok renamed) ∨
      ¬kind.Knows ms ∧
        ∃ name, kind.renameFrom done ms = refuse (.unknownMember kind (.str name)) := by
  induction ms generalizing done with
  | nil => exact Or.inl ⟨List.forall_mem_nil _, done, rfl⟩
  | cons m ms ih =>
    rw [renameFrom, Knows, List.forall_mem_cons]
    cases hm : kind.documentName? m.1 with
    | none => exact Or.inr ⟨fun h => Bool.false_ne_true h.1, m.1, rfl⟩
    | some camel =>
      rw [and_iff_right (show (some camel).isSome = true from rfl)]
      exact ih (done.put camel m.2)

/-- Changes that come to the same are renamed to changes that match. -/
theorem documentMembers_alike {v w : Value} (h : Restated kind v w) :
    Outcome.Alike (kind.Matched Respelled) (kind.documentMembers v) (kind.documentMembers w) := by
  -- Mappings that say the same are known together, and renamed into members that agree.
  have hdict {ms ns : Members Value} (h : kind.SaysSame ms ns) :
      Outcome.Alike (kind.Matched Respelled) (kind.documentMembers (.dict ms))
        (kind.documentMembers (.dict ns)) := by
    have hms : kind.documentMembers (.dict ms) = kind.renameFrom [] ms := rfl
    have hns : kind.documentMembers (.dict ns) = kind.renameFrom [] ns := rfl
    rcases renameFrom_cases ms [] with ⟨hknows, renamed, hok⟩ | ⟨hknows, name, hrefused⟩
    · obtain ⟨renamed', hok'⟩ : ∃ renamed', kind.renameFrom [] ns = .ok renamed' :=
        ((renameFrom_cases ns []).resolve_right fun h' => h'.1 (h.knows.mp hknows)).2
      obtain ⟨hdocumented, hsaid⟩ := documentMembers_eq_ok (hms.trans hok)
      obtain ⟨hdocumented', hsaid'⟩ := documentMembers_eq_ok (hns.trans hok')
      rw [hms, hns, hok, hok']
      refine .ok ⟨hdocumented, hdocumented', fun name => ?_⟩
      rw [hsaid, hsaid']
      exact h.said name
    · obtain ⟨name', hrefused'⟩ :=
        ((renameFrom_cases ns []).resolve_left fun h' => hknows (h.knows.mpr h'.1)).2
      rw [hms, hns, hrefused, hrefused']
      exact .error (.refusal rfl rfl)
  rcases saysSame_of_restated h with rfl | ⟨ms, ns, rfl, rfl, hsame⟩
  · cases v with
    | dict ms => exact hdict (.refl ms)
    | _ => exact .error (.same _)
  · exact hdict hsame

end RecordKind

/-! ### Commands of the store -/

namespace Store

variable {s : Store} {id v w : Value}

theorem addField_alike (h : Respelled (.record .field) v w) :
    Outcome.Alike Eq (s.addField v) (s.addField w) := by
  -- The identifier shown in a refusal is the same, so the two outcomes agree in full.
  have hshown : shownId v = shownId w := by
    rcases h.eq_or_forall₂ with rfl | ⟨ms, ns, rfl, rfl, honce, hmn⟩
    · rfl
    · have hrel := corresponds_of_forall₂ hmn honce "id" "id" (by decide)
      rw [Option.or_self, Option.or_self] at hrel
      show (Members.get? ms "id").getD .null = (Members.get? ns "id").getD .null
      generalize Members.get? ms "id" = o at hrel ⊢
      generalize Members.get? ns "id" = o' at hrel ⊢
      cases hrel with
      | none => rfl
      | some h => exact h.agree
  have hread : (Field.read v).Alike (Field.read w) := h.agree
  have hfield : Outcome.Alike Eq (fieldOf v) (fieldOf w) := by
    unfold fieldOf
    rw [hshown]
    exact hread.elim (fun _ => .refl _) fun _ _ => .error (.refusal rfl rfl)
  refine hfield.bind fun f g hfg => ?_
  cases hfg
  exact .refl _

/-- An import reads restated schemas alike. -/
theorem importSchema_alike (c : Config) (h : Respelled (.record .schema) v w) :
    Outcome.Alike Eq (importSchema c v) (importSchema c w) := by
  have hread : (c.readSchema v).toOption = (c.readSchema w).toOption := h.agree c.settings
  have hhanded : Outcome.Alike Eq (handed c v) (handed c w) := by
    unfold handed
    cases hv : c.readSchema v with
    | ok schema =>
      cases hw : c.readSchema w with
      | ok schema' =>
        rw [hv, hw] at hread
        exact .ok (Option.some.inj hread)
      | error u =>
        rw [hv, hw] at hread
        cases hread
    | error u =>
      cases hw : c.readSchema w with
      | ok schema =>
        rw [hv, hw] at hread
        cases hread
      | error u' => exact .error (.refusal rfl rfl)
  exact hhanded.bind fun _ _ hschema => hschema ▸ .refl _

theorem overlaid_alike {ms ns : Members Value} (f : Field)
    (h : RecordKind.field.Matched Slot.Agree ms ns) : (overlaid f ms).Alike (overlaid f ns) :=
  Field.read_alike (h.corresponds _)

/-- Changes whose names in documents match make the same of a field. -/
theorem updateField_alike_of (h : Outcome.Alike (RecordKind.field.Matched Slot.Agree)
      (RecordKind.field.documentMembers v) (RecordKind.field.documentMembers w)) :
    Outcome.Alike Eq (s.updateField id v) (s.updateField id w) := by
  have hupdated : Outcome.Alike Eq (s.updated id v) (s.updated id w) := by
    unfold updated
    cases s.schema.field? id with
    | none => exact .refl _
    | some f =>
      refine h.bind fun ms ns hmn => ?_
      exact (overlaid_alike f hmn).elim (fun _ => .refl _) fun _ _ => .error (.refusal rfl rfl)
  exact hupdated.bind fun _ _ hschema => hschema ▸ .refl _

theorem updateField_alike (h : Restated .field v w) :
    Outcome.Alike Eq (s.updateField id v) (s.updateField id w) :=
  updateField_alike_of ((RecordKind.documentMembers_alike h).mono fun _ _ => .agree)

theorem updateSettings_alike (h : Restated .settings v w) :
    Outcome.Alike Eq (s.updateSettings v) (s.updateSettings w) := by
  have hresettled : Outcome.Alike Eq (s.resettled v) (s.resettled w) := by
    refine (RecordKind.documentMembers_alike h).bind fun ms ns hmn => ?_
    have hread : (Settings.read (.dict _)).Alike (Settings.read (.dict _)) :=
      Settings.ofMembers_alike (hmn.agree.corresponds (s.schema.settings.members .document))
    exact hread.elim (fun _ => .refl _) fun _ _ => .error (.refusal rfl rfl)
  exact hresettled.bind fun _ _ hschema => hschema ▸ .refl _

/-- A command of the store in another spelling. -/
inductive Command.Restated : Command → Command → Prop
  | addField {v w : Value} (h : Respelled (.record .field) v w) :
      Restated (.addField v) (.addField w)
  | updateField (id : Value) {v w : Value} (h : Questionnaire.Restated .field v w) :
      Restated (.updateField id v) (.updateField id w)
  | updateSettings {v w : Value} (h : Questionnaire.Restated .settings v w) :
      Restated (.updateSettings v) (.updateSettings w)
  | importSchema {v w : Value} (h : Respelled (.record .schema) v w) :
      Restated (.importSchema v) (.importSchema w)

theorem run_alike (c : Config) (s : Store) {command command' : Command}
    (h : command.Restated command') : Outcome.Alike Eq (s.run c command) (s.run c command') := by
  cases h with
  | addField h => exact addField_alike h
  | updateField id h => exact updateField_alike h
  | updateSettings h => exact updateSettings_alike h
  | importSchema h => exact importSchema_alike c h

end Store

/-! ### Commands of the builder -/

namespace Builder

open RecordKind

variable {s : Store} {f : Field} {id v w : Value} {ms ns : Members Value}

/-- Constraints that are put over the old ones. -/
theorem putConstraints_alike (h : Matched Respelled .field ms ns) (old : Members Value)
    (hvw : Restated .constraints v w) :
    Outcome.Alike (Matched Slot.Agree .field)
      (do let new ← RecordKind.constraints.documentMembers v
          pure (ms.put "validations" (.dict (Members.overlay old new))))
      (do let new ← RecordKind.constraints.documentMembers w
          pure (ns.put "validations" (.dict (Members.overlay old new)))) := by
  refine (documentMembers_alike hvw).bind fun cs ds hcd => .ok ?_
  exact h.agree.put (by decide) (Slot.Agree.record (hcd.agree.corresponds old))

/-- Restated changes are completed alike. -/
theorem completeChanges_alike (f : Field) (h : Restated .field v w) :
    Outcome.Alike (Matched Slot.Agree .field) (completeChanges f v) (completeChanges f w) := by
  refine (documentMembers_alike h).bind fun ms ns hmn => ?_
  have hrel := hmn.get? "validations"
  have hput {v w : Value} (hvw : Restated .constraints v w) :=
    putConstraints_alike hmn ((f.constraints.map (·.members .document)).getD []) hvw
  generalize Members.get? ms "validations" = o at hrel ⊢
  generalize Members.get? ns "validations" = o' at hrel ⊢
  -- The constraints of both are absent together; null and records keep their spelling.
  cases hrel with
  | none => exact .ok hmn.agree
  | @some v w hvw =>
    rcases hvw.eq_or_forall₂ with rfl | ⟨ms', ns', rfl, rfl, -, -⟩
    · cases v with
      | null => exact .ok hmn.agree
      | record kind ms' =>
        cases kind with
        | constraints => exact hput (.respelled (.same _ (.dict ms')))
        | _ => exact hput (.respelled (.same _ _))
      | _ => exact hput (.respelled (.same _ _))
    · exact hput (.respelled hvw)

theorem updateSubField_alike (parent : Value) (h : Restated .field v w) :
    Outcome.Alike Eq (updateSubField s parent id v) (updateSubField s parent id w) := by
  refine .bind_left _ fun p => .bind_left _ fun f => ?_
  refine (completeChanges_alike f h).bind fun ms ns hmn => ?_
  have hconditions : (Members.get? ms "conditions").any (·.isTruthy) =
      (Members.get? ns "conditions").any (·.isTruthy) := by
    have hrel := hmn.get? "conditions"
    generalize Members.get? ms "conditions" = o at hrel ⊢
    generalize Members.get? ns "conditions" = o' at hrel ⊢
    cases hrel with
    | none => rfl
    | some h => exact h.1
  rw [hconditions]
  split
  · exact .refl _
  · exact (Store.overlaid_alike f hmn).elim (fun _ => .refl _) fun _ _ => .error (.refusal rfl rfl)

theorem updateField_alike (h : Restated .field v w) :
    Outcome.Alike Eq (updateField s id v) (updateField s id w) := by
  refine .bind_left _ fun place => ?_
  cases place.owner? with
  | some p => exact updateSubField_alike _ h
  | none =>
    refine (completeChanges_alike place.field h).bind fun ms ns hmn => ?_
    refine Store.updateField_alike_of ?_
    rw [hmn.left.documentMembers, hmn.right.documentMembers]
    exact .ok hmn

theorem updateCondition_alike (index : Value) (h : Restated .condition v w) :
    Outcome.Alike Eq (updateCondition s id index v) (updateCondition s id index w) := by
  refine .bind_left _ fun f => .bind_left _ fun n => ?_
  refine (documentMembers_alike h).bind fun ms ns hmn => ?_
  have hread := Condition.ofMembers_alike
    (hmn.agree.corresponds (((f.conditionList[n]?).map (·.members .document)).getD []))
  exact hread.elim (fun _ => .refl _) fun _ _ => .error (.refusal rfl rfl)

/-- A command in another spelling. -/
inductive Command.Restated : Command → Command → Prop
  | store {command command' : Store.Command} (h : command.Restated command') :
      Restated (.store command) (.store command')
  | updateField (id : Value) {v w : Value} (h : Questionnaire.Restated .field v w) :
      Restated (.updateField id v) (.updateField id w)
  | updateSubField (parent id : Value) {v w : Value} (h : Questionnaire.Restated .field v w) :
      Restated (.updateSubField parent id v) (.updateSubField parent id w)
  | updateCondition (id index : Value) {v w : Value} (h : Questionnaire.Restated .condition v w) :
      Restated (.updateCondition id index v) (.updateCondition id index w)

/-- What a command makes of the store is all that it does. -/
theorem silent_alike {o o' : Outcome Store} (h : Outcome.Alike Eq o o') (ids : IdSource) :
    Outcome.Alike Eq ((do pure (.silent (← o)) : Drawing Effect).run.run ids).1
        ((do pure (.silent (← o')) : Drawing Effect).run.run ids).1 ∧
      ((do pure (.silent (← o)) : Drawing Effect).run.run ids).2 =
        ((do pure (.silent (← o')) : Drawing Effect).run.run ids).2 := by
  cases h with
  | ok h =>
    cases h
    exact ⟨.ok rfl, rfl⟩
  | error h => exact ⟨.error h, rfl⟩

theorem run_alike (c : Config) (s : Store) {command command' : Command}
    (h : command.Restated command') (ids : IdSource) :
    Outcome.Alike Eq ((run c s command).run.run ids).1 ((run c s command').run.run ids).1 ∧
      ((run c s command).run.run ids).2 = ((run c s command').run.run ids).2 := by
  cases h with
  | store h => exact silent_alike (Store.run_alike c s h) ids
  | updateField id h => exact silent_alike (updateField_alike h) ids
  | updateSubField parent id h => exact silent_alike (updateSubField_alike parent h) ids
  | updateCondition id index h => exact silent_alike (updateCondition_alike index h) ids

/-- Spellings do not matter.  A command in which the members of a form, of a field or of changes are
spelled in other ways, at any depth, makes the same store with the same ledger, or is refused in the
same family and for the same field; and if changes mention a member in both spellings, it is as if
the earlier mention were not there. -/
theorem alike_of_restated (c : Config) (s : Store) :
    (∀ command command' : Store.Command, command.Restated command' →
      Outcome.Alike Eq (s.run c command) (s.run c command')) ∧
    ∀ command command' : Command, command.Restated command' → ∀ ids,
      Outcome.Alike Eq ((run c s command).run.run ids).1 ((run c s command').run.run ids).1 ∧
        ((run c s command).run.run ids).2 = ((run c s command').run.run ids).2 :=
  ⟨fun _ _ h => Store.run_alike c s h, fun _ _ h ids => run_alike c s h ids⟩

/-- A section with a matrix of one column.  Two members, one deep in the other, are spelled as
given. -/
def guests (subFields isColumn : String) : Value :=
  let column := [("id", .str "m"), ("value", .str "mon"), ("label", .str "Monday")]
  let meals := [("id", .str "a"), ("type", .str "matrix"), ("label", .str "Meals")]
  let guest := [("id", .str "s"), ("type", .str "repeatable"), ("label", .str "Guest")]
  .dict (guest ++ [(subFields, .list [.dict (meals ++
    [("options", .list [.dict (column ++ [(isColumn, .bool true)])])])])])

/-- A bound among the constraints of a field. -/
def bound (maxFiles : String) : Value := .dict [("validations", .dict [(maxFiles, .int 2)])]

/-- A section is added in either spelling, a field in it is changed in either spelling, and of two
spellings of a setting the later counts. -/
theorem alike_of_restated_guests :
    ∃ s t, Store.new .standard none = .ok s ∧
      s.run .standard (.addField (guests "sub_fields" "is_column")) = .ok t ∧
      Outcome.Alike Eq (s.run .standard (.addField (guests "sub_fields" "is_column")))
        (s.run .standard (.addField (guests "subFields" "isColumn"))) ∧
      (∀ ids, let bounded := run .standard t (.updateField (.str "a") (bound "max_files"))
        (∃ u, (bounded.run.run ids).1 = .ok (.silent u)) ∧
          Outcome.Alike Eq (bounded.run.run ids).1
            ((run .standard t (.updateField (.str "a") (bound "maxFiles"))).run.run ids).1) ∧
      Outcome.Alike Eq (t.run .standard (.updateSettings
          (.dict [("showPageTitles", .bool true), ("show_page_titles", .bool false)])))
        (t.run .standard (.updateSettings (.dict [("show_page_titles", .bool false)]))) := by
  -- The three respellings are of a nested member, of a constraint and of a name said twice.
  have hcolumn : Respelled (.record .field) (guests "sub_fields" "is_column")
      (guests "subFields" "isColumn") := by
    refine .member _ [] (by decide) (by decide) (.item [] [] ?_)
    refine .member _ [] (by decide) (by decide) (.item [] [] ?_)
    exact .member _ [] (by decide) (by decide) (.same _ _)
  have hbound : Respelled (.record .field) (bound "max_files") (bound "maxFiles") :=
    .member [] [] (by decide) (by decide) (.member [] [] (by decide) (by decide) (.same _ _))
  have hlater : Restated .settings
      (.dict [("showPageTitles", .bool true), ("show_page_titles", .bool false)])
      (.dict [("show_page_titles", .bool false)]) :=
    .outdone [] ⟨_, List.mem_cons_self, by decide⟩
  refine ⟨_, _, rfl, rfl, (alike_of_restated _ _).1 _ _ (.addField hcolumn),
    fun ids => ⟨⟨_, rfl⟩, ?_⟩, ?_⟩
  · exact ((alike_of_restated _ _).2 _ _ (.updateField _ (.respelled hbound)) ids).1
  · exact (alike_of_restated _ _).1 _ _ (.updateSettings hlater)

end Builder

end Questionnaire
