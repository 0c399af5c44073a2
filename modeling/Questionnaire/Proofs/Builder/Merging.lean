import Questionnaire.Proofs.Builder.Place
import Questionnaire.Proofs.Form.Parts
import Questionnaire.Proofs.Workspace.Lasting

/-!
# Changing fields by parts

Changes say something of some members, under either of their names (`RecordKind.said?`).  What a field
is read from when it is changed are its own members with what the changes say over them, and the
constraints are changed in the same way one level below (`Field.Overlaid`).  So each part of which
nothing is said remains as it was (`Field.Merged`).

A field at the top and a field in a section are changed along different ways, which come to the same:
`Builder.updateField_eq_ok_iff` is one account of both.  `Builder.updateField_merges` says what this
means for the form, and that the two ways accept the same changes and make the same of them.
-/

namespace Questionnaire

/-! ### What changes say -/

namespace RecordKind

/-- What changes say of a member, under either of its names; what they say last counts. -/
def said? (kind : RecordKind) (changes : Members Value) (name : String) : Option Value :=
  (changes.reverse.find? fun m => kind.documentName? m.1 = some name).map Prod.snd

/-- Members under their names in documents, each once. -/
structure Documented (kind : RecordKind) (ms : Members Value) : Prop where
  nodup : ms.names.Nodup
  names : ms.names ⊆ kind.documentNames

variable {kind : RecordKind} {changes done ms : Members Value} {name : String}

theorem said?_cons (m : String × Value) : kind.said? (m :: changes) name =
    (kind.said? changes name).or
      (if kind.documentName? m.1 = some name then some m.2 else none) := by
  unfold said?
  rw [List.reverse_cons, List.find?_append, Option.map_or]
  by_cases h : kind.documentName? m.1 = some name
  · simp [h]
  · simp [h]

theorem mem_documentNames_of_documentName? {other : String}
    (h : kind.documentName? other = some name) : name ∈ kind.documentNames := by
  unfold documentName? at h
  split at h
  · rename_i camel hlookup
    obtain rfl := Option.some.inj h
    obtain ⟨before, after, hspellings, -⟩ := List.lookup_eq_some_iff.mp hlookup
    refine List.mem_map.mpr ⟨(other, camel), ?_, rfl⟩
    rw [hspellings]
    exact List.mem_append_right _ List.mem_cons_self
  · split at h
    · rename_i hany
      obtain rfl := Option.some.inj h
      obtain ⟨m, hm, hname⟩ := List.any_eq_true.mp hany
      exact List.mem_map.mpr ⟨m, hm, of_decide_eq_true hname⟩
    · cases h

theorem documentName?_of_mem (h : name ∈ kind.documentNames) :
    kind.documentName? name = some name := by
  have hall : ∀ camel ∈ kind.documentNames, kind.documentName? camel = some camel := by
    cases kind <;> decide
  exact hall name h

theorem mem_documentNames_of_said? {v : Value} (h : kind.said? changes name = some v) :
    name ∈ kind.documentNames := by
  obtain ⟨m, hm, -⟩ := Option.map_eq_some_iff.mp h
  exact mem_documentNames_of_documentName? (by simpa using List.find?_some hm)

theorem get?_of_renameFrom (h : kind.renameFrom done changes = .ok ms) (name : String) :
    ms.get? name = (kind.said? changes name).or (done.get? name) := by
  induction changes generalizing done with
  | nil =>
    cases h
    rfl
  | cons m changes ih =>
    rw [renameFrom] at h
    split at h
    · rename_i camel hcamel
      rw [ih h, said?_cons, Members.get?_put, hcamel, Option.or_assoc]
      by_cases hname : camel = name
      · simp [hname]
      · simp [hname]
    · exact absurd h Outcome.refuse_ne_ok

theorem Documented.put (h : kind.Documented ms) (hname : name ∈ kind.documentNames) (v : Value) :
    kind.Documented (ms.put name v) := by
  refine ⟨Members.nodup_names_put h.nodup name v, ?_⟩
  rw [Members.names_put]
  split
  · exact h.names
  · exact List.append_subset.mpr ⟨h.names, by simpa using hname⟩

theorem documented_of_renameFrom (hdone : kind.Documented done)
    (h : kind.renameFrom done changes = .ok ms) : kind.Documented ms := by
  induction changes generalizing done with
  | nil =>
    cases h
    exact hdone
  | cons m changes ih =>
    rw [renameFrom] at h
    split at h
    · exact ih (hdone.put (mem_documentNames_of_documentName? ‹_›) m.2) h
    · exact absurd h Outcome.refuse_ne_ok

/-- Changes that are accepted say of each member what they say last of it. -/
theorem documentMembers_eq_ok (h : kind.documentMembers (.dict changes) = .ok ms) :
    kind.Documented ms ∧ ∀ name, ms.get? name = kind.said? changes name := by
  have h : kind.renameFrom [] changes = .ok ms := h
  have hnil : kind.Documented [] := ⟨List.nodup_nil, List.nil_subset _⟩
  refine ⟨documented_of_renameFrom hnil h, fun name => ?_⟩
  rw [get?_of_renameFrom h]
  exact Option.or_none

/-- Members that have their names in documents keep them. -/
theorem Documented.documentMembers (h : kind.Documented ms) :
    kind.documentMembers (.dict ms) = .ok ms := by
  have hrename : ∀ (ns done : Members Value), ns.names ⊆ kind.documentNames →
      kind.renameFrom done ns = .ok (done.overlay ns) := by
    intro ns
    induction ns with
    | nil => exact fun _ _ => rfl
    | cons n ns ih =>
      intro done hns
      obtain ⟨hn, hns⟩ := List.cons_subset.mp hns
      rw [renameFrom, documentName?_of_mem hn, Members.overlay_cons]
      exact ih _ hns
  show kind.renameFrom [] ms = _
  rw [hrename ms [] h.names]
  exact congrArg _ (Members.ofPairs_of_nodup h.nodup)

end RecordKind

/-! ### Definitions under changes -/

/-- What a value says of constraints: an object, or constraints that are handed in as they are. -/
def Value.constraintChanges? : Value → Option (Members Value)
  | .dict ms | .record .constraints ms => some ms
  | _ => none

namespace Field

/-- The member of the constraints of a field in documents. -/
def constraint? (f : Field) (name : String) : Option Value :=
  (f.constraints.getD .unconstrained).member? name

/-- `doc` is the definition of a field with changes over it: each member is what the changes say of it,
and as it was where they say nothing.  The constraints are put together in the same way. -/
structure Overlaid (f : Field) (changes doc : Members Value) : Prop where
  member (name : String) (h : name ≠ "validations") :
    doc.get? name = (RecordKind.field.said? changes name).or (f.member? name)
  constraints : match RecordKind.field.said? changes "validations" with
    | none => doc.get? "validations" = f.member? "validations"
    | some .null => doc.get? "validations" = some .null
    | some new => ∃ (given cs : Members Value), new.constraintChanges? = some given ∧
        doc.get? "validations" = some (.dict cs) ∧
        ∀ name, cs.get? name = (RecordKind.constraints.said? given name).or (f.constraint? name)

/-- A field `g` is what changes make of a field `f`. -/
structure Merged (f : Field) (changes : Members Value) (g : Field) : Prop where
  /-- It is read from the definition with the changes over it. -/
  read : ∃ doc, f.Overlaid changes doc ∧ Field.read (.dict doc) = .read g
  /-- What is not mentioned is kept. -/
  kept (name : String) (h : RecordKind.field.said? changes name = none) :
    g.member? name = f.member? name
  /-- No constraints at all take away those that there are. -/
  unconstrained (h : RecordKind.field.said? changes "validations" = some .null) :
    g.constraints = none
  /-- A constraint that is not mentioned is kept. -/
  constraint_kept (new : Value) (given : Members Value) (name : String)
    (hnew : RecordKind.field.said? changes "validations" = some new)
    (hgiven : new.constraintChanges? = some given)
    (h : RecordKind.constraints.said? given name = none) :
    g.constraint? name = f.constraint? name
  /-- A constraint that is `null` is taken away. -/
  constraint_cleared (new : Value) (given : Members Value) (name : String)
    (hnew : RecordKind.field.said? changes "validations" = some new)
    (hgiven : new.constraintChanges? = some given)
    (h : RecordKind.constraints.said? given name = some .null) : g.constraint? name = none

theorem member?_of_not_mem {f : Field} {name : String} (h : name ∉ RecordKind.field.documentNames) :
    f.member? name = none :=
  Members.get?_of_documentNames f.names_members_subset h

theorem constraint?_of_not_mem {f : Field} {name : String}
    (h : name ∉ RecordKind.constraints.documentNames) : f.constraint? name = none :=
  Members.get?_of_documentNames (f.constraints.getD .unconstrained).names_members_subset h

theorem get?_constraints (f : Field) (name : String) :
    Members.get? ((f.constraints.map (·.members .document)).getD []) name = f.constraint? name := by
  unfold constraint?
  cases f.constraints with
  | none => rfl
  | some c => rfl

namespace Overlaid

variable {f g : Field} {changes doc : Members Value} (h : f.Overlaid changes doc)
include h

theorem get?_of_unsaid {name : String} (hname : RecordKind.field.said? changes name = none) :
    doc.get? name = f.member? name := by
  by_cases hvalidations : name = "validations"
  · subst hvalidations
    have hconstraints := h.constraints
    rw [hname] at hconstraints
    exact hconstraints
  · rw [h.member name hvalidations, hname]
    rfl

theorem names_subset : doc.names ⊆ RecordKind.field.documentNames := by
  intro name hname
  by_contra hmem
  have hsaid : RecordKind.field.said? changes name = none := by
    cases hv : RecordKind.field.said? changes name with
    | none => rfl
    | some v => exact absurd (RecordKind.mem_documentNames_of_said? hv) hmem
  have hnone := h.get?_of_unsaid hsaid
  rw [member?_of_not_mem hmem] at hnone
  exact Members.get?_eq_none_iff.mp hnone hname

/-- Constraints of which something is said are read from what is put together of them. -/
theorem exists_constraints {new : Value} {given : Members Value}
    (hnew : RecordKind.field.said? changes "validations" = some new)
    (hgiven : new.constraintChanges? = some given) (hg : ReadFrom doc g) :
    ∃ cs c, g.constraints = some c ∧ c.ReadFrom cs ∧
      ∀ name, cs.get? name = (RecordKind.constraints.said? given name).or (f.constraint? name) := by
  -- The constraints of the completed changes are read from the merged members.
  have hconstraints := h.constraints
  rw [hnew] at hconstraints
  obtain ⟨given', cs, hgiven', hdoc, hcs⟩ : ∃ (given cs : Members Value),
      new.constraintChanges? = some given ∧ doc.get? "validations" = some (.dict cs) ∧
      ∀ name, cs.get? name =
        (RecordKind.constraints.said? given name).or (f.constraint? name) := by
    cases new with
    | null => cases hgiven
    | _ => exact hconstraints
  obtain rfl : given = given' := Option.some.inj (hgiven.symm.trans hgiven')
  have hread := hg.constraints
  rw [hdoc] at hread
  obtain ⟨c, hc, hgc⟩ := Reading.map_eq_read_iff.mp
    (show some <$> Constraints.read (.dict cs) = .read g.constraints from hread)
  -- Merged constraints name nothing but constraints, since neither the changes nor the old ones do.
  have hnames : cs.names ⊆ RecordKind.constraints.documentNames := by
    intro name hname
    by_contra hmem
    have hnone : cs.get? name = none := by
      rw [hcs, constraint?_of_not_mem hmem, Option.or_none]
      cases hv : RecordKind.constraints.said? given name with
      | none => rfl
      | some v => exact absurd (RecordKind.mem_documentNames_of_said? hv) hmem
    exact Members.get?_eq_none_iff.mp hnone hname
  exact ⟨cs, c, hgc.symm, Constraints.readFrom_of_read hnames hc, hcs⟩

/-- What is read of a definition with changes over it is what the changes make of the field. -/
theorem merged (hf : f.Named) (hread : Field.read (.dict doc) = .read g) : f.Merged changes g := by
  have hg : ReadFrom doc g := (read_eq_read_iff h.names_subset).mp hread
  have hconstraint (c : Constraints) (hc : g.constraints = some c) (name : String) :
      g.constraint? name = c.member? name := by
    unfold constraint?
    rw [hc]
    rfl
  refine ⟨⟨doc, h, hread⟩, fun name hname => ?_, fun hnull => ?_,
    fun new given name hnew hgiven hname => ?_, fun new given name hnew hgiven hname => ?_⟩
  · exact hg.member?_eq (f.readFrom_members hf) (h.get?_of_unsaid hname)
  · have hconstraints := h.constraints
    have hg := hg.constraints
    rw [hnull] at hconstraints
    rw [hconstraints] at hg
    exact (Reading.read.inj hg).symm
  · obtain ⟨cs, c, hc, hreadFrom, hcs⟩ := h.exists_constraints hnew hgiven hg
    rw [hconstraint c hc]
    refine hreadFrom.member?_eq (f.constraints.getD .unconstrained).readFrom_members ?_
    rw [hcs, hname]
    rfl
  · obtain ⟨cs, c, hc, hreadFrom, hcs⟩ := h.exists_constraints hnew hgiven hg
    rw [hconstraint c hc]
    -- No member and `null` are the same, and what has no members is unconstrained.
    refine hreadFrom.member?_eq Constraints.unconstrained.readFrom_members ?_
    rw [hcs, hname]
    rfl

end Overlaid
end Field

/-! ### The two ways -/

namespace Builder

variable {s t : Store} {changes ms : Members Value} {f g : Field}

/-- Changes are completed where they say something of constraints. -/
theorem completeChanges_eq_ok (h : completeChanges f (.dict changes) = .ok ms) :
    ∃ renamed, RecordKind.field.Documented renamed ∧
      (∀ name, renamed.get? name = RecordKind.field.said? changes name) ∧
      ((ms = renamed ∧ (RecordKind.field.said? changes "validations" = none ∨
          RecordKind.field.said? changes "validations" = some .null)) ∨
        ∃ new given cs, RecordKind.field.said? changes "validations" = some new ∧
          new.constraintChanges? = some given ∧ RecordKind.constraints.Documented cs ∧
          (∀ name, cs.get? name = RecordKind.constraints.said? given name) ∧
          ms = renamed.put "validations"
            (.dict (Members.overlay ((f.constraints.map (·.members .document)).getD []) cs))) := by
  obtain ⟨renamed, hrenamed, h⟩ := Outcome.bind_eq_ok_iff.mp h
  obtain ⟨hrenamed, hsaid⟩ := RecordKind.documentMembers_eq_ok hrenamed
  refine ⟨renamed, hrenamed, hsaid, ?_⟩
  -- Without constraints, or with null for them, the changes stay as they are.
  split at h
  · rename_i hnone
    cases h
    exact Or.inl ⟨rfl, Or.inl ((hsaid _).symm.trans hnone)⟩
  · rename_i hnull
    cases h
    exact Or.inl ⟨rfl, Or.inr ((hsaid _).symm.trans hnull)⟩
  -- Given constraints are laid over the old ones, whether they come as a mapping or as a record.
  · rename_i new _ hnew
    obtain ⟨cs, hcs, h⟩ := Outcome.bind_eq_ok_iff.mp h
    obtain rfl := Outcome.pure_eq_ok_iff.mp h
    obtain ⟨given, hgiven, hcs⟩ : ∃ given, new.constraintChanges? = some given ∧
        RecordKind.constraints.documentMembers (.dict given) = .ok cs := by
      cases new with
      | dict given => exact ⟨given, rfl, hcs⟩
      | record kind given =>
        cases kind with
        | constraints => exact ⟨given, rfl, hcs⟩
        | _ => cases hcs
      | _ => cases hcs
    obtain ⟨hdocumented, hcs⟩ := RecordKind.documentMembers_eq_ok hcs
    exact Or.inr ⟨new, given, cs, (hsaid _).symm.trans hnew, hgiven, hdocumented, hcs, rfl⟩

/-- Changes that are complete say what the given ones say; what they say of constraints is put over
the old ones. -/
theorem overlaid_of_completeChanges (h : completeChanges f (.dict changes) = .ok ms) :
    RecordKind.field.Documented ms ∧
      (∀ name, name ≠ "validations" → ms.get? name = RecordKind.field.said? changes name) ∧
      f.Overlaid changes (Members.overlay (f.members .document) ms) := by
  have hover {ms : Members Value} (hms : RecordKind.field.Documented ms) (name : String) :
      (Members.overlay (f.members .document) ms).get? name = (ms.get? name).or (f.member? name) :=
    Members.get?_overlay_of_nodup hms.nodup _ name
  obtain ⟨renamed, hrenamed, hsaid, hcomplete⟩ := completeChanges_eq_ok h
  rcases hcomplete with ⟨rfl, hvalidations⟩ | ⟨new, given, cs, hnew, hgiven, hdocumented, hcs, rfl⟩
  · have hmember (name : String) : (Members.overlay (f.members .document) ms).get? name =
        (RecordKind.field.said? changes name).or (f.member? name) := by
      rw [hover hrenamed, hsaid]
    refine ⟨hrenamed, fun name _ => hsaid name, fun name _ => hmember name, ?_⟩
    rw [hmember]
    rcases hvalidations with hnone | hnull
    · rw [hnone]
      rfl
    · rw [hnull]
      rfl
  · have hmem : "validations" ∈ RecordKind.field.documentNames := by decide
    have hput (v : Value) {name : String} (hname : name ≠ "validations") :
        (renamed.put "validations" v).get? name = RecordKind.field.said? changes name := by
      rw [Members.get?_put, if_neg (Ne.symm hname), hsaid]
    refine ⟨hrenamed.put hmem _, fun name hname => hput _ hname, fun name hname => ?_, ?_⟩
    · rw [hover (hrenamed.put hmem _), hput _ hname]
    · rw [hnew, hover (hrenamed.put hmem _), Members.get?_put, if_pos rfl]
      have hget (name : String) : (Members.overlay
          ((f.constraints.map (·.members .document)).getD []) cs).get? name =
            (RecordKind.constraints.said? given name).or (f.constraint? name) := by
        rw [Members.get?_overlay_of_nodup hdocumented.nodup, hcs, f.get?_constraints]
      -- `null` says nothing of single constraints, so it is not what `new` is.
      cases new with
      | null => cases hgiven
      | _ => exact ⟨given, _, hgiven, rfl, hget⟩

/-- The store takes complete changes as they are. -/
theorem store_updateField_eq_ok_iff {id : Value} (hf : s.schema.field? id = some f)
    (hms : RecordKind.field.Documented ms) :
    s.updateField id (.dict ms) = .ok t ↔
      ∃ g, Store.overlaid f ms = .read g ∧ s.commit (s.schema.putField f.id g) = .ok t := by
  unfold Store.updateField
  rw [Outcome.bind_eq_ok_iff]
  constructor
  · rintro ⟨_, hschema, h⟩
    obtain ⟨f', ms', g, hf', hms', hread, rfl⟩ := Store.updated_eq_ok_iff.mp hschema
    obtain rfl : f = f' := Option.some.inj (hf.symm.trans hf')
    obtain rfl : ms = ms' := Except.ok.inj (hms.documentMembers.symm.trans hms')
    exact ⟨g, hread, h⟩
  · rintro ⟨g, hread, h⟩
    exact ⟨_, Store.updated_eq_ok_iff.mpr ⟨f, ms, g, hf, hms.documentMembers, hread, rfl⟩, h⟩

/-- In a section, changes are put over the members of a field unless they bring conditions. -/
theorem updateSubField_eq_ok_iff (hs : s.schema.Sound) {p : Field} (hp : p ∈ s.schema.fields)
    (hf : f ∈ p.children) :
    updateSubField s (.str p.id) (.str f.id) (.dict changes) = .ok t ↔
      ∃ ms g, completeChanges f (.dict changes) = .ok ms ∧
        ¬(Members.get? ms "conditions").any (·.isTruthy) ∧
        Store.overlaid f ms = .read g ∧ s.commit (s.schema.putAt ⟨some p, f⟩ g) = .ok t := by
  -- The sub-field is found in its section; from there on the steps are those of a top-level field.
  have hchild : p.requireChild (.str f.id) = .ok f := by
    unfold Field.requireChild
    rw [hs.child?_id hp hf]
  unfold updateSubField
  rw [hs.sectionOf_owner hp hf]
  show (p.requireChild (.str f.id) >>= _) = _ ↔ _
  rw [hchild]
  show (completeChanges f (.dict changes) >>= _) = _ ↔ _
  rw [Outcome.bind_eq_ok_iff]
  refine exists_congr fun ms => ?_
  by_cases hconditions : (Members.get? ms "conditions").any (·.isTruthy) = true
  · simp [hconditions, refuse]
  · rw [if_neg hconditions]
    cases hread : Store.overlaid f ms with
    | read g => simp [hconditions, Store.putAt_eq_commit]
    | refused misplaced => simp [refuse]

/-- Wherever a field stands, its complete changes are put over its members, and what is read of them
takes its place; in a section they may bring no conditions. -/
theorem updateField_eq_ok_iff (hs : s.schema.Sound) {place : Place} (hplace : s.schema.Has place) :
    updateField s (.str place.field.id) (.dict changes) = .ok t ↔
      ∃ ms g, completeChanges place.field (.dict changes) = .ok ms ∧
        (place.owner?.isSome → ¬(Members.get? ms "conditions").any (·.isTruthy)) ∧
        Store.overlaid place.field ms = .read g ∧ s.commit (s.schema.putAt place g) = .ok t := by
  have hlocate := hs.locate_eq_ok_iff.mpr ⟨hplace, rfl⟩
  unfold updateField
  rw [hlocate]
  obtain ⟨_ | p, f⟩ := place
  · have hf : f ∈ s.schema.fields := hplace
    show (completeChanges f (.dict changes) >>= fun ms => s.updateField (.str f.id) (.dict ms)) = _ ↔ _
    rw [Outcome.bind_eq_ok_iff]
    refine exists_congr fun ms => ?_
    -- The store reads the changes once more, which are complete by then.
    constructor
    · rintro ⟨hms, h⟩
      obtain ⟨hdocumented, -, -⟩ := overlaid_of_completeChanges hms
      obtain ⟨g, hg, h⟩ := (store_updateField_eq_ok_iff (hs.field?_id hf) hdocumented).mp h
      exact ⟨g, hms, nofun, hg, h⟩
    · rintro ⟨g, hms, -, hg, h⟩
      obtain ⟨hdocumented, -, -⟩ := overlaid_of_completeChanges hms
      exact ⟨hms, (store_updateField_eq_ok_iff (hs.field?_id hf) hdocumented).mpr ⟨g, hg, h⟩⟩
  · obtain ⟨hp, hf⟩ : p ∈ s.schema.fields ∧ f ∈ p.children := hplace
    show updateSubField s (.str p.id) (.str f.id) (.dict changes) = _ ↔ _
    rw [updateSubField_eq_ok_iff hs hp hf]
    simp only [Option.isSome_some, true_implies]

/-! ### Changes that any place accepts -/

/-- What is put over a field from one place is put over it from any other, under another id. -/
theorem overlaid_with_id (hms : RecordKind.field.Documented ms) (hunsaid : ms.get? "id" = none)
    {id : String} (hid : id ≠ "") (h : Store.overlaid f ms = .read g) :
    Store.overlaid { f with id := id } ms = .read { g with id := id } := by
  -- The members of both fields agree under every name but the identifier's, which the changes
  -- leave.
  have hnames (k : Field) :
      (Members.overlay (k.members .document) ms).names ⊆ RecordKind.field.documentNames := by
    intro name hname
    rcases Members.mem_names_overlay.mp hname with hname | hname
    · exact k.names_members_subset hname
    · exact hms.names hname
  have hget (k : Field) (name : String) : (Members.overlay (k.members .document) ms).get? name =
      (ms.get? name).or (k.member? name) := Members.get?_overlay_of_nodup hms.nodup _ name
  have hsame {name : String} (hname : name ≠ "id") :
      (Members.overlay (Field.members .document { f with id := id }) ms).get? name =
        (Members.overlay (f.members .document) ms).get? name := by
    rw [hget, hget, f.member?_with_id id hname]
  have hown : (Members.overlay (Field.members .document { f with id := id }) ms).get? "id" =
      some (.str id) := by
    rw [hget, hunsaid, Field.member?_eq]
    rfl
  have hg := (Field.read_eq_read_iff (hnames f)).mp h
  refine (Field.read_eq_read_iff (hnames _)).mpr ⟨?_, ?_, ?_, ?_, ?_, ?_, ?_, ?_, ?_, ?_⟩
  · rw [hown]
    exact Field.readId_str hid
  · rw [hsame (by decide)]
    exact hg.type
  · rw [hsame (by decide)]
    exact hg.label
  · rw [hsame (by decide)]
    exact hg.required
  · rw [hsame (by decide)]
    exact hg.placeholder
  · rw [hsame (by decide)]
    exact hg.helpText
  · rw [hsame (by decide)]
    exact hg.options
  · rw [hsame (by decide)]
    exact hg.constraints
  · rw [hsame (by decide)]
    exact hg.conditions
  · rw [hsame (by decide)]
    exact hg.subFields

/-- Changes that leave the id, the type, the sub-fields and the conditions of fields alone. -/
def Plain (changes : Members Value) : Prop :=
  ∀ name ∈ ["id", "type", "subFields", "conditions"], RecordKind.field.said? changes name = none

/-- Plain changes are accepted wherever the field stands iff they can be read and leave its options
with distinct ids. -/
theorem updateField_eq_ok_iff_of_plain (hs : s.schema.Sound) {place : Place}
    (hplace : s.schema.Has place) (hn : place.field.Named) (hplain : Plain changes) :
    updateField s (.str place.field.id) (.dict changes) = .ok t ↔
      ∃ ms g, completeChanges place.field (.dict changes) = .ok ms ∧
        Store.overlaid place.field ms = .read g ∧ (g.choices.map (·.id)).Nodup ∧
        t = ⟨s.schema.putAt place g, Store.record s.issued (s.schema.putAt place g).allFieldIds⟩ := by
  rw [updateField_eq_ok_iff hs hplace]
  refine exists₂_congr fun ms g => and_congr_right fun hms => ?_
  obtain ⟨-, hsaid, hoverlaid⟩ := overlaid_of_completeChanges hms
  have hconditions : ¬(Members.get? ms "conditions").any (·.isTruthy) := by
    rw [hsaid _ (by decide), hplain _ (by simp)]
    exact nofun
  rw [and_iff_right fun _ => hconditions]
  refine and_congr_right fun hread => ?_
  have hg := (Field.read_eq_read_iff hoverlaid.names_subset).mp hread
  have hf := place.field.readFrom_members hn
  -- The parts of which nothing is said are read from the members of the old field.
  have hsame {name : String} (hname : name ∈ ["id", "type", "subFields", "conditions"]) :=
    hoverlaid.get?_of_unsaid (hplain name hname)
  refine (hs.replaced hplace g).commit_eq_ok_iff hs ?_ ?_ ?_ ?_
  · exact Reading.eq_of_read (by rw [hsame (by simp)]; rfl) hg.id hf.id
  · exact Reading.eq_of_read (by rw [hsame (by simp)]; rfl) hg.type hf.type
  · exact Reading.eq_of_read (by rw [hsame (by simp)]; rfl) hg.conditions hf.conditions
  · exact Reading.eq_of_read (by rw [hsame (by simp)]; rfl) hg.subFields hf.subFields

/-- Two fields that differ in their ids only, wherever they stand, are changed to fields that differ
in their ids only if the first is changed at all. -/
theorem exists_updateField_of_alike {s' : Store} (hs : s.schema.Sound) (hs' : s'.schema.Sound)
    {place place' : Place} (hplace : s.schema.Has place) (hplace' : s'.schema.Has place')
    (hn : place.field.Named) (hn' : place'.field.Named)
    (halike : place'.field = { place.field with id := place'.field.id }) (hplain : Plain changes)
    (h : updateField s (.str place.field.id) (.dict changes) = .ok t) :
    ∃ t' g, updateField s' (.str place'.field.id) (.dict changes) = .ok t' ∧
      Schema.Replaced place.field g s.schema t.schema ∧
      Schema.Replaced place'.field { g with id := place'.field.id } s'.schema t'.schema := by
  -- Without an identifier among them, the changes complete and read the same for both fields.
  obtain ⟨ms, g, hms, hread, hchoices, rfl⟩ :=
    (updateField_eq_ok_iff_of_plain hs hplace hn hplain).mp h
  obtain ⟨hdocumented, hsaid, -⟩ := overlaid_of_completeChanges hms
  have hunsaid : ms.get? "id" = none := by rw [hsaid _ (by decide), hplain _ (by simp)]
  have hms' : completeChanges place'.field (.dict changes) = .ok ms := by
    rw [halike]
    exact hms
  have hread' : Store.overlaid place'.field ms = .read { g with id := place'.field.id } := by
    have hid := (Field.named_iff.mp hn').1
    have hread' := overlaid_with_id hdocumented hunsaid hid hread
    rwa [← halike] at hread'
  exact ⟨_, g, (updateField_eq_ok_iff_of_plain hs' hplace' hn' hplain).mpr
      ⟨ms, { g with id := place'.field.id }, hms', hread', hchoices, rfl⟩,
    hs.replaced hplace g, hs'.replaced hplace' { g with id := place'.field.id }⟩

/-- A field that is changed becomes what the changes make of it, at the top and in a section, and all
else remains as it is.  Changes that leave alone what sets these places apart make the same of a
top-level field and of a sub-field that differs from it in its id only, if they are accepted at all. -/
theorem updateField_merges {s s' : Store} (hs : s.Reachable) (hs' : s'.Reachable)
    (changes : Members Value) :
    (∀ id t, updateField s (.str id) (.dict changes) = .ok t →
      ∃ f g, f.id = id ∧ Schema.Replaced f g s.schema t.schema ∧ f.Merged changes g) ∧
    (Plain changes → ∀ f ∈ s.schema.fields, ∀ p ∈ s'.schema.fields, ∀ k ∈ p.children,
      k = { f with id := k.id } →
      (∃ t t' g, updateField s (.str f.id) (.dict changes) = .ok t ∧
        updateField s' (.str k.id) (.dict changes) = .ok t' ∧
        Schema.Replaced f g s.schema t.schema ∧
        Schema.Replaced k { g with id := k.id } s'.schema t'.schema) ∨
      (∃ e, updateField s (.str f.id) (.dict changes) = .error e) ∧
        ∃ e, updateField s' (.str k.id) (.dict changes) = .error e) := by
  constructor
  · intro id t h
    obtain ⟨place, hlocate, -⟩ := Outcome.bind_eq_ok_iff.mp h
    obtain ⟨hplace, rfl⟩ := hs.sound.locate_eq_ok_iff.mp hlocate
    obtain ⟨ms, g, hms, -, hread, hcommit⟩ := (updateField_eq_ok_iff hs.sound hplace).mp h
    obtain ⟨-, -, hoverlaid⟩ := overlaid_of_completeChanges hms
    have hn : place.field.Named := by
      obtain ⟨_ | p, f⟩ := place
      · exact hs.named f hplace
      · exact (Field.named_iff.mp (hs.named p hplace.1)).2 f hplace.2
    obtain ⟨-, -, rfl⟩ := Store.commit_eq_ok_iff.mp hcommit
    exact ⟨place.field, g, rfl, hs.sound.replaced hplace g, hoverlaid.merged hn hread⟩
  · intro hplain f hf p hp k hk halike
    have hplace : s.schema.Has ⟨none, f⟩ := hf
    have hplace' : s'.schema.Has ⟨some p, k⟩ := ⟨hp, hk⟩
    have hn : f.Named := hs.named f hf
    have hn' : k.Named := (Field.named_iff.mp (hs'.named p hp)).2 k hk
    -- Whichever of the two fields is changed, the other one is as well.
    by_cases haccepted : ∃ t, updateField s (.str f.id) (.dict changes) = .ok t
    · obtain ⟨t, ht⟩ := haccepted
      obtain ⟨t', g, ht', hreplaced, hreplaced'⟩ := exists_updateField_of_alike hs.sound hs'.sound
        hplace hplace' hn hn' halike hplain ht
      exact .inl ⟨t, t', g, ht, ht', hreplaced, hreplaced'⟩
    · refine .inr ⟨Outcome.exists_eq_error_iff.mpr haccepted,
        Outcome.exists_eq_error_iff.mpr fun ⟨t', ht'⟩ => haccepted ?_⟩
      have halike' : f = { k with id := f.id } := by
        have hwith := congrArg (fun x : Field => { x with id := f.id }) halike
        refine Eq.trans ?_ hwith.symm
        cases f
        rfl
      obtain ⟨t, -, ht, -⟩ := exists_updateField_of_alike hs'.sound hs.sound hplace' hplace hn' hn
        halike' hplain ht'
      exact ⟨t, ht⟩

/-- A text field at the top and one like it in a section, whose texts have from three to nine
characters. -/
def pairedForm : Value :=
  let constraints := Value.dict [("minLength", .int 3), ("maxLength", .int 9)]
  .dict [("title", .str "Names"), ("fields", .list [
    .dict [("id", .str "a"), ("type", .str "text"), ("label", .str "Name"),
      ("validations", constraints)],
    .dict [("id", .str "s"), ("type", .str "repeatable"), ("label", .str "People"),
      ("subFields", .list [.dict [("id", .str "b"), ("type", .str "text"), ("label", .str "Name"),
        ("validations", constraints)]])]])]

/-- Another label and another least length, and no greatest length. -/
def tightened : Members Value :=
  [("label", .str "Full name"),
    ("validations", .dict [("min_length", .int 5), ("maxLength", .null)])]

/-- The sub-field keeps what is not mentioned and loses its greatest length, and the top-level field
like it becomes like it again. -/
theorem updateField_merges_paired :
    ∃ w, Workspace.new .standard ⟨[], 0⟩ pairedForm none = .ok w ∧ w.store.Reachable ∧
      (∃ t f g, updateField w.store (.str "b") (.dict tightened) = .ok t ∧ f.id = "b" ∧
        Schema.Replaced f g w.store.schema t.schema ∧ f.Merged tightened g) ∧
      ∃ f ∈ w.store.schema.fields, ∃ p ∈ w.store.schema.fields, ∃ k ∈ p.children,
        f.id = "a" ∧ k = { f with id := "b" } ∧
        ∃ t t' g, updateField w.store (.str "a") (.dict tightened) = .ok t ∧
          updateField w.store (.str "b") (.dict tightened) = .ok t' ∧
          Schema.Replaced f g w.store.schema t.schema ∧
          Schema.Replaced k { g with id := "b" } w.store.schema t'.schema := by
  refine ⟨_, rfl, ?_⟩
  have hreachable : (Workspace.mk .standard _ ⟨[], 0⟩ none [] 0 [] 0 []).store.Reachable :=
    ⟨.standard, ⟨[], 0⟩, pairedForm, none, _, [], rfl, rfl⟩
  obtain ⟨hmerges, halike⟩ := updateField_merges hreachable hreachable tightened
  have hplain : Plain tightened := by
    unfold Plain
    decide
  refine ⟨hreachable, ?_, _, .head _, _, .tail _ (.head _), _, .head _, rfl, rfl, ?_⟩
  · obtain ⟨f, g, hid, hreplaced, hmerged⟩ := hmerges "b" _ rfl
    exact ⟨_, f, g, rfl, hid, hreplaced, hmerged⟩
  · rcases halike hplain _ (.head _) _ (.tail _ (.head _)) _ (.head _) rfl with hboth | ⟨⟨e, he⟩, -⟩
    · exact hboth
    · cases he

end Builder
end Questionnaire
