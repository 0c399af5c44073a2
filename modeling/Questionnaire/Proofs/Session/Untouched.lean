import Questionnaire.Proofs.Session.Bounds
import Questionnaire.Proofs.Session.Submission
import Questionnaire.Proofs.Validation.Lacking

/-!
# Sessions that nobody has touched

A new session without answers has the default answer to each field.  If nothing happens to it but
that entries are added to its sections, the answers remain untouched (`Session.Untouched.addEntry`),
so its report says only which required answers are lacking (`Session.failures_of_untouched`).

An evaluator that remembers results may take answers for others with the same key.  Untouched
answers with one key make the same fields visible, though, since the only objects among them are
empty (`Schema.Untouched.visibleIn_eq`).
-/

namespace Questionnaire

/-! ### Untouched answers -/

/-- The only object among untouched answers is the default answer to a matrix. -/
theorem Field.eq_nil_of_untouched {f : Field} {entries : Nat} {ms : Members Value}
    (h : f.untouched entries = .dict ms) : ms = [] := by
  unfold untouched defaultAnswer at h
  split at h
  · cases h
  · split at h <;> cases h
    rfl

/-- Each field has an untouched answer. -/
structure Schema.Untouched (schema : Schema) (answers : Members Value) : Prop where
  names_nodup : answers.names.Nodup
  answer (f : Field) (hf : f ∈ schema.fields) :
    ∃ entries, answers.get? f.id = some (f.untouched entries)

namespace Schema

variable {schema : Schema} {a b : Members Value}

/-- Untouched answers are a mapping without repeated names. -/
theorem Untouched.isAnswers (h : schema.Untouched a) : IsAnswers (.dict a) := .dict a h.names_nodup

/-- Untouched answers with one key make the same fields visible. -/
theorem Untouched.visibleIn_eq (ha : schema.Untouched a) (hb : schema.Untouched b)
    (hkeys : answersKey? (.dict a) = answersKey? (.dict b))
    (hsome : (answersKey? (.dict b)).isSome) :
    visibleIn schema.fields (.dict a) = visibleIn schema.fields (.dict b) := by
  refine visibleIn_congr ha.isAnswers hb.isAnswers hkeys hsome fun _ _ c _ => ?_
  rintro ⟨-, hsource, -, ms, ns, hms, hns, hdiffer⟩
  obtain ⟨f, hf, hid⟩ := List.mem_map.mp hsource
  -- Two answers of one key differ in the order of a mapping, and no untouched answer is a mapping
  -- with members.
  have hnil {answers : Members Value} {os : Members Value} (h : schema.Untouched answers)
      (hos : answerOf (effectiveAnswers (.dict answers)) c.source = .ok (.dict os)) : os = [] := by
    obtain ⟨entries, hanswer⟩ := h.answer f hf
    rw [effectiveAnswers_dict, answerOf_dict, ← hid, hanswer] at hos
    exact Field.eq_nil_of_untouched (Except.ok.inj hos)
  rw [hnil ha hms, hnil hb hns] at hdiffer
  exact hdiffer rfl

end Schema

/-! ### What is remembered -/

/-- All that the evaluator of a form remembers was found for untouched answers. -/
def Evaluator.OnlyUntouched (e : Evaluator) (schema : Schema) : Prop :=
  e.fields = schema.fields ∧ ∃ past : List (Members Value),
    e.Recalls (past.map .dict) ∧ ∀ a ∈ past, schema.Untouched a

namespace Evaluator.OnlyUntouched

variable {e : Evaluator} {schema : Schema} {answers : Members Value}

/-- A new evaluator remembers nothing. -/
theorem new (schema : Schema) (capacity : Number) :
    (Evaluator.new schema.fields capacity).OnlyUntouched schema :=
  ⟨rfl, [], fun _ _ hm => absurd hm List.not_mem_nil, nofun⟩

/-- Looking at untouched answers keeps the memory to untouched answers. -/
theorem visible (h : e.OnlyUntouched schema) (ha : schema.Untouched answers) :
    (e.visible (.dict answers)).1.OnlyUntouched schema := by
  obtain ⟨hfields, past, hrecalls, hpast⟩ := h
  refine ⟨(e.fields_visible ha.isAnswers).trans hfields, answers :: past, ?_, ?_⟩
  · exact hrecalls.cache_visible ha.isAnswers
  · exact List.forall_mem_cons.mpr ⟨ha, hpast⟩

/-- For untouched answers it is no matter what is remembered. -/
theorem visible_eq (h : e.OnlyUntouched schema) (ha : schema.Untouched answers) :
    (e.visible (.dict answers)).2 = visibleIn schema.fields (.dict answers) := by
  obtain ⟨hfields, past, hrecalls, hpast⟩ := h
  rw [← hfields]
  cases hfound : (e.visible (.dict answers)).2 with
  | error f => exact (visible_eq_error ha.isAnswers hfound).symm
  | ok found =>
    rcases hrecalls.exists_visibleIn ha.isAnswers hfound with hnow | ⟨_, hmem, hkeys, hsome, hthen⟩
    · exact hnow.symm
    · obtain ⟨earlier, hearlier, rfl⟩ := List.mem_map.mp hmem
      rw [hfields] at hthen ⊢
      exact hthen.symm.trans ((hpast earlier hearlier).visibleIn_eq ha hkeys hsome)

end Evaluator.OnlyUntouched

/-! ### Sessions -/

namespace Session

/-- A session over a form has untouched answers, and has never had others. -/
structure Blank (s : Session) (schema : Schema) : Prop where
  schema_eq : s.schema = schema
  sound : schema.Sound
  compiled : schema.compile = .ok s.contract
  answers : schema.Untouched s.answers
  remembers : ∃ e, s.evaluator = .ok e ∧ e.OnlyUntouched schema

/-- Besides, the visible fields are those for the answers, if the conditions can be decided. -/
structure Untouched (s : Session) (schema : Schema) : Prop extends s.Blank schema where
  visible_eq (found : List String) (h : visibleIn schema.fields (.dict s.answers) = .ok found) :
    s.visible = found

variable {s : Session} {schema : Schema}

/-- A blank session sees what its answers show, remembered or not. -/
theorem Blank.look_eq (h : s.Blank schema) :
    s.look = visibleIn schema.fields (.dict s.answers) := by
  obtain ⟨e, he, honly⟩ := h.remembers
  unfold look
  rw [he]
  exact honly.visible_eq h.answers

/-- Once it has looked, a blank session is untouched. -/
theorem Blank.untouched_looked (h : s.Blank schema) : s.looked.Untouched schema := by
  obtain ⟨e, he, honly⟩ := h.remembers
  refine ⟨⟨h.schema_eq, h.sound, h.compiled, h.answers, _, ?_, honly.visible h.answers⟩,
    fun found hfound => ?_⟩
  · show s.evaluator.map _ = _
    rw [he]
    rfl
  · show s.look.toOption.getD s.visible = found
    have hlook : s.look = .ok found := h.look_eq.trans hfound
    rw [hlook]
    rfl

/-! ### New sessions -/

/-- The first answers of a session that is given none. -/
theorem initialAnswers_null (schema : Schema) :
    initialAnswers schema .null = .ok (defaultAnswers schema.fields) := rfl

/-- Without any answer given, every field stands as it starts. -/
theorem untouched_defaultAnswers (hsound : schema.Sound) :
    schema.Untouched (defaultAnswers schema.fields) := by
  refine ⟨Members.nodup_names_ofPairs _, fun f hf => ⟨0, ?_⟩⟩
  rw [defaultAnswers, ofPairs_fields hsound, get?_fields hsound _ hf]
  unfold Field.untouched
  split
  · next hsection =>
    rw [Field.defaultAnswer, hsection]
    rfl
  · rfl

/-- Without answers there is a session over each form that can be compiled, if the conditions can be
decided for the defaults. -/
theorem exists_new_untouched (hsound : schema.Sound) {c : Config} {capacity : Number}
    (hcapacity : c.capacity = .ok capacity) {contract : Contract}
    (hcompile : schema.compile = .ok contract) {start : List String}
    (hstart : visibleIn schema.fields (.dict (defaultAnswers schema.fields)) = .ok start) :
    ∃ s, Session.new c schema .null = .ok s ∧ s.Untouched schema := by
  have hanswers := untouched_defaultAnswers hsound
  have honly := Evaluator.OnlyUntouched.new schema capacity
  let looked :=
    (Evaluator.new schema.fields capacity).visible (.dict (defaultAnswers schema.fields))
  -- The first look succeeds, so the session can be built.
  have hfound : looked.2 = .ok start := (honly.visible_eq hanswers).trans hstart
  refine ⟨⟨schema, contract, .ok looked.1, defaultAnswers schema.fields, start⟩, ?_,
    ⟨rfl, hsound, hcompile, hanswers, _, rfl, honly.visible hanswers⟩, fun found h => ?_⟩
  · unfold Session.new
    rw [hcompile, initialAnswers_null, hcapacity]
    show (looked.2 >>= _) = _
    rw [hfound]
    rfl
  · exact Except.ok.inj (hstart.symm.trans h)

/-! ### Additions -/

/-- The entries of an untouched section are without answers. -/
theorem Blank.exists_entries (h : s.Blank schema) {f : Field} (hf : f ∈ schema.fields)
    (hsection : f.type = .repeatable) :
    ∃ entries, s.answers.get? f.id = some (f.untouched entries) ∧
      s.entries (.str f.id) = .ok (List.replicate entries f.blankEntry) := by
  obtain ⟨entries, hanswer⟩ := h.answers.answer f hf
  have hrequire : s.requireSection (.str f.id) = .ok f :=
    HasSection.requireSection_eq ⟨h.schema_eq ▸ h.sound.field?_id hf, hsection⟩
  refine ⟨entries, hanswer, ?_⟩
  unfold Session.entries sectionAnswer answer
  rw [hrequire]
  show Value.iterate (let v := (s.answers.get? f.id).getD .null; _) = _
  rw [hanswer, Field.untouched, if_pos hsection]
  cases entries <;> rfl

/-- Adding an entry leaves a session untouched, be it accepted or not. -/
theorem Untouched.addEntry (h : s.Untouched schema) (id : Value) :
    ((run (.addEntry id)).run.run s).2.Untouched schema := by
  rw [run_run]
  rcases hp : s.proposal (.addEntry id) with e | ⟨a, _ | answers⟩
  · exact h
  · exact h
  -- Only an allowed command writes, and it writes one blank entry more under its own section.
  · refine Blank.untouched_looked (s := { s with answers })
      ⟨h.schema_eq, h.sound, h.compiled, ?_, h.remembers⟩
    obtain ⟨g, hg, hp⟩ := Outcome.bind_eq_ok_iff.mp hp
    obtain ⟨rfl, hsection⟩ := hasSection_of_requireSection hg
    obtain ⟨free, _, hp⟩ := Outcome.bind_eq_ok_iff.mp hp
    cases free with
    | false => cases hp
    | true =>
      obtain ⟨vs, hvs, hp⟩ := Outcome.bind_eq_ok_iff.mp hp
      cases hp
      have hgmem : g ∈ schema.fields := h.schema_eq ▸ requireSection_eq_ok hg
      obtain ⟨entries, _, hentries⟩ := h.exists_entries hgmem hsection.type_eq
      obtain rfl := Except.ok.inj (hvs.symm.trans hentries)
      refine ⟨Members.nodup_names_put h.answers.names_nodup _ _, fun f hf => ?_⟩
      rw [Members.get?_put]
      by_cases hid : g.id = f.id
      · obtain rfl := List.inj_on_of_nodup_map h.sound.nodup_ids hgmem hf hid
        refine ⟨entries + 1, ?_⟩
        rw [if_pos rfl, Field.untouched, if_pos hsection.type_eq, List.replicate_succ']
        rfl
      · rw [if_neg hid]
        exact h.answers.answer f hf

/-- Adding entries leaves a session untouched, whichever sections they are for. -/
theorem Untouched.afterAll (h : s.Untouched schema) (c : Config) (ids : List Value) :
    (s.afterAll c (ids.map fun id => .command (.addEntry id))).Untouched schema := by
  induction ids generalizing s with
  | nil => exact h
  | cons id ids ih => exact ih (h.addEntry id)

/-! ### Reports -/

/-- How many entries a field has; none if it is no section. -/
def entryCount (s : Session) (f : Field) : Nat := ((s.entries (.str f.id)).toOption.getD []).length

/-- A blank session holds, for each field, the answer of as many blank entries as it counts. -/
theorem Blank.answer_eq (h : s.Blank schema) {f : Field} (hf : f ∈ schema.fields) :
    s.answers.get? f.id = some (f.untouched (s.entryCount f)) := by
  by_cases hsection : f.type = .repeatable
  · obtain ⟨entries, hanswer, hentries⟩ := h.exists_entries hf hsection
    have hcount : s.entryCount f = entries := by
      unfold entryCount
      rw [hentries]
      exact List.length_replicate
    rw [hanswer, hcount]
  · obtain ⟨entries, hanswer⟩ := h.answers.answer f hf
    rw [hanswer, Field.untouched, Field.untouched, if_neg hsection, if_neg hsection]

/-- A session whose report has no failures can be submitted. -/
theorem accepted_of_validate {report : Report} (h : s.validate = .ok report)
    (hvalid : report.isValid = true) : ∃ sub, s.submit = .ok sub ∧ sub.accepted = true := by
  refine ⟨.ofReport s.schema s.visible report, ?_, ?_⟩
  · unfold submit
    rw [h]
    rfl
  · unfold Submission.ofReport
    rw [if_pos hvalid]

/-- Each form that a store accepts, and that can be compiled, has a session without answers, if the
conditions can be decided for the defaults.  Whatever entries are added to it, if the conditions can
be decided for the answers then, it knows what is visible, and its report has one failure for each
required answer that a visible field lacks, in the order of the form, and no other.  So it can be
submitted if no field is required. -/
theorem failures_of_untouched {c : Config} {capacity : Number}
    (hcapacity : c.capacity = .ok capacity) {schema : Schema} {store : Store}
    (hstore : Store.replace schema = .ok store) {contract : Contract}
    (hcompile : schema.compile = .ok contract) {start : List String}
    (hstart : visibleIn schema.fields (.dict (defaultAnswers schema.fields)) = .ok start) :
    ∃ s, Session.new c schema .null = .ok s ∧ ∀ ids : List Value,
      let t := s.afterAll c (ids.map fun id => .command (.addEntry id))
      ∀ found, visibleIn schema.fields (.dict t.answers) = .ok found →
        t.visible = found ∧
        (∃ report, t.validate = .ok report ∧ report.failures.map Failure.mark =
          ((schema.fields.filter fun f => found.contains f.id).flatMap fun f =>
            f.lacking (t.entryCount f)).map Failure.missingAt) ∧
        ((∀ f ∈ Field.treeList schema.fields, f.required = false) →
          ∃ sub, t.submit = .ok sub ∧ sub.accepted = true) := by
  have hsound := (Store.replace_eq_ok_iff.mp hstore).1
  obtain ⟨s, hs, huntouched⟩ := exists_new_untouched hsound hcapacity hcompile hstart
  refine ⟨s, hs, fun ids => ?_⟩
  intro t found hfound
  have ht : t.Untouched schema := huntouched.afterAll c ids
  -- The report is that of a schema on untouched answers.
  obtain ⟨report, hreport, hvalid, hmarks⟩ :=
    Schema.validate_untouched hsound ht.compiled (fun f hf => ht.answer_eq hf) t.visible
  rw [ht.visible_eq found hfound] at hmarks
  refine ⟨ht.visible_eq found hfound, ⟨report, hreport, hmarks⟩, fun hrequired => ?_⟩
  -- Where nothing is required, nothing is lacking.
  have hnone : (schema.fields.filter fun f => found.contains f.id).flatMap (fun f =>
      f.lacking (t.entryCount f)) = [] := by
    refine List.flatMap_eq_nil_iff.mpr fun f hf => ?_
    exact Field.lacking_of_not_required hrequired (List.mem_of_mem_filter hf) _
  rw [hnone] at hmarks
  have hfailures : report.failures = [] := List.map_eq_nil_iff.mp hmarks
  exact accepted_of_validate hreport (by rw [hvalid, hfailures]; rfl)

/-- A form of a name, a rating, a code with an unusable pattern and a section of guests, all
required, and of a date that is only asked for when there is a name. -/
def visitForm : Schema where
  title := "Visit"
  description := ""
  fields := [⟨"name", .text, "Name", true, none, none, none, none, none, none⟩,
    ⟨"stars", .rating, "Stars", true, none, none, none, none, none, none⟩,
    ⟨"code", .text, "Code", true, none, none, none,
      some { Constraints.unconstrained with pattern := some "(" }, none, none⟩,
    ⟨"guests", .repeatable, "Guests", true, none, none, none, none, none,
      some [⟨"kind", .select, "Kind", true, none, none, none, none, none, none⟩,
        ⟨"rank", .rating, "Rank", true, none, none, none, none, none, none⟩]⟩,
    ⟨"day", .date, "Day", true, none, none, none, none, some [⟨"name", .isNotEmpty, .null⟩], none⟩]
  settings := ⟨true, true, ""⟩

/-- With two guests the name is lacking, and the kind and the rank of each of them. -/
theorem failures_of_untouched_visit :
    let c : Config := { Config.standard with cacheSize := .int 0 }
    ∃ store contract start s, Store.replace visitForm = .ok store ∧
      visitForm.compile = .ok contract ∧
      visibleIn visitForm.fields (.dict (defaultAnswers visitForm.fields)) = .ok start ∧
      Session.new c visitForm .null = .ok s ∧
      let t := s.afterAll c
        [.command (.addEntry (.str "guests")), .command (.addEntry (.str "guests"))]
      visibleIn visitForm.fields (.dict t.answers) = .ok ["name", "stars", "code", "guests"] ∧
      ∃ report, t.validate = .ok report ∧ report.failures.map Failure.mark =
        ["name", "guests.0.kind", "guests.0.rank", "guests.1.kind", "guests.1.rank"].map
          Failure.missingAt := by
  intro c
  obtain ⟨store, hstore⟩ : ∃ store, Store.replace visitForm = .ok store := ⟨_, rfl⟩
  obtain ⟨s, hs, hall⟩ := failures_of_untouched (c := c) rfl hstore rfl rfl
  refine ⟨store, _, _, s, hstore, rfl, rfl, hs, ?_⟩
  intro t
  have hvisible : visibleIn visitForm.fields (.dict t.answers) =
      .ok ["name", "stars", "code", "guests"] := by
    cases hs
    rfl
  obtain ⟨-, ⟨report, hreport, hmarks⟩, -⟩ := hall [.str "guests", .str "guests"] _ hvisible
  refine ⟨hvisible, report, hreport, hmarks.trans ?_⟩
  cases hs
  rfl

end Session
end Questionnaire
