import Questionnaire.Proofs.Ensemble.Run
import Questionnaire.Proofs.Throughout

/-!
# What becomes of answers when the form changes

Fields come and go while a session follows a store.  The history of a session has its moments, the
newest first: the form of the store and the answers that were given at that moment.  The answer that
is due to a field is the one that was given last since the field has been in the form without a
break, and if none was given since, the default answer of the field that it came with (`due`).

`answers_afterAll` says that a session has for each field of the form the answer that is due to it,
whatever else happened.  It needs the same of one event, for which `due_cons` says what one more
moment does.
-/

namespace Questionnaire

/-! ### Histories -/

/-- A moment in the life of a session. -/
structure Moment where
  /-- The form of the store. -/
  form : Schema
  /-- The answers that were given, of which a later one of the same name wins. -/
  given : Members Value

/-- The moments since a field has been in the form without a break, of a history with its newest
moment first. -/
def stay (id : String) (history : List Moment) : List Moment :=
  history.takeWhile fun m => id ∈ m.form.fieldIds

/-- The answer that was given last to a field since it has been in the form. -/
def lastGiven (id : String) (history : List Moment) : Option Value :=
  (stay id history).findSome? fun m => Members.get? m.given.reverse id

/-- The field as it was when it came into the form. -/
def cameWith (id : String) (history : List Moment) : Option Field :=
  (stay id history).getLast?.bind fun m => m.form.field? (.str id)

/-- The answer that is due to a field. -/
def due (id : String) (history : List Moment) : Value :=
  (lastGiven id history).getD ((cameWith id history).elim .null Field.defaultAnswer)

/-- While a field is there, its stay goes back through the moment. -/
theorem stay_cons {id : String} {m : Moment} (h : id ∈ m.form.fieldIds) (history : List Moment) :
    stay id (m :: history) = m :: stay id history := by
  unfold stay
  rw [List.takeWhile_cons_of_pos (by simpa using h)]

/-- A moment without the field ends the stay. -/
theorem stay_of_not_mem {id : String} {m : Moment} (h : id ∉ m.form.fieldIds)
    (history : List Moment) : stay id (m :: history) = [] := by
  unfold stay
  rw [List.takeWhile_cons_of_neg (by simpa using h)]

/-- One more moment gives a field an answer, or leaves it the one that was due to it, or brings it
into the form with its default answer. -/
theorem due_cons {m : Moment} (hsound : m.form.Sound) {f : Field} (hf : f ∈ m.form.fields)
    (history : List Moment) :
    due f.id (m :: history) = (Members.get? m.given.reverse f.id).getD
      (if stay f.id history = [] then f.defaultAnswer else due f.id history) := by
  have hstay := stay_cons (List.mem_map_of_mem hf : f.id ∈ m.form.fieldIds) history
  have hlast : lastGiven f.id (m :: history) =
      (Members.get? m.given.reverse f.id).or (lastGiven f.id history) := by
    unfold lastGiven
    rw [hstay, List.findSome?_cons]
    cases Members.get? m.given.reverse f.id with
    | none => rfl
    | some v => rfl
  unfold due
  rw [hlast]
  cases Members.get? m.given.reverse f.id with
  | some v => rfl
  | none =>
    by_cases hempty : stay f.id history = []
    -- A field that was not there before comes in now, and has been given nothing yet.
    · have hnone : lastGiven f.id history = none := by
        unfold lastGiven
        rw [hempty]
        rfl
      have hcame : cameWith f.id (m :: history) = some f := by
        unfold cameWith
        rw [hstay, hempty]
        exact hsound.field?_id hf
      rw [hnone, hcame, if_pos hempty]
      rfl
    · have hcame : cameWith f.id (m :: history) = cameWith f.id history := by
        unfold cameWith
        rw [hstay, List.getLast?_cons_of_ne_nil hempty]
      rw [hcame, if_neg hempty]
      rfl

/-- Whether a field stays on, or comes in with one more moment, shows in the newest form. -/
theorem stay_eq_nil_iff {history : List Moment} {schema : Schema}
    (h : history.head?.map (·.form) = some schema) {id : String} :
    stay id history = [] ↔ id ∉ schema.fieldIds := by
  cases history with
  | nil => cases h
  | cons m history =>
    obtain rfl : m.form = schema := Option.some.inj h
    by_cases hid : id ∈ m.form.fieldIds
    · rw [stay_cons hid]
      simp [hid]
    · rw [stay_of_not_mem hid]
      simp [hid]

/-! ### What is given -/

namespace Session.Command

/-- The answers that a command gives when it is accepted. -/
def given : Command → Members Value
  | .setAnswer id v => (id.text?.map fun name => (name, v)).toList
  | .updateAnswers values => values.toMembers.toOption.getD []
  | _ => []

/-- Not a command for single entries of a section. -/
def Whole : Command → Prop
  | .addEntry _ | .removeEntry .. | .setEntryAnswer .. => False
  | _ => True

variable {s : Session} {command : Command} {a : Answer}

/-- What such a command puts in place is what it gives. -/
theorem overlay_given (hwhole : command.Whole) {answers : Members Value}
    (h : s.proposal command = .ok (a, some answers)) :
    answers = s.answers.overlay command.given := by
  -- A whole command gives its members as they stand; an entry edit computes the answer it writes.
  cases command with
  | setAnswer id v =>
    obtain ⟨f, hf, h⟩ := Outcome.bind_eq_ok_iff.mp h
    cases h
    rw [(requireField_eq_ok hf).2]
    rfl
  | updateAnswers values =>
    obtain ⟨ids, _, h⟩ := Outcome.bind_eq_ok_iff.mp h
    obtain ⟨_, _, h⟩ := Outcome.bind_eq_ok_iff.mp h
    obtain ⟨ms, hms, h⟩ := Outcome.bind_eq_ok_iff.mp h
    cases h
    unfold given
    dsimp only
    rw [hms]
    rfl
  | addEntry | removeEntry | setEntryAnswer => exact hwhole.elim
  | contract => cases h
  | isVisible | getAnswer | entries | canAddEntry | canRemoveEntry | validate | submit =>
    obtain ⟨_, _, h⟩ := Outcome.map_eq_ok_iff.mp h
    cases h

/-- A command that puts nothing in place gives nothing. -/
theorem given_eq_nil (h : s.proposal command = .ok (a, none)) : command.given = [] := by
  cases command with
  | setAnswer id v =>
    obtain ⟨f, _, h⟩ := Outcome.bind_eq_ok_iff.mp h
    cases h
  | updateAnswers values =>
    obtain ⟨ids, _, h⟩ := Outcome.bind_eq_ok_iff.mp h
    obtain ⟨_, _, h⟩ := Outcome.bind_eq_ok_iff.mp h
    obtain ⟨given, _, h⟩ := Outcome.bind_eq_ok_iff.mp h
    cases h
  | _ => rfl

end Session.Command

namespace Ensemble

/-- What an event gives to the session at a place: the answers of a command that is accepted. -/
def given (a : Ensemble) (n : Nat) : Event → Members Value
  | .session k command =>
    if k = n then
      match a.sessions[n]?.map fun s => ((Session.run command).run.run s).1 with
      | some (.ok _) => command.given
      | _ => []
    else []
  | _ => []

/-- The history of the session at a place after events, from what it was before them. -/
def history (n : Nat) : Ensemble → List Moment → List Event → List Moment
  | _, past, [] => past
  | a, past, e :: es => history n (a.after e) (⟨(a.after e).store.schema, a.given n e⟩ :: past) es

/-- No update of the session at a place brings in other names than those of fields. -/
def GivesFields (n : Nat) (a : Ensemble) : Event → Prop
  | .session k command => k = n → ∀ s, a.sessions[n]? = some s → s.GivesFields command
  | _ => True

/-! ### What is kept -/

/-- A session has the form and for each of its fields the answer that is due to it. -/
structure HasDue (s : Session) (schema : Schema) (past : List Moment) : Prop where
  schema_eq : s.schema = schema
  names_eq : s.answers.names = schema.fieldIds
  get?_eq : ∀ f ∈ schema.fields, s.answers.get? f.id = some (due f.id past)

/-- The session at a place has what is due to the fields of the form that the store has now. -/
structure Kept (n : Nat) (a : Ensemble) (past : List Moment) : Prop where
  sound : a.store.schema.Sound
  newest : past.head?.map (·.form) = some a.store.schema
  session : ∃ s, a.sessions[n]? = some s ∧ HasDue s a.store.schema past

variable {n : Nat} {a b : Ensemble} {past : List Moment}

/-- The answers of a session for a form that stays, with some that are given now. -/
theorem hasDue_of_given (h : a.Kept n past) {s t : Session} (hs : HasDue s a.store.schema past)
    {given : Members Value} (hschema : t.schema = s.schema)
    (hnames : t.answers.names = s.answers.names)
    (hanswers : ∀ id, t.answers.get? id = (Members.get? given.reverse id).or (s.answers.get? id)) :
    HasDue t a.store.schema (⟨a.store.schema, given⟩ :: past) := by
  refine ⟨hschema.trans hs.schema_eq, hnames.trans hs.names_eq, fun f hf => ?_⟩
  have hstay : stay f.id past ≠ [] := fun hnil =>
    (stay_eq_nil_iff h.newest).mp hnil (List.mem_map_of_mem hf)
  rw [due_cons h.sound hf, if_neg hstay, hanswers, hs.get?_eq f hf]
  cases Members.get? given.reverse f.id with
  | none => rfl
  | some v => rfl

/-- What a session has for a field of any form: what is due to it, or else a default. -/
theorem HasDue.getD_eq {s : Session} {schema : Schema} (h : HasDue s schema past)
    (hnewest : past.head?.map (·.form) = some schema) (f : Field) :
    (s.answers.get? f.id).getD f.defaultAnswer =
      if stay f.id past = [] then f.defaultAnswer else due f.id past := by
  have hstay : stay f.id past = [] ↔ f.id ∉ schema.fieldIds := stay_eq_nil_iff hnewest
  by_cases hid : f.id ∈ schema.fieldIds
  · obtain ⟨g, hg, hgf⟩ := List.mem_map.mp hid
    rw [if_neg fun hnil => hstay.mp hnil hid, ← hgf, h.get?_eq g hg]
    rfl
  · rw [if_pos (hstay.mpr hid), Members.get?_eq_none_iff.mpr (h.names_eq ▸ hid)]
    rfl

/-- An event that leaves the store and the session leaves what was due. -/
theorem Kept.of_unchanged (h : a.Kept n past) (hstore : b.store = a.store)
    (hsession : b.sessions[n]? = a.sessions[n]?) :
    b.Kept n (⟨b.store.schema, []⟩ :: past) := by
  obtain ⟨s, hs, hdue⟩ := h.session
  rw [← hstore] at hdue
  have hb : b.Kept n past := ⟨hstore ▸ h.sound, hstore ▸ h.newest, s, hsession.trans hs, hdue⟩
  exact ⟨hb.sound, rfl, s, hsession.trans hs, hasDue_of_given hb hdue rfl rfl fun _ => rfl⟩

/-- A command that makes a new form, with which all sessions go on. -/
theorem Kept.run (h : a.Kept n past) {command : Command} (hsmooth : a.Smooth (.command command)) :
    (a.run command).2.Kept n (⟨(a.run command).2.store.schema, []⟩ :: past) := by
  cases hp : a.proposal command with
  | none =>
    obtain ⟨hstore, hsessions⟩ := run_of_proposal_eq_none hp
    exact h.of_unchanged hstore (congrArg (·[n]?) hsessions)
  | some t =>
    -- The session goes on with the form of `t`, with answers carried over from the form before it.
    obtain ⟨_, _, hstore, hsessions⟩ := run_of_proposal_eq_some hp
    obtain ⟨s, hs, hdue⟩ := h.session
    have hsound := sound_of_proposal hp
    have hgo := hsmooth t hp
    rw [goOn_of_forall hgo] at hsessions
    have hrebind := (hgo s (List.mem_of_getElem? hs)).run_rebind
    obtain ⟨hinStep, hcarried⟩ := Session.inStep_of_rebind hrebind
    rw [hstore]
    refine ⟨hstore ▸ hsound, hstore ▸ rfl, ((Session.rebind a.config t.schema).run.run s).2, ?_, ?_⟩
    · rw [hsessions, List.getElem?_map, hs]
      rfl
    · rw [hstore]
      refine ⟨hinStep.schema_eq, hcarried ▸ s.names_carried hsound, fun f hf => ?_⟩
      rw [hcarried, s.get?_carried hsound hf, due_cons hsound hf, hdue.getD_eq h.newest]
      rfl

/-- A command of the session itself, which gives whole answers to fields of the form. -/
theorem Kept.session_run (h : a.Kept n past) {command : Session.Command}
    (hsmooth : a.Smooth (.session n command)) (hgives : a.GivesFields n (.session n command))
    (hwhole : command.Whole) :
    (a.after (.session n command)).Kept n
      (⟨a.store.schema, a.given n (.session n command)⟩ :: past) := by
  obtain ⟨s, hs, hdue⟩ := h.session
  have hafter : (a.after (.session n command)).sessions[n]? =
      some ((Session.run command).run.run s).2 := by
    show (a.sessions.modify n _)[n]? = _
    rw [List.getElem?_modify_eq, hs]
    rfl
  have hgiven : a.given n (.session n command) =
      match ((Session.run command).run.run s).1 with
      | .ok _ => command.given
      | .error _ => [] := by
    unfold given
    dsimp only
    rw [if_pos rfl, hs]
    dsimp only [Option.map_some]
    cases ((Session.run command).run.run s).1 with
    | error e => rfl
    | ok x => rfl
  refine ⟨h.sound, rfl, _, hafter, ?_⟩
  rw [hgiven]
  rcases Session.run_of_decides (hsmooth s hs) with
    ⟨e, _, hrun⟩ | ⟨x, hp, hrun⟩ | ⟨x, answers, _, hp, _, hrun⟩
  -- A command that fails gives nothing, and one that puts nothing in place has nothing to give.
  · rw [hrun]
    exact hasDue_of_given h hdue rfl rfl fun _ => rfl
  · rw [hrun]
    dsimp only
    rw [Session.Command.given_eq_nil hp]
    exact hasDue_of_given h hdue rfl rfl fun _ => rfl
  · rw [hrun]
    have hids : s.schema.fieldIds ⊆ s.answers.names := by
      rw [hdue.schema_eq, hdue.names_eq]
      exact List.Subset.refl _
    have hnames := Session.names_of_proposal hids (hgives rfl s hs) hp
    refine hasDue_of_given h hdue rfl hnames fun id => ?_
    show Members.get? answers id = _
    rw [Session.Command.overlay_given hwhole hp, Members.get?_overlay]

/-- A smooth event keeps the answers what is due, with what it gives to the session added. -/
theorem Kept.after (h : a.Kept n past) {e : Event} (hsmooth : a.Smooth e)
    (hgives : a.GivesFields n e) (hwhole : ∀ command, e = .session n command → command.Whole) :
    (a.after e).Kept n (⟨(a.after e).store.schema, a.given n e⟩ :: past) := by
  -- Only the commands of the ensemble and those of the session itself can change either of the two.
  cases e with
  | command command => exact h.run hsmooth
  | configure config => exact h.of_unchanged rfl rfl
  | attach values =>
    refine h.of_unchanged (a.store_attach values) ?_
    obtain ⟨s, hs, _⟩ := h.session
    obtain ⟨t, ht⟩ := a.sessions_attach values
    show (a.attach values).sessions[n]? = _
    rw [ht, List.getElem?_append_left (List.getElem?_eq_some_iff.mp hs).1]
  | session k command =>
    by_cases hk : k = n
    · obtain rfl := hk
      exact h.session_run hsmooth hgives (hwhole command rfl)
    · have hgiven : a.given n (.session k command) = [] := if_neg hk
      rw [hgiven]
      refine h.of_unchanged rfl ?_
      show (a.sessions.modify k _)[n]? = _
      exact List.getElem?_modify_ne _ _ hk

/-! ### What is due -/

/-- By induction on the events: what is due is kept throughout a smooth run. -/
theorem Kept.afterAll (h : a.Kept n past) {events : List Event}
    (hsmooth : Throughout Ensemble.after Smooth a events)
    (hgives : Throughout Ensemble.after (GivesFields n) a events)
    (hwhole : ∀ command, .session n command ∈ events → command.Whole) :
    (a.afterAll events).Kept n (history n a past events) := by
  induction events generalizing a past with
  | nil => exact h
  | cons e events ih =>
    have he := h.after hsmooth.1 hgives.1 fun command he => hwhole command (he ▸ List.mem_cons_self)
    exact ih he hsmooth.2 hgives.2 fun command hmem => hwhole command (List.mem_cons_of_mem _ hmem)

/-- A session that is made has the answers that it is given, and default answers. -/
theorem kept_of_new (hsound : a.store.schema.Sound) {values : Value} {s : Session}
    (h : Session.new a.config a.store.schema values = .ok s) :
    (a.attach values).Kept a.sessions.length [⟨a.store.schema, Session.givenAtFirst values⟩] := by
  have hattach : a.attach values = { a with sessions := a.sessions ++ [s] } := by
    unfold attach
    rw [h]
  rw [hattach]
  obtain ⟨hschema, _, hanswers, _⟩ := Session.new_eq_ok h
  refine ⟨hsound, rfl, s, List.getElem?_concat_length, hschema, ?_, fun f hf => ?_⟩
  · exact Session.names_of_initialAnswers hsound hanswers
  · rw [Session.get?_of_initialAnswers hsound hanswers hf, due_cons hsound hf]
    rfl

/-- From any start, a session that is attached has the form of the store after any events in which
no rule and no condition fails, and the answers that are due to the fields of that form, in their
order; commands for single entries apart. -/
theorem answers_afterAll {c : Config} {v? : Option Value} {store : Store}
    (hstore : Store.new c v? = .ok store) {ids : IdSource} {before : List Event}
    (ha : afterAll ⟨c, store, ids, []⟩ before = a) {values : Value} {s : Session}
    (hs : Session.new a.config a.store.schema values = .ok s) {events : List Event}
    (hsmooth : Throughout Ensemble.after Smooth (a.attach values) events)
    (hgives : Throughout Ensemble.after (GivesFields a.sessions.length) (a.attach values) events)
    (hwhole : ∀ command, .session a.sessions.length command ∈ events → command.Whole) :
    let z := (a.attach values).afterAll events
    let past := history a.sessions.length (a.attach values)
      [⟨a.store.schema, Session.givenAtFirst values⟩] events
    ∃ t, z.sessions[a.sessions.length]? = some t ∧ t.schema = z.store.schema ∧
      t.answers = z.store.schema.fields.map fun f => (f.id, due f.id past) := by
  intro z past
  have hsound : a.store.schema.Sound := by
    rw [← ha]
    exact sound_form_afterAll (Workspace.begun_of_store_new hstore).sound before
  obtain ⟨hzsound, _, t, ht, hdue⟩ := (kept_of_new hsound hs).afterAll hsmooth hgives hwhole
  -- The session holds what is due for each field, in the order of the fields; a mapping without
  -- repeated names is determined by that.
  refine ⟨t, ht, hdue.schema_eq, ?_⟩
  refine Members.ext_of_nodup (hdue.names_eq ▸ hzsound.nodup_ids) ?_ fun id hid => ?_
  · rw [hdue.names_eq, Session.names_fields]
    rfl
  · rw [hdue.names_eq] at hid
    obtain ⟨f, hf, rfl⟩ := List.mem_map.mp hid
    rw [hdue.get?_eq f hf, Session.get?_fields hzsound (fun f => due f.id past) hf]

/-- A form of fields with the given ids and types, as it is handed in. -/
def visitForm (fields : List (String × String)) : Value :=
  .dict [("title", .str "Visits"), ("fields", .list (fields.map fun f => .dict
    [("id", .str f.1), ("type", .str f.2), ("label", .str f.1)]))]

/-- A store that has just taken up such a form. -/
def visitStore (fields : List (String × FieldType)) : Store where
  schema := ⟨"Visits", "", fields.map fun f =>
    ⟨f.1, f.2, f.1, false, none, none, none, none, none, none⟩,
    ⟨true, true, "Thank you for your submission!"⟩⟩
  issued := fields.map (·.1)

/-- An answer outlives a new form that has its field; another one is gone with its field, which
comes back as a rating. -/
theorem answers_afterAll_visits :
    let c : Config := { Config.standard with cacheSize := .int 0 }
    let form := visitForm [("name", "text"), ("note", "text")]
    let values := Value.dict [("name", .str "Ada")]
    let events : List Event := [.session 0 (.setAnswer (.str "note") (.str "late")),
      .command (.store (.importSchema (visitForm [("note", "text")]))),
      .command (.store (.importSchema (visitForm [("name", "rating"), ("note", "text")])))]
    ∃ store s, Store.new c (some form) = .ok store ∧ Session.new c store.schema values = .ok s ∧
      let a : Ensemble := ⟨c, store, ⟨[], 0⟩, []⟩
      Throughout after Smooth (a.attach values) events ∧
      Throughout after (GivesFields 0) (a.attach values) events ∧
      s.answers = [("name", .str "Ada"), ("note", .str "")] ∧
      ∃ t, ((a.attach values).afterAll events).sessions[0]? = some t ∧
        t.answers = [("name", .int 0), ("note", .str "late")] := by
  intro c form values events
  let store := visitStore [("name", .text), ("note", .text)]
  let a : Ensemble := ⟨c, store, ⟨[], 0⟩, []⟩
  have hstore : Store.new c (some form) = .ok store := rfl
  obtain ⟨s, hs, hfirst⟩ : ∃ s, Session.new c store.schema values = .ok s ∧
      s.answers = [("name", .str "Ada"), ("note", .str "")] := ⟨_, rfl, rfl⟩
  -- The three events are an answer, a removal of the other field and its return as a rating.
  have hsmooth : Throughout after Smooth (a.attach values) events := by
    refine ⟨?_, ?_, ?_, trivial⟩
    -- The answer is stored and looked at.
    · rintro _ ⟨⟩ x answers h
      cases h
      exact ⟨_, rfl⟩
    -- The remaining field asks no condition.
    · rintro _ ⟨⟩ s hs
      obtain rfl := List.mem_singleton.mp hs
      exact ⟨⟨_, rfl⟩, ⟨_, rfl⟩, _, rfl⟩
    · -- Of the ensemble after two events only what the third one looks at is computed.
      obtain ⟨b, hb, hconfig, s, hsessions, hanswers⟩ : ∃ b,
          (a.attach values).afterAll (events.take 2) = b ∧ b.config = c ∧
          ∃ s, b.sessions = [s] ∧ s.answers = [("note", .str "late")] := ⟨_, rfl, rfl, _, rfl, rfl⟩
      show Smooth ((a.attach values).afterAll (events.take 2)) _
      rw [hb]
      intro t ht s' hs'
      rw [hsessions] at hs'
      obtain rfl := List.mem_singleton.mp hs'
      have ht : some (visitStore [("name", .rating), ("note", .text)]) = some t := by
        rw [← ht]
        unfold proposal effect Store.run
        dsimp only
        rw [hconfig]
        rfl
      obtain rfl := Option.some.inj ht
      rw [hconfig]
      refine ⟨⟨_, rfl⟩, ⟨_, rfl⟩, ?_⟩
      unfold Session.carried
      rw [hanswers]
      exact ⟨_, rfl⟩
  have hgives : Throughout after (GivesFields 0) (a.attach values) events := by
    refine ⟨?_, trivial, trivial, trivial⟩
    rintro _ _ ⟨⟩
    trivial
  have hwhole : ∀ command, .session 0 command ∈ events → command.Whole := by
    intro command hmem
    rcases List.mem_cons.mp hmem with h | hmem
    · cases h
      trivial
    · simp at hmem
  -- Nothing happens before the session is attached.
  have hstart : afterAll ⟨c, store, ⟨[], 0⟩, []⟩ [] = a := rfl
  obtain ⟨t, ht, _, hanswers⟩ := answers_afterAll hstore hstart hs hsmooth hgives hwhole
  refine ⟨store, s, hstore, hs, hsmooth, hgives, hfirst, t, ht, ?_⟩
  -- The stay of the returned field began with its default, so the first name is gone.
  rw [hanswers]
  rfl

/-- An update by the id of a field, which is a pair of letters, leaves an answer for no field; a
field that comes into the form later has it instead of its default answer. -/
theorem not_due_of_pairs :
    let c : Config := { Config.standard with cacheSize := .int 0 }
    let values := Value.dict [("ab", .str "Ada")]
    let events : List Event := [.session 0 (.updateAnswers (.list [.str "ab"])),
      .command (.store (.addField (.dict
        [("id", .str "a"), ("type", .str "text"), ("label", .str "Nick")])))]
    ∃ store s, Store.new c (some (visitForm [("ab", "text")])) = .ok store ∧
      Session.new c store.schema values = .ok s ∧
      let a : Ensemble := ⟨c, store, ⟨[], 0⟩, []⟩
      let z := (a.attach values).afterAll events
      let past := history 0 (a.attach values) [⟨store.schema, Session.givenAtFirst values⟩] events
      Throughout after Smooth (a.attach values) events ∧ z.store.schema.fieldIds = ["ab", "a"] ∧
      due "ab" past = .str "Ada" ∧ due "a" past = .str "" ∧
      ∃ t, z.sessions[0]? = some t ∧ t.answers = [("ab", .str "Ada"), ("a", .str "b")] ∧
        t.answers ≠ z.store.schema.fields.map fun f => (f.id, due f.id past) := by
  intro c values events
  -- The second event adds the field whose name the pair gave.
  refine ⟨visitStore [("ab", .text)], _, rfl, rfl, ⟨?_, ?_, trivial⟩, rfl, rfl, rfl, _, rfl, rfl,
    ?_⟩
  · rintro _ ⟨⟩ x answers h
    cases h
    exact ⟨_, rfl⟩
  · rintro _ ⟨⟩ s hs
    obtain rfl := List.mem_singleton.mp hs
    exact ⟨⟨_, rfl⟩, ⟨_, rfl⟩, _, rfl⟩
  -- The value of the pair was kept for a field that was not there.
  · show [("ab", Value.str "Ada"), ("a", .str "b")] ≠ [("ab", .str "Ada"), ("a", .str "")]
    simp

end Ensemble
end Questionnaire
