import Questionnaire.Proofs.Session.Concealment
import Questionnaire.Proofs.Session.Edits

/-!
# Edits of different fields

An edit looks at the answer to its own field only, so two edits of different fields do not see each
other.  When nothing is remembered and none of them fails, both orders give the same results, the same
answers and the same visible fields (`Attuned.commute_of_edits?`).

Nor does it matter how the answers of a new session are given: one after the other in any order, in
one update, or from the start (`edits_commute`).
-/

namespace Questionnaire.Session

variable {c : Config} {schema : Schema} {s t u : Session}

/-! ### What an edit looks at -/

section Congr

variable {id : String} (hschema : t.schema = s.schema)
  (hget : t.answers.get? id = s.answers.get? id)
include hschema

/-- Looking a field up depends on the schema alone. -/
theorem requireField_congr (id : Value) : t.requireField id = s.requireField id := by
  unfold requireField
  rw [hschema]

/-- Looking a section up depends on the schema alone. -/
theorem requireSection_congr (id : Value) : t.requireSection id = s.requireSection id := by
  unfold requireSection
  rw [requireField_congr hschema]

/-- What is done with the section of an id alone comes to the same. -/
theorem requireSection_bind_congr {α : Type} {p q : Field → Outcome α}
    (h : ∀ f, f.id = id → p f = q f) :
    (t.requireSection (.str id) >>= p) = s.requireSection (.str id) >>= q := by
  rw [requireSection_congr hschema]
  cases hf : s.requireSection (.str id) with
  | error e => rfl
  | ok f => exact h f (id_of_requireSection hf)

include hget

omit hschema in
/-- The answer to a section depends on the answer under its identifier alone. -/
theorem sectionAnswer_congr : t.sectionAnswer id = s.sectionAnswer id := by
  unfold sectionAnswer answer
  rw [hget]

/-- The entries of a section depend on the answer under its identifier alone. -/
theorem entries_congr : t.entries (.str id) = s.entries (.str id) := by
  refine requireSection_bind_congr hschema fun f hf => ?_
  rw [hf, sectionAnswer_congr hget]

/-- What a bound of a section allows depends on the answer under its identifier alone. -/
theorem boundAllows_congr (bound : Field → Option Number) (allows : Number → Number → Bool) :
    (t.requireSection (.str id) >>= fun f => t.boundAllows f (bound f) allows) =
      s.requireSection (.str id) >>= fun f => s.boundAllows f (bound f) allows := by
  refine requireSection_bind_congr hschema fun f hf => ?_
  unfold boundAllows
  rw [hf, sectionAnswer_congr hget]

/-- Whether an entry can be added depends on the answer under the identifier alone. -/
theorem canAddEntry_congr : t.canAddEntry (.str id) = s.canAddEntry (.str id) :=
  boundAllows_congr hschema hget (·.constraints.bind (·.max)) fun n limit => n.lt limit

/-- Whether an entry can be removed depends on the answer under the identifier alone. -/
theorem canRemoveEntry_congr : t.canRemoveEntry (.str id) = s.canRemoveEntry (.str id) :=
  boundAllows_congr hschema hget (·.constraints.bind (·.min)) fun n limit => limit.lt n

/-- Two sessions over one form that have the same answer to a field propose the same for it. -/
theorem newAnswer_congr {command : Command} (hc : command.edits? = some (.str id)) :
    t.newAnswer command = s.newAnswer command := by
  -- An edit of a field reads the schema and the answer to that field, and nothing else.
  cases command with
  | setAnswer =>
    obtain rfl := Option.some.inj hc
    simp only [newAnswer, requireField_congr hschema]
  | addEntry =>
    obtain rfl := Option.some.inj hc
    simp only [newAnswer, requireSection_congr hschema, canAddEntry_congr hschema hget,
      entries_congr hschema hget]
  | removeEntry =>
    obtain rfl := Option.some.inj hc
    simp only [newAnswer, canRemoveEntry_congr hschema hget, entries_congr hschema hget]
  | setEntryAnswer =>
    obtain rfl := Option.some.inj hc
    simp only [newAnswer, requireSection_congr hschema, entries_congr hschema hget]
  | _ => cases hc

end Congr

/-! ### Sessions that match -/

/-- Two sessions have the same form and contract, the same answer to each field, and the same visible
fields. -/
structure Matches (s t : Session) : Prop where
  schema_eq : t.schema = s.schema
  contract_eq : t.contract = s.contract
  get?_eq : ∀ id, t.answers.get? id = s.answers.get? id
  visible_eq : t.visible = s.visible

/-- A session matches itself. -/
theorem Matches.refl (s : Session) : s.Matches s := ⟨rfl, rfl, fun _ => rfl, rfl⟩

/-- Sessions over a form that have the same answers match, if what is visible can be found. -/
theorem Attuned.matches_of_get? (hs : s.Attuned schema) (ht : t.Attuned schema)
    (hdecides : ∃ found, visibleIn schema.fields (.dict s.answers) = .ok found)
    (hget : ∀ id, t.answers.get? id = s.answers.get? id) : s.Matches t :=
  ⟨ht.schema_eq.trans hs.schema_eq.symm,
    Except.ok.inj (ht.compiled.symm.trans hs.compiled), hget,
    hs.visible_eq_of_agree ht hdecides fun _ _ c _ => hget c.source⟩

/-! ### Commands that succeed -/

/-- An attuned session looks without remembering. -/
theorem Attuned.look_eq (hs : s.Attuned schema) (answers : Members Value) :
    { s with answers }.look = visibleIn schema.fields (.dict answers) := by
  obtain ⟨e, he, hfields, hremembers⟩ := hs.forgetful
  show (s.evaluator >>= fun e => (e.visible (.dict answers)).2) = _
  rw [he]
  show (e.visible (.dict answers)).2 = _
  rw [Evaluator.visible_dict_of_not_remembers hremembers, hfields]

/-- After a command that put answers in place and succeeded, what is visible can be found for them. -/
theorem Attuned.decides_of_run (hs : s.Attuned schema) {command : Command} {a b : Answer}
    {answers : Members Value} (hp : s.proposal command = .ok (a, some answers))
    (hrun : (Session.run command).run.run s = (.ok b, t)) :
    b = a ∧ t.answers = answers ∧
      ∃ found, visibleIn schema.fields (.dict t.answers) = .ok found := by
  rw [run_run, hp] at hrun
  obtain ⟨hsettled, rfl⟩ := Prod.mk.inj hrun
  obtain ⟨found, hlook, hb⟩ := Outcome.map_eq_ok_iff.mp hsettled
  exact ⟨hb.symm, rfl, found, (hs.look_eq answers).symm.trans hlook⟩

/-- A command succeeds if what is visible can be found for the answers that it puts in place. -/
theorem Attuned.exists_run (hs : s.Attuned schema) {command : Command} {a : Answer}
    {answers : Members Value} (hp : s.proposal command = .ok (a, some answers))
    (hdecides : ∃ found, visibleIn schema.fields (.dict answers) = .ok found) :
    ∃ t, (Session.run command).run.run s = (.ok a, t) := by
  obtain ⟨found, hfound⟩ := hdecides
  refine ⟨{ s with answers }.looked, ?_⟩
  rw [run_run, hp]
  show ({ s with answers }.look.map fun _ => a, _) = _
  rw [hs.look_eq, hfound]
  rfl

section Edit

variable {command : Command} {id : String} (hc : command.edits? = some (.str id)) {a b : Answer}
include hc

/-- A command that has run has computed its new answer. -/
theorem exists_newAnswer_of_run (hrun : (Session.run command).run.run s = (.ok a, t)) :
    ∃ p, s.newAnswer command = .ok p := by
  cases hnew : s.newAnswer command with
  | ok p => exact ⟨p, rfl⟩
  | error e =>
    rw [run_of_newAnswer_error hc hnew] at hrun
    cases hrun

/-- An edit that proposes no answer and succeeds has changed nothing. -/
theorem kept_of_run (hnew : s.newAnswer command = .ok (a, none))
    (hrun : (Session.run command).run.run s = (.ok b, t)) : b = a ∧ t = s := by
  rw [run_of_newAnswer_none hc hnew] at hrun
  cases hrun
  exact ⟨rfl, rfl⟩

/-- An edit that proposes an answer and succeeds has put it in place. -/
theorem Attuned.placed_of_run (hs : s.Attuned schema) {v : Value}
    (hnew : s.newAnswer command = .ok (a, some v))
    (hrun : (Session.run command).run.run s = (.ok b, t)) :
    b = a ∧ t.answers = s.answers.put id v ∧
      ∃ found, visibleIn schema.fields (.dict t.answers) = .ok found := by
  refine hs.decides_of_run ?_ hrun
  rw [proposal_eq_map hc, hnew]
  rfl

end Edit

/-- An edit that succeeds is one of a field of the form. -/
theorem exists_field_of_run {command : Command} {id : Value} (hc : command.edits? = some id)
    {a : Answer} (hrun : (run command).run.run s = (.ok a, t)) :
    ∃ f ∈ s.schema.fields, id = .str f.id := by
  rw [run_run] at hrun
  obtain ⟨answers?, hp⟩ := settle_eq_ok hrun
  -- Each of the four calls looks its field up before it does anything else.
  cases command with
  | setAnswer =>
    obtain rfl := Option.some.inj hc
    obtain ⟨f, hf, -⟩ := Outcome.bind_eq_ok_iff.mp hp
    exact ⟨f, requireField_eq_ok hf⟩
  | addEntry | setEntryAnswer =>
    obtain rfl := Option.some.inj hc
    obtain ⟨f, hf, -⟩ := Outcome.bind_eq_ok_iff.mp hp
    exact ⟨f, requireSection_eq_ok hf, (hasSection_of_requireSection hf).1⟩
  | removeEntry =>
    obtain rfl := Option.some.inj hc
    obtain ⟨free, hfree, -⟩ := Outcome.bind_eq_ok_iff.mp hp
    obtain ⟨f, hf, -⟩ := Outcome.bind_eq_ok_iff.mp hfree
    exact ⟨f, requireSection_eq_ok hf, (hasSection_of_requireSection hf).1⟩
  | _ => cases hc

/-! ### Two edits -/

/-- Commands keep a session attuned, whether or not they fail. -/
theorem Attuned.of_run (hs : s.Attuned schema) {command : Command} {o : Outcome Answer}
    (hrun : (Session.run command).run.run s = (o, t)) : t.Attuned schema := by
  have ht := hs.run command
  rwa [hrun] at ht

/-- After an edit of another field, an edit proposes what it would have proposed before. -/
theorem Attuned.newAnswer_of_run (hs : s.Attuned schema) {command other : Command} {i j : String}
    (hi : command.edits? = some (.str i)) (hj : other.edits? = some (.str j)) (hij : i ≠ j)
    {o : Outcome Answer} (hrun : (Session.run command).run.run s = (o, t)) :
    t.newAnswer other = s.newAnswer other := by
  refine newAnswer_congr ((hs.of_run hrun).schema_eq.trans hs.schema_eq.symm) ?_ hj
  have hget := get?_run_of_edits? hi hij.symm (s := s)
  rwa [hrun] at hget

/-- If two commands succeed in both orders, both orders give the same results, and lead to sessions
that match. -/
def Commute (s : Session) (d d' : Command) : Prop :=
  ∀ a b a' b' s₁ s₁₂ s₂ s₂₁,
    (run d).run.run s = (.ok a, s₁) → (run d').run.run s₁ = (.ok b, s₁₂) →
    (run d').run.run s = (.ok b', s₂) → (run d).run.run s₂ = (.ok a', s₂₁) →
      a' = a ∧ b' = b ∧ s₁₂.Matches s₂₁

/-- Edits of different fields commute. -/
theorem Attuned.commute_of_edits? (hs : s.Attuned schema) {d d' : Command} {i j : String}
    (hi : d.edits? = some (.str i)) (hj : d'.edits? = some (.str j)) (hij : i ≠ j) :
    s.Commute d d' := by
  intro a b a' b' s₁ s₁₂ s₂ s₂₁ h₁ h₁₂ h₂ h₂₁
  have hs₁ := hs.of_run h₁
  have hs₂ := hs.of_run h₂
  have hs₁₂ := hs₁.of_run h₁₂
  have hs₂₁ := hs₂.of_run h₂₁
  have hd' := hs.newAnswer_of_run hi hj hij h₁
  have hd := hs.newAnswer_of_run hj hi hij.symm h₂
  obtain ⟨⟨a, v?⟩, hv⟩ := exists_newAnswer_of_run hi h₁
  obtain ⟨⟨b, w?⟩, hw⟩ := exists_newAnswer_of_run hj h₂
  cases v? with
  | none =>
    -- The one edit changes nothing, before the other or after it.
    obtain ⟨rfl, rfl⟩ := kept_of_run hi hv h₁
    obtain ⟨rfl, rfl⟩ := kept_of_run hi (hd.trans hv) h₂₁
    cases h₁₂.symm.trans h₂
    exact ⟨rfl, rfl, .refl _⟩
  | some v =>
    cases w? with
    | none =>
      obtain ⟨rfl, rfl⟩ := kept_of_run hj hw h₂
      obtain ⟨rfl, rfl⟩ := kept_of_run hj (hd'.trans hw) h₁₂
      cases h₂₁.symm.trans h₁
      exact ⟨rfl, rfl, .refl _⟩
    | some w =>
      obtain ⟨rfl, hanswers₁, -⟩ := hs.placed_of_run hi hv h₁
      obtain ⟨rfl, hanswers₂, -⟩ := hs.placed_of_run hj hw h₂
      obtain ⟨rfl, hanswers₁₂, hfound⟩ := hs₁.placed_of_run hj (hd'.trans hw) h₁₂
      obtain ⟨rfl, hanswers₂₁, -⟩ := hs₂.placed_of_run hi (hd.trans hv) h₂₁
      refine ⟨rfl, rfl, hs₁₂.matches_of_get? hs₂₁ hfound fun id => ?_⟩
      rw [hanswers₂₁, hanswers₂, hanswers₁₂, hanswers₁]
      exact Members.get?_put_put s.answers hij v w id

/-! ### Answers given at once and one by one -/

/-- The commands succeed one after the other, and lead to another session. -/
inductive Succeeds : Session → List Command → Session → Prop
  | nil (s : Session) : Succeeds s [] s
  | cons {s t u : Session} {command : Command} {commands : List Command} {a : Answer}
      (h : (Session.run command).run.run s = (.ok a, t)) (hrest : Succeeds t commands u) :
      Succeeds s (command :: commands) u

/-- One command succeeds when it runs to an answer. -/
theorem succeeds_singleton_iff {command : Command} : s.Succeeds [command] t ↔
    ∃ a, (Session.run command).run.run s = (.ok a, t) := by
  constructor
  · intro h
    obtain - | ⟨h, ⟨⟩⟩ := h
    exact ⟨_, h⟩
  · rintro ⟨a, h⟩
    exact .cons h (.nil t)

/-- The commands that answer fields one by one. -/
def answering (ms : Members Value) : List Command := ms.map fun m => .setAnswer (.str m.1) m.2

/-- Answers that are given one by one are put over those that are there. -/
theorem Attuned.answers_of_succeeds (hs : s.Attuned schema)
    (hdecides : ∃ found, visibleIn schema.fields (.dict s.answers) = .ok found)
    {ms : Members Value} (h : s.Succeeds (answering ms) t) :
    t.Attuned schema ∧ t.answers = s.answers.overlay ms ∧
      ∃ found, visibleIn schema.fields (.dict t.answers) = .ok found := by
  -- By induction on the answers given: each is one step, which leaves an attuned session.
  induction ms generalizing s with
  | nil =>
    cases h
    exact ⟨hs, rfl, hdecides⟩
  | cons m ms ih =>
    obtain - | ⟨hrun, hrest⟩ := h
    obtain ⟨⟨a, v?⟩, hnew⟩ := exists_newAnswer_of_run rfl hrun
    obtain ⟨f, hf, hv⟩ := Outcome.bind_eq_ok_iff.mp hnew
    cases hv
    obtain ⟨-, hanswers, hfound⟩ := hs.placed_of_run rfl hnew hrun
    obtain ⟨ht, hoverlay, hdecided⟩ := ih (hs.of_run hrun) hfound hrest
    rw [hanswers] at hoverlay
    exact ⟨ht, hoverlay, hdecided⟩

/-- A field of the schema is found. -/
theorem requireField_of_mem {id : String} (h : id ∈ s.schema.fieldIds) :
    ∃ f, s.requireField (.str id) = .ok f := by
  obtain ⟨g, hg, rfl⟩ := List.mem_map.mp h
  unfold requireField Schema.field?
  cases hf : s.schema.fields.find? fun f => Value.isText (.str g.id) f.id with
  | some f => exact ⟨f, rfl⟩
  | none => exact absurd (Value.isText_iff.mpr rfl) (List.find?_eq_none.mp hf g hg)

/-- Fields of the schema are found together. -/
theorem requireFields_of_subset {ids : List String} (h : ids ⊆ s.schema.fieldIds) :
    s.requireFields (ids.map .str) = .ok () := by
  induction ids with
  | nil => rfl
  | cons id ids ih =>
    obtain ⟨f, hf⟩ := requireField_of_mem (h List.mem_cons_self)
    show (s.requireField (.str id) >>= fun _ => s.requireFields (ids.map .str)) = _
    rw [hf]
    exact ih fun other hother => h (List.mem_cons_of_mem _ hother)

section AtOnce

variable {ms : Members Value} (hms : ms.names ⊆ schema.fieldIds)
include hms

/-- An update by answers for fields of the form proposes to put them over those that are there. -/
theorem proposal_updateAnswers (hschema : s.schema = schema) :
    s.proposal (.updateAnswers (.dict ms)) =
      .ok (.value .null, some (s.answers.overlay ms)) := by
  have hids : s.requireFields (ms.map fun m => .str m.1) = .ok () := by
    rw [← hschema] at hms
    have hfields := requireFields_of_subset hms
    rwa [Members.names, List.map_map] at hfields
  show (s.requireFields (ms.map fun m => .str m.1) >>= fun _ => _) = _
  rw [hids]
  rfl

/-- The first answers of a session are those given, put over the defaults. -/
theorem initialAnswers_dict : initialAnswers schema (.dict ms) =
    .ok ((defaultAnswers schema.fields).overlay ms) := by
  -- The filter of the first answers drops nothing: the names are those of fields.
  have hfilter : ms.filter (fun m => (defaultAnswers schema.fields).has m.1) = ms := by
    refine List.filter_eq_self.mpr fun m hm => Members.has_iff.mpr ?_
    unfold defaultAnswers
    rw [Members.mem_names_ofPairs, names_fields]
    exact hms (List.mem_map_of_mem hm)
  cases ms with
  | nil => rfl
  | cons m ms =>
    show Except.ok ((defaultAnswers schema.fields).overlay
      ((m :: ms).filter fun m => (defaultAnswers schema.fields).has m.1)) = _
    rw [hfilter]

end AtOnce

/-! ### New sessions -/

/-- Without first answers a session starts with the defaults. -/
theorem answers_of_new_null (hs : Session.new c schema .null = .ok s) :
    s.answers = defaultAnswers schema.fields := by
  obtain ⟨-, -, hanswers, -⟩ := new_eq_ok hs
  exact (Except.ok.inj hanswers).symm

/-- On a fresh session a mapping of known fields proposes the defaults with the mapping laid over.
-/
theorem proposal_update {ms : Members Value} (hms : ms.names ⊆ schema.fieldIds)
    (hs : Session.new c schema .null = .ok s) : s.proposal (.updateAnswers (.dict ms)) =
    .ok (.value .null, some ((defaultAnswers schema.fields).overlay ms)) := by
  obtain ⟨hschema, -⟩ := new_eq_ok hs
  rw [proposal_updateAnswers hms hschema, answers_of_new_null hs]

/-- The session has the given answers over the defaults, and it can be found what is visible for
them. -/
structure Filled (schema : Schema) (ms : Members Value) (t : Session) : Prop where
  attuned : t.Attuned schema
  get?_eq (id : String) : t.answers.get? id = ((defaultAnswers schema.fields).overlay ms).get? id
  decides : ∃ found, visibleIn schema.fields (.dict t.answers) = .ok found

/-- Sessions filled with the same members match. -/
theorem Filled.matches {ms : Members Value} (ht : t.Filled schema ms) (hu : u.Filled schema ms) :
    t.Matches u :=
  ht.attuned.matches_of_get? hu.attuned ht.decides fun id =>
    (hu.get?_eq id).trans (ht.get?_eq id).symm

section New

variable (hc : c.Forgetful)
include hc

/-- A new session sees what its first answers show. -/
theorem visibleIn_of_new {values : Value} (h : Session.new c schema values = .ok s) :
    visibleIn schema.fields (.dict s.answers) = .ok s.visible := by
  obtain ⟨capacity, hcapacity, hremembers⟩ := hc
  obtain ⟨rfl, -, -, capacity', hcapacity', -, hvisible⟩ := new_eq_ok h
  obtain rfl := Except.ok.inj (hcapacity.symm.trans hcapacity')
  rwa [Evaluator.visible_dict_of_not_remembers (hremembers _)] at hvisible

/-- A session over a form that was taken up once can start with any answers for which it can be found
what is visible. -/
theorem exists_new (hs : Session.new c schema .null = .ok s) {values : Value}
    {answers : Members Value} (hanswers : initialAnswers schema values = .ok answers)
    (hdecides : ∃ found, visibleIn schema.fields (.dict answers) = .ok found) :
    ∃ u, Session.new c schema values = .ok u := by
  obtain ⟨capacity, hcapacity, hremembers⟩ := hc
  obtain ⟨-, hcompiled, -⟩ := new_eq_ok hs
  obtain ⟨found, hfound⟩ := hdecides
  -- A forgetful evaluator decides afresh, so the look at the start gives the set that was found.
  have hvisible := Evaluator.visible_dict_of_not_remembers (hremembers schema.fields) answers
  have hlook : ((Evaluator.new schema.fields capacity).visible (.dict answers)).2 = .ok found := by
    rw [hvisible]
    exact hfound
  refine ⟨⟨schema, s.contract, .ok ((Evaluator.new schema.fields capacity).visible
    (.dict answers)).1, answers, found⟩, ?_⟩
  unfold Session.new
  rw [hcompiled, hanswers, hcapacity]
  show (((Evaluator.new schema.fields capacity).visible (.dict answers)).2 >>= _) = _
  rw [hlook]
  rfl

section Given

variable {ms : Members Value} (hms : ms.names ⊆ schema.fieldIds)
  (hs : Session.new c schema .null = .ok s)
include hs

/-- The order of answers that are given one by one does not matter when no two are for one field. -/
theorem filled_of_answering (hnodup : ms.names.Nodup) {order : Members Value}
    (horder : List.Perm order ms) (h : s.Succeeds (answering order) t) : t.Filled schema ms := by
  obtain ⟨ht, hanswers, hdecides⟩ :=
    (attuned_of_new hc hs).answers_of_succeeds ⟨_, visibleIn_of_new hc hs⟩ h
  refine ⟨ht, fun id => ?_, hdecides⟩
  rw [hanswers, answers_of_new_null hs, Members.get?_overlay_of_nodup hnodup,
    Members.get?_overlay_of_nodup ((horder.map _).nodup_iff.mpr hnodup),
    Members.get?_of_perm horder.symm hnodup]

include hms

/-- One mapping call fills a fresh session. -/
theorem filled_of_update (h : s.Succeeds [.updateAnswers (.dict ms)] t) : t.Filled schema ms := by
  have hattuned := attuned_of_new hc hs
  obtain ⟨a, hrun⟩ := succeeds_singleton_iff.mp h
  obtain ⟨-, hanswers, hdecides⟩ := hattuned.decides_of_run (proposal_update hms hs) hrun
  exact ⟨hattuned.of_run hrun, fun id => by rw [hanswers], hdecides⟩

omit hs in
/-- First answers fill a new session. -/
theorem filled_of_new (h : Session.new c schema (.dict ms) = .ok u) : u.Filled schema ms := by
  obtain ⟨-, -, hanswers, -⟩ := new_eq_ok h
  rw [initialAnswers_dict hms] at hanswers
  exact ⟨attuned_of_new hc h, fun id => by rw [Except.ok.inj hanswers], _, visibleIn_of_new hc h⟩

/-- If a session can be filled with answers in any way, it can in the others too. -/
theorem Filled.exists_update_and_new (h : t.Filled schema ms) :
    (∃ t, s.Succeeds [.updateAnswers (.dict ms)] t) ∧
      ∃ u, Session.new c schema (.dict ms) = .ok u := by
  have hdecides : ∃ found, visibleIn schema.fields
      (.dict ((defaultAnswers schema.fields).overlay ms)) = .ok found := by
    obtain ⟨found, hfound⟩ := h.decides
    exact ⟨found, (visibleIn_eq_of_agree fun _ _ c _ => h.get?_eq c.source).symm.trans hfound⟩
  obtain ⟨t, hrun⟩ := (attuned_of_new hc hs).exists_run (proposal_update hms hs) hdecides
  exact ⟨⟨t, succeeds_singleton_iff.mpr ⟨_, hrun⟩⟩,
    exists_new hc hs (initialAnswers_dict hms) hdecides⟩

end Given

end New

/-- When nothing is remembered, edits of different fields commute.  And a new session ends with the
same answers and the same visible fields when it is given answers for its fields one by one in any
order, in one update, or from the start. -/
theorem edits_commute (hc : c.Forgetful) (schema : Schema) :
    (∀ s, Over c schema s → ∀ (d d' : Command) (id id' : Value),
      d.edits? = some id → d'.edits? = some id' → id ≠ id' → s.Commute d d') ∧
      ∀ s, Session.new c schema .null = .ok s → ∀ ms : Members Value,
        ms.names.Nodup → ms.names ⊆ schema.fieldIds →
          ((∃ t, s.Succeeds [.updateAnswers (.dict ms)] t) ↔
            ∃ u, Session.new c schema (.dict ms) = .ok u) ∧
          (∀ t u, s.Succeeds [.updateAnswers (.dict ms)] t →
            Session.new c schema (.dict ms) = .ok u → t.Matches u) ∧
          ∀ order, List.Perm order ms → ∀ r, s.Succeeds (answering order) r →
            ∃ t u, s.Succeeds [.updateAnswers (.dict ms)] t ∧
              Session.new c schema (.dict ms) = .ok u ∧ r.Matches t ∧ r.Matches u := by
  constructor
  · intro s hs d d' id id' hd hd' hne a b a' b' s₁ s₁₂ s₂ s₂₁ h₁ h₁₂ h₂ h₂₁
    -- Both calls have found their field, so the two identifiers are texts and differ.
    obtain ⟨f, -, rfl⟩ := exists_field_of_run hd h₁
    obtain ⟨g, -, rfl⟩ := exists_field_of_run hd' h₂
    have hij : f.id ≠ g.id := fun hid => hne (congrArg Value.str hid)
    exact (hs.attuned hc).commute_of_edits? hd hd' hij a b a' b' s₁ s₁₂ s₂ s₂₁ h₁ h₁₂ h₂ h₂₁
  · intro s hs ms hnodup hms
    refine ⟨⟨?_, ?_⟩, fun t u ht hu => ?_, fun order horder r hr => ?_⟩
    · rintro ⟨t, ht⟩
      exact ((filled_of_update hc hms hs ht).exists_update_and_new hc hms hs).2
    · rintro ⟨u, hu⟩
      exact ((filled_of_new hc hms hu).exists_update_and_new hc hms hs).1
    · exact (filled_of_update hc hms hs ht).matches (filled_of_new hc hms hu)
    · have hfilled := filled_of_answering hc hs hnodup horder hr
      obtain ⟨⟨t, ht⟩, u, hu⟩ := hfilled.exists_update_and_new hc hms hs
      exact ⟨t, u, ht, hu, hfilled.matches (filled_of_update hc hms hs ht),
        hfilled.matches (filled_of_new hc hms hu)⟩

/-- A section of pets, and a note about them that is asked for when there are any. -/
def kennelForm : Schema :=
  ⟨"Kennel", "", [petsSection none none,
    ⟨"note", .text, "Note", false, none, none, none, none,
      some [⟨"pets", .isNotEmpty, .null⟩], none⟩], ⟨true, true, ""⟩⟩

/-- An entry is added and the note is written, in both orders, and both are given from the start. -/
theorem edits_commute_kennel :
    let c : Config := { Config.standard with cacheSize := .int 0 }
    let d := Command.addEntry (.str "pets")
    let d' := Command.setAnswer (.str "note") (.str "shy")
    let ms : Members Value := [("pets", .list [.dict [("name", .null)]]), ("note", .str "shy")]
    c.Forgetful ∧ ∃ s s₁ s₁₂ s₂ s₂₁ r u, Session.new c kennelForm .null = .ok s ∧
      s.visible = ["pets"] ∧
      (run d).run.run s = (.ok (.value (.bool true)), s₁) ∧
      (run d').run.run s₁ = (.ok (.value .null), s₁₂) ∧
      (run d').run.run s = (.ok (.value .null), s₂) ∧
      (run d).run.run s₂ = (.ok (.value (.bool true)), s₂₁) ∧
      s₁₂.visible = ["pets", "note"] ∧ s₁₂.Matches s₂₁ ∧
      s.Succeeds (answering ms.reverse) r ∧
      Session.new c kennelForm (.dict ms) = .ok u ∧ r.Matches u := by
  intro c d d' ms
  have hc : c.Forgetful := Config.forgetful_of_cacheSize rfl le_rfl
  obtain ⟨s, s₁, s₁₂, s₂, s₂₁, r, r', hs, hvisible, h₁, h₁₂, h₂, h₂₁, hvisible₁₂, hr, hr'⟩ :
      ∃ s s₁ s₁₂ s₂ s₂₁ r r', Session.new c kennelForm .null = .ok s ∧ s.visible = ["pets"] ∧
        (run d).run.run s = (.ok (.value (.bool true)), s₁) ∧
        (run d').run.run s₁ = (.ok (.value .null), s₁₂) ∧
        (run d').run.run s = (.ok (.value .null), s₂) ∧
        (run d).run.run s₂ = (.ok (.value (.bool true)), s₂₁) ∧
        s₁₂.visible = ["pets", "note"] ∧
        (run (.setAnswer (.str "note") (.str "shy"))).run.run s = (.ok (.value .null), r) ∧
        (run (.setAnswer (.str "pets") (.list [.dict [("name", .null)]]))).run.run r =
          (.ok (.value .null), r') :=
    ⟨_, _, _, _, _, _, _, rfl, rfl, rfl, rfl, rfl, rfl, rfl, rfl, rfl⟩
  -- The two orders of the edits, and then the two ways to start.
  have hboth := (edits_commute hc kennelForm).1 s (.new hs) d d' _ _ rfl rfl (by simp)
    _ _ _ _ s₁ s₁₂ s₂ s₂₁ h₁ h₁₂ h₂ h₂₁
  have hsucceeds : s.Succeeds (answering ms.reverse) r' := .cons hr (.cons hr' (.nil r'))
  obtain ⟨-, u, -, hu, -, hmatches⟩ := ((edits_commute hc kennelForm).2 s hs ms (by decide)
    (by decide)).2.2 ms.reverse (List.reverse_perm ms) r' hsucceeds
  exact ⟨hc, s, s₁, s₁₂, s₂, s₂₁, r', u, hs, hvisible, h₁, h₁₂, h₂, h₂₁, hvisible₁₂, hboth.2.2,
    hsucceeds, hu, hmatches⟩

end Questionnaire.Session
