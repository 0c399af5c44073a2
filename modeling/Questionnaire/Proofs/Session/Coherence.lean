import Questionnaire.Proofs.Session.Answering
import Questionnaire.Proofs.Session.Binding
import Questionnaire.Proofs.Store.Commit
import Questionnaire.Proofs.Throughout
import Questionnaire.Proofs.Visibility.Fresh

/-!
# What a session knows at every moment

The answers of a session, its form and its visible fields belong together.  `Coherent` says how they
do when nothing is remembered: there is an answer for each field of the form, in their order, and
the visible fields are those for the answers.  It holds of a new session and is preserved by every
call in which no rule and no condition fails (`Coherent.after`), be the call accepted or not.

`coherent_afterAll` draws from it what there is to be seen of a session after a run.  There may be
answers beyond those of the fields, though, since an update by a sequence of pairs may bring in
other names (`names_ne_of_pairs`).
-/

namespace Questionnaire.Session

/-! ### Runs -/

/-- The session after a call; of one that fails, what it did before it failed remains. -/
def after (c : Config) (s : Session) (call : Call) : Session := ((perform c call).run.run s).2

/-- The session after several calls. -/
def afterAll (c : Config) (s : Session) (calls : List Call) : Session := calls.foldl (after c) s

/-- Rebinding as a call leaves the session that rebinding leaves. -/
theorem after_rebind (c : Config) (s : Session) (schema : Schema) :
    s.after c (.rebind schema) = ((rebind c schema).run.run s).2 := by
  unfold after
  rw [run_perform_rebind]

/-- In a call no rule and no condition fails; a form to go on with is one that a store takes up. -/
def Smooth (c : Config) (s : Session) : Call → Prop
  | .command command => s.Decides command
  | .rebind schema => (∃ store, Store.replace schema = .ok store) ∧ s.CanGoOn c schema

/-! ### Coherence -/

/-- The session has a sound form with an answer for each field, and remembers no results. -/
structure Ready (s : Session) : Prop where
  sound : s.schema.Sound
  forgetful : s.evaluator = .ok (.new s.schema.fields (.int 0))
  names_nodup : s.answers.names.Nodup
  ids_prefix : s.schema.fieldIds <+: s.answers.names

/-- Besides, the visible fields are those for the answers. -/
structure Coherent (s : Session) : Prop extends s.Ready where
  visible_eq : visibleIn s.schema.fields (.dict s.answers) = .ok s.visible

variable {s : Session} {c : Config}

/-- A ready session sees what the evaluator shows for its answers. -/
theorem Ready.look_eq (h : s.Ready) : s.look = visibleIn s.schema.fields (.dict s.answers) := by
  unfold look
  rw [h.forgetful]
  show ((Evaluator.new s.schema.fields (.int 0)).visible _).2 = _
  rw [Evaluator.visible_forgetful _ (.dict _ h.names_nodup)]

/-- A look that succeeds makes a session coherent. -/
theorem Ready.coherent_looked (h : s.Ready) {found : List String} (hlook : s.look = .ok found) :
    s.looked.Coherent := by
  refine ⟨⟨h.sound, ?_, h.names_nodup, h.ids_prefix⟩, ?_⟩
  · show s.evaluator.map (fun e => (e.visible (.dict s.answers)).1) = _
    rw [h.forgetful]
    dsimp only [Except.map]
    rw [Evaluator.visible_forgetful _ (.dict _ h.names_nodup)]
    rfl
  · show visibleIn s.schema.fields (.dict s.answers) = .ok (s.look.toOption.getD s.visible)
    rw [← h.look_eq, hlook]
    rfl

/-! ### Steps -/

/-- A cache size that is an integer is the capacity. -/
theorem capacity_of_cacheSize {n : Int} (hc : c.cacheSize = .int n) :
    c.capacity = .ok (.int n) := by
  unfold Config.capacity
  rw [hc]
  rfl

/-- A session that could be started is coherent. -/
theorem coherent_of_new (hc : c.cacheSize = .int 0) {schema : Schema} (hsound : schema.Sound)
    {values : Value} (h : Session.new c schema values = .ok s) : s.Coherent := by
  obtain ⟨rfl, _, hanswers, capacity, hcapacity, hevaluator, hvisible⟩ := new_eq_ok h
  rw [capacity_of_cacheSize hc] at hcapacity
  obtain rfl := Except.ok.inj hcapacity
  have hnames := names_of_initialAnswers hsound hanswers
  have hnodup : s.answers.names.Nodup := hnames ▸ hsound.nodup_ids
  rw [Evaluator.visible_forgetful _ (.dict _ hnodup)] at hevaluator hvisible
  exact ⟨⟨hsound, hevaluator, hnodup, hnames ▸ List.prefix_rfl⟩, hvisible⟩

/-- A coherent session is coherent after every command, whether the command is accepted or not. -/
theorem Coherent.after_command (h : s.Coherent) {command : Command} (hd : s.Decides command) :
    ((run command).run.run s).2.Coherent := by
  rcases run_of_decides hd with ⟨e, _, hrun⟩ | ⟨a, _, hrun⟩ | ⟨a, answers, found, hp, hfound, hrun⟩
  -- A command that fails, or puts nothing in place, leaves the session as it was.
  · rw [hrun]
    exact h
  · rw [hrun]
    exact h
  · have hready : Ready { s with answers } := by
      refine ⟨h.sound, h.forgetful, ?_, h.ids_prefix.trans (prefix_names_of_proposal hp)⟩
      obtain ⟨given, rfl, _⟩ := proposal_eq_ok hp
      exact Members.nodup_names_overlay h.names_nodup given
    rw [hrun]
    exact hready.coherent_looked hfound

/-- Whatever a session was like, it is coherent when it has gone on with a form. -/
theorem coherent_of_rebind (hc : c.cacheSize = .int 0) {schema : Schema} (hsound : schema.Sound)
    {s' : Session} (h : (rebind c schema).run.run s = (.ok (), s')) : s'.Coherent := by
  obtain ⟨⟨_, _, found, hfound⟩, contract, _, rfl⟩ := run_rebind_eq_ok_iff.mp h
  have hnames := s.names_carried hsound
  have hready : (s.boundTo c schema contract).Ready := by
    refine ⟨hsound, ?_, hnames ▸ hsound.nodup_ids, hnames ▸ List.prefix_rfl⟩
    show c.capacity.map (Evaluator.new schema.fields) = _
    rw [capacity_of_cacheSize hc]
    rfl
  exact hready.coherent_looked (hready.look_eq.trans hfound)

/-- A smooth call keeps a session coherent. -/
theorem Coherent.after (hc : c.cacheSize = .int 0) (h : s.Coherent) {call : Call}
    (hsmooth : s.Smooth c call) : (s.after c call).Coherent := by
  cases call with
  | command command => exact h.after_command hsmooth
  | rebind schema =>
    obtain ⟨⟨store, hstore⟩, hgo⟩ := hsmooth
    rw [after_rebind]
    exact coherent_of_rebind hc (Store.replace_eq_ok_iff.mp hstore).1 hgo.run_rebind

/-! ### Names -/

/-- No update in the run brings in other names than those of fields. -/
def GivesFieldsOnly (c : Config) : Session → List Call → Prop :=
  Throughout (after c) fun s call => ∀ command, call = .command command → s.GivesFields command

/-- An answer for each field and for nothing else remains such, if nothing else is brought in. -/
theorem names_after (hnames : s.answers.names = s.schema.fieldIds) {call : Call}
    (hsmooth : s.Smooth c call)
    (hgives : ∀ command, call = .command command → s.GivesFields command) :
    (s.after c call).answers.names = (s.after c call).schema.fieldIds := by
  cases call with
  -- A command keeps the names, since it answers known fields only; a rebinding starts from those of
  -- the new schema.
  | command command =>
    show ((run command).run.run s).2.answers.names = ((run command).run.run s).2.schema.fieldIds
    rcases run_of_decides hsmooth with
      ⟨e, _, hrun⟩ | ⟨a, _, hrun⟩ | ⟨a, answers, found, hp, _, hrun⟩
    · rw [hrun]
      exact hnames
    · rw [hrun]
      exact hnames
    · have hids : s.schema.fieldIds ⊆ s.answers.names := hnames ▸ List.Subset.refl _
      rw [hrun]
      exact (names_of_proposal hids (hgives command rfl) hp).trans hnames
  | rebind schema =>
    obtain ⟨⟨store, hstore⟩, hgo⟩ := hsmooth
    obtain ⟨hinStep, hcarried⟩ := inStep_of_rebind hgo.run_rebind
    rw [after_rebind, hcarried, hinStep.schema_eq]
    exact s.names_carried (Store.replace_eq_ok_iff.mp hstore).1

/-! ### What is to be seen -/

/-- The fields that a session shows are the visible ones. -/
theorem Coherent.mem_visibleIds_iff (h : s.Coherent) (id : String) :
    id ∈ s.visibleIds ↔ id ∈ s.visible := by
  unfold visibleIds
  rw [List.mem_filter, List.contains_iff_mem]
  have hsub := (sublist_of_visibleAmong h.visible_eq).subset
  exact and_iff_right_of_imp fun hid => hsub hid

/-- A session finds a field or sub-field visible when a fresh evaluator does. -/
theorem Coherent.isVisible_eq (h : s.Coherent) (id : String) :
    s.isVisible (.str id) =
      ((Evaluator.new s.schema.fields (.int 0)).isVisible (.str id) (.dict s.answers)).2 := by
  rw [Evaluator.isVisible_str, Evaluator.visible_forgetful _ (.dict _ h.names_nodup), h.visible_eq,
    Evaluator.get?_owners h.sound]
  unfold isVisible
  cases s.schema.parent? (.str id) with
  | some f => rfl
  | none =>
    -- Neither finds a section, so the text is to be the id of a visible field itself.
    have hany : s.visible.any ((Value.str id).isText ·) = s.visible.contains id := by
      rw [List.contains_eq_any_beq]
      congr 1
      funext name
      simp [Value.isText, Value.text?, Bool.beq_eq_decide_eq]
    exact congrArg Except.ok hany

/-- Through any run in which no rule and no condition fails, whether its calls are accepted or not,
a session that remembers no results knows what is visible as a fresh evaluator does, and has answers
first for the fields of its form in their order; and for nothing else, if no update brings in other
names. -/
theorem coherent_afterAll (hc : c.cacheSize = .int 0) {schema : Schema} {store : Store}
    (hstore : Store.replace schema = .ok store) {values : Value}
    (hs : Session.new c schema values = .ok s) {calls : List Call}
    (hsmooth : Throughout (after c) (Smooth c) s calls) :
    let t := s.afterAll c calls
    let fresh := Evaluator.new t.schema.fields (.int 0)
    (fresh.visible (.dict t.answers)).2 = .ok t.visible ∧
      t.visibleIds.Sublist t.schema.fieldIds ∧ (∀ id, id ∈ t.visibleIds ↔ id ∈ t.visible) ∧
      (∀ id, t.isVisible (.str id) = (fresh.isVisible (.str id) (.dict t.answers)).2) ∧
      t.schema.fieldIds <+: t.answers.names ∧
      (GivesFieldsOnly c s calls → t.answers.names = t.schema.fieldIds) := by
  intro t fresh
  have hsound := (Store.replace_eq_ok_iff.mp hstore).1
  have hstart := coherent_of_new hc hsound hs
  -- The invariant carries all but the names, which need the stronger hypothesis on the commands.
  have ht : t.Coherent := hsmooth.invariant (fun _ _ h hcall => h.after hc hcall) hstart
  refine ⟨?_, List.filter_sublist, ht.mem_visibleIds_iff, ht.isVisible_eq, ht.ids_prefix, ?_⟩
  · show ((Evaluator.new t.schema.fields (.int 0)).visible (.dict t.answers)).2 = _
    rw [Evaluator.visible_forgetful _ (.dict _ ht.names_nodup)]
    exact ht.visible_eq
  · intro hgives
    have hnames : s.answers.names = s.schema.fieldIds := by
      obtain ⟨rfl, _, hanswers, _⟩ := new_eq_ok hs
      exact names_of_initialAnswers hsound hanswers
    exact (hsmooth.and hgives).invariant (I := fun s => s.answers.names = s.schema.fieldIds)
      (fun _ _ h hcall => names_after h hcall.1 hcall.2) hnames

/-- A form of a question about pets, and a section of their names for who has some. -/
def householdForm : Schema where
  title := "Household"
  description := ""
  fields := [⟨"any", .text, "Pets?", false, none, none, none, none, none, none⟩,
    ⟨"pets", .repeatable, "Pets", false, none, none, none, none,
      some [⟨"any", .equals, .str "yes"⟩],
      some [⟨"name", .text, "Name", false, none, none, none, none, none, none⟩]⟩]
  settings := ⟨true, true, ""⟩

/-- A section becomes visible, with the names in it, through calls of which one is refused. -/
theorem coherent_afterAll_household :
    let c : Config := { Config.standard with cacheSize := .int 0 }
    let calls : List Call := [.command (.setAnswer (.str "any") (.str "yes")),
      .command (.addEntry (.str "pets")), .command (.removeEntry (.str "pets") (.int 1))]
    ∃ store s, Store.replace householdForm = .ok store ∧
      Session.new c householdForm .null = .ok s ∧ Throughout (after c) (Smooth c) s calls ∧
      GivesFieldsOnly c s calls ∧ (s.afterAll c calls).schema = householdForm ∧
      (s.afterAll c calls).visible = ["any", "pets"] ∧
      (s.afterAll c calls).answers.names = ["any", "pets"] ∧
      ((Evaluator.new householdForm.fields (.int 0)).isVisible (.str "name")
        (.dict (s.afterAll c calls).answers)).2 = .ok true := by
  intro c calls
  obtain ⟨store, s, hstore, hs, hsmooth, hgives, hschema, hvisible, hname⟩ : ∃ store s,
      Store.replace householdForm = .ok store ∧ Session.new c householdForm .null = .ok s ∧
      Throughout (after c) (Smooth c) s calls ∧ GivesFieldsOnly c s calls ∧
      (s.afterAll c calls).schema = householdForm ∧
      (s.afterAll c calls).visible = ["any", "pets"] ∧
      (s.afterAll c calls).isVisible (.str "name") = .ok true := by
    -- Three steps of the run go smoothly, and the answers they give are those of fields.
    refine ⟨_, _, rfl, rfl, ⟨?_, ?_, ?_, trivial⟩, ⟨?_, ?_, ?_, trivial⟩, rfl, rfl, rfl⟩
    · intro a answers h
      cases h
      exact ⟨_, rfl⟩
    · intro a answers h
      cases h
      exact ⟨_, rfl⟩
    · intro a answers h
      cases h
    · rintro _ ⟨⟩
      trivial
    · rintro _ ⟨⟩
      trivial
    · rintro _ ⟨⟩
      trivial
  obtain ⟨_, _, _, hisVisible, _, hexact⟩ := coherent_afterAll rfl hstore hs hsmooth
  refine ⟨store, s, hstore, hs, hsmooth, hgives, hschema, hvisible, ?_, ?_⟩
  · rw [hexact hgives, hschema]
    rfl
  · rw [← hname, hisVisible "name", hschema]

/-- A form of one name, whose id is two letters. -/
def nameForm : Schema where
  title := "Names"
  description := ""
  fields := [⟨"ab", .text, "Name", false, none, none, none, none, none, none⟩]
  settings := ⟨true, true, ""⟩

/-- An update by the id of a field, instead of an object, is accepted: the id is the pair of its two
letters, and there is an answer for no field. -/
theorem names_ne_of_pairs :
    let c : Config := { Config.standard with cacheSize := .int 0 }
    let calls : List Call := [.command (.updateAnswers (.list [.str "ab"]))]
    ∃ store s, Store.replace nameForm = .ok store ∧
      Session.new c nameForm (.dict [("ab", .str "Ada")]) = .ok s ∧
      Throughout (after c) (Smooth c) s calls ∧
      (s.afterAll c calls).schema.fieldIds = ["ab"] ∧
      (s.afterAll c calls).answers = [("ab", .str "Ada"), ("a", .str "b")] ∧
      (s.afterAll c calls).answers.names ≠ (s.afterAll c calls).schema.fieldIds := by
  intro c calls
  refine ⟨_, _, rfl, rfl, ⟨?_, trivial⟩, rfl, rfl, ?_⟩
  -- The only thing to check is that the look after the command gives a set.
  · intro a answers h
    cases h
    exact ⟨_, rfl⟩
  · show ["ab", "a"] ≠ ["ab"]
    simp

end Questionnaire.Session
