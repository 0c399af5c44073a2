import Questionnaire.Proofs.Session.Binding
import Questionnaire.Proofs.Store.Commit
import Questionnaire.Proofs.Validation.Application
import Questionnaire.Proofs.Visibility.Fresh

/-!
# What hidden answers tell

Nothing: the answers that count are those of the visible fields, and those that the conditions of
the form look at.  `submit_eq_of_agree` compares two sessions over a form that agree on these answers
and may differ in all others.  They show the same fields, and validate and submit alike.

Both sessions may have come to their answers in any way, also through calls that failed (`Over`).
What is known of such a session is that its visible fields are those for its answers whenever there
are such (`Attuned`).
-/

namespace Questionnaire

/-! ### Contracts and conditions -/

namespace Contract

/-- A report depends on the answers of the visible fields only. -/
theorem validate_congr {c : Contract} {visible : List String} {a b : Members Value}
    (h : ∀ id ∈ visible, a.get? id = b.get? id) :
    c.validate a (some visible) = c.validate b (some visible) := by
  unfold validate
  dsimp only
  rw [applyRules_congr]
  intro r hr
  exact h r.1 (by simpa using (List.mem_filter.mp hr).2)

end Contract

/-- What is visible depends on the answers that conditions look at only. -/
theorem visibleIn_eq_of_agree {fields : List Field} {a b : Members Value}
    (h : ∀ f ∈ fields, ∀ c ∈ f.conditionList, a.get? c.source = b.get? c.source) :
    visibleIn fields (.dict a) = visibleIn fields (.dict b) := by
  refine visibleIn_eq_of_holds fun f hf c hc => ?_
  unfold Condition.holds
  rw [effectiveAnswers_dict, effectiveAnswers_dict, answerOf_dict, answerOf_dict, h f hf c hc]

/-- Under these settings an evaluator remembers nothing. -/
def Config.Forgetful (c : Config) : Prop :=
  ∃ capacity, c.capacity = .ok capacity ∧ ∀ fields, (Evaluator.new fields capacity).remembers = false

/-- They do so if the capacity of evaluators is not positive. -/
theorem Config.forgetful_of_cacheSize {c : Config} {n : Int} (hc : c.cacheSize = .int n)
    (hn : n ≤ 0) : c.Forgetful := by
  refine ⟨.int n, ?_, fun fields => ?_⟩
  · unfold capacity
    rw [hc]
    rfl
  · rw [Evaluator.remembers_of_int rfl, decide_eq_false_iff_not]
    exact hn.not_gt

namespace Session

variable {c : Config} {schema : Schema} {s t : Session}

/-! ### Sessions over a form -/

/-- A session over a form: a new one, or one that takes up the form, after any commands.  Commands
may fail, and so may the look at what is visible that ends the taking up. -/
inductive Over (c : Config) (schema : Schema) : Session → Prop
  | new {values : Value} {s : Session} (h : Session.new c schema values = .ok s) : Over c schema s
  | rebind (s : Session) {contract : Contract} (h : schema.compile = .ok contract) :
      Over c schema ((Session.rebind c schema).run.run s).2
  | run {s : Session} (h : Over c schema s) (command : Command) :
      Over c schema ((Session.run command).run.run s).2

/-- The session has the form with its contract, remembers no results, and has the visible fields for
its answers if these can be found. -/
structure Attuned (schema : Schema) (s : Session) : Prop where
  schema_eq : s.schema = schema
  compiled : schema.compile = .ok s.contract
  forgetful : ∃ e, s.evaluator = .ok e ∧ e.fields = schema.fields ∧ e.remembers = false
  visible_eq : ∀ found, visibleIn schema.fields (.dict s.answers) = .ok found → s.visible = found

/-- A look makes a session attuned that has a form with its contract. -/
theorem attuned_looked (hschema : s.schema = schema) (hcompiled : schema.compile = .ok s.contract)
    (hforgetful : ∃ e, s.evaluator = .ok e ∧ e.fields = schema.fields ∧ e.remembers = false) :
    s.looked.Attuned schema := by
  obtain ⟨e, he, hfields, hremembers⟩ := hforgetful
  -- A forgetful evaluator decides afresh and comes back as it was.
  have hvisible := Evaluator.visible_dict_of_not_remembers hremembers s.answers
  refine ⟨hschema, hcompiled, ⟨e, ?_, hfields, hremembers⟩, fun found hfound => ?_⟩
  · show s.evaluator.map (fun e => (e.visible (.dict s.answers)).1) = .ok e
    rw [he]
    exact congrArg (fun p => Except.ok p.1) hvisible
  · have hlook : s.look = .ok found := by
      unfold look
      rw [he]
      exact (congrArg Prod.snd hvisible).trans (hfields ▸ hfound)
    show s.look.toOption.getD s.visible = found
    rw [hlook]
    rfl

/-- A new session is attuned when its cache remembers nothing. -/
theorem attuned_of_new (hc : c.Forgetful) {values : Value}
    (h : Session.new c schema values = .ok s) : s.Attuned schema := by
  obtain ⟨capacity, hcapacity, hremembers⟩ := hc
  obtain ⟨rfl, hcompiled, _, capacity', hcapacity', hevaluator, hvisible⟩ := new_eq_ok h
  obtain rfl := Except.ok.inj (hcapacity.symm.trans hcapacity')
  rw [Evaluator.visible_dict_of_not_remembers (hremembers _)] at hevaluator hvisible
  refine ⟨rfl, hcompiled, ⟨_, hevaluator, rfl, hremembers _⟩, fun found hfound => ?_⟩
  exact Except.ok.inj (hvisible.symm.trans hfound)

/-- A session is attuned after rebinding, whether or not the look gave a set. -/
theorem attuned_of_rebind (hc : c.Forgetful) (s : Session) {contract : Contract}
    (h : schema.compile = .ok contract) : ((rebind c schema).run.run s).2.Attuned schema := by
  obtain ⟨capacity, hcapacity, hremembers⟩ := hc
  rw [run_rebind, h]
  refine attuned_looked rfl h ⟨.new schema.fields capacity, ?_, rfl, hremembers _⟩
  show c.capacity.map (Evaluator.new schema.fields) = _
  rw [hcapacity]
  rfl

/-- A command keeps a session attuned, whether it succeeds or not. -/
theorem Attuned.run (h : s.Attuned schema) (command : Command) :
    ((run command).run.run s).2.Attuned schema := by
  rw [run_run]
  rcases s.proposal command with e | ⟨a, _ | answers⟩
  · exact h
  · exact h
  · exact attuned_looked h.schema_eq h.compiled h.forgetful

/-- By induction on what was done with a session since it took up the form. -/
theorem Over.attuned (hc : c.Forgetful) (h : Over c schema s) : s.Attuned schema := by
  induction h with
  | new h => exact attuned_of_new hc h
  | rebind s h => exact attuned_of_rebind hc s h
  | run _ command ih => exact ih.run command

/-! ### Two sessions -/

/-- Two attuned sessions whose answers agree wherever a condition looks see the same. -/
theorem Attuned.visible_eq_of_agree (hs : s.Attuned schema) (ht : t.Attuned schema)
    (hdecides : ∃ found, visibleIn schema.fields (.dict s.answers) = .ok found)
    (hsources : ∀ f ∈ schema.fields, ∀ c ∈ f.conditionList,
      t.answers.get? c.source = s.answers.get? c.source) : t.visible = s.visible := by
  obtain ⟨found, hfound⟩ := hdecides
  rw [hs.visible_eq found hfound]
  refine ht.visible_eq found ?_
  rw [visibleIn_eq_of_agree hsources, hfound]

/-- Two sessions over a form that agree on the fields visible in the one and on the sources of all
conditions show the same fields, have the same report and submit with the same result, whatever other
answers they have. -/
theorem submit_eq_of_agree (hc : c.Forgetful) (hs : Over c schema s) (ht : Over c schema t)
    (hdecides : ∃ found, visibleIn schema.fields (.dict s.answers) = .ok found)
    (hvisible : ∀ id ∈ s.visible, t.answers.get? id = s.answers.get? id)
    (hsources : ∀ f ∈ schema.fields, ∀ c ∈ f.conditionList,
      t.answers.get? c.source = s.answers.get? c.source) :
    t.visible = s.visible ∧
      (∃ report, s.validate = .ok report ∧ t.validate = .ok report) ∧
      ∃ submission, s.submit = .ok submission ∧ t.submit = .ok submission := by
  have hs := hs.attuned hc
  have ht := ht.attuned hc
  -- What is visible follows from the sources; what is validated, from the visible answers.
  have hshown := hs.visible_eq_of_agree ht hdecides hsources
  have hcontract : t.contract = s.contract :=
    Except.ok.inj (ht.compiled.symm.trans hs.compiled)
  have hvalidate : t.validate = s.validate := by
    unfold validate
    rw [hcontract, hshown]
    exact Contract.validate_congr hvisible
  obtain ⟨report, hreport⟩ := Schema.validate_of_compile hs.compiled s.answers (some s.visible)
  have hs_report : s.validate = .ok report := hreport
  refine ⟨hshown, ⟨report, hs_report, hvalidate.trans hs_report⟩,
    .ofReport schema s.visible report, ?_, ?_⟩
  · unfold submit
    rw [hs_report, hs.schema_eq]
    rfl
  · unfold submit
    rw [hvalidate, hs_report, ht.schema_eq, hshown]
    rfl

/-- A form of a question about membership, and of a number that only members are asked for. -/
def memberForm : Schema where
  title := "Members"
  description := ""
  fields := [⟨"member", .text, "Member?", true, none, none, none, none, none, none⟩,
    ⟨"since", .number, "Since", true, none, none, none, none,
      some [⟨"member", .equals, .str "yes"⟩], none⟩]
  settings := ⟨true, true, "Thanks"⟩

/-- Who is no member submits alike, with a hidden year that is no number and with one that was set
to a list later on. -/
theorem submit_eq_of_agree_guests :
    let c : Config := { Config.standard with cacheSize := .int 0 }
    ∃ store s t submission, Store.replace memberForm = .ok store ∧
      Session.new c memberForm (.dict [("member", .str "no"), ("since", .str "never")]) = .ok s ∧
      Over c memberForm t ∧ t.answers = [("member", .str "no"), ("since", .list [.int 1])] ∧
      s.visible = ["member"] ∧ t.visible = ["member"] ∧
      submission.data = some [("Member?", .str "no")] ∧ s.submit = .ok submission ∧
      t.submit = .ok submission := by
  intro c
  have hforgetful : c.Forgetful := Config.forgetful_of_cacheSize rfl le_rfl
  obtain ⟨store, s, u, hstore, hs, hu, hvisible, hanswers, hset⟩ : ∃ store s u,
      Store.replace memberForm = .ok store ∧
      Session.new c memberForm (.dict [("member", .str "no"), ("since", .str "never")]) = .ok s ∧
      Session.new c memberForm (.dict [("member", .str "no")]) = .ok u ∧
      s.visible = ["member"] ∧ s.answers = [("member", .str "no"), ("since", .str "never")] ∧
      ((run (.setAnswer (.str "since") (.list [.int 1]))).run.run u).2.answers =
        [("member", .str "no"), ("since", .list [.int 1])] := ⟨_, _, _, rfl, rfl, rfl, rfl, rfl, rfl⟩
  -- The second session gets to the same visible set by another way.
  have ht : Over c memberForm ((run (.setAnswer (.str "since") (.list [.int 1]))).run.run u).2 :=
    (Over.new hu).run _
  obtain ⟨hshown, _, submission, hsubmit, hsubmit'⟩ :=
    submit_eq_of_agree hforgetful (.new hs) ht (by rw [hanswers]; exact ⟨_, rfl⟩)
      (by simp [hvisible, hanswers, hset, Members.get?])
      (by simp [memberForm, Field.conditionList, hanswers, hset, Members.get?])
  refine ⟨store, s, _, submission, hstore, hs, ht, hset, hvisible, hshown.trans hvisible, ?_,
    hsubmit, hsubmit'⟩
  cases hs
  cases hsubmit
  rfl

end Session
end Questionnaire
