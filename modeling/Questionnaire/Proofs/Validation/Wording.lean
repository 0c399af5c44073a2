import Questionnaire.Proofs.Validation.Positions

/-!
# Messages of one's own

Fields without a message may be given one (`Field.Reworded`, `Schema.Reworded`).  The rules that are
made of them then differ in their heads (`Rule.Reworded`), so that they object to the same in other
words (`Objection.Reworded`): the report changes in the messages alone (`Schema.validate_reworded`).
-/

namespace Questionnaire

/-! ### Objections in other words -/

/-- The head is the same, or has a message where there was none. -/
inductive RuleHead.Reworded : RuleHead → RuleHead → Prop
  | kept (h : RuleHead) : Reworded h h
  | given {h : RuleHead} {m : String} (hnone : h.customMessage.getD "" = "") (hm : m ≠ "") :
    Reworded h { h with customMessage := some m }

namespace RuleHead.Reworded

variable {h h' : RuleHead} (hh : h.Reworded h')
include hh

theorem fieldId_eq : h'.fieldId = h.fieldId := by
  cases hh with
  | _ => rfl

theorem required_eq : h'.required = h.required := by
  cases hh with
  | _ => rfl

end RuleHead.Reworded

/-- The objection is the same, but perhaps in the words of another head. -/
structure Objection.Reworded (o o' : Objection) : Prop where
  head : o.head.Reworded o'.head
  same : o' = { o with head := o'.head }

namespace Rule

/-- The rule with another head. -/
def withHead (h : RuleHead) : Rule → Rule
  | .string _ minLength maxLength pattern email => .string h minLength maxLength pattern email
  | .number _ coerce minimum maximum => .number h coerce minimum maximum
  | .choiceList _ minItems maxItems => .choiceList h minItems maxItems
  | .date _ => .date h
  | .any _ allowedFileTypes maxFileSize maxFiles => .any h allowedFileTypes maxFileSize maxFiles
  | .matrix _ => .matrix h
  | .repeatable _ entries => .repeatable h entries
  | .misconfigured _ reason => .misconfigured h reason

theorem head_withHead (rule : Rule) (h : RuleHead) : (rule.withHead h).head = h := by
  cases rule with
  | _ => rfl

theorem kind_withHead (rule : Rule) (h : RuleHead) : (rule.withHead h).kind = rule.kind := by
  cases rule with
  | _ => rfl

theorem cleanedEmpty_withHead (rule : Rule) (h : RuleHead) (v : Value) :
    (rule.withHead h).cleanedEmpty v = rule.cleanedEmpty v := by
  cases rule with
  | _ => cases v <;> rfl

theorem answerVerdict_withHead (rule : Rule) (h : RuleHead) (v : Value) :
    (rule.withHead h).answerVerdict v = rule.answerVerdict v := by
  cases rule with
  | _ => rfl

/-- What a rule makes of one answer depends on whether an answer is required, and on nothing else
in the head. -/
theorem verdict_withHead {rule : Rule} {h : RuleHead} (hrequired : h.required = rule.head.required)
    (v : Value) : (rule.withHead h).verdict v = rule.verdict v := by
  by_cases hmisconfigured : rule.kind = "misconfigured"
  · cases rule with
    | misconfigured => rfl
    | _ => simp [kind] at hmisconfigured
  · rw [verdict_eq hmisconfigured, verdict_eq (by rwa [kind_withHead]), head_withHead, hrequired,
      cleanedEmpty_withHead, answerVerdict_withHead]

/-- The rules differ in the messages of their heads alone, at any depth. -/
inductive Reworded : Rule → Rule → Prop
  | plain {rule : Rule} {h : RuleHead} (hsection : rule.kind ≠ "repeatable")
    (hh : rule.head.Reworded h) : Reworded rule (rule.withHead h)
  | entries {h h' : RuleHead} {entries entries' : List (String × Rule)} (hh : h.Reworded h')
    (hentries : Members.Related Reworded entries entries') :
    Reworded (.repeatable h entries) (.repeatable h' entries')

namespace Reworded

variable {rule rule' : Rule} (h : rule.Reworded rule')
include h

theorem head : rule.head.Reworded rule'.head := by
  cases h with
  | plain _ hh => rwa [head_withHead]
  | entries hh => exact hh

theorem kind_eq : rule'.kind = rule.kind := by
  cases h with
  | plain => exact kind_withHead _ _
  | entries => rfl

theorem warning?_eq (name : String) :
    Contract.warning? name rule' = Contract.warning? name rule := by
  cases h with
  | @plain rule =>
    cases rule with
    | _ => rfl
  | entries => rfl

theorem verdict_eq (v : Value) : rule'.verdict v = rule.verdict v := by
  cases h with
  | plain _ hh => exact verdict_withHead hh.required_eq v
  | @entries h h' entries entries' hh =>
    -- The rules of the sub-fields do not matter.
    have hentries :
      (Rule.repeatable h' entries').verdict v = (Rule.repeatable h' entries).verdict v := by
      cases v <;> rfl
    have hhead := @verdict_withHead (.repeatable h entries) h' hh.required_eq v
    exact hentries.trans hhead

end Reworded

theorem own_reworded {h h' : RuleHead} (hh : h.Reworded h') (v : Value) (breaches : List Breach) :
    List.Forall₂ Objection.Reworded (Objection.own h v breaches) (Objection.own h' v breaches) := by
  cases breaches with
  | nil => exact .nil
  | cons b bs => exact .cons ⟨hh, by rw [hh.fieldId_eq]⟩ .nil

theorem inEntry_reworded {h h' : RuleHead} (hh : h.Reworded h') (n : Nat) (name : String)
    {os os' : List Objection} (hos : List.Forall₂ Objection.Reworded os os') :
    List.Forall₂ Objection.Reworded (os.map (.inEntry h n name))
      (os'.map (.inEntry h' n name)) := by
  rw [List.forall₂_map_left_iff, List.forall₂_map_right_iff]
  refine hos.imp fun o o' ho => ⟨ho.head, ?_⟩
  unfold Objection.inEntry
  rw [ho.same, hh.fieldId_eq]

/-- An entry is objected to in other words if its sub-fields are. -/
theorem examineNamed_reworded {h h' : RuleHead} (hh : h.Reworded h')
    {entries entries' : List (String × Rule)}
    (hentries : Members.Related Reworded entries entries')
    (ih : ∀ e ∈ entries, ∀ rule', e.2.Reworded rule' → ∀ v w os, e.2.examine v = .ok (w, os) →
      ∃ os', rule'.examine v = .ok (w, os') ∧ List.Forall₂ Objection.Reworded os os')
    {n : Nat} {ms cleaned : Members Value} {os : List Objection}
    (hos : examineNamed h n entries ms = .ok (cleaned, os)) :
    ∃ os', examineNamed h' n entries' ms = .ok (cleaned, os') ∧
      List.Forall₂ Objection.Reworded os os' := by
  rw [examineNamed_eq_gather _ _ _ _ 0] at hos ⊢
  -- The parts correspond by name, and each of them objects alike.
  refine gather_forall₂ hentries.forall₂ (fun _ e he e' hrelated b cs hcs => ?_) hos
  obtain ⟨hname, hrule⟩ := hrelated
  obtain ⟨⟨w, found⟩, hfound, heq⟩ := Outcome.map_eq_ok_iff.mp hcs
  cases heq
  obtain ⟨found', hfound', hreworded⟩ := ih e he e'.2 hrule _ w found hfound
  refine ⟨found'.map (.inEntry h' n e.1), ?_, inEntry_reworded hh n e.1 hreworded⟩
  unfold examinePart
  rw [hname, hfound']
  rfl

/-- Reworded rules object to an entry alike, up to the wording. -/
theorem examineEntry_reworded {h h' : RuleHead} (hh : h.Reworded h')
    {f f' : Nat → Members Value → Outcome (Members Value × List Objection)}
    (hf : ∀ n ms cleaned os, f n ms = .ok (cleaned, os) →
      ∃ os', f' n ms = .ok (cleaned, os') ∧ List.Forall₂ Objection.Reworded os os')
    {n : Nat} {u w : Value} {os : List Objection} (hos : examineEntry h f n u = .ok (w, os)) :
    ∃ os', examineEntry h' f' n u = .ok (w, os') ∧ List.Forall₂ Objection.Reworded os os' := by
  by_cases hu : ∃ ms, u = .dict ms
  · obtain ⟨ms, rfl⟩ := hu
    obtain ⟨⟨cleaned, found⟩, hfound, heq⟩ := Outcome.map_eq_ok_iff.mp hos
    cases heq
    obtain ⟨found', hfound', hreworded⟩ := hf n ms cleaned found hfound
    exact ⟨found', Outcome.map_eq_ok_iff.mpr ⟨_, hfound', rfl⟩, hreworded⟩
  · rw [examineEntry_other _ _ _ (not_exists.mp hu)] at hos ⊢
    cases hos
    refine ⟨_, rfl, .cons ⟨hh, ?_⟩ .nil⟩
    unfold Objection.malformed
    rw [hh.fieldId_eq]

/-- Reworded, a rule cleans as it does, and objects to the same in other words. -/
theorem Reworded.examine {rule rule' : Rule} (h : rule.Reworded rule') {v w : Value}
    {os : List Objection} (hos : rule.examine v = .ok (w, os)) :
    ∃ os', rule'.examine v = .ok (w, os') ∧ List.Forall₂ Objection.Reworded os os' := by
  induction rule using entriesInduction generalizing rule' v w os with
  -- By induction on the entries of the rule: a rule without entries has the same verdict, and one
  -- with entries hands them on to the rules of the induction hypothesis.
  | step rule ih =>
    rcases rule.no_entries_or_section v with hentries | ⟨head, entries, vs, rfl, hvs⟩
    · rw [examine_of_no_entries hentries] at hos
      obtain ⟨⟨cleaned, breaches⟩, hverdict, heq⟩ := Outcome.map_eq_ok_iff.mp hos
      cases heq
      refine ⟨Objection.own rule'.head v breaches, ?_, own_reworded h.head v breaches⟩
      rw [examine_of_no_entries (h.kind_eq ▸ hentries), h.verdict_eq, hverdict]
      rfl
    · cases h with
      | plain hplain => exact absurd rfl hplain
      | @entries head head' entries entries' hh hrelated =>
        rw [examine_of_entries hvs] at hos ⊢
        obtain ⟨⟨ws, found⟩, hfound, heq⟩ := Outcome.map_eq_ok_iff.mp hos
        cases heq
        obtain ⟨found', hfound', hreworded⟩ := gather_forall₂ (List.forall₂_same.mpr fun u _ => rfl)
          (fun n u _ u' heq w os hos => by
            subst heq
            exact examineEntry_reworded hh (fun n ms cleaned os => examineNamed_reworded hh hrelated
              fun e he rule' hrule v w os => ih e he hrule) hos) hfound
        exact ⟨found', Outcome.map_eq_ok_iff.mpr ⟨_, hfound', rfl⟩, hreworded⟩

end Rule

/-! ### Fields with messages -/

namespace Field

/-- The message for all failures of the field. -/
def message? (f : Field) : Option String := (f.constraints.getD .unconstrained).customMessage

/-- The field is the same, or is given a message where it had none, and so are its sub-fields. -/
inductive Reworded : Field → Field → Prop
  | kept {f : Field} {ks : List Field} (hks : List.Forall₂ Reworded f.children ks) :
    Reworded f { f with subFields := f.subFields.map fun _ => ks }
  | given {f : Field} {ks : List Field} {m : String} (hnone : f.message?.getD "" = "") (hm : m ≠ "")
    (hks : List.Forall₂ Reworded f.children ks) :
    Reworded f { f with
      constraints := some { f.constraints.getD .unconstrained with customMessage := some m }
      subFields := f.subFields.map fun _ => ks }

variable {f g : Field}

namespace Reworded

variable (h : f.Reworded g)
include h

theorem id_eq : g.id = f.id := by
  cases h with
  | _ => rfl

theorem type_eq : g.type = f.type := by
  cases h with
  | _ => rfl

theorem ruleHead : f.ruleHead.Reworded g.ruleHead := by
  cases h with
  | kept => exact .kept f.ruleHead
  | given hnone hm => exact .given hnone hm

/-- Of the constraints, the message alone is another one. -/
theorem exists_constraints_eq : ∃ m,
    g.constraints.getD .unconstrained =
      { f.constraints.getD .unconstrained with customMessage := m } := by
  cases h with
  | kept => exact ⟨f.message?, rfl⟩
  | given => exact ⟨_, rfl⟩

theorem children : List.Forall₂ Reworded f.children g.children := by
  have hchildren (ks : List Field) (hks : List.Forall₂ Reworded f.children ks) :
      List.Forall₂ Reworded f.children ((f.subFields.map fun _ => ks).getD []) := by
    unfold Field.children at hks ⊢
    cases hsub : f.subFields with
    | none =>
      rw [hsub] at hks
      exact .nil
    | some fields =>
      rw [hsub] at hks
      exact hks
  cases h with
  | kept hks => exact hchildren _ hks
  | given _ _ hks => exact hchildren _ hks

end Reworded

theorem textRule_withHead (id : String) (head h : RuleHead) (c : Constraints) (m : Option String) :
    textRule id h { c with customMessage := m } =
      (textRule id head c).map fun r => (r.1.withHead h, r.2) := by
  unfold textRule
  dsimp only
  cases c.pattern.filter (· ≠ "") with
  | none => rfl
  | some p =>
    dsimp only
    cases Pattern.read p with
    | ok program => rfl
    | error fault =>
      dsimp only
      split <;> rfl

/-- A field that is no section has the same rule with a message, but for the head. -/
theorem plainRule_withHead (id : String) (type : FieldType) (head h : RuleHead) (c : Constraints)
    (m : Option String) : plainRule id type h { c with customMessage := m } =
      (plainRule id type head c).map fun r => (r.1.withHead h, r.2) := by
  cases type with
  | text => exact textRule_withHead id head h c m
  | textarea => exact textRule_withHead id head h c m
  | _ => rfl

theorem Reworded.compile_of_plain (h : f.Reworded g) (hsection : f.type ≠ .repeatable) {rule : Rule}
    {issues : List Issue} (hc : f.compile = .ok (rule, issues)) :
    ∃ rule' issues', g.compile = .ok (rule', issues') ∧ rule.Reworded rule' := by
  have hkind : rule.kind ≠ "repeatable" := by
    cases rule with
    | repeatable => exact absurd (type_of_section hc) hsection
    | _ => simp [Rule.kind]
  have hhead := h.ruleHead
  rw [← head_of_compile hc] at hhead
  obtain ⟨m, hm⟩ := h.exists_constraints_eq
  rw [compile_eq_plainRule hsection] at hc
  refine ⟨rule.withHead g.ruleHead, issues, ?_, .plain hkind hhead⟩
  rw [compile_eq_plainRule (h.type_eq ▸ hsection), h.id_eq, h.type_eq, hm,
    plainRule_withHead _ _ f.ruleHead, hc]
  rfl

/-- A list of fields can be compiled with messages if each of them can. -/
theorem compileList_reworded {fs gs : List Field} (hfs : List.Forall₂ Reworded fs gs)
    (hcompile : ∀ f ∈ fs, ∀ g, f.Reworded g → ∀ rule issues, f.compile = .ok (rule, issues) →
      ∃ rule' issues', g.compile = .ok (rule', issues') ∧ rule.Reworded rule')
    {rules : List (String × Rule)} {issues : List Issue}
    (h : compileList fs = .ok (rules, issues)) :
    ∃ rules' issues', compileList gs = .ok (rules', issues') ∧
      Members.Related Rule.Reworded rules rules' := by
  -- By induction on the correspondence of the fields; the issues may differ, the rules may not.
  induction hfs generalizing rules issues with
  | nil =>
    cases h
    exact ⟨[], [], rfl, .nil⟩
  | @cons f g fs gs hfg _ ih =>
    rw [compileList] at h
    obtain ⟨⟨rule, found⟩, hrule, h⟩ := Outcome.bind_eq_ok_iff.mp h
    obtain ⟨⟨rest, others⟩, hrest, h⟩ := Outcome.bind_eq_ok_iff.mp h
    obtain ⟨rfl, rfl⟩ := Prod.mk.inj (Outcome.pure_eq_ok_iff.mp h)
    obtain ⟨rule', found', hrule', hreworded⟩ :=
      hcompile f List.mem_cons_self g hfg rule found hrule
    obtain ⟨rest', others', hrest', hrelated⟩ :=
      ih (fun f hf => hcompile f (List.mem_cons_of_mem _ hf)) hrest
    refine ⟨(g.id, rule') :: rest', found' ++ others', ?_, ?_⟩
    · rw [compileList, hrule', hrest']
      rfl
    · rw [hfg.id_eq]
      exact .cons hreworded hrelated

/-- A field with a message can be compiled as without it, and its rule has the message, too. -/
theorem Reworded.compile (h : f.Reworded g) {rule : Rule} {issues : List Issue}
    (hc : f.compile = .ok (rule, issues)) :
    ∃ rule' issues', g.compile = .ok (rule', issues') ∧ rule.Reworded rule' := by
  induction f using childrenInduction generalizing g rule issues with
  | step f ih =>
    by_cases hsection : f.type = .repeatable
    · obtain ⟨rules, hrules, rfl⟩ := exists_rules_of_section hsection hc
      obtain ⟨rules', issues', hrules', hrelated⟩ := compileList_reworded h.children
        (fun k hk k' hkk' rule issues hc => ih k hk hkk' hc) hrules
      refine ⟨_, issues', ?_, .entries h.ruleHead hrelated.ofPairs⟩
      rw [compile_of_section (h.type_eq ▸ hsection), hrules']
      rfl
    · exact h.compile_of_plain hsection hc

end Field

/-! ### Reports in other words -/

/-- The fields of the form, at any depth, are the same, or are given messages where
they had none. -/
def Schema.Reworded (s s' : Schema) : Prop :=
  ∃ fields, List.Forall₂ Field.Reworded s.fields fields ∧ s' = { s with fields := fields }

/-- The reports differ in messages, and in the number of failures at a path, if at all. -/
structure Report.SameButWording (r r' : Report) : Prop where
  isValid_eq : r'.isValid = r.isValid
  data_eq : r'.data = r.data
  warnings_eq : r'.warnings = r.warnings
  paths (path : String) : path ∈ r'.failures.map (·.fieldId) ↔ path ∈ r.failures.map (·.fieldId)

/-- The objections are those of a field without and with a message: in one position, with the
same failures if it was not given a message, and otherwise with the first of them in the words of
this message. -/
structure Objection.SameButWording (s s' : Schema) (o o' : Objection) : Prop where
  position_eq : o'.position = o.position
  fields : ∃ f g, s.At o.position f ∧ s'.At o'.position g ∧ f.Reworded g ∧
    (g.message? = f.message? → o'.failures = o.failures) ∧
    (g.message? ≠ f.message? → ∃ m first rest, g.message? = some m ∧ o.failures = first :: rest ∧
      o'.failures = [{ first with message := m }])

/-! #### Fields in the same places -/

namespace Field

section Lists

variable {fs gs : List Field} (h : List.Forall₂ Reworded fs gs)
include h

theorem map_id_reworded : gs.map (·.id) = fs.map (·.id) := by
  induction h with
  | nil => rfl
  | cons hfg _ ih => rw [List.map_cons, List.map_cons, hfg.id_eq, ih]

theorem IsLastIn.reworded {k : Field} (hk : k.IsLastIn fs) :
    ∃ k', k'.IsLastIn gs ∧ k.Reworded k' := by
  induction h with
  | nil => exact absurd hk.mem List.not_mem_nil
  | @cons f g fs gs hfg hrest ih =>
    rcases hk.of_cons with ⟨rfl, hlast⟩ | hk
    · refine ⟨g, isLastIn_cons_of_not_mem ?_, hfg⟩
      rwa [hfg.id_eq, map_id_reworded hrest]
    · obtain ⟨k', hk', hkk'⟩ := ih hk
      exact ⟨k', hk'.cons g, hkk'⟩

end Lists

theorem Leads.reworded {f g k : Field} {path : List (Nat × String)} (hk : f.Leads path k)
    (h : f.Reworded g) : ∃ k', g.Leads path k' ∧ k.Reworded k' := by
  induction hk generalizing g with
  | self => exact ⟨g, .self g, h⟩
  | entry i hsection hlast _ ih =>
    obtain ⟨j, hj, hreworded⟩ := hlast.reworded h.children
    obtain ⟨k', hk', hkk'⟩ := ih hreworded
    refine ⟨k', ?_, hkk'⟩
    rw [← hreworded.id_eq]
    exact .entry i (h.type_eq.trans hsection) hj hk'

end Field

/-- The field of a position is, in the reworded form, reworded. -/
theorem Schema.At.reworded {s s' : Schema} (h : s.Reworded s') {p : Position} {f : Field}
    (hf : s.At p f) :
    ∃ g, s'.At p g ∧ f.Reworded g := by
  obtain ⟨fields, hfields, rfl⟩ := h
  obtain ⟨top, htop, hat⟩ := hf
  obtain ⟨top', htop', hreworded⟩ := htop.reworded hfields
  obtain ⟨g, hg, hfg⟩ := hat.leads.reworded hreworded
  refine ⟨g, ⟨top', htop', hat.field_eq.trans hreworded.id_eq.symm, hg, fun hentry => ?_⟩, hfg⟩
  exact hfg.type_eq.trans (hat.section_of_entry hentry)

/-! #### Failures -/

/-- A message that is given replaces the one of the first failure, and the others go. -/
theorem RuleHead.Reworded.failures {h h' : RuleHead} (hh : h.Reworded h') (path : String)
    {bs : List Breach} (hbs : bs ≠ []) (v : Value) :
    (h'.customMessage = h.customMessage → h'.failures path bs v = h.failures path bs v) ∧
    (h'.customMessage ≠ h.customMessage → ∃ m first rest, h'.customMessage = some m ∧
      h.failures path bs v = first :: rest ∧
      h'.failures path bs v = [{ first with message := m }]) := by
  cases hh with
  | kept => exact ⟨fun _ => rfl, fun hne => absurd rfl hne⟩
  | @given m hnone hm =>
    refine ⟨fun heq => absurd ?_ hm, fun _ => ?_⟩
    · rw [← hnone, ← heq, Option.getD_some]
    · obtain ⟨b, bs, rfl⟩ := List.exists_cons_of_ne_nil hbs
      refine ⟨m, ⟨path, b.type, b.message, b.expected, _⟩, ?rest, rfl, ?all, if_neg hm⟩
      case all =>
        -- An empty message counts as none.
        unfold RuleHead.failures
        cases hmessage : h.customMessage with
        | none => rfl
        | some message =>
          rw [hmessage, Option.getD_some] at hnone
          exact if_pos hnone

/-- The rules have the same warnings. -/
theorem Contract.warnings_reworded {rules rules' : List (String × Rule)}
    (h : Members.Related Rule.Reworded rules rules') : warnings rules' = warnings rules := by
  induction h with
  | nil => rfl
  | cons hrule _ ih =>
    unfold warnings at ih ⊢
    rw [List.flatMap_cons, List.flatMap_cons, ih, hrule.warning?_eq]

namespace Contract

variable {c c' : Contract} (hrules : Members.Related Rule.Reworded c.rules c'.rules)
include hrules

theorem asked_reworded (visible : Option (List String)) :
    Members.Related Rule.Reworded (c.asked visible) (c'.asked visible) := by
  unfold asked
  exact hrules.filter fun id => visible.all (·.contains id)

/-- Contracts with reworded rules have the same cleaned answers, and objections in other words. -/
theorem gather_reworded {answers : Members Value} {visible : Option (List String)}
    {data : List (String × Value)} {os : List Objection}
    (h : gather (fun _ => examineRule answers) 0 (c.asked visible) = .ok (data, os)) :
    ∃ os', gather (fun _ => examineRule answers) 0 (c'.asked visible) = .ok (data, os') ∧
      List.Forall₂ Objection.Reworded os os' := by
  refine gather_forall₂ (asked_reworded hrules visible).forall₂
    (fun _ r _ r' hrelated b cs hcs => ?_) h
  obtain ⟨hname, hrule⟩ := hrelated
  obtain ⟨⟨w, found⟩, hfound, heq⟩ := Outcome.map_eq_ok_iff.mp hcs
  cases heq
  obtain ⟨found', hfound', hreworded⟩ := hrule.examine hfound
  refine ⟨found', ?_, hreworded⟩
  unfold examineRule
  rw [hname, hfound']
  rfl

end Contract

theorem Contract.breaches_ne_nil_of_examine {c : Contract} {answers : Members Value}
    {visible : Option (List String)} {os : List Objection}
    (hos : c.examine answers visible = .ok os) :
    ∀ o ∈ os, o.breaches ≠ [] := by
  intro o ho
  obtain ⟨r, -, hobjects⟩ := (mem_of_examine hos o).mp ho
  exact hobjects.breaches_ne_nil

/-- The paths of failures are those of the objections. -/
theorem Objection.mem_map_fieldId_iff {os : List Objection} (h : ∀ o ∈ os, o.breaches ≠ [])
    {path : String} :
    path ∈ (os.flatMap (·.failures)).map (·.fieldId) ↔ path ∈ os.map (·.position.text) := by
  rw [List.mem_map, List.mem_map]
  constructor
  · rintro ⟨f, hf, rfl⟩
    obtain ⟨o, ho, hf⟩ := List.mem_flatMap.mp hf
    exact ⟨o, ho, (fieldId_of_mem_failures hf).symm⟩
  · rintro ⟨o, ho, rfl⟩
    obtain ⟨f, hf⟩ := exists_failure (h o ho)
    exact ⟨f, List.mem_flatMap.mpr ⟨o, ho, hf⟩, fieldId_of_mem_failures hf⟩

/-- Objections in other words are in the same positions. -/
theorem Objection.map_position_of_reworded {os os' : List Objection}
    (h : List.Forall₂ Objection.Reworded os os') : os'.map (·.position) = os.map (·.position) := by
  induction h with
  | nil => rfl
  | cons ho _ ih => rw [List.map_cons, List.map_cons, ho.same, ih]

namespace Schema

section Reworded

variable {s s' : Schema} {c c' : Contract} (h : s.Reworded s') (hc : s.compile = .ok c)
include h hc

/-- A form with messages can be compiled as without them, and its rules have the messages, too. -/
theorem Reworded.compile :
    ∃ c', s'.compile = .ok c' ∧ Members.Related Rule.Reworded c.rules c'.rules := by
  obtain ⟨fields, hfields, rfl⟩ := h
  obtain ⟨⟨rules, issues⟩, hrules, hc⟩ := Outcome.bind_eq_ok_iff.mp hc
  obtain rfl := Outcome.pure_eq_ok_iff.mp hc
  obtain ⟨rules', issues', hrules', hrelated⟩ := Field.compileList_reworded hfields
    (fun f _ g hfg rule issues hf => hfg.compile hf) hrules
  refine ⟨⟨Members.ofPairs rules', issues' ++ conditionIssues { s with fields := fields }⟩, ?_,
    hrelated.ofPairs⟩
  unfold Schema.compile
  show (Field.compileList fields >>= _) = _
  rw [hrules']
  rfl

theorem sameButWording_of_reworded (hc' : s'.compile = .ok c') {answers : Members Value}
    {visible : Option (List String)} {os os' : List Objection}
    (hos : c.examine answers visible = .ok os)
    (hos' : c'.examine answers visible = .ok os') {o o' : Objection} (ho : o ∈ os) (ho' : o' ∈ os')
    (hreworded : o.Reworded o') : o.SameButWording s s' o' := by
  obtain ⟨f, hf, hhead, -⟩ := at_of_mem_examine hc hos ho
  obtain ⟨g, hg, hhead', -⟩ := at_of_mem_examine hc' hos' ho'
  obtain ⟨g', hg', hfg⟩ := hf.reworded h
  have hposition : o'.position = o.position := by rw [hreworded.same]
  -- A position belongs to one field, so that the field of the second objection is the reworded one.
  obtain rfl := hg'.eq (hposition ▸ hg)
  have hfailures : o.failures = f.ruleHead.failures o.position.text o.breaches o.received := by
    rw [← hhead]
    rfl
  have hfailures' : o'.failures = g'.ruleHead.failures o.position.text o.breaches o.received := by
    rw [hreworded.same, ← hhead']
    rfl
  refine ⟨hposition, f, g', hf, hg, hfg, ?_⟩
  rw [hfailures, hfailures']
  exact hfg.ruleHead.failures o.position.text
    (Contract.breaches_ne_nil_of_examine hos o ho) o.received

/-- A form with messages has the same reports as without them, in other words: each position
that is objected to has the same failures, or the first of them with the message that its
field was given. -/
theorem validate_reworded (answers : Members Value) (visible : Option (List String)) :
    ∃ c' report report' os os', s'.compile = .ok c' ∧
      c.validate answers visible = .ok report ∧ c'.validate answers visible = .ok report' ∧
      report.SameButWording report' ∧
      c.examine answers visible = .ok os ∧ c'.examine answers visible = .ok os' ∧
      report.failures = os.flatMap (·.failures) ∧ report'.failures = os'.flatMap (·.failures) ∧
      (os.map (·.position)).Nodup ∧ List.Forall₂ (Objection.SameButWording s s') os os' := by
  obtain ⟨c', hc', hrules⟩ := h.compile hc
  obtain ⟨report, hreport⟩ := validate_of_compile hc answers visible
  obtain ⟨found, hfound, rfl⟩ := Contract.validate_eq_ok_iff.mp hreport
  rw [Contract.applyRules_eq_gather_examineRule] at hfound
  obtain ⟨⟨data, os⟩, hgather, rfl⟩ := Outcome.map_eq_ok_iff.mp hfound
  obtain ⟨os', hgather', hreworded⟩ := Contract.gather_reworded hrules hgather
  have hos : c.examine answers visible = .ok os := Outcome.map_eq_ok_iff.mpr ⟨_, hgather, rfl⟩
  have hos' : c'.examine answers visible = .ok os' := Outcome.map_eq_ok_iff.mpr ⟨_, hgather', rfl⟩
  have hsame : List.Forall₂ (Objection.SameButWording s s') os os' := by
    obtain ⟨hlength, hall⟩ := List.forall₂_iff_zip.mp hreworded
    refine List.forall₂_iff_zip.mpr ⟨hlength, fun hmem => ?_⟩
    obtain ⟨ho, ho'⟩ := List.of_mem_zip hmem
    exact sameButWording_of_reworded h hc hc' hos hos' ho ho' (hall hmem)
  have hpaths (path : String) : path ∈ (os'.flatMap (·.failures)).map (·.fieldId) ↔
      path ∈ (os.flatMap (·.failures)).map (·.fieldId) := by
    have htexts : os'.map (·.position.text) = os.map (·.position.text) := by
      have hpositions :=
        congrArg (List.map Position.text) (Objection.map_position_of_reworded hreworded)
      rwa [List.map_map, List.map_map] at hpositions
    rw [Objection.mem_map_fieldId_iff (Contract.breaches_ne_nil_of_examine hos'),
      Objection.mem_map_fieldId_iff (Contract.breaches_ne_nil_of_examine hos), htexts]
  -- There are failures iff there are paths of failures, and these are the same.
  have hvalid := isEmpty_eq_of_mem_map hpaths
  let found' : Contract.Findings :=
    ⟨data, os'.flatMap (·.failures), Contract.warnings (c'.asked visible)⟩
  have hfound' : Contract.applyRules answers (c'.asked visible) = .ok found' := by
    rw [Contract.applyRules_eq_gather_examineRule, hgather']
    rfl
  have hreport' := Contract.validate_eq_ok_iff.mpr ⟨found', hfound', rfl⟩
  refine ⟨c', _, _, os, os', hc', hreport, hreport', ⟨hvalid, ?_, ?_, hpaths⟩, hos, hos', rfl, rfl,
    nodup_positions hc hos, hsame⟩
  · show (if List.isEmpty _ then some data else none) = if List.isEmpty _ then some data else none
    rw [hvalid]
  · exact Contract.warnings_reworded (Contract.asked_reworded hrules visible)

end Reworded

/-- A number that is a T and two more characters, perhaps with a message for a wrong one. -/
def ticketField (message : Option String) : Field :=
  ⟨"number", .text, "Number", true, none, none, none, some { Constraints.unconstrained with
    minLength := some 3, pattern := some "T..", customMessage := message }, none, none⟩

/-- A section of tickets, each with a number. -/
def ticketsField (message : Option String) : Field :=
  ⟨"tickets", .repeatable, "Tickets", true, none, none, none, none, none,
    some [ticketField message]⟩

/-- A form of a section of tickets. -/
def ticketsForm (message : Option String) : Schema :=
  ⟨"Tickets", "", [ticketsField message], ⟨true, true, ""⟩⟩

/-- A number that is wrong in two ways has two failures, or one with the message; an entry that is
no object has its own. -/
theorem validate_reworded_tickets :
    let answers : Members Value := [("tickets", .list [.dict [("number", .str "x")], .int 5])]
    let message := "T and two characters, please"
    ∃ c c' report report' os os', (ticketsForm none).compile = .ok c ∧
      (ticketsForm (some message)).compile = .ok c' ∧
      c.validate answers none = .ok report ∧ c'.validate answers none = .ok report' ∧
      report.failures.map (fun f => (f.fieldId, f.message)) =
        [("tickets.0.number", "Must be at least 3 characters"),
          ("tickets.0.number", "Invalid format"),
          ("tickets.1", "Invalid entry")] ∧
      report'.failures.map (fun f => (f.fieldId, f.message)) =
        [("tickets.0.number", message), ("tickets.1", "Invalid entry")] ∧
      report.SameButWording report' ∧
      List.Forall₂
        (Objection.SameButWording (ticketsForm none) (ticketsForm (some message))) os os' := by
  intro answers message
  obtain ⟨c, c', report, report', hc, hc', hreport, hreport', hfailures, hfailures'⟩ :
      ∃ c c' report report', (ticketsForm none).compile = .ok c ∧
        (ticketsForm (some message)).compile = .ok c' ∧
        c.validate answers none = .ok report ∧ c'.validate answers none = .ok report' ∧
        report.failures.map (fun f => (f.fieldId, f.message)) =
          [("tickets.0.number", "Must be at least 3 characters"),
            ("tickets.0.number", "Invalid format"),
            ("tickets.1", "Invalid entry")] ∧
        report'.failures.map (fun f => (f.fieldId, f.message)) =
          [("tickets.0.number", message), ("tickets.1", "Invalid entry")] :=
    ⟨_, _, _, _, rfl, rfl, rfl, rfl, rfl, rfl⟩
  have hmessage : message ≠ "" := by simp [message]
  -- The message is given to the nested field, and the section keeps its own wording.
  have hticket : (ticketField none).Reworded (ticketField (some message)) :=
    @Field.Reworded.given (ticketField none) [] message rfl hmessage .nil
  have htickets : (ticketsField none).Reworded (ticketsField (some message)) :=
    @Field.Reworded.kept (ticketsField none) [ticketField (some message)] (.cons hticket .nil)
  have hreworded : (ticketsForm none).Reworded (ticketsForm (some message)) :=
    ⟨[ticketsField (some message)], .cons htickets .nil, rfl⟩
  obtain ⟨d, r, r', os, os', hd, hr, hr', hsame, -, -, -, -, -, hobjections⟩ :=
    validate_reworded hreworded hc answers none
  obtain rfl := Except.ok.inj (hc'.symm.trans hd)
  obtain rfl := Except.ok.inj (hreport.symm.trans hr)
  obtain rfl := Except.ok.inj (hreport'.symm.trans hr')
  exact ⟨c, c', report, report', os, os', hc, hc', hreport, hreport', hfailures, hfailures', hsame,
    hobjections⟩

end Schema
end Questionnaire
