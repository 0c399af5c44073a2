import Questionnaire.Proofs.Members
import Questionnaire.Proofs.Validation.Compilation

/-!
# Rules that can be applied

A rule can be read from data, and then it may have a pattern that cannot be read, or two entries of
one id.  The rules that are made from fields have neither, at any depth (`Rule.WellMade`,
`Schema.wellMade_of_compile`).  Such a rule applies to every answer (`Rule.WellMade.apply`), so a
contract that is made from a form has a report on all answers (`Schema.validate_of_compile`).
-/

namespace Questionnaire

/-! ### Rules that are made from fields -/

namespace Rule

/-- The pattern of the rule can be read, and the ids of its entries are distinct, at any depth. -/
inductive WellMade : Rule → Prop
  | string {h : RuleHead} {minLength maxLength : Option Int} {pattern : Option String} {email : Bool}
      (readable : ∀ p, pattern = some p → ∃ program, Pattern.read p = .ok program) :
      WellMade (.string h minLength maxLength pattern email)
  | repeatable {h : RuleHead} {entries : List (String × Rule)}
      (nodup : (Members.names entries).Nodup) (all : ∀ e ∈ entries, WellMade e.2) :
      WellMade (.repeatable h entries)
  | other {rule : Rule} (not_string : rule.kind ≠ "string") (not_section : rule.kind ≠ "repeatable") :
      WellMade rule

end Rule

namespace Field

/-- A rule compiled for a text is well made: its pattern can be read. -/
theorem wellMade_of_textRule {id : String} {head : RuleHead} {c : Constraints} {rule : Rule}
    {issues : List Issue} (h : textRule id head c = .ok (rule, issues)) : rule.WellMade := by
  unfold textRule at h
  dsimp only at h
  split at h
  · next hnone =>
    cases h
    rw [hnone]
    exact .string nofun
  · next p hsome =>
    split at h
    · next program hread =>
      cases h
      rw [hsome]
      refine .string fun q hq => ⟨program, ?_⟩
      rw [← Option.some.inj hq, hread]
    · next fault _ =>
      by_cases hdefect : fault.isDefect = true
      · rw [if_pos hdefect] at h
        cases h
        exact .other (by simp [Rule.kind]) (by simp [Rule.kind])
      · rw [if_neg hdefect] at h
        cases h

/-- A rule compiled for a field without sub-fields is well made. -/
theorem wellMade_of_plainRule {id : String} {type : FieldType} {head : RuleHead} {c : Constraints}
    {rule : Rule} {issues : List Issue} (h : plainRule id type head c = .ok (rule, issues)) :
    rule.WellMade := by
  cases type with
  | text => exact wellMade_of_textRule h
  | textarea => exact wellMade_of_textRule h
  | email =>
    cases h
    exact .string nofun
  | select =>
    cases h
    exact .string nofun
  | radio =>
    cases h
    exact .string nofun
  | repeatable =>
    cases h
    exact .repeatable List.nodup_nil nofun
  | _ =>
    cases h
    exact .other (by simp [Rule.kind]) (by simp [Rule.kind])

/-- Each rule in a compiled list is the rule of a field in the list. -/
theorem compile_of_mem_compileList {fields : List Field} {rules : List (String × Rule)}
    {issues : List Issue} (h : compileList fields = .ok (rules, issues)) {e : String × Rule}
    (he : e ∈ rules) : ∃ f ∈ fields, ∃ found, f.compile = .ok (e.2, found) := by
  induction fields generalizing rules issues with
  | nil =>
    rw [compileList] at h
    cases h
    exact absurd he List.not_mem_nil
  | cons f fields ih =>
    rw [compileList] at h
    obtain ⟨⟨rule, found⟩, hrule, h⟩ := Outcome.bind_eq_ok_iff.mp h
    obtain ⟨⟨rest, others⟩, hrest, h⟩ := Outcome.bind_eq_ok_iff.mp h
    obtain ⟨rfl, rfl⟩ := Prod.mk.inj (Outcome.pure_eq_ok_iff.mp h)
    rcases List.mem_cons.mp he with rfl | he
    · exact ⟨f, List.mem_cons_self, found, hrule⟩
    · obtain ⟨g, hg, hcompile⟩ := ih hrest he
      exact ⟨g, List.mem_cons_of_mem _ hg, hcompile⟩

theorem compileOpt_eq (fields : Option (List Field)) :
    compileOpt fields = compileList (fields.getD []) := by
  cases fields with
  | none => rfl
  | some fields => rfl

theorem wellMade_of_compile (f : Field) {rule : Rule} {issues : List Issue}
    (h : f.compile = .ok (rule, issues)) : rule.WellMade := by
  induction f using childrenInduction generalizing rule issues with
  | step f ih =>
    obtain ⟨id, type, _, required, _, _, _, constraints, _, subFields⟩ := f
    rw [compile] at h
    dsimp only at h
    by_cases htype : type = .repeatable
    · rw [if_pos htype, compileOpt_eq] at h
      obtain ⟨⟨entries, found⟩, hentries, h⟩ := Outcome.bind_eq_ok_iff.mp h
      obtain ⟨rfl, rfl⟩ := Prod.mk.inj (Outcome.pure_eq_ok_iff.mp h)
      refine .repeatable (Members.nodup_names_ofPairs entries) fun e he => ?_
      obtain ⟨g, hg, issues, hcompile⟩ :=
        compile_of_mem_compileList hentries (Members.mem_of_mem_ofPairs he)
      exact ih g hg hcompile
    · rw [if_neg htype] at h
      exact wellMade_of_plainRule h

end Field

/-- All rules in the contract of a form are well made. -/
theorem Schema.wellMade_of_compile {s : Schema} {c : Contract} (h : s.compile = .ok c)
    {r : String × Rule} (hr : r ∈ c.rules) : r.2.WellMade := by
  obtain ⟨⟨rules, issues⟩, hrules, h⟩ := Outcome.bind_eq_ok_iff.mp h
  obtain rfl := Outcome.pure_eq_ok_iff.mp h
  obtain ⟨f, _, found, hcompile⟩ :=
    Field.compile_of_mem_compileList hrules (Members.mem_of_mem_ofPairs hr)
  exact f.wellMade_of_compile hcompile

theorem Schema.nodup_names_of_compile {s : Schema} {c : Contract} (h : s.compile = .ok c) :
    c.rules.names.Nodup := by
  obtain ⟨⟨rules, issues⟩, _, h⟩ := Outcome.bind_eq_ok_iff.mp h
  obtain rfl := Outcome.pure_eq_ok_iff.mp h
  exact Members.nodup_names_ofPairs rules

/-! ### Applying them -/

theorem matchesPattern_of_read {p : String} {program : Pattern.Program}
    (h : Pattern.read p = .ok program) (text : String) :
    matchesPattern p text = .ok (program.matchesAll text) := by
  unfold matchesPattern
  rw [h]

theorem checkString_of_readable {pattern : Option String}
    (h : ∀ p, pattern = some p → ∃ program, Pattern.read p = .ok program)
    (minLength maxLength : Option Int) (email : Bool) (v : Value) :
    ∃ breaches, checkString minLength maxLength pattern email v = .ok breaches := by
  cases v with
  | str s =>
    cases pattern with
    | none => exact ⟨_, rfl⟩
    | some p =>
      obtain ⟨program, hread⟩ := h p rfl
      unfold checkString
      dsimp only
      rw [matchesPattern_of_read hread]
      exact ⟨_, rfl⟩
  | _ => exact ⟨_, rfl⟩

namespace Rule

/-- How a function is applied to an entry and those after it. -/
theorem applyEntries_dict (h : RuleHead) (path : String)
    (f : String → Members Value → Outcome (Members Value × List Failure)) (n : Nat)
    (ms : Members Value) (vs : List Value) :
    applyEntries h path f n (.dict ms :: vs) = (do
      let (cleaned, failures) ← f s!"{path}.{n}" ms
      let (rest, others) ← applyEntries h path f (n + 1) vs
      pure (.dict cleaned :: rest, failures ++ others)) := rfl

/-- What is no entry stays as it is, and is a failure. -/
theorem applyEntries_other (h : RuleHead) (path : String)
    (f : String → Members Value → Outcome (Members Value × List Failure)) (n : Nat) {v : Value}
    (hv : ∀ ms, v ≠ .dict ms) (vs : List Value) :
    applyEntries h path f n (v :: vs) = (do
      let (rest, others) ← applyEntries h path f (n + 1) vs
      pure (v :: rest, h.failures s!"{path}.{n}" [.kind "Invalid entry" "object"] v ++ others)) := by
  cases v with
  | dict ms => exact absurd rfl (hv ms)
  | _ => rfl

/-- Where no entry makes a function fail, it can be applied to all of them. -/
theorem applyEntries_of_total {f : String → Members Value → Outcome (Members Value × List Failure)}
    (hf : ∀ path ms, ∃ r, f path ms = .ok r) (h : RuleHead) (path : String) (n : Nat)
    (vs : List Value) : ∃ r, applyEntries h path f n vs = .ok r := by
  induction vs generalizing n with
  | nil => exact ⟨_, rfl⟩
  | cons v vs ih =>
    obtain ⟨⟨rest, others⟩, hrest⟩ := ih (n + 1)
    by_cases hv : ∃ ms, v = .dict ms
    · obtain ⟨ms, rfl⟩ := hv
      obtain ⟨⟨cleaned, failures⟩, hcleaned⟩ := hf s!"{path}.{n}" ms
      rw [applyEntries_dict, hcleaned, hrest]
      exact ⟨_, rfl⟩
    · rw [applyEntries_other _ _ _ _ (not_exists.mp hv), hrest]
      exact ⟨_, rfl⟩

theorem applyNamed_of_total {rules : List (String × Rule)}
    (h : ∀ e ∈ rules, ∀ path v, ∃ r, e.2.apply path v = .ok r) (path : String)
    (ms : Members Value) : ∃ r, applyNamed path rules ms = .ok r := by
  induction rules with
  | nil => exact ⟨_, rfl⟩
  | cons e rules ih =>
    obtain ⟨⟨cleaned, failures⟩, hcleaned⟩ :=
      h e List.mem_cons_self s!"{path}.{e.1}" ((ms.get? e.1).getD .missing)
    obtain ⟨⟨rest, others⟩, hrest⟩ := ih fun e he => h e (List.mem_cons_of_mem _ he)
    rw [applyNamed, hcleaned, hrest]
    exact ⟨_, rfl⟩

/-- The path that failures of a rule carry. -/
def place (rule : Rule) (path : String) : String := if path = "" then rule.head.fieldId else path

/-- How a rule without entries applies to an answer. -/
theorem apply_eq {rule : Rule} (hsection : rule.kind ≠ "repeatable")
    (hmisconfigured : rule.kind ≠ "misconfigured") (path : String) (v : Value) :
    rule.apply path v =
      if v.isUnanswered then .ok (rule.applyEmpty (rule.place path) v)
      else rule.applyPlain (rule.place path) v := by
  cases rule with
  | repeatable => exact absurd rfl hsection
  | misconfigured => exact absurd rfl hmisconfigured
  | _ => rfl

/-- The entries of an answer to a section. -/
def entryList? : Value → Option (List Value)
  | .list vs | .tuple vs => some vs
  | _ => none

/-- How the rule of a section applies to an answer. -/
theorem apply_repeatable (h : RuleHead) (entries : List (String × Rule)) (path : String)
    (v : Value) :
    let rule : Rule := .repeatable h entries
    rule.apply path v =
      if v.isUnanswered then .ok (rule.applyEmpty (rule.place path) v)
      else match entryList? v with
        | some vs => (applyEntries h (rule.place path)
            (fun entryPath ms => applyNamed entryPath entries ms) 0 vs).map fun r => (.list r.1, r.2)
        | none => .ok (v, h.failures (rule.place path)
            [.kind "Expected a list of entries" "list of entries"] v) := by
  cases v with
  | _ => rfl

theorem applyPlain_of_kind {rule : Rule} (h : rule.kind ≠ "string") (path : String) (v : Value) :
    ∃ r, rule.applyPlain path v = .ok r := by
  cases rule with
  | string => exact absurd rfl h
  | _ => exact ⟨_, rfl⟩

/-- A well-made rule applies to every answer. -/
theorem WellMade.apply {rule : Rule} (h : rule.WellMade) (path : String) (v : Value) :
    ∃ r, rule.apply path v = .ok r := by
  -- By induction on the rule. Only a pattern could fail while it is applied, and it was read when
  -- the rule was made.
  induction h generalizing path v with
  | @string h minLength maxLength pattern email readable =>
    obtain ⟨breaches, hbreaches⟩ := checkString_of_readable readable minLength maxLength email v
    rw [apply_eq (by simp [kind]) (by simp [kind])]
    split
    · exact ⟨_, rfl⟩
    · rw [applyPlain, hbreaches]
      exact ⟨_, rfl⟩
  | @repeatable h entries _ _ ih =>
    rw [apply_repeatable]
    split
    · exact ⟨_, rfl⟩
    · split
      · next vs _ =>
        obtain ⟨r, hr⟩ := applyEntries_of_total
          (fun entryPath ms => applyNamed_of_total ih entryPath ms) h
          ((Rule.repeatable h entries).place path) 0 vs
        rw [hr]
        exact ⟨_, rfl⟩
      · exact ⟨_, rfl⟩
  | @other rule not_string not_section =>
    by_cases hmisconfigured : rule.kind = "misconfigured"
    · cases rule with
      | misconfigured => exact ⟨_, rfl⟩
      | _ => simp [kind] at hmisconfigured
    · rw [apply_eq not_section hmisconfigured]
      split
      · exact ⟨_, rfl⟩
      · exact applyPlain_of_kind not_string _ v

end Rule

namespace Contract

theorem applyRules_of_wellMade {rules : List (String × Rule)} (h : ∀ r ∈ rules, r.2.WellMade)
    (answers : Members Value) : ∃ found, applyRules answers rules = .ok found := by
  induction rules with
  | nil => exact ⟨_, rfl⟩
  | cons r rules ih =>
    obtain ⟨⟨cleaned, failures⟩, hcleaned⟩ :=
      (h r List.mem_cons_self).apply "" ((answers.get? r.1).getD .missing)
    obtain ⟨found, hfound⟩ := ih fun r hr => h r (List.mem_cons_of_mem _ hr)
    rw [applyRules, hcleaned, hfound]
    exact ⟨_, rfl⟩

/-- Answers that rules do not ask for do not matter. -/
theorem applyRules_congr {rules : List (String × Rule)} {a b : Members Value}
    (h : ∀ r ∈ rules, a.get? r.1 = b.get? r.1) : applyRules a rules = applyRules b rules := by
  induction rules with
  | nil => rfl
  | cons r rules ih =>
    obtain ⟨hr, hrules⟩ := List.forall_mem_cons.mp h
    rw [applyRules, applyRules, hr, ih hrules]

end Contract

/-- The contract of a form has a report on all answers, whichever fields are visible. -/
theorem Schema.validate_of_compile {s : Schema} {c : Contract} (h : s.compile = .ok c)
    (answers : Members Value) (visible : Option (List String)) :
    ∃ report, c.validate answers visible = .ok report := by
  have hrules : ∀ r ∈ c.rules.filter (fun r => visible.all (·.contains r.1)), r.2.WellMade :=
    fun r hr => wellMade_of_compile h (List.mem_of_mem_filter hr)
  obtain ⟨found, hfound⟩ := Contract.applyRules_of_wellMade hrules answers
  rw [Contract.validate, hfound]
  exact ⟨_, rfl⟩

end Questionnaire
