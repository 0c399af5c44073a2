import Questionnaire.Proofs.Session.Submission
import Questionnaire.Proofs.Validation.Application

/-!
# Cleaned answers

An answer that a rule accepts is cleaned: numbers are read from texts, tuples become lists, what
counts as no answer takes the empty form of its field, and entries are reduced to their sub-fields.
A cleaned answer is accepted as it stands: `Rule.WellMade.apply_cleaned` says so of a rule, by
induction over its entries, and `validate_cleaned` of the contract of a form.
-/

namespace Questionnaire

theorem RuleHead.failures_eq_nil_iff {h : RuleHead} {path : String} {breaches : List Breach}
    {received : Value} : h.failures path breaches received = [] ↔ breaches = [] := by
  unfold failures
  dsimp only
  cases h.customMessage with
  | none => cases breaches <;> simp
  | some message =>
    cases breaches with
    | nil => simp
    | cons b bs =>
      dsimp only
      split <;> simp

namespace Rule

theorem judged_eq_iff {rule : Rule} {path : String} {v cleaned w : Value} {breaches : List Breach} :
    rule.judged path v cleaned breaches = (w, []) ↔ cleaned = w ∧ breaches = [] := by
  unfold judged
  rw [Prod.mk.injEq, RuleHead.failures_eq_nil_iff]

/-! ### No answer -/

theorem isUnanswered_cleanedEmpty {rule : Rule} {v : Value} (h : v.isUnanswered = true) :
    (rule.cleanedEmpty v).isUnanswered = true := by
  unfold cleanedEmpty
  split <;> simp_all [Value.isUnanswered]

theorem cleanedEmpty_cleanedEmpty (rule : Rule) (v : Value) :
    rule.cleanedEmpty (rule.cleanedEmpty v) = rule.cleanedEmpty v := by
  cases rule with
  | _ => cases v with
    | _ => rfl

/-- What no answer amounts to counts as none, and amounts to itself. -/
theorem applyEmpty_cleaned {rule : Rule} {path : String} {v w : Value}
    (hv : v.isUnanswered = true) (h : rule.applyEmpty path v = (w, [])) :
    w.isUnanswered = true ∧ rule.applyEmpty path w = (w, []) := by
  unfold applyEmpty at h ⊢
  by_cases hrequired : rule.head.required = true
  · rw [if_pos hrequired, Prod.mk.injEq, RuleHead.failures_eq_nil_iff] at h
    exact absurd h.2 (List.cons_ne_nil _ _)
  · rw [if_neg hrequired] at h ⊢
    obtain ⟨rfl, _⟩ := Prod.mk.inj h
    rw [cleanedEmpty_cleanedEmpty]
    exact ⟨isUnanswered_cleanedEmpty hv, rfl⟩

/-! ### Answers without entries -/

/-- A number that an answer is or writes is finite, and is itself such an answer. -/
theorem answerNumber?_toValue {coerce : Bool} {v : Value} {n : Number}
    (h : answerNumber? coerce v = some n) : answerNumber? coerce n.toValue = some n := by
  obtain ⟨_, hfinite⟩ := Option.filter_eq_some_iff.mp h
  unfold answerNumber?
  cases n with
  | int n => rfl
  | float x => exact Option.filter_eq_some_iff.mpr ⟨rfl, hfinite⟩

theorem isUnanswered_toValue (n : Number) : n.toValue.isUnanswered = false := by
  cases n with
  | int n => rfl
  | float x => rfl

theorem textList?_eq_some {v : Value} {vs : List Value} (h : textList? v = some vs) :
    (v = .list vs ∨ v = .tuple vs) ∧ textList? (.list vs) = some vs := by
  unfold textList? at h ⊢
  split at h
  · next ws =>
    split at h
    · next hall =>
      obtain rfl := Option.some.inj h
      exact ⟨Or.inl rfl, if_pos hall⟩
    · cases h
  · next ws =>
    split at h
    · next hall =>
      obtain rfl := Option.some.inj h
      exact ⟨Or.inr rfl, if_pos hall⟩
    · cases h
  · cases h

/-- An answer that a rule without entries cleans is an answer, and is accepted as it stands. -/
theorem applyPlain_cleaned {rule : Rule} {path : String} {v w : Value}
    (hv : v.isUnanswered = false) (h : rule.applyPlain path v = .ok (w, [])) :
    w.isUnanswered = false ∧ rule.applyPlain path w = .ok (w, []) := by
  -- A cleaned answer is the given one, or the number or the list read from it, which is read again.
  cases rule with
  | string head minLength maxLength pattern email =>
    obtain ⟨breaches, hbreaches, hjudged⟩ := Outcome.bind_eq_ok_iff.mp h
    obtain ⟨rfl, _⟩ := judged_eq_iff.mp (Outcome.pure_eq_ok_iff.mp hjudged)
    exact ⟨hv, h⟩
  | number head coerce minimum maximum =>
    rw [applyPlain, Except.ok.injEq] at h
    split at h
    · exact absurd (judged_eq_iff.mp h).2 (List.cons_ne_nil _ _)
    · next n hn =>
      obtain ⟨rfl, hbounds⟩ := judged_eq_iff.mp h
      rw [applyPlain, answerNumber?_toValue hn]
      exact ⟨isUnanswered_toValue n, congrArg Except.ok (judged_eq_iff.mpr ⟨rfl, hbounds⟩)⟩
  | choiceList head minItems maxItems =>
    rw [applyPlain, Except.ok.injEq] at h
    split at h
    · exact absurd (judged_eq_iff.mp h).2 (List.cons_ne_nil _ _)
    · next vs hvs =>
      obtain ⟨rfl, hbounds⟩ := judged_eq_iff.mp h
      obtain ⟨hlist, htexts⟩ := textList?_eq_some hvs
      rw [applyPlain, htexts]
      refine ⟨?_, congrArg Except.ok (judged_eq_iff.mpr ⟨rfl, hbounds⟩)⟩
      rcases hlist with rfl | rfl
      · exact hv
      · exact hv
  | date head =>
    obtain ⟨rfl, _⟩ := judged_eq_iff.mp (Except.ok.inj h)
    exact ⟨hv, h⟩
  | matrix head =>
    obtain ⟨rfl, _⟩ := judged_eq_iff.mp (Except.ok.inj h)
    exact ⟨hv, h⟩
  | _ =>
    obtain ⟨rfl, _⟩ := Prod.mk.inj (Except.ok.inj h)
    exact ⟨hv, h⟩

/-! ### Entries -/

/-- The first of accepted entries is an object, which the function cleans without failures. -/
theorem applyEntries_cons_eq_ok {f : String → Members Value → Outcome (Members Value × List Failure)}
    {h : RuleHead} {path : String} {n : Nat} {v : Value} {vs ws : List Value}
    (hws : applyEntries h path f n (v :: vs) = .ok (ws, [])) :
    ∃ ms cleaned rest, v = .dict ms ∧ ws = .dict cleaned :: rest ∧
      f s!"{path}.{n}" ms = .ok (cleaned, []) ∧ applyEntries h path f (n + 1) vs = .ok (rest, []) := by
  -- Whatever is no mapping is refused as an entry, so the list would not have been cleaned.
  by_cases hv : ∃ ms, v = .dict ms
  · obtain ⟨ms, rfl⟩ := hv
    rw [applyEntries_dict] at hws
    obtain ⟨⟨entry, failures⟩, hentry, hws⟩ := Outcome.bind_eq_ok_iff.mp hws
    obtain ⟨⟨rest, others⟩, hrest, hws⟩ := Outcome.bind_eq_ok_iff.mp hws
    obtain ⟨rfl, hnone⟩ := Prod.mk.inj (Outcome.pure_eq_ok_iff.mp hws)
    obtain ⟨rfl, rfl⟩ := List.append_eq_nil_iff.mp hnone
    exact ⟨ms, entry, rest, rfl, rfl, hentry, hrest⟩
  · rw [applyEntries_other _ _ _ _ (not_exists.mp hv)] at hws
    obtain ⟨⟨rest, others⟩, _, hws⟩ := Outcome.bind_eq_ok_iff.mp hws
    obtain ⟨_, hnone⟩ := Prod.mk.inj (Outcome.pure_eq_ok_iff.mp hws)
    have hbreach := RuleHead.failures_eq_nil_iff.mp (List.append_eq_nil_iff.mp hnone).1
    exact absurd hbreach (List.cons_ne_nil _ _)

theorem applyEntries_cleaned {f : String → Members Value → Outcome (Members Value × List Failure)}
    (hf : ∀ path ms cleaned, f path ms = .ok (cleaned, []) → f path cleaned = .ok (cleaned, []))
    {h : RuleHead} {path : String} {n : Nat} {vs ws : List Value}
    (hws : applyEntries h path f n vs = .ok (ws, [])) :
    ws.length = vs.length ∧ applyEntries h path f n ws = .ok (ws, []) := by
  induction vs generalizing n ws with
  | nil =>
    cases hws
    exact ⟨rfl, rfl⟩
  | cons v vs ih =>
    obtain ⟨ms, cleaned, rest, rfl, rfl, hentry, hrest⟩ := applyEntries_cons_eq_ok hws
    obtain ⟨hlength, hagain⟩ := ih hrest
    refine ⟨congrArg (· + 1) hlength, ?_⟩
    rw [applyEntries_dict, hf _ _ _ hentry, hagain]
    rfl

/-- In an accepted entry the first rule accepts what it finds under its name. -/
theorem applyNamed_cons_eq_ok {path : String} {e : String × Rule} {rules : List (String × Rule)}
    {ms cleaned : Members Value} (h : applyNamed path (e :: rules) ms = .ok (cleaned, [])) :
    ∃ w rest, cleaned = (e.1, w) :: rest ∧
      e.2.apply s!"{path}.{e.1}" ((ms.get? e.1).getD .missing) = .ok (w, []) ∧
      applyNamed path rules ms = .ok (rest, []) := by
  obtain ⟨⟨w, failures⟩, hw, h⟩ := Outcome.bind_eq_ok_iff.mp h
  obtain ⟨⟨rest, others⟩, hrest, h⟩ := Outcome.bind_eq_ok_iff.mp h
  obtain ⟨rfl, hnone⟩ := Prod.mk.inj (Outcome.pure_eq_ok_iff.mp h)
  obtain ⟨rfl, rfl⟩ := List.append_eq_nil_iff.mp hnone
  exact ⟨w, rest, rfl, hw, hrest⟩

theorem names_of_applyNamed {path : String} {rules : List (String × Rule)} {ms cleaned : Members Value}
    {failures : List Failure} (h : applyNamed path rules ms = .ok (cleaned, failures)) :
    cleaned.names = Members.names rules := by
  induction rules generalizing cleaned failures with
  | nil =>
    cases h
    rfl
  | cons e rules ih =>
    obtain ⟨⟨_, _⟩, _, h⟩ := Outcome.bind_eq_ok_iff.mp h
    obtain ⟨⟨rest, others⟩, hrest, h⟩ := Outcome.bind_eq_ok_iff.mp h
    obtain ⟨rfl, _⟩ := Prod.mk.inj (Outcome.pure_eq_ok_iff.mp h)
    rw [Members.names_cons, Members.names_cons, ih hrest]

/-- Rules that accept what they have cleaned do so also when they find it among other members. -/
theorem applyNamed_cleaned {path : String} {rules : List (String × Rule)}
    (hrules : ∀ e ∈ rules, ∀ path v w, e.2.apply path v = .ok (w, []) →
      e.2.apply path w = .ok (w, []))
    {ms cleaned : Members Value} (h : applyNamed path rules ms = .ok (cleaned, []))
    {answers : Members Value} (hanswers : ∀ m ∈ cleaned, answers.get? m.1 = some m.2) :
    applyNamed path rules answers = .ok (cleaned, []) := by
  induction rules generalizing cleaned with
  | nil =>
    cases h
    rfl
  | cons e rules ih =>
    -- By induction on the rules: each finds the value it has cleaned under its own name.
    obtain ⟨value, rest, rfl, hvalue, hrest⟩ := applyNamed_cons_eq_ok h
    obtain ⟨hvalue', hrest'⟩ := List.forall_mem_cons.mp hanswers
    have hagain := hrules e List.mem_cons_self _ _ _ hvalue
    have ih := ih (fun e he => hrules e (List.mem_cons_of_mem _ he)) hrest hrest'
    dsimp only at hvalue'
    rw [applyNamed, hvalue', Option.getD_some, hagain, ih]
    rfl

/-- A rule without entries accepts every answer that it has cleaned. -/
theorem apply_cleaned_of_kind {rule : Rule} (hsection : rule.kind ≠ "repeatable")
    (hmisconfigured : rule.kind ≠ "misconfigured") {path : String} {v w : Value}
    (hw : rule.apply path v = .ok (w, [])) : rule.apply path w = .ok (w, []) := by
  rw [apply_eq hsection hmisconfigured] at hw ⊢
  cases hv : v.isUnanswered with
  | true =>
    rw [hv, if_pos rfl] at hw
    obtain ⟨hempty, hagain⟩ := applyEmpty_cleaned hv (Except.ok.inj hw)
    rw [hempty, if_pos rfl, hagain]
  | false =>
    rw [hv, if_neg Bool.false_ne_true] at hw
    obtain ⟨hanswer, hagain⟩ := applyPlain_cleaned hv hw
    rw [hanswer, if_neg Bool.false_ne_true, hagain]

theorem isUnanswered_of_entryList? {v : Value} {vs : List Value} (h : entryList? v = some vs) :
    v.isUnanswered = vs.isEmpty := by
  cases v with
  | list us =>
    cases h
    rfl
  | tuple us =>
    cases h
    rfl
  | _ => cases h

/-- There are two ways for the rule of a section to accept an answer: it counts as none, or it has
entries, each of which is accepted. -/
theorem entries_of_apply {h : RuleHead} {entries : List (String × Rule)} {path : String} {v w : Value}
    (hw : (Rule.repeatable h entries).apply path v = .ok (w, [])) :
    let place := (Rule.repeatable h entries).place path
    (v.isUnanswered = true ∧ (Rule.repeatable h entries).applyEmpty place v = (w, [])) ∨
      ∃ vs ws, entryList? v = some vs ∧ vs ≠ [] ∧ w = .list ws ∧
        applyEntries h place (fun entryPath ms => applyNamed entryPath entries ms) 0 vs =
          .ok (ws, []) := by
  -- A section is unanswered, no list of entries, or a list with some.
  intro place
  rw [apply_repeatable] at hw
  cases hv : v.isUnanswered with
  | true =>
    rw [hv, if_pos rfl] at hw
    exact .inl ⟨rfl, Except.ok.inj hw⟩
  | false =>
    rw [hv, if_neg Bool.false_ne_true] at hw
    cases hitems : entryList? v with
    | none =>
      rw [hitems] at hw
      obtain ⟨_, hnone⟩ := Prod.mk.inj (Except.ok.inj hw)
      exact absurd (RuleHead.failures_eq_nil_iff.mp hnone) (List.cons_ne_nil _ _)
    | some vs =>
      rw [hitems] at hw
      obtain ⟨⟨ws, _⟩, hws, hw⟩ := Outcome.map_eq_ok_iff.mp hw
      obtain ⟨rfl, rfl⟩ := Prod.mk.inj hw
      refine .inr ⟨vs, ws, rfl, List.isEmpty_eq_false_iff.mp ?_, rfl, hws⟩
      rw [← isUnanswered_of_entryList? hitems, hv]

/-- The rule of a section accepts every answer that it has cleaned, if its entries do so. -/
theorem apply_cleaned_of_entries {h : RuleHead} {entries : List (String × Rule)}
    (hentry : ∀ path ms cleaned, applyNamed path entries ms = .ok (cleaned, []) →
      applyNamed path entries cleaned = .ok (cleaned, []))
    {path : String} {v w : Value} (hw : (Rule.repeatable h entries).apply path v = .ok (w, [])) :
    (Rule.repeatable h entries).apply path w = .ok (w, []) := by
  rw [apply_repeatable]
  -- The cleaned value is empty where the answer was, and has as many entries where it was not.
  rcases entries_of_apply hw with ⟨hv, hw⟩ | ⟨vs, ws, _, hnonempty, rfl, hws⟩
  · obtain ⟨hempty, hagain⟩ := applyEmpty_cleaned hv hw
    rw [hempty, if_pos rfl, hagain]
  · obtain ⟨hlength, hagain⟩ := applyEntries_cleaned hentry hws
    have hanswer : (Value.list ws).isUnanswered = false := by
      have hws : ws ≠ [] := by
        intro hnil
        rw [hnil] at hlength
        exact hnonempty (List.length_eq_zero_iff.mp hlength.symm)
      exact List.isEmpty_eq_false_iff.mpr hws
    rw [hanswer, if_neg Bool.false_ne_true]
    show (applyEntries _ _ _ 0 ws).map _ = _
    rw [hagain]
    rfl

/-- A well-made rule accepts every answer that it has cleaned, and leaves it as it is. -/
theorem WellMade.apply_cleaned {rule : Rule} (h : rule.WellMade) (path : String) (v w : Value)
    (hw : rule.apply path v = .ok (w, [])) : rule.apply path w = .ok (w, []) := by
  induction h generalizing path v w with
  | string => exact apply_cleaned_of_kind (by simp [kind]) (by simp [kind]) hw
  | @repeatable h entries nodup _ ih =>
    refine apply_cleaned_of_entries (fun path ms cleaned hcleaned => ?_) hw
    have hnodup : cleaned.names.Nodup := names_of_applyNamed hcleaned ▸ nodup
    exact applyNamed_cleaned ih hcleaned fun m hm => (Members.get?_eq_some_iff_mem hnodup).mpr hm
  | @other rule _ not_section =>
    by_cases hmisconfigured : rule.kind = "misconfigured"
    · cases rule with
      | misconfigured =>
        obtain ⟨rfl, _⟩ := Prod.mk.inj (Except.ok.inj hw)
        cases v with
        | _ => rfl
      | _ => simp [kind] at hmisconfigured
    · exact apply_cleaned_of_kind not_section hmisconfigured hw

end Rule

/-! ### Reports -/

namespace Contract

/-- Of accepted answers the first rule accepts the one that it finds under its name. -/
theorem applyRules_cons_eq_ok {answers : Members Value} {r : String × Rule}
    {rules : List (String × Rule)} {found : Findings} (h : applyRules answers (r :: rules) = .ok found)
    (hnone : found.failures = []) :
    ∃ w rest, found = ⟨(r.1, w) :: rest.data, rest.failures,
        (warning? r.1 r.2).toList ++ rest.warnings⟩ ∧
      r.2.apply "" ((answers.get? r.1).getD .missing) = .ok (w, []) ∧
      applyRules answers rules = .ok rest ∧ rest.failures = [] := by
  obtain ⟨⟨w, failures⟩, hw, h⟩ := Outcome.bind_eq_ok_iff.mp h
  obtain ⟨rest, hrest, h⟩ := Outcome.bind_eq_ok_iff.mp h
  obtain rfl := Outcome.pure_eq_ok_iff.mp h
  obtain ⟨rfl, hrestnone⟩ := List.append_eq_nil_iff.mp hnone
  exact ⟨w, rest, rfl, hw, hrest, hrestnone⟩

/-- Rules without failures find the answers that they have cleaned as they are. -/
theorem applyRules_cleaned {rules : List (String × Rule)} (hrules : ∀ r ∈ rules, r.2.WellMade)
    {answers : Members Value} {found : Findings} (h : applyRules answers rules = .ok found)
    (hnone : found.failures = []) {others : Members Value}
    (hothers : ∀ m ∈ found.data, others.get? m.1 = some m.2) :
    applyRules others rules = .ok found := by
  induction rules generalizing found with
  | nil =>
    cases h
    rfl
  | cons r rules ih =>
    obtain ⟨cleaned, rest, rfl, hcleaned, hrest, hrestnone⟩ := applyRules_cons_eq_ok h hnone
    obtain ⟨hfirst, hothers⟩ := List.forall_mem_cons.mp hothers
    have hagain := (hrules r List.mem_cons_self).apply_cleaned _ _ _ hcleaned
    have ih := ih (fun r hr => hrules r (List.mem_cons_of_mem _ hr)) hrest hrestnone hothers
    dsimp only at hfirst
    rw [applyRules, hfirst, Option.getD_some, hagain, ih]
    rfl

end Contract

/-- A report that finds answers valid is also the report on the answers as they were cleaned. -/
theorem Schema.validate_cleaned {s : Schema} {c : Contract} (hc : s.compile = .ok c)
    {answers : Members Value} {visible : Option (List String)} {report : Report}
    (h : c.validate answers visible = .ok report) (hvalid : report.isValid = true) :
    ∃ cleaned, report.data = some cleaned ∧ c.validate cleaned visible = .ok report := by
  obtain ⟨found, hfound, h⟩ := Outcome.bind_eq_ok_iff.mp h
  obtain rfl := Outcome.pure_eq_ok_iff.mp h
  refine ⟨found.data, if_pos hvalid, ?_⟩
  have hnodup : found.data.names.Nodup := by
    rw [Contract.names_data_of_applyRules hfound]
    exact (nodup_names_of_compile hc).sublist (List.filter_sublist.map _)
  have hagain := Contract.applyRules_cleaned
    (fun r hr => wellMade_of_compile hc (List.mem_of_mem_filter hr)) hfound
    (List.isEmpty_iff.mp hvalid) fun m hm => (Members.get?_eq_some_iff_mem hnodup).mpr hm
  rw [Contract.validate, hagain]
  rfl

/-- A form of an age, and a section of pets by name and age. -/
def petForm : Schema where
  title := "Pets"
  description := ""
  fields := [⟨"age", .number, "Age", true, none, none, none, none, none, none⟩,
    ⟨"pets", .repeatable, "Pets", false, none, none, none, none, none,
      some [⟨"name", .text, "Name", true, none, none, none, none, none, none⟩,
        ⟨"toys", .multiSelect, "Toys", false, none, none, none, none, none, none⟩]⟩]
  settings := ⟨true, true, ""⟩

/-- An age is read from a text, an entry loses what is no sub-field, and toys that nobody spoke of
become an empty list; all this is accepted as it stands. -/
theorem validate_cleaned_pets :
    let answers : Members Value :=
      [("age", .str " 42 "), ("pets", .tuple [.dict [("name", .str "Rex"), ("id", .null)]])]
    let cleaned : Members Value :=
      [("age", .int 42), ("pets", .list [.dict [("name", .str "Rex"), ("toys", .list [])]])]
    ∃ c report, petForm.compile = .ok c ∧ c.validate answers none = .ok report ∧
      report.isValid = true ∧ report.data = some cleaned ∧ c.validate cleaned none = .ok report := by
  intro answers cleaned
  obtain ⟨c, report, hc, hreport, hvalid, hdata⟩ : ∃ c report, petForm.compile = .ok c ∧
      c.validate answers none = .ok report ∧ report.isValid = true ∧
      report.data = some cleaned := ⟨_, _, rfl, rfl, rfl, rfl⟩
  obtain ⟨_, hcleaned, hagain⟩ := Schema.validate_cleaned hc hreport hvalid
  obtain rfl := Option.some.inj (hdata.symm.trans hcleaned)
  exact ⟨c, report, hc, hreport, hvalid, hdata, hagain⟩

end Questionnaire
