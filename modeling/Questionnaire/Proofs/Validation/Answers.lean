import Questionnaire.Proofs.Validation.Cleaning
import Questionnaire.Proofs.Validation.Patterns
import Questionnaire.Proofs.Value.Json

/-!
# What is accepted, and from which field it comes

A value in a valid report is the cleaned form of an answer that the rule of a field accepts.  This goes
for the answers to top-level fields and, in the entries of a section, for the answers to its sub-fields
(`Field.Within`), at any depth: `Schema.accepts_of_validate` and `Field.Accepts.of_within`.  The rest
says of each kind of rule what the cleaned forms are, by the two ways to one: no answer takes the empty
form of its field, and any other one passes the checks of the rule.
-/

namespace Questionnaire

/-! ### Fields with one id -/

namespace Field

/-- Of all fields in a list that have its id, the last one. -/
def IsLastIn (k : Field) (ks : List Field) : Prop :=
  ∃ before after, ks = before ++ k :: after ∧ k.id ∉ after.map (·.id)

theorem IsLastIn.mem {k : Field} {ks : List Field} (h : k.IsLastIn ks) : k ∈ ks := by
  obtain ⟨before, after, rfl, -⟩ := h
  exact List.mem_append_right _ List.mem_cons_self

theorem isLastIn_cons_of_not_mem {k : Field} {ks : List Field} (h : k.id ∉ ks.map (·.id)) :
    k.IsLastIn (k :: ks) := ⟨[], ks, rfl, h⟩

theorem IsLastIn.cons {k : Field} {ks : List Field} (h : k.IsLastIn ks) (f : Field) :
    k.IsLastIn (f :: ks) := by
  obtain ⟨before, after, rfl, hlast⟩ := h
  exact ⟨f :: before, after, rfl, hlast⟩

/-- Where the ids are distinct, every field is the last one with its id. -/
theorem isLastIn_of_nodup {k : Field} {ks : List Field} (hn : (ks.map (·.id)).Nodup) (h : k ∈ ks) :
    k.IsLastIn ks := exists_last_of_nodup hn h

theorem exists_isLastIn {id : String} {ks : List Field} (h : id ∈ ks.map (·.id)) :
    ∃ k : Field, k.IsLastIn ks ∧ k.id = id := by
  induction ks with
  | nil => cases h
  | cons k ks ih =>
    by_cases hks : id ∈ ks.map (·.id)
    · obtain ⟨j, hj, hid⟩ := ih hks
      exact ⟨j, hj.cons k, hid⟩
    · have hid : k.id = id := ((List.mem_cons.mp h).resolve_right hks).symm
      exact ⟨k, isLastIn_cons_of_not_mem (hid ▸ hks), hid⟩

/-- The last field with an id is the one whose rule is found under the id. -/
theorem exists_compile_of_isLastIn {fields : List Field} {rules : List (String × Rule)}
    {issues : List Issue} (h : compileList fields = .ok (rules, issues)) {k : Field}
    (hk : k.IsLastIn fields) : ∃ rule found, (Members.ofPairs rules).get? k.id = some rule ∧
      k.compile = .ok (rule, found) := by
  -- Later rules replace earlier ones, so a rule is looked for from the end.
  rw [Members.get?_ofPairs]
  obtain ⟨before, after, rfl, hlast⟩ := hk
  induction before generalizing rules issues with
  | nil =>
    rw [List.nil_append, compileList] at h
    obtain ⟨⟨rule, found⟩, hrule, h⟩ := Outcome.bind_eq_ok_iff.mp h
    obtain ⟨⟨rest, others⟩, hrest, h⟩ := Outcome.bind_eq_ok_iff.mp h
    obtain ⟨rfl, -⟩ := Prod.mk.inj (Outcome.pure_eq_ok_iff.mp h)
    -- No later rule has the id.
    have hnone : Members.get? rest.reverse k.id = none := by
      rw [Members.get?_eq_none_iff, Members.names, List.map_reverse, List.mem_reverse]
      rw [← names_of_compileList hrest] at hlast
      exact hlast
    rw [List.reverse_cons, Members.get?_append, hnone, Members.get?_cons, if_pos rfl]
    exact ⟨rule, found, rfl, hrule⟩
  | cons f before ih =>
    rw [List.cons_append, compileList] at h
    obtain ⟨⟨first, found⟩, -, h⟩ := Outcome.bind_eq_ok_iff.mp h
    obtain ⟨⟨rest, others⟩, hrest, h⟩ := Outcome.bind_eq_ok_iff.mp h
    obtain ⟨rfl, -⟩ := Prod.mk.inj (Outcome.pure_eq_ok_iff.mp h)
    obtain ⟨rule, found, hget, hrule⟩ := ih hrest
    rw [List.reverse_cons, Members.get?_append, hget]
    exact ⟨rule, found, rfl, hrule⟩

end Field

/-! ### Where accepted answers come from -/

/-- The value is the cleaned form of an answer that the rule accepts. -/
def Rule.Accepts (rule : Rule) (w : Value) : Prop := ∃ path v, rule.apply path v = .ok (w, [])

/-- The value is the cleaned form of an answer that the rule of the field accepts. -/
def Field.Accepts (f : Field) (w : Value) : Prop :=
  ∃ rule issues, f.compile = .ok (rule, issues) ∧ rule.Accepts w

namespace Rule

/-- Under the name of each rule a cleaned entry has what the rule makes of the answer. -/
theorem get?_of_applyNamed {path : String} {rules : List (String × Rule)} {ms cleaned : Members Value}
    (h : applyNamed path rules ms = .ok (cleaned, [])) {name : String} {rule : Rule}
    (hrule : Members.get? rules name = some rule) :
    ∃ w, cleaned.get? name = some w ∧
      rule.apply s!"{path}.{name}" ((ms.get? name).getD .missing) = .ok (w, []) := by
  induction rules generalizing cleaned with
  | nil => cases hrule
  | cons e rules ih =>
    obtain ⟨value, rest, rfl, hvalue, hrest⟩ := applyNamed_cons_eq_ok h
    rw [Members.get?_cons] at hrule
    rw [Members.get?_cons]
    by_cases hname : e.1 = name
    · rw [if_pos hname] at hrule ⊢
      obtain rfl := Option.some.inj hrule
      exact ⟨value, rfl, hname ▸ hvalue⟩
    · rw [if_neg hname] at hrule ⊢
      exact ih hrest hrule

/-- Each cleaned entry comes from an entry in its place, to whose members the function applies. -/
theorem exists_entry_of_applyEntries
    {f : String → Members Value → Outcome (Members Value × List Failure)} {h : RuleHead}
    {path : String} {n : Nat} {vs ws : List Value}
    (hws : applyEntries h path f n vs = .ok (ws, [])) :
    ws.length = vs.length ∧ ∀ (i : Nat) w, ws[i]? = some w →
      ∃ p ms cleaned, vs[i]? = some (.dict ms) ∧ w = .dict cleaned ∧ f p ms = .ok (cleaned, []) := by
  induction vs generalizing n ws with
  | nil =>
    cases hws
    exact ⟨rfl, nofun⟩
  | cons v vs ih =>
    obtain ⟨ms, entry, rest, rfl, rfl, hentry, hrest⟩ := applyEntries_cons_eq_ok hws
    obtain ⟨hlength, hall⟩ := ih hrest
    -- The first entry was cleaned by itself and the others after it.
    refine ⟨congrArg (· + 1) hlength, fun i w hw => ?_⟩
    cases i with
    | zero =>
      obtain rfl := Option.some.inj hw
      exact ⟨_, ms, entry, rfl, rfl, hentry⟩
    | succ i => exact hall i w hw

/-- No answer is accepted iff the field is not required, and takes the empty form then. -/
theorem applyEmpty_eq_iff {rule : Rule} {path : String} {v w : Value} :
    rule.applyEmpty path v = (w, []) ↔ rule.head.required = false ∧ rule.cleanedEmpty v = w := by
  unfold applyEmpty
  cases rule.head.required with
  | true =>
    rw [if_pos rfl, Prod.mk.injEq, RuleHead.failures_eq_nil_iff]
    simp
  | false => simp

/-- Where a list is asked for, the empty form is the empty list. -/
theorem cleanedEmpty_of_list {rule : Rule}
    (hkind : rule.kind = "choice_list" ∨ rule.kind = "repeatable") {v : Value}
    (hv : v.isUnanswered = true) : rule.cleanedEmpty v = .list [] := by
  cases rule with
  | choiceList | repeatable =>
    cases v with
    | list vs | tuple vs =>
      rw [List.isEmpty_iff.mp hv]
      rfl
    | _ => rfl
  | _ => simp [kind] at hkind

/-- There are two ways to what a rule without entries accepts: no answer, in the empty form, and an
answer that passes the checks. -/
theorem Accepts.cases {rule : Rule} {w : Value} (h : rule.Accepts w)
    (hsection : rule.kind ≠ "repeatable") (hmisconfigured : rule.kind ≠ "misconfigured") :
    (rule.head.required = false ∧ ∃ v, v.isUnanswered = true ∧ rule.cleanedEmpty v = w) ∨
      ∃ path v, v.isUnanswered = false ∧ rule.applyPlain path v = .ok (w, []) := by
  obtain ⟨path, v, h⟩ := h
  rw [apply_eq hsection hmisconfigured] at h
  cases hv : v.isUnanswered with
  | true =>
    rw [hv, if_pos rfl, Except.ok.injEq, applyEmpty_eq_iff] at h
    exact Or.inl ⟨h.1, v, hv, h.2⟩
  | false =>
    rw [hv, if_neg Bool.false_ne_true] at h
    exact Or.inr ⟨_, v, hv, h⟩

/-- What the rule of a section accepts is a list of entries with the answers to its rules; it is empty
only if no answer is required. -/
theorem Accepts.entries {head : RuleHead} {rules : List (String × Rule)} {w : Value}
    (h : (Rule.repeatable head rules).Accepts w) :
    ∃ ws, w = .list ws ∧ (head.required = true → ws ≠ []) ∧
      ∀ e ∈ ws, ∃ path ms cleaned, e = .dict cleaned ∧
        applyNamed path rules ms = .ok (cleaned, []) := by
  obtain ⟨path, v, h⟩ := h
  rcases entries_of_apply h with ⟨hv, h⟩ | ⟨vs, ws, -, hnonempty, rfl, hws⟩
  · obtain ⟨hrequired, rfl⟩ := applyEmpty_eq_iff.mp h
    have hlist := @cleanedEmpty_of_list (.repeatable head rules) (.inr rfl) v hv
    exact ⟨[], hlist, fun hr => absurd (hr.symm.trans hrequired) (by decide), nofun⟩
  · obtain ⟨hlength, hall⟩ := exists_entry_of_applyEntries hws
    refine ⟨ws, rfl, fun _ hnil => ?_, fun e he => ?_⟩
    · -- There are as many entries as before, and the answer had some.
      rw [hnil] at hlength
      exact hnonempty (List.length_eq_zero_iff.mp hlength.symm)
    · obtain ⟨i, hi⟩ := List.mem_iff_getElem?.mp he
      obtain ⟨p, ms, cleaned, -, hcleaned⟩ := hall i e hi
      exact ⟨p, ms, cleaned, hcleaned⟩

end Rule

/-! ### Breaches -/

namespace Breach

theorem when_eq_nil_iff {broken : Bool} {b : Breach} : when broken b = [] ↔ broken = false := by
  cases broken with
  | true => simp [when]
  | false => simp [when]

/-- A bound that may be absent is not broken iff it is kept where it is there. -/
theorem getD_map_eq_nil_iff {α : Type} {o : Option α} {broken : α → Bool} {b : α → Breach} :
    (o.map fun a => when (broken a) (b a)).getD [] = [] ↔ ∀ a, o = some a → broken a = false := by
  cases o with
  | none => simp
  | some a =>
    show when (broken a) (b a) = [] ↔ _
    rw [when_eq_nil_iff]
    simp

end Breach

/-! ### Entries -/

namespace Field

theorem exists_rules_of_section {f : Field} (hsection : f.type = .repeatable) {rule : Rule}
    {issues : List Issue} (h : f.compile = .ok (rule, issues)) :
    ∃ rules, compileList f.children = .ok (rules, issues) ∧
      rule = .repeatable f.ruleHead (Members.ofPairs rules) := by
  rw [compile_of_section hsection] at h
  obtain ⟨⟨rules, found⟩, hrules, heq⟩ := Outcome.map_eq_ok_iff.mp h
  obtain ⟨rfl, rfl⟩ := Prod.mk.inj heq
  exact ⟨rules, hrules, rfl⟩

/-- A value in the cleaned answer of a field, with the field that it answers: the answer itself, and in
the entries of a section the answers to its sub-fields, at any depth. -/
inductive Within (f : Field) (v : Value) : Field → Value → Prop
  | self : Within f v f v
  | entry {g : Field} {es : List Value} {e : Members Value} {k : Field} {u : Value}
    (h : Within f v g (.list es)) (hsection : g.type = .repeatable) (he : .dict e ∈ es)
    (hk : k.IsLastIn g.children) (hu : e.get? k.id = some u) : Within f v k u

/-- What stands in an accepted answer is accepted by the field that it answers. -/
theorem Accepts.of_within {f g : Field} {v w : Value} (h : f.Accepts v) (hw : Within f v g w) :
    g.Accepts w := by
  -- Down through the entries the rule that accepts the answer goes along with the field.
  induction hw with
  | self => exact h
  | @entry g es e k u _ hsection he hk hu ih =>
    obtain ⟨rule, issues, hcompile, haccepts⟩ := ih
    obtain ⟨rules, hrules, rfl⟩ := exists_rules_of_section hsection hcompile
    obtain ⟨ws, hws, -, hentries⟩ := haccepts.entries
    obtain rfl := Value.list.inj hws
    obtain ⟨path, ms, cleaned, hcleaned, happly⟩ := hentries _ he
    obtain rfl := Value.dict.inj hcleaned
    -- The rule that the sub-field has is the one that its answer was checked by.
    obtain ⟨rule, found, hget, hcompile'⟩ := exists_compile_of_isLastIn hrules hk
    obtain ⟨w, hw, hrule⟩ := Rule.get?_of_applyNamed happly hget
    obtain rfl := Option.some.inj (hu.symm.trans hw)
    exact ⟨rule, found, hcompile', _, _, hrule⟩

end Field

/-! ### Reports -/

namespace Contract

/-- Under the name of each rule the cleaned answers have what the rule makes of the answer. -/
theorem get?_of_applyRules {answers : Members Value} {rules : List (String × Rule)}
    {found : Findings} (h : applyRules answers rules = .ok found) (hnone : found.failures = [])
    {name : String} {rule : Rule} (hrule : Members.get? rules name = some rule) :
    ∃ w, found.data.get? name = some w ∧
      rule.apply "" ((answers.get? name).getD .missing) = .ok (w, []) := by
  induction rules generalizing found with
  | nil => cases hrule
  | cons r rules ih =>
    obtain ⟨cleaned, rest, rfl, hcleaned, hrest, hrestnone⟩ := applyRules_cons_eq_ok h hnone
    rw [Members.get?_cons] at hrule
    rw [Members.get?_cons]
    by_cases hname : r.1 = name
    · rw [if_pos hname] at hrule ⊢
      obtain rfl := Option.some.inj hrule
      exact ⟨cleaned, rfl, hname ▸ hcleaned⟩
    · rw [if_neg hname] at hrule ⊢
      exact ih hrest hrestnone hrule

/-- The rules for the visible fields. -/
def asked (c : Contract) (visible : Option (List String)) : Members Rule :=
  c.rules.filter fun r => visible.all (·.contains r.1)

/-- A rule is asked iff it is the rule of a visible field. -/
theorem get?_asked {c : Contract} {visible : Option (List String)} {name : String} {rule : Rule} :
    (c.asked visible).get? name = some rule ↔
      visible.all (·.contains name) = true ∧ c.rule? name = some rule := by
  unfold asked
  rw [Members.get?_filter _ (fun id => visible.all (·.contains id))]
  split
  · simp_all [rule?]
  · simp_all

/-- A valid report has cleaned answers for the rules that are asked, and under the name of each of them
what the rule makes of the answer. -/
theorem cleaned_of_validate {c : Contract} {answers : Members Value} {visible : Option (List String)}
    {report : Report} (h : c.validate answers visible = .ok report) (hvalid : report.isValid = true) :
    ∃ cleaned, report.data = some cleaned ∧ cleaned.names = (c.asked visible).names ∧
      ∀ name rule, (c.asked visible).get? name = some rule → ∃ w, cleaned.get? name = some w ∧
        rule.apply "" ((answers.get? name).getD .missing) = .ok (w, []) := by
  obtain ⟨found, hfound, h⟩ := Outcome.bind_eq_ok_iff.mp h
  obtain rfl := Outcome.pure_eq_ok_iff.mp h
  refine ⟨found.data, if_pos hvalid, names_data_of_applyRules hfound, fun name rule hrule => ?_⟩
  exact get?_of_applyRules hfound (List.isEmpty_iff.mp hvalid) hrule

end Contract

namespace Schema

variable {s : Schema} {c : Contract} (hc : s.compile = .ok c)
include hc

/-- The last top-level field with an id is the one whose rule is in the contract. -/
theorem exists_rule?_of_isLastIn {f : Field} (hf : f.IsLastIn s.fields) :
    ∃ rule issues, c.rule? f.id = some rule ∧ f.compile = .ok (rule, issues) := by
  obtain ⟨⟨rules, issues⟩, hrules, hc⟩ := Outcome.bind_eq_ok_iff.mp hc
  obtain rfl := Outcome.pure_eq_ok_iff.mp hc
  exact Field.exists_compile_of_isLastIn hrules hf

/-- The contract of a form has one rule for each id of a top-level field. -/
theorem mem_names_rules {id : String} : id ∈ c.rules.names ↔ id ∈ s.fields.map (·.id) := by
  obtain ⟨⟨rules, issues⟩, hrules, hc⟩ := Outcome.bind_eq_ok_iff.mp hc
  obtain rfl := Outcome.pure_eq_ok_iff.mp hc
  rw [← Field.names_of_compileList hrules]
  exact Members.mem_names_ofPairs

/-- A valid report has cleaned answers, each under the id of a top-level field, and what is found under
an id is accepted by the last field with it. -/
theorem accepts_of_validate {answers : Members Value} {visible : Option (List String)} {report : Report}
    (h : c.validate answers visible = .ok report) (hvalid : report.isValid = true) :
    ∃ cleaned, report.data = some cleaned ∧ cleaned.names.Nodup ∧
      (∀ id ∈ cleaned.names, id ∈ s.fields.map (·.id)) ∧
      ∀ (f : Field) v, f.IsLastIn s.fields → cleaned.get? f.id = some v → f.Accepts v := by
  obtain ⟨cleaned, hdata, hnames, hrules⟩ := Contract.cleaned_of_validate h hvalid
  have hsublist : (c.asked visible).names.Sublist c.rules.names := List.filter_sublist.map Prod.fst
  -- The cleaned answers are named as the rules that were asked for.
  refine ⟨cleaned, hdata, ?_, fun id hid => ?_, fun f v hf hv => ?_⟩
  · rw [hnames]
    exact (nodup_names_of_compile hc).sublist hsublist
  · rw [hnames] at hid
    exact (mem_names_rules hc).mp (hsublist.subset hid)
  · -- An answer has been cleaned by the rule under its name, which is the rule of the field.
    have hasked : ((c.asked visible).get? f.id).isSome := by
      rw [Members.isSome_get?_iff, ← hnames, ← Members.isSome_get?_iff, hv]
      rfl
    obtain ⟨rule, hrule⟩ := Option.isSome_iff_exists.mp hasked
    obtain ⟨w, hw, happly⟩ := hrules f.id rule hrule
    obtain ⟨rule', issues, hget, hcompile⟩ := exists_rule?_of_isLastIn hc hf
    obtain rfl := Option.some.inj ((Contract.get?_asked.mp hrule).2.symm.trans hget)
    obtain rfl := Option.some.inj (hv.symm.trans hw)
    exact ⟨rule, issues, hcompile, _, _, happly⟩

end Schema
end Questionnaire
