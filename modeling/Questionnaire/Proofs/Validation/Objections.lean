import Questionnaire.Proofs.Gathering
import Questionnaire.Proofs.Validation.Answers

/-!
# Where failures come from

A failure carries its path as a text, from which the place in the answers cannot always be told.
`Rule.examine` applies a rule as `Rule.apply` does, but keeps apart what the rules object to: each
`Objection` has its position in the answers, the head of the rule that objects, and all the
breaches, before a message of the field's own replaces them.  The failures are those of the
objections, at whatever path the rule is applied (`Rule.apply_eq_examine`), and so are those of a
whole report (`Contract.exists_examine`).  Which objections there are is said without a run by
`Rule.ObjectsTo`.

A rule is taken apart by `Rule.entriesInduction`, and what it does to one answer by itself is
`Rule.verdict`.
-/

namespace Questionnaire

/-! ### Positions -/

/-- A place in the answers: that of the answer at the end of a path through entries, which begins at
a field, or of one of the entries there. -/
@[ext]
structure Position where
  field : String
  /-- The numbers of entries, each with the sub-field in it. -/
  path : List (Nat × String)
  /-- The number of an entry at the end of the path, if the place is that of an entry. -/
  entry : Option Nat
  deriving DecidableEq

namespace Position

/-- The text of what follows the field. -/
def trail : List (Nat × String) → Option Nat → String
  | [], none => ""
  | [], some n => s!".{n}"
  | (n, name) :: path, entry => s!".{n}.{name}" ++ trail path entry

/-- The text of a position. -/
def text (p : Position) : String := p.field ++ trail p.path p.entry

end Position

/-! ### Objections -/

theorem RuleHead.fieldId_of_mem_failures {h : RuleHead} {path : String} {breaches : List Breach}
    {received : Value} {f : Failure} (hf : f ∈ h.failures path breaches received) :
    f.fieldId = path := by
  unfold failures at hf
  dsimp only at hf
  split at hf
  · cases hf
  · split at hf
    · obtain ⟨b, -, rfl⟩ := List.mem_map.mp hf
      rfl
    · obtain rfl := List.mem_singleton.mp hf
      rfl
  · obtain ⟨b, -, rfl⟩ := List.mem_map.mp hf
    rfl

/-- What one rule objects to in one place. -/
structure Objection where
  position : Position
  head : RuleHead
  breaches : List Breach
  received : Value

namespace Objection

/-- The failures that an objection amounts to. -/
def failures (o : Objection) : List Failure :=
  o.head.failures o.position.text o.breaches o.received

/-- The objection with another text in the place of the field. -/
def moved (place : String) (o : Objection) : Objection :=
  { o with position := { o.position with field := place } }

/-- The objection to a part of an entry, as one to the section. -/
def inEntry (h : RuleHead) (n : Nat) (name : String) (o : Objection) : Objection :=
  { o with position := ⟨h.fieldId, (n, name) :: o.position.path, o.position.entry⟩ }

/-- What a rule objects to in the answer itself. -/
def own (h : RuleHead) (v : Value) : List Breach → List Objection
  | [] => []
  | b :: bs => [⟨⟨h.fieldId, [], none⟩, h, b :: bs, v⟩]

/-- What the rule of a section objects to in an entry that is no object. -/
def malformed (h : RuleHead) (n : Nat) (v : Value) : Objection :=
  ⟨⟨h.fieldId, [], some n⟩, h, [.kind "Invalid entry" "object"], v⟩

theorem fieldId_of_mem_failures {o : Objection} {f : Failure} (hf : f ∈ o.failures) :
    f.fieldId = o.position.text := RuleHead.fieldId_of_mem_failures hf

theorem exists_failure {o : Objection} (h : o.breaches ≠ []) : ∃ f, f ∈ o.failures :=
  List.exists_mem_of_ne_nil _ fun hnil => h (RuleHead.failures_eq_nil_iff.mp hnil)

theorem failures_moved_inEntry (h : RuleHead) (n : Nat) (name place : String) (o : Objection) :
    ((o.inEntry h n name).moved place).failures = (o.moved s!"{place}.{n}.{name}").failures := by
  have htext : ((o.inEntry h n name).moved place).position.text =
      (o.moved s!"{place}.{n}.{name}").position.text := by
    show place ++ (s!".{n}.{name}" ++ _) = s!"{place}.{n}.{name}" ++ _
    simp only [String.append_assoc]
    rfl
  unfold failures
  rw [htext]
  rfl

theorem failures_moved_malformed (h : RuleHead) (n : Nat) (place : String) (v : Value) :
    ((malformed h n v).moved place).failures =
      h.failures s!"{place}.{n}" [.kind "Invalid entry" "object"] v := by
  have htext : ((malformed h n v).moved place).position.text = s!"{place}.{n}" := by
    show place ++ s!".{n}" = s!"{place}.{n}"
    simp only [String.append_assoc]
    rfl
  unfold failures
  rw [htext]
  rfl

theorem flatMap_failures_own (h : RuleHead) (place : String) (v : Value) (breaches : List Breach) :
    (own h v breaches).flatMap (fun o => (o.moved place).failures) =
      h.failures place breaches v := by
  cases breaches with
  | nil => exact (RuleHead.failures_eq_nil_iff.mpr rfl).symm
  | cons b bs =>
    show h.failures (place ++ "") (b :: bs) v ++ [] = _
    rw [String.append_empty, List.append_nil]

end Objection

namespace Rule

/-! ### Induction over a rule -/

/-- The rules of the sub-fields. -/
def entryRules : Rule → List (String × Rule)
  | .repeatable _ entries => entries
  | _ => []

mutual

/-- The induction over a rule, given for all rules of a list. -/
theorem forall_entryRules {P : Rule → Prop}
    (step : ∀ rule : Rule, (∀ e ∈ rule.entryRules, P e.2) → P rule) :
    ∀ rules : List (String × Rule), ∀ e ∈ rules, P e.2
  | [], _, h => absurd h List.not_mem_nil
  | (name, rule) :: rules, e, h => by
    rcases List.mem_cons.mp h with rfl | h
    · exact entriesInduction step rule
    · exact forall_entryRules step rules e h

/-- What holds of a rule as soon as it holds of the rules of its sub-fields holds of every rule. -/
theorem entriesInduction {P : Rule → Prop}
    (step : ∀ rule : Rule, (∀ e ∈ rule.entryRules, P e.2) → P rule) :
    ∀ rule : Rule, P rule
  | .repeatable _ entries => step _ (forall_entryRules step entries)
  | .string .. | .number .. | .choiceList .. | .date _ | .any .. | .matrix _ | .misconfigured .. =>
    step _ nofun

end

/-! ### One answer -/

/-- What a rule makes of an answer that counts as one, without entries: the cleaned answer, and
the breaches. -/
def answerVerdict (v : Value) : Rule → Outcome (Value × List Breach)
  | .string _ minLength maxLength pattern email =>
    (checkString minLength maxLength pattern email v).map (Prod.mk v)
  | .number _ coerce minimum maximum =>
    .ok (match answerNumber? coerce v with
      | none => (v, [.kind "Must be a number" "number"])
      | some n => (n.toValue, checkBounds minimum maximum .minimum .maximum n))
  | .choiceList _ minItems maxItems =>
    .ok (match textList? v with
      | none => (v, [.kind "Expected a list of selections" "list of strings"])
      | some vs => (.list vs, checkBounds minItems maxItems .minItems .maxItems (.ofNat vs.length)))
  | .date _ => .ok (v, Breach.when (!v.isTextOrDate) (.kind "Invalid date" "date"))
  | .any .. => .ok (v, [])
  | .matrix _ =>
    .ok (v, Breach.when (!v.isTextMap) (.kind "Invalid selection" "mapping of row to column"))
  | .repeatable .. => .ok (v, [.kind "Expected a list of entries" "list of entries"])
  | .misconfigured .. => .ok (v, [])

/-- What a rule makes of an answer, without entries. -/
def verdict (v : Value) : Rule → Outcome (Value × List Breach)
  | .misconfigured _ _ => .ok (match v with
    | .missing => .null
    | v => v, [])
  | rule =>
    if v.isUnanswered then
      .ok (if rule.head.required then (.null, [.required]) else (rule.cleanedEmpty v, []))
    else rule.answerVerdict v

/-- The entries of an answer that a rule goes through. -/
def entriesIn? (v : Value) : Option (List Value) := if v.isUnanswered then none else entryList? v

theorem entriesIn?_eq_some_iff {v : Value} {vs : List Value} :
    entriesIn? v = some vs ↔ v.isUnanswered = false ∧ entryList? v = some vs := by
  unfold entriesIn?
  cases v.isUnanswered with
  | true => simp
  | false => simp

/-- A rule that goes through entries is that of a section. -/
theorem no_entries_or_section (rule : Rule) (v : Value) :
    (rule.kind ≠ "repeatable" ∨ entriesIn? v = none) ∨
      ∃ h entries vs, rule = .repeatable h entries ∧ entriesIn? v = some vs := by
  cases hvs : entriesIn? v with
  | none => exact .inl (.inr rfl)
  | some vs =>
    cases rule with
    | repeatable h entries => exact .inr ⟨h, entries, vs, rfl, rfl⟩
    | _ => exact .inl (.inl (by simp [kind]))

theorem applyEmpty_eq (rule : Rule) (path : String) (v : Value) :
    rule.applyEmpty path v =
      let r := if rule.head.required then (.null, [.required]) else (rule.cleanedEmpty v, [])
      rule.judged path v r.1 r.2 := by
  unfold applyEmpty
  cases rule.head.required with
  | true => rfl
  | false =>
    show (rule.cleanedEmpty v, []) = rule.judged path v (rule.cleanedEmpty v) []
    exact (judged_eq_iff.mpr ⟨rfl, rfl⟩).symm

theorem applyPlain_eq {rule : Rule} (h : rule.kind ≠ "repeatable") (path : String) (v : Value) :
    rule.applyPlain path v = (rule.answerVerdict v).map fun r => rule.judged path v r.1 r.2 := by
  cases rule with
  | repeatable => exact absurd rfl h
  | string head minLength maxLength pattern email =>
    rw [applyPlain, answerVerdict]
    cases checkString minLength maxLength pattern email v <;> rfl
  | number head coerce minimum maximum =>
    rw [applyPlain, answerVerdict]
    cases answerNumber? coerce v <;> rfl
  | choiceList head minItems maxItems =>
    rw [applyPlain, answerVerdict]
    cases textList? v <;> rfl
  | date | matrix => rfl
  | any | misconfigured => exact congrArg Except.ok (judged_eq_iff.mpr ⟨rfl, rfl⟩).symm

theorem verdict_eq {rule : Rule} (h : rule.kind ≠ "misconfigured") (v : Value) :
    rule.verdict v =
      if v.isUnanswered then
        .ok (if rule.head.required then (.null, [.required]) else (rule.cleanedEmpty v, []))
      else rule.answerVerdict v := by
  cases rule with
  | misconfigured => exact absurd rfl h
  | _ => rfl

/-- A rule that goes through no entries gives its verdict. -/
theorem apply_eq_verdict {rule : Rule} (path : String) {v : Value}
    (h : rule.kind ≠ "repeatable" ∨ entriesIn? v = none) :
    rule.apply path v = (rule.verdict v).map fun r => rule.judged (rule.place path) v r.1 r.2 := by
  -- Each kind of rule gives its verdict in its own way; of sections only those without entries do.
  by_cases hmisconfigured : rule.kind = "misconfigured"
  · cases rule with
    | misconfigured head reason => exact congrArg Except.ok (judged_eq_iff.mpr ⟨rfl, rfl⟩).symm
    | _ => simp [kind] at hmisconfigured
  · rw [verdict_eq hmisconfigured]
    by_cases hsection : rule.kind = "repeatable"
    · cases rule with
      | repeatable head entries =>
        have hnone := h.resolve_left (not_not.mpr hsection)
        unfold entriesIn? at hnone
        rw [apply_repeatable, applyEmpty_eq]
        split
        · rfl
        · next hv =>
          rw [if_neg hv] at hnone
          rw [hnone]
          rfl
      | _ => simp [kind] at hsection
    · rw [apply_eq hsection hmisconfigured, applyPlain_eq hsection, applyEmpty_eq]
      split <;> rfl

/-! ### The entries of a section -/

/-- What a function of objects makes of an entry; an entry that is no object stays as it is. -/
def applyEntry (h : RuleHead) (path : String)
    (f : String → Members Value → Outcome (Members Value × List Failure)) (n : Nat) :
    Value → Outcome (Value × List Failure)
  | .dict ms => (f s!"{path}.{n}" ms).map fun r => (.dict r.1, r.2)
  | v => .ok (v, h.failures s!"{path}.{n}" [.kind "Invalid entry" "object"] v)

theorem applyEntry_other (h : RuleHead) (path : String)
    (f : String → Members Value → Outcome (Members Value × List Failure)) (n : Nat) {v : Value}
    (hv : ∀ ms, v ≠ .dict ms) :
    applyEntry h path f n v =
      .ok (v, h.failures s!"{path}.{n}" [.kind "Invalid entry" "object"] v) := by
  cases v with
  | dict ms => exact absurd rfl (hv ms)
  | _ => rfl

theorem applyEntries_eq_gather (h : RuleHead) (path : String)
    (f : String → Members Value → Outcome (Members Value × List Failure)) (n : Nat)
    (vs : List Value) :
    applyEntries h path f n vs = gather (applyEntry h path f) n vs := by
  induction vs generalizing n with
  | nil => rfl
  | cons v vs ih =>
    by_cases hv : ∃ ms, v = .dict ms
    · obtain ⟨ms, rfl⟩ := hv
      rw [applyEntries_dict, gather, ih, applyEntry]
      cases f s!"{path}.{n}" ms <;> rfl
    · rw [applyEntries_other _ _ _ _ (not_exists.mp hv), gather, ih,
        applyEntry_other _ _ _ _ (not_exists.mp hv)]
      rfl

/-- What the rule of a sub-field makes of its answer in an entry. -/
def applyPart (path : String) (ms : Members Value) (e : String × Rule) :
    Outcome ((String × Value) × List Failure) :=
  (e.2.apply s!"{path}.{e.1}" ((ms.get? e.1).getD .missing)).map fun r => ((e.1, r.1), r.2)

theorem applyNamed_eq_gather (path : String) (rules : List (String × Rule)) (ms : Members Value)
    (n : Nat) : applyNamed path rules ms = gather (fun _ => applyPart path ms) n rules := by
  induction rules generalizing n with
  | nil => rfl
  | cons e rules ih =>
    rw [applyNamed, gather, ih (n + 1), applyPart]
    cases e.2.apply s!"{path}.{e.1}" ((ms.get? e.1).getD .missing) <;> rfl

/-! ### Examination -/

/-- Examines an entry of a section, by a function if it is an object. -/
def examineEntry (h : RuleHead) (f : Nat → Members Value → Outcome (Members Value × List Objection))
    (n : Nat) : Value → Outcome (Value × List Objection)
  | .dict ms => (f n ms).map fun r => (.dict r.1, r.2)
  | v => .ok (v, [.malformed h n v])

mutual

/-- Applies a rule to an answer, and says what is objected to and where. -/
def examine : Rule → Value → Outcome (Value × List Objection)
  | .repeatable h entries, v =>
    match entriesIn? v with
    | some vs =>
      (gather (examineEntry h fun n ms => examineNamed h n entries ms) 0 vs).map fun r =>
        (.list r.1, r.2)
    | none => ((Rule.repeatable h entries).verdict v).map fun r => (r.1, Objection.own h v r.2)
  | rule, v => (rule.verdict v).map fun r => (r.1, Objection.own rule.head v r.2)

/-- Applies the rules of sub-fields to the members of an entry, and says what is objected to. -/
def examineNamed (h : RuleHead) (n : Nat) :
    List (String × Rule) → Members Value → Outcome (Members Value × List Objection)
  | [], _ => .ok ([], [])
  | (name, rule) :: rules, ms => do
    let (cleaned, objections) ← rule.examine ((ms.get? name).getD .missing)
    let (rest, others) ← examineNamed h n rules ms
    pure ((name, cleaned) :: rest, objections.map (.inEntry h n name) ++ others)

end

/-- What the rule of a sub-field makes of its answer in an entry, and what it objects to there. -/
def examinePart (h : RuleHead) (n : Nat) (ms : Members Value) (e : String × Rule) :
    Outcome ((String × Value) × List Objection) :=
  (e.2.examine ((ms.get? e.1).getD .missing)).map fun r => ((e.1, r.1), r.2.map (.inEntry h n e.1))

theorem examineNamed_eq_gather (h : RuleHead) (n : Nat) (rules : List (String × Rule))
    (ms : Members Value) (m : Nat) :
    examineNamed h n rules ms = gather (fun _ => examinePart h n ms) m rules := by
  induction rules generalizing m with
  | nil => rfl
  | cons e rules ih =>
    rw [examineNamed, gather, ih (m + 1), examinePart]
    cases e.2.examine ((ms.get? e.1).getD .missing) <;> rfl

theorem examineEntry_other (h : RuleHead)
    (f : Nat → Members Value → Outcome (Members Value × List Objection)) (n : Nat) {v : Value}
    (hv : ∀ ms, v ≠ .dict ms) : examineEntry h f n v = .ok (v, [.malformed h n v]) := by
  cases v with
  | dict ms => exact absurd rfl (hv ms)
  | _ => rfl

theorem examine_of_no_entries {rule : Rule} {v : Value}
    (h : rule.kind ≠ "repeatable" ∨ entriesIn? v = none) :
    rule.examine v = (rule.verdict v).map fun r => (r.1, Objection.own rule.head v r.2) := by
  cases rule with
  | repeatable head entries =>
    rw [examine, h.resolve_left (not_not.mpr rfl)]
    rfl
  | _ => rfl

theorem examine_of_entries {h : RuleHead} {entries : List (String × Rule)} {v : Value}
    {vs : List Value} (hvs : entriesIn? v = some vs) :
    (Rule.repeatable h entries).examine v =
      (gather (examineEntry h fun n ms => examineNamed h n entries ms) 0 vs).map
        fun r => (.list r.1, r.2) := by
  rw [examine, hvs]

/-! ### Failures are what is objected to -/

/-- What is found, with the failures at a place that the objections amount to. -/
def shown {α : Type} (place : String) (r : α × List Objection) : α × List Failure :=
  (r.1, r.2.flatMap fun o => (o.moved place).failures)

theorem place_of_ne {path : String} (h : path ≠ "") (rule : Rule) : rule.place path = path :=
  if_neg h

theorem dotted_ne_empty (before after : String) : s!"{before}.{after}" ≠ "" := by
  intro h
  have hparts := congrArg String.length h
  simp only [String.length_append] at hparts
  have hdot : (toString ".").length = 1 := rfl
  have hempty : "".length = 0 := rfl
  omega

/-- Sub-fields have paths of their own, which are never empty. -/
theorem applyNamed_eq_examineNamed {rules : List (String × Rule)}
    (hrules :
      ∀ e ∈ rules, ∀ path v, e.2.apply path v = (e.2.examine v).map (shown (e.2.place path)))
    (h : RuleHead) (place : String) (n : Nat) (ms : Members Value) :
    applyNamed s!"{place}.{n}" rules ms = (examineNamed h n rules ms).map (shown place) := by
  rw [applyNamed_eq_gather _ _ _ 0, examineNamed_eq_gather _ _ _ _ 0]
  refine gather_map (fun _ e he => ?_) 0
  unfold applyPart examinePart
  rw [hrules e he, place_of_ne (dotted_ne_empty _ _)]
  cases e.2.examine ((ms.get? e.1).getD .missing) with
  | error e => rfl
  | ok r =>
    show Except.ok (_, _) = Except.ok (_, List.flatMap _ (List.map _ _))
    rw [List.flatMap_map]
    simp only [Objection.failures_moved_inEntry]
    rfl

theorem applyEntries_eq_gather_examineEntry {h : RuleHead} {place : String}
    {f : String → Members Value → Outcome (Members Value × List Failure)}
    {g : Nat → Members Value → Outcome (Members Value × List Objection)}
    (hf : ∀ n ms, f s!"{place}.{n}" ms = (g n ms).map (shown place)) (vs : List Value) :
    applyEntries h place f 0 vs = (gather (examineEntry h g) 0 vs).map (shown place) := by
  rw [applyEntries_eq_gather]
  refine gather_map (fun n v _ => ?_) 0
  by_cases hv : ∃ ms, v = .dict ms
  · obtain ⟨ms, rfl⟩ := hv
    rw [applyEntry, examineEntry, hf]
    cases g n ms <;> rfl
  · rw [applyEntry_other _ _ _ _ (not_exists.mp hv), examineEntry_other _ _ _ (not_exists.mp hv)]
    show Except.ok (_, _) = Except.ok (_, List.flatMap _ [_])
    rw [List.flatMap_singleton, Objection.failures_moved_malformed]

/-- A rule applies as it examines: the failures are those of the objections. -/
theorem apply_eq_examine (rule : Rule) (path : String) (v : Value) :
    rule.apply path v = (rule.examine v).map (shown (rule.place path)) := by
  -- For all paths at once: the rule of a sub-field is applied at the path of its entry.
  induction rule using entriesInduction generalizing path v with
  | step rule ih =>
    rcases rule.no_entries_or_section v with h | ⟨head, entries, vs, rfl, hvs⟩
    · rw [apply_eq_verdict path h, examine_of_no_entries h]
      cases rule.verdict v with
      | error e => rfl
      | ok r =>
        exact congrArg (fun fs => Except.ok (r.1, fs)) (Objection.flatMap_failures_own _ _ _ _).symm
    · obtain ⟨hanswer, hlist⟩ := entriesIn?_eq_some_iff.mp hvs
      have ih : ∀ e ∈ entries, ∀ path v,
          e.2.apply path v = (e.2.examine v).map (shown (e.2.place path)) := ih
      rw [examine_of_entries hvs, apply_repeatable, hanswer, if_neg Bool.false_ne_true, hlist]
      dsimp only
      rw [applyEntries_eq_gather_examineEntry (applyNamed_eq_examineNamed ih head _)]
      cases gather (examineEntry head fun n ms => examineNamed head n entries ms) 0 vs <;> rfl

/-! ### What is objected to -/

/-- What a rule objects to in an answer: what breaks the rule itself, an entry that is no object, or
what the rule of a sub-field objects to in an entry. -/
inductive ObjectsTo : Rule → Value → Objection → Prop
  | own {rule : Rule} {v w : Value} {b : Breach} {bs : List Breach}
    (h : rule.kind ≠ "repeatable" ∨ entriesIn? v = none)
    (hverdict : rule.verdict v = .ok (w, b :: bs)) :
    ObjectsTo rule v ⟨⟨rule.head.fieldId, [], none⟩, rule.head, b :: bs, v⟩
  | malformed {head : RuleHead} {entries : List (String × Rule)} {v u : Value} {vs : List Value}
    {n : Nat} (hvs : entriesIn? v = some vs) (hu : vs[n]? = some u) (hdict : ∀ ms, u ≠ .dict ms) :
    ObjectsTo (.repeatable head entries) v (.malformed head n u)
  | inEntry {head : RuleHead} {entries : List (String × Rule)} {v : Value} {vs : List Value}
    {n : Nat} {ms : Members Value} {e : String × Rule} {o : Objection}
    (hvs : entriesIn? v = some vs) (hms : vs[n]? = some (.dict ms)) (he : e ∈ entries)
    (ho : ObjectsTo e.2 ((ms.get? e.1).getD .missing) o) :
    ObjectsTo (.repeatable head entries) v (o.inEntry head n e.1)

/-- A rule that goes through no entries objects to what breaks it. -/
theorem objectsTo_iff_of_no_entries {rule : Rule} {v w : Value} {breaches : List Breach}
    (h : rule.kind ≠ "repeatable" ∨ entriesIn? v = none)
    (hverdict : rule.verdict v = .ok (w, breaches))
    (o : Objection) : rule.ObjectsTo v o ↔ o ∈ Objection.own rule.head v breaches := by
  constructor
  · intro ho
    -- An objection to an entry would need entries.
    cases ho with
    | own _ hverdict' =>
      cases hverdict.symm.trans hverdict'
      exact List.mem_singleton_self _
    | malformed hvs | inEntry hvs =>
      rcases h with h | h
      · exact absurd rfl h
      · cases h.symm.trans hvs
  · intro ho
    cases breaches with
    | nil => cases ho
    | cons b bs =>
      obtain rfl := List.mem_singleton.mp ho
      exact .own h hverdict

/-- What the rule of a section objects to in an entry: that it is no object, or what the rules of
the sub-fields object to. -/
inductive InEntry (h : RuleHead) (entries : List (String × Rule)) (n : Nat) :
    Value → Objection → Prop
  | malformed {u : Value} (hdict : ∀ ms, u ≠ .dict ms) : InEntry h entries n u (.malformed h n u)
  | part {ms : Members Value} {e : String × Rule} {o : Objection} (he : e ∈ entries)
    (ho : ObjectsTo e.2 ((ms.get? e.1).getD .missing) o) :
    InEntry h entries n (.dict ms) (o.inEntry h n e.1)

/-- A section objects to what stands in its entries. -/
theorem objectsTo_iff_of_entries {h : RuleHead} {entries : List (String × Rule)} {v : Value}
    {vs : List Value} (hvs : entriesIn? v = some vs) (o : Objection) :
    (Rule.repeatable h entries).ObjectsTo v o ↔
      ∃ n u, vs[n]? = some u ∧ InEntry h entries n u o := by
  constructor
  · intro ho
    cases ho with
    -- And an objection of the section itself would need none.
    | own hnone =>
      rcases hnone with hsection | hnone
      · exact absurd rfl hsection
      · cases hnone.symm.trans hvs
    | malformed hus hu hdict =>
      obtain rfl := Option.some.inj (hvs.symm.trans hus)
      exact ⟨_, _, hu, .malformed hdict⟩
    | inEntry hus hms he ho =>
      obtain rfl := Option.some.inj (hvs.symm.trans hus)
      exact ⟨_, _, hms, .part he ho⟩
  · rintro ⟨n, u, hu, ho⟩
    cases ho with
    | malformed hdict => exact .malformed hvs hu hdict
    | part he ho => exact .inEntry hvs hu he ho

/-- The objections to a mapping are those of its parts, placed in the entry. -/
theorem mem_of_examineNamed {h : RuleHead} {n : Nat} {rules : List (String × Rule)}
    {ms cleaned : Members Value} {os : List Objection}
    (hos : examineNamed h n rules ms = .ok (cleaned, os)) (o : Objection) :
    o ∈ os ↔ ∃ e ∈ rules, ∃ r, e.2.examine ((ms.get? e.1).getD .missing) = .ok r ∧
      ∃ p ∈ r.2, o = p.inEntry h n e.1 := by
  rw [examineNamed_eq_gather _ _ _ _ 0] at hos
  rw [mem_of_gather hos]
  constructor
  · rintro ⟨i, e, _, he, hpart, ho⟩
    obtain ⟨r, hr, rfl⟩ := Outcome.map_eq_ok_iff.mp hpart
    obtain ⟨p, hp, rfl⟩ := List.mem_map.mp ho
    exact ⟨e, List.mem_of_getElem? he, r, hr, p, hp, rfl⟩
  · rintro ⟨e, he, r, hr, p, hp, rfl⟩
    obtain ⟨i, hi⟩ := List.mem_iff_getElem?.mp he
    refine ⟨i, e, ((e.1, r.1), r.2.map (.inEntry h n e.1)), hi, ?_, List.mem_map_of_mem hp⟩
    unfold examinePart
    rw [hr]
    rfl

/-- The parts of an entry that can be examined can be examined one by one. -/
theorem exists_of_examineNamed {h : RuleHead} {n : Nat} {rules : List (String × Rule)}
    {ms : Members Value} {r : Members Value × List Objection}
    (hr : examineNamed h n rules ms = .ok r) {e : String × Rule} (he : e ∈ rules) :
    ∃ r, e.2.examine ((ms.get? e.1).getD .missing) = .ok r := by
  rw [examineNamed_eq_gather _ _ _ _ 0] at hr
  obtain ⟨rs, hrs, -⟩ := gather_eq_ok_iff.mp hr
  obtain ⟨i, hi⟩ := List.mem_iff_getElem?.mp he
  obtain ⟨_, -, hpart⟩ := hrs.exists_of_getElem? hi
  obtain ⟨r, hr, -⟩ := Outcome.map_eq_ok_iff.mp hpart
  exact ⟨r, hr⟩

/-- The objections to an entry are what the section objects to in it, if the same holds of the
sub-fields. -/
theorem mem_of_examineEntry {h : RuleHead} {entries : List (String × Rule)}
    (ih : ∀ e ∈ entries, ∀ v w os, e.2.examine v = .ok (w, os) → ∀ o, o ∈ os ↔ e.2.ObjectsTo v o)
    {n : Nat} {u : Value} {r : Value × List Objection}
    (hr : examineEntry h (fun n ms => examineNamed h n entries ms) n u = .ok r) (o : Objection) :
    o ∈ r.2 ↔ InEntry h entries n u o := by
  -- What is no mapping is malformed, and nothing is asked of its parts.
  by_cases hdict : ∃ ms, u = .dict ms
  · obtain ⟨ms, rfl⟩ := hdict
    obtain ⟨⟨cleaned, found⟩, hfound, rfl⟩ := Outcome.map_eq_ok_iff.mp hr
    rw [mem_of_examineNamed hfound]
    constructor
    · rintro ⟨e, he, r, hr, p, hp, rfl⟩
      exact .part he ((ih e he _ _ _ hr p).mp hp)
    · intro ho
      cases ho with
      | malformed hdict => exact absurd rfl (hdict ms)
      | @part _ e p he ho =>
        obtain ⟨r, hr⟩ := exists_of_examineNamed hfound he
        exact ⟨e, he, r, hr, p, (ih e he _ _ _ hr p).mpr ho, rfl⟩
  · have hdict := not_exists.mp hdict
    rw [examineEntry_other _ _ _ hdict] at hr
    cases hr
    rw [List.mem_singleton]
    constructor
    · rintro rfl
      exact .malformed hdict
    · intro ho
      cases ho with
      | malformed => rfl
      | part => exact absurd rfl (hdict _)

/-- The objections are what the rule objects to. -/
theorem mem_of_examine {rule : Rule} {v w : Value} {os : List Objection}
    (h : rule.examine v = .ok (w, os)) (o : Objection) : o ∈ os ↔ rule.ObjectsTo v o := by
  induction rule using entriesInduction generalizing v w os o with
  | step rule ih =>
    rcases rule.no_entries_or_section v with hentries | ⟨head, entries, vs, rfl, hvs⟩
    · rw [examine_of_no_entries hentries] at h
      obtain ⟨⟨w', breaches⟩, hverdict, h⟩ := Outcome.map_eq_ok_iff.mp h
      obtain ⟨rfl, rfl⟩ := Prod.mk.inj h
      exact (objectsTo_iff_of_no_entries hentries hverdict o).symm
    · rw [examine_of_entries hvs] at h
      obtain ⟨⟨ws, os'⟩, hos, h⟩ := Outcome.map_eq_ok_iff.mp h
      obtain ⟨rfl, rfl⟩ := Prod.mk.inj h
      have hentry {n : Nat} {u : Value} {r : Value × List Objection} :=
        @mem_of_examineEntry head entries (fun e he v w os h o => ih e he h o) n u r
      rw [mem_of_gather hos, objectsTo_iff_of_entries hvs]
      simp only [Nat.zero_add]
      constructor
      · rintro ⟨n, u, r, hu, hr, ho⟩
        exact ⟨n, u, hu, (hentry hr o).mp ho⟩
      · rintro ⟨n, u, hu, ho⟩
        -- The entry has a result, since all of them have one.
        obtain ⟨rs, hrs, -⟩ := gather_eq_ok_iff.mp hos
        obtain ⟨r, -, hr⟩ := hrs.exists_of_getElem? hu
        rw [Nat.zero_add] at hr
        exact ⟨n, u, r, hu, hr, (hentry hr o).mpr ho⟩

/-- What a rule objects to stands in the answer to its field. -/
theorem ObjectsTo.field_eq {rule : Rule} {v : Value} {o : Objection} (h : rule.ObjectsTo v o) :
    o.position.field = rule.head.fieldId := by
  cases h with
  | _ => rfl

theorem ObjectsTo.breaches_ne_nil {rule : Rule} {v : Value} {o : Objection}
    (h : rule.ObjectsTo v o) : o.breaches ≠ [] := by
  induction h with
  | own => exact List.cons_ne_nil _ _
  | malformed => exact List.cons_ne_nil _ _
  | inEntry _ _ _ _ ih => exact ih

/-- Applied without a path, a rule has its failures where the objections are. -/
theorem apply_eq_examine_empty (rule : Rule) (v : Value) :
    rule.apply "" v = (rule.examine v).map fun r => (r.1, r.2.flatMap (·.failures)) := by
  rw [apply_eq_examine]
  cases h : rule.examine v with
  | error e => rfl
  | ok r =>
    have hplace : ∀ o ∈ r.2, (o.moved rule.head.fieldId).failures = o.failures := by
      intro o ho
      rw [← ((mem_of_examine h o).mp ho).field_eq]
      rfl
    exact congrArg (fun fs => Except.ok (r.1, fs)) (List.flatMap_congr hplace)

end Rule

/-! ### Reports -/

namespace Contract

/-- What a rule makes of the answer under its name. -/
def applyRule (answers : Members Value) (r : String × Rule) :
    Outcome ((String × Value) × List Failure) :=
  (r.2.apply "" ((answers.get? r.1).getD .missing)).map fun x => ((r.1, x.1), x.2)

/-- The warnings about the rules that check nothing. -/
def warnings (rules : List (String × Rule)) : List String :=
  rules.flatMap fun r => (warning? r.1 r.2).toList

theorem applyRules_eq_gather (answers : Members Value) (rules : List (String × Rule)) (n : Nat) :
    applyRules answers rules =
      (gather (fun _ => applyRule answers) n rules).map fun r => ⟨r.1, r.2, warnings rules⟩ := by
  induction rules generalizing n with
  | nil => rfl
  | cons r rules ih =>
    obtain ⟨name, rule⟩ := r
    rw [applyRules, gather, ih (n + 1), applyRule]
    cases rule.apply "" ((answers.get? name).getD .missing) with
    | error e => rfl
    | ok x => cases gather (fun _ => applyRule answers) (n + 1) rules <;> rfl

/-- What a rule makes of the answer under its name, and what it objects to. -/
def examineRule (answers : Members Value) (r : String × Rule) :
    Outcome ((String × Value) × List Objection) :=
  (r.2.examine ((answers.get? r.1).getD .missing)).map fun x => ((r.1, x.1), x.2)

/-- What the rules of the visible fields, or of all fields, object to in the answers. -/
def examine (c : Contract) (answers : Members Value) (visible : Option (List String)) :
    Outcome (List Objection) :=
  (gather (fun _ => examineRule answers) 0 (c.asked visible)).map (·.2)

/-- A report says what the rules that are asked find in the answers. -/
theorem validate_eq_ok_iff {c : Contract} {answers : Members Value} {visible : Option (List String)}
    {report : Report} : c.validate answers visible = .ok report ↔
      ∃ found, applyRules answers (c.asked visible) = .ok found ∧
        report = ⟨found.failures.isEmpty, found.failures,
          if found.failures.isEmpty then some found.data else none, found.warnings⟩ := by
  unfold validate
  rw [← asked, Outcome.bind_eq_ok_iff]
  refine exists_congr fun found => and_congr_right fun _ => ?_
  exact Outcome.pure_eq_ok_iff.trans eq_comm

/-- The rules have the failures of what they object to. -/
theorem applyRules_eq_gather_examineRule (answers : Members Value) (rules : List (String × Rule)) :
    applyRules answers rules = (gather (fun _ => examineRule answers) 0 rules).map fun r =>
      ⟨r.1, r.2.flatMap (·.failures), warnings rules⟩ := by
  have hrule : ∀ n : Nat, ∀ r ∈ rules, applyRule answers r =
      (examineRule answers r).map fun x => (x.1, x.2.flatMap (·.failures)) := by
    intro _ r _
    unfold applyRule examineRule
    rw [Rule.apply_eq_examine_empty]
    cases r.2.examine ((answers.get? r.1).getD .missing) <;> rfl
  rw [applyRules_eq_gather _ _ 0, gather_map hrule]
  cases gather (fun _ => examineRule answers) 0 rules <;> rfl

/-- The failures in a report are those of what is objected to. -/
theorem exists_examine {c : Contract} {answers : Members Value} {visible : Option (List String)}
    {report : Report} (h : c.validate answers visible = .ok report) :
    ∃ os, c.examine answers visible = .ok os ∧ report.failures = os.flatMap (·.failures) := by
  obtain ⟨found, hfound, rfl⟩ := validate_eq_ok_iff.mp h
  rw [applyRules_eq_gather_examineRule] at hfound
  obtain ⟨r, hr, rfl⟩ := Outcome.map_eq_ok_iff.mp hfound
  exact ⟨r.2, Outcome.map_eq_ok_iff.mpr ⟨r, hr, rfl⟩, rfl⟩

/-- What is objected to is what each of the rules objects to. -/
theorem mem_of_examine {c : Contract} {answers : Members Value} {visible : Option (List String)}
    {os : List Objection} (h : c.examine answers visible = .ok os) (o : Objection) :
    o ∈ os ↔ ∃ r ∈ c.asked visible, r.2.ObjectsTo ((answers.get? r.1).getD .missing) o := by
  obtain ⟨⟨data, found⟩, hfound, rfl⟩ := Outcome.map_eq_ok_iff.mp h
  rw [mem_of_gather hfound]
  constructor
  · rintro ⟨i, r, _, hr, hrule, ho⟩
    obtain ⟨x, hx, rfl⟩ := Outcome.map_eq_ok_iff.mp hrule
    exact ⟨r, List.mem_of_getElem? hr, (Rule.mem_of_examine hx o).mp ho⟩
  · rintro ⟨r, hr, ho⟩
    obtain ⟨rs, hrs, -⟩ := gather_eq_ok_iff.mp hfound
    obtain ⟨i, hi⟩ := List.mem_iff_getElem?.mp hr
    obtain ⟨_, -, hrule⟩ := hrs.exists_of_getElem? hi
    obtain ⟨x, hx, rfl⟩ := Outcome.map_eq_ok_iff.mp hrule
    exact ⟨i, r, _, hi, hrule, (Rule.mem_of_examine hx o).mpr ho⟩

end Contract
end Questionnaire
