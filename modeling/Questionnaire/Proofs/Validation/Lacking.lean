import Questionnaire.Proofs.Validation.Positions

/-!
# Answers that nobody has touched

The answer to a field before anyone has touched it is its default, and in an entry that has just
been added all sub-fields have no answer.  Of such answers a report says only what is missing
(`Field.lacking`): each default but that of a rating counts as no answer, so it fails a required
field whatever else its rule asks for (`Rule.apply_of_unanswered`), and the default of a rating
passes.

`Schema.validate_untouched` says this of a whole form, for any choice of visible fields.
-/

namespace Questionnaire

/-! ### Untouched answers -/

namespace Field

/-- An entry of a section without answers. -/
def blankEntry (f : Field) : Value :=
  .dict (Members.ofPairs (f.children.map fun c => (c.id, .null)))

/-- The answer to a field to which at most entries without answers have been added. -/
def untouched (f : Field) (entries : Nat) : Value :=
  if f.type = .repeatable then .list (List.replicate entries f.blankEntry) else f.defaultAnswer

/-- The field is required, and its rule is not that of an unusable pattern. -/
def demandsAnswer (f : Field) : Bool := f.required && f.rule.kind ≠ "misconfigured"

/-- The path of a field, if it lacks a required answer when there is none. -/
def lackingAt (f : Field) (path : String) : List String := if f.demandsAnswer then [path] else []

/-- The paths where an untouched field lacks a required answer: its own, or, if it is a section with
entries, those of its sub-fields in each of them.  Only in an entry can a rating lack one. -/
def lacking (f : Field) (entries : Nat) : List String :=
  if f.type = .repeatable ∧ entries ≠ 0 then
    (List.range entries).flatMap fun i =>
      f.children.flatMap fun k => k.lackingAt s!"{f.id}.{i}.{k.id}"
  else if f.type = .rating then [] else f.lackingAt f.id

theorem isUnanswered_defaultAnswer {f : Field} (h : f.type ≠ .rating) :
    f.defaultAnswer.isUnanswered = true := by
  unfold defaultAnswer
  cases htype : f.type with
  | rating => exact absurd htype h
  | _ => rfl

theorem lackingAt_of_not_required {f : Field} (h : f.required = false) (path : String) :
    f.lackingAt path = [] := by
  unfold lackingAt demandsAnswer
  rw [h]
  rfl

/-- Where no field of a form is required, in sections or outside, none lacks anything. -/
theorem lacking_of_not_required {fields : List Field}
    (h : ∀ f ∈ treeList fields, f.required = false) {f : Field} (hf : f ∈ fields) (entries : Nat) :
    f.lacking entries = [] := by
  have htree {k : Field} (hk : k = f ∨ k ∈ treeList f.children) : k.required = false :=
    h k (mem_treeList.mpr ⟨f, hf, hk⟩)
  unfold lacking
  split_ifs
  · refine List.flatMap_eq_nil_iff.mpr fun i _ => List.flatMap_eq_nil_iff.mpr fun k hk => ?_
    exact lackingAt_of_not_required (htree (.inr (mem_treeList.mpr ⟨k, hk, .inl rfl⟩))) _
  · rfl
  · exact lackingAt_of_not_required (htree (.inl rfl)) _

end Field

/-! ### What is missing -/

/-- Where a failure is, and what it is called. -/
def Failure.mark (f : Failure) : String × String := (f.fieldId, f.type)

/-- The mark of a required answer that is missing. -/
def Failure.missingAt (path : String) : String × String := (path, "required")

theorem RuleHead.marks_failures_singleton (h : RuleHead) (path : String) (b : Breach)
    (received : Value) : (h.failures path [b] received).map Failure.mark = [(path, b.type)] := by
  unfold failures
  dsimp only
  split
  · next hnil => cases hnil
  · next heq =>
    cases heq
    split <;> rfl
  · rfl

/-- A rule says of no answer at most that it is required. -/
theorem Rule.apply_of_unanswered (rule : Rule) {v : Value} (h : v.isUnanswered = true)
    (path : String) : ∃ cleaned failures, rule.apply path v = .ok (cleaned, failures) ∧
      failures.map Failure.mark =
        if rule.head.required && rule.kind ≠ "misconfigured" then
          [Failure.missingAt (rule.place path)] else [] := by
  have hnone : entriesIn? v = none := by
    unfold entriesIn?
    rw [if_pos h]
  rw [apply_eq_verdict path (.inr hnone)]
  -- A misconfigured rule refuses everything, and not for want of an answer.
  by_cases hmisconfigured : rule.kind = "misconfigured"
  · cases rule with
    | misconfigured head reason => exact ⟨_, _, rfl, by simp [RuleHead.failures, kind]⟩
    | _ => simp [kind] at hmisconfigured
  · rw [verdict_eq hmisconfigured, if_pos h]
    refine ⟨_, _, rfl, ?_⟩
    cases hrequired : rule.head.required with
    | true =>
      show (rule.head.failures (rule.place path) [.required] v).map Failure.mark = _
      rw [RuleHead.marks_failures_singleton, if_pos (by simpa using hmisconfigured)]
      rfl
    | false =>
      show (rule.head.failures (rule.place path) [] v).map Failure.mark = []
      rw [RuleHead.failures_eq_nil_iff.mpr rfl]
      rfl

/-! ### Fields -/

namespace Field

theorem mem_compiledList {g : Field} {fs : List Field} :
    g ∈ compiledList fs ↔ ∃ f ∈ fs, g ∈ f.compiled := by
  induction fs with
  | nil => simp [compiledList]
  | cons f fs ih => rw [compiledList, List.mem_append, ih, List.exists_mem_cons_iff]

variable {f : Field}

/-- No pattern of the field or of a field in it ends its compilation. -/
def Compiles (f : Field) : Prop := ∀ g ∈ f.compiled, g.patternFault? = none

theorem Compiles.child (h : f.Compiles) (hsection : f.type = .repeatable) {k : Field}
    (hk : k ∈ f.children) : k.Compiles := by
  intro g hg
  refine h g ?_
  rw [compiled_eq, if_pos hsection]
  exact List.mem_cons_of_mem _ (mem_compiledList.mpr ⟨k, hk, hg⟩)

/-- A field whose answer counts as none lacks it if it demands one. -/
theorem Compiles.marks_of_unanswered (h : f.Compiles) {v : Value} (hv : v.isUnanswered = true)
    (path : String) : ∃ cleaned failures, f.rule.apply path v = .ok (cleaned, failures) ∧
      failures.map Failure.mark =
        (f.lackingAt (if path = "" then f.id else path)).map Failure.missingAt := by
  obtain ⟨cleaned, failures, happly, hmarks⟩ := f.rule.apply_of_unanswered hv path
  have hhead : f.rule.head = f.ruleHead := head_of_compile (compile_of_no_fault h)
  rw [Rule.place, hhead] at hmarks
  refine ⟨cleaned, failures, happly, hmarks.trans ?_⟩
  unfold lackingAt
  rw [apply_ite (List.map Failure.missingAt)]
  rfl

/-- The default of a rating passes. -/
theorem apply_rating (h : f.type = .rating) :
    f.rule.apply "" f.defaultAnswer = .ok (.int 0, []) := by
  have hcompile := compile_eq_plainRule (f := f) (by simp [h])
  rw [h] at hcompile
  rw [rule_of_compile hcompile]
  unfold defaultAnswer
  rw [h]
  simp [Rule.apply, Value.isUnanswered, Rule.applyPlain, answerNumber?, Value.number?, Rule.judged,
    RuleHead.failures, checkBounds, Number.toValue, Option.filter]

theorem nodup_names_blank (hnodup : (f.children.map (·.id)).Nodup) :
    (Members.names (f.children.map fun k => (k.id, Value.null))).Nodup := by
  rw [Members.names, List.map_map]
  exact hnodup

/-- In an entry without answers each sub-field that demands one lacks it. -/
theorem Compiles.marks_of_blankEntry (h : f.Compiles) (hsection : f.type = .repeatable)
    (hnodup : (f.children.map (·.id)).Nodup) (path : String) (n : Nat) :
    let rules := f.children.map fun k => (k.id, k.rule)
    let applyEntry := Rule.applyEntry f.ruleHead path fun path ms => Rule.applyNamed path rules ms
    ∃ cleaned failures, applyEntry n f.blankEntry = .ok (cleaned, failures) ∧
      failures.map Failure.mark =
        (f.children.flatMap fun k => k.lackingAt s!"{path}.{n}.{k.id}").map Failure.missingAt := by
  intro rules applyEntry
  have hnames := nodup_names_blank hnodup
  let blank : Members Value := f.children.map fun k => (k.id, .null)
  let entryPath := s!"{path}.{n}"
  -- Each sub-field finds null in the entry, and its rule lacks what it requires.
  have hpart : ∀ _ : Nat, ∀ k ∈ f.children, ∃ part failures,
      Rule.applyPart entryPath blank (k.id, k.rule) = .ok (part, failures) ∧
      failures.map Failure.mark =
        (k.lackingAt s!"{path}.{n}.{k.id}").map Failure.missingAt := by
    intro _ k hk
    obtain ⟨cleaned, failures, happly, hmarks⟩ :=
      (h.child hsection hk).marks_of_unanswered (v := .null) rfl s!"{entryPath}.{k.id}"
    rw [if_neg (Rule.dotted_ne_empty _ _)] at hmarks
    have hget : blank.get? k.id = some .null :=
      (Members.get?_eq_some_iff_mem hnames).mpr (List.mem_map_of_mem hk)
    refine ⟨(k.id, cleaned), failures, ?_, hmarks⟩
    rw [Rule.applyPart, hget]
    show (k.rule.apply _ .null).map _ = _
    rw [happly]
    rfl
  obtain ⟨cleaned, failures, hfailures, hmarks⟩ := keys_of_gather_items hpart 0
  refine ⟨.dict cleaned, failures, ?_, ?_⟩
  · show Rule.applyEntry f.ruleHead path _ n f.blankEntry = _
    rw [blankEntry, Members.ofPairs_of_nodup hnames, Rule.applyEntry,
      Rule.applyNamed_eq_gather _ _ _ 0, gather_of_map, hfailures]
    rfl
  · rw [hmarks, List.map_flatMap]

/-- In each entry without answers that a section has, its sub-fields fail by what they lack. -/
theorem Compiles.marks_of_entries (h : f.Compiles) (hsection : f.type = .repeatable)
    (hnodup : (f.children.map (·.id)).Nodup) {entries : Nat} (hentries : entries ≠ 0) :
    ∃ cleaned failures,
      f.rule.apply "" (.list (List.replicate entries f.blankEntry)) = .ok (cleaned, failures) ∧
        failures.map Failure.mark = ((List.range entries).flatMap fun i =>
          f.children.flatMap fun k => k.lackingAt s!"{f.id}.{i}.{k.id}").map Failure.missingAt := by
  -- With one name for each rule the entries are cleaned as the sub-fields are.
  have hnames : (Members.names (f.children.map fun k => (k.id, k.rule))).Nodup := by
    rw [Members.names, List.map_map]
    exact hnodup
  have hanswered : (Value.list (List.replicate entries f.blankEntry)).isUnanswered = false := by
    simp [Value.isUnanswered, hentries]
  let applyEntry := Rule.applyEntry f.ruleHead f.id fun path ms =>
    Rule.applyNamed path (f.children.map fun k => (k.id, k.rule)) ms
  have hentry : ∀ i, ∀ entry ∈ List.replicate entries f.blankEntry, ∃ cleaned failures,
      applyEntry i entry = .ok (cleaned, failures) ∧ failures.map Failure.mark =
        (f.children.flatMap fun k => k.lackingAt s!"{f.id}.{i}.{k.id}").map Failure.missingAt := by
    intro i entry hentry
    obtain rfl := List.eq_of_mem_replicate hentry
    exact h.marks_of_blankEntry hsection hnodup f.id i
  obtain ⟨cleaned, failures, hfailures, hmarks⟩ := keys_of_gather_numbers hentry 0
  refine ⟨.list cleaned, failures, ?_, ?_⟩
  · rw [rule_of_section hsection h, Members.ofPairs_of_nodup hnames, Rule.apply_repeatable,
      hanswered, if_neg Bool.false_ne_true]
    show (Rule.applyEntries f.ruleHead f.id _ 0 _ >>= _) = _
    rw [Rule.applyEntries_eq_gather, hfailures]
    rfl
  · rw [hmarks, List.length_replicate, ← List.range_eq_range', List.map_flatMap]

/-- Of an untouched answer its field fails by what is lacking. -/
theorem Compiles.marks_of_untouched (h : f.Compiles) (hnodup : (f.children.map (·.id)).Nodup)
    (entries : Nat) : ∃ cleaned failures,
      f.rule.apply "" (f.untouched entries) = .ok (cleaned, failures) ∧
        failures.map Failure.mark = (f.lacking entries).map Failure.missingAt := by
  unfold lacking untouched
  by_cases hsection : f.type = .repeatable
  · rw [if_pos hsection]
    cases entries with
    | zero =>
      rw [if_neg (by simp), if_neg (by simp [hsection])]
      exact h.marks_of_unanswered (v := .list []) rfl ""
    | succ n =>
      rw [if_pos ⟨hsection, n.succ_ne_zero⟩]
      exact h.marks_of_entries hsection hnodup n.succ_ne_zero
  · rw [if_neg hsection, if_neg (by simp [hsection])]
    by_cases hrating : f.type = .rating
    · rw [if_pos hrating]
      exact ⟨_, _, apply_rating hrating, rfl⟩
    · rw [if_neg hrating]
      exact h.marks_of_unanswered (isUnanswered_defaultAnswer hrating) ""

end Field

/-! ### Reports -/

namespace Schema

variable {s : Schema} {c : Contract} {answers : Members Value}

theorem Sound.nodup_childIds_of_mem (h : s.Sound) {f : Field} (hf : f ∈ s.fields) :
    (f.children.map (·.id)).Nodup := by
  have hids := h.nodup_childIds
  rw [List.map_flatMap] at hids
  exact (List.nodup_flatMap.mp hids).1 f hf

theorem compiles_of_compile (hc : s.compile = .ok c) {f : Field} (hf : f ∈ s.fields) :
    f.Compiles := by
  intro g hg
  exact no_fault_of_compile hc g (Field.mem_compiledList.mpr ⟨f, hf, hg⟩)

/-- The rules of the visible fields are asked in the order of the form. -/
theorem asked_of_compile (hn : s.fieldIds.Nodup) (hc : s.compile = .ok c) (visible : List String) :
    c.asked (some visible) =
      (s.fields.filter fun f => visible.contains f.id).map fun f => (f.id, f.rule) := by
  have hnames : (Members.names (s.fields.map fun f => (f.id, f.rule))).Nodup := by
    rw [Members.names, List.map_map]
    exact hn
  rw [compile_of_no_fault (no_fault_of_compile hc)] at hc
  obtain rfl := Except.ok.inj hc
  unfold Contract.asked
  dsimp only
  rw [Members.ofPairs_of_nodup hnames, List.filter_map]
  rfl

/-- Of untouched answers the visible fields, in the order of the form, fail by what is lacking, and
by nothing else. -/
theorem validate_untouched (h : s.Sound) (hc : s.compile = .ok c) {entries : Field → Nat}
    (hanswers : ∀ f ∈ s.fields, answers.get? f.id = some (f.untouched (entries f)))
    (visible : List String) :
    ∃ report, c.validate answers (some visible) = .ok report ∧
      report.isValid = report.failures.isEmpty ∧ report.failures.map Failure.mark =
        ((s.fields.filter fun f => visible.contains f.id).flatMap fun f =>
          f.lacking (entries f)).map Failure.missingAt := by
  -- What one field gives by itself; the report gathers it over the visible fields.
  have hfield : ∀ _ : Nat, ∀ f ∈ s.fields.filter fun f => visible.contains f.id, ∃ cleaned failures,
      Contract.applyRule answers (f.id, f.rule) = .ok (cleaned, failures) ∧
        failures.map Failure.mark = (f.lacking (entries f)).map Failure.missingAt := by
    intro _ f hmem
    have hf := List.mem_of_mem_filter hmem
    obtain ⟨cleaned, failures, happly, hmarks⟩ :=
      (compiles_of_compile hc hf).marks_of_untouched (h.nodup_childIds_of_mem hf) (entries f)
    refine ⟨(f.id, cleaned), failures, ?_, hmarks⟩
    rw [Contract.applyRule, hanswers f hf]
    show (f.rule.apply "" (f.untouched (entries f))).map _ = _
    rw [happly]
    rfl
  obtain ⟨cleaned, failures, hfailures, hmarks⟩ := keys_of_gather_items hfield 0
  have hfound : Contract.applyRules answers (c.asked (some visible)) =
      .ok ⟨cleaned, failures, Contract.warnings (c.asked (some visible))⟩ := by
    rw [Contract.applyRules_eq_gather _ _ 0, asked_of_compile h.nodup_ids hc, gather_of_map,
      hfailures]
    rfl
  refine ⟨_, Contract.validate_eq_ok_iff.mpr ⟨_, hfound, rfl⟩, rfl, ?_⟩
  rw [hmarks, List.map_flatMap]

end Schema

end Questionnaire
