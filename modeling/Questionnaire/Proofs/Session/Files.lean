import Questionnaire.Proofs.Session.Submission
import Questionnaire.Proofs.Validation.Answers

/-!
# What is handed on of uploaded files

Of a file that answers a field for files, its name, type and size are to be handed on, and nothing else
(`Value.ReducesTo`).  A submission sees to that at the top level, where it looks into lists but not into
tuples (`Value.reducesTo_fileSummary_iff`).  Answers to sub-fields are handed on as they are.  So
`Session.submit_reduces_iff` tells of each answer in an accepted submission whether it is reduced, and
`Session.submit_leaves_files` has two that are not.
-/

namespace Questionnaire

/-! ### Reduced files -/

namespace Value

/-- The value is an object of just the attributes that are handed on of a file, `null` where the file has
none. -/
def IsSummaryOf (p : Value) (attributes : Members Value) : Prop :=
  ∃ ms : Members Value, p = .dict ms ∧ ms.names.Perm fileAttributes ∧
    ∀ name ∈ fileAttributes, ms.get? name = some ((attributes.get? name).getD .null)

mutual

/-- What the value should be handed on as: files and objects as their summaries, also inside lists and
tuples, and anything else as it is. -/
def ReducesTo : Value → Value → Prop
  | .list vs, p => ∃ ps, p = .list ps ∧ ItemsReduceTo vs ps
  | .tuple vs, p => ∃ ps, (p = .list ps ∨ p = .tuple ps) ∧ ItemsReduceTo vs ps
  | .dict ms, p => p.IsSummaryOf ms
  | .file ms, p => if fileAttributes.all (Members.has ms) then p.IsSummaryOf ms else p = .file ms
  | v, p => p = v

/-- What the items of a container should be handed on as. -/
def ItemsReduceTo : List Value → List Value → Prop
  | [], ps => ps = []
  | v :: vs, ps => ∃ q qs, ps = q :: qs ∧ v.ReducesTo q ∧ ItemsReduceTo vs qs

end

mutual

/-- The tuples that the value consists of, itself or in its lists, have nothing to reduce. -/
def TuplesReduced : Value → Prop
  | .list vs => ItemsTuplesReduced vs
  | .tuple vs => ItemsReduceTo vs vs
  | _ => True

/-- The tuples in the items have nothing to reduce. -/
def ItemsTuplesReduced : List Value → Prop
  | [] => True
  | v :: vs => v.TuplesReduced ∧ ItemsTuplesReduced vs

end

/-- A tuple handed on as it is was reduced when its items were. -/
theorem reducesTo_tuple_self_iff {vs : List Value} :
    (Value.tuple vs).ReducesTo (.tuple vs) ↔ ItemsReduceTo vs vs := by
  rw [ReducesTo]
  constructor
  · rintro ⟨ps, hps | hps, h⟩
    · cases hps
    · cases hps
      exact h
  · intro h
    exact ⟨vs, .inr rfl, h⟩

/-- A file is reduced to its attributes where it has them all, and left otherwise. -/
theorem reducesTo_file (ms : Members Value) (p : Value) : (Value.file ms).ReducesTo p ↔
    if fileAttributes.all (Members.has ms) then p.IsSummaryOf ms else p = .file ms := Iff.rfl

/-- The attributes of a file are a summary of it. -/
theorem isSummaryOf_attributes (ms : Members Value) :
    (Value.dict (fileAttributes.map fun name => (name, (ms.get? name).getD .null))).IsSummaryOf ms := by
  refine ⟨_, rfl, .refl _, fun name hname => ?_⟩
  simp only [fileAttributes, List.mem_cons, List.not_mem_nil, or_false] at hname
  rcases hname with rfl | rfl | rfl <;> rfl

mutual

/-- The summary of a value is what it should be handed on as iff its tuples have nothing to reduce. -/
theorem reducesTo_fileSummary_iff : ∀ v : Value, v.ReducesTo v.fileSummary ↔ v.TuplesReduced
  | .list vs => by
    -- Items of a list are reduced one by one; a tuple is handed on as it is.
    rw [fileSummary, ReducesTo, TuplesReduced, ← itemsReduceTo_fileSummaries_iff vs]
    simp
  | .tuple vs => reducesTo_tuple_self_iff
  | .dict ms => iff_of_true (isSummaryOf_attributes ms) trivial
  | .file ms => by
    refine iff_of_true ?_ trivial
    by_cases hall : fileAttributes.all (Members.has ms) = true
    · rw [fileSummary, if_pos hall, reducesTo_file, if_pos hall]
      exact isSummaryOf_attributes ms
    · rw [fileSummary, if_neg hall, reducesTo_file, if_neg hall]
  | .missing | .null | .bool _ | .int _ | .float _ | .str _ | .set _ | .bytes _ | .date _
  | .record _ _ => iff_of_true rfl trivial

/-- The items of a list are all reduced when those of its tuples are. -/
theorem itemsReduceTo_fileSummaries_iff :
    ∀ vs : List Value, ItemsReduceTo vs (fileSummaries vs) ↔ ItemsTuplesReduced vs
  | [] => iff_of_true rfl trivial
  | v :: vs => by
    rw [fileSummaries, ItemsReduceTo, ItemsTuplesReduced, ← reducesTo_fileSummary_iff v,
      ← itemsReduceTo_fileSummaries_iff vs]
    simp

end

/-- What counts as no answer is its own summary, except for an empty object. -/
theorem reducesTo_self_of_not_isTruthy {v : Value} (h : v.isTruthy = false) :
    v.ReducesTo v ↔ v ≠ .dict [] ∧ v.TuplesReduced := by
  cases v with
  -- The only falsy value that is not its own summary is the empty mapping.
  | dict ms =>
    obtain rfl : ms = [] := by simpa [isTruthy] using h
    refine iff_of_false ?_ fun h => h.1 rfl
    rintro ⟨ms, hms, hperm, -⟩
    cases hms
    exact absurd hperm.length_eq (by decide)
  | list vs =>
    obtain rfl : vs = [] := by simpa [isTruthy] using h
    exact iff_of_true ⟨[], rfl, rfl⟩ ⟨nofun, trivial⟩
  | tuple vs =>
    obtain rfl : vs = [] := by simpa [isTruthy] using h
    exact iff_of_true ⟨[], .inr rfl, rfl⟩ ⟨nofun, rfl⟩
  | file ms => cases h
  | _ => exact iff_of_true rfl ⟨nofun, trivial⟩

end Value

/-- The answer to a field for files is handed on as it should be iff its tuples have nothing to reduce
and it is no empty object. -/
theorem Field.reducesTo_submitted_iff {f : Field} (hfile : f.type.isFile = true) (v : Value) :
    v.ReducesTo (f.submitted v) ↔ v ≠ .dict [] ∧ v.TuplesReduced := by
  unfold submitted
  rw [hfile, Bool.true_and]
  cases hv : v.isTruthy with
  | true =>
    -- An empty object does not count as true, so the summary is not made of one.
    rw [if_pos rfl, Value.reducesTo_fileSummary_iff, iff_and_self]
    rintro - rfl
    cases hv
  | false =>
    rw [if_neg Bool.false_ne_true]
    exact Value.reducesTo_self_of_not_isTruthy hv

/-! ### Places in answers -/

/-- The member with a name of an entry in the answer to a section. -/
def Value.inEntry? (v : Value) (place : Nat × String) : Option Value :=
  match (Rule.entryList? v).bind (·[place.1]?) with
  | some (.dict ms) => Members.get? ms place.2
  | _ => none

/-- What stands at the end of a path through entries. -/
def Value.at? (v : Value) (path : List (Nat × String)) : Option Value := path.foldlM Value.inEntry? v

/-- A value is in an entry when the section lists that entry and the entry names the value. -/
theorem Value.inEntry?_eq_some_iff {v u : Value} {i : Nat} {name : String} :
    v.inEntry? (i, name) = some u ↔ ∃ vs ms, Rule.entryList? v = some vs ∧ vs[i]? = some (.dict ms) ∧
      Members.get? ms name = some u := by
  unfold inEntry?
  constructor
  · intro h
    split at h
    · next ms hms =>
      obtain ⟨vs, hvs, hi⟩ := Option.bind_eq_some_iff.mp hms
      exact ⟨vs, ms, hvs, hi, h⟩
    · cases h
  · rintro ⟨vs, ms, hvs, hi, hu⟩
    dsimp only
    rw [hvs, Option.bind_some, hi]
    exact hu

/-- A path leads from a field to itself, or from a section through one of its sub-fields. -/
inductive Field.Leads : Field → List (Nat × String) → Field → Prop
  | self (f : Field) : Leads f [] f
  | entry {f k g : Field} {path : List (Nat × String)} (i : Nat) (hsection : f.type = .repeatable)
    (hk : k.IsLastIn f.children) (h : Leads k path g) : Leads f ((i, k.id) :: path) g

/-- What is found in an entry of an answer to a section is cleaned by the rule of its sub-field, and is
found in the same place then. -/
theorem Rule.inEntry?_of_apply {head : RuleHead} {rules : List (String × Rule)} {p : String}
    {v w u : Value} (h : (Rule.repeatable head rules).apply p v = .ok (w, [])) {i : Nat} {name : String}
    {rule : Rule} (hrule : Members.get? rules name = some rule) (hu : v.inEntry? (i, name) = some u) :
    ∃ q w', w.inEntry? (i, name) = some w' ∧ rule.apply q u = .ok (w', []) := by
  obtain ⟨vs, ms, hvs, hi, hget⟩ := Value.inEntry?_eq_some_iff.mp hu
  rcases entries_of_apply h with ⟨hempty, -⟩ | ⟨vs', ws, hvs', -, rfl, hws⟩
  · -- Where there is no answer, there is no entry.
    have hnil : vs.isEmpty = true := (isUnanswered_of_entryList? hvs).symm.trans hempty
    rw [List.isEmpty_iff.mp hnil] at hi
    cases hi
  · obtain rfl := Option.some.inj (hvs.symm.trans hvs')
    -- The cleaned entry stands where the entry stood, and each sub-field in it went through its
    -- rule.
    obtain ⟨hlength, hall⟩ := exists_entry_of_applyEntries hws
    have hbound : i < ws.length := by
      rw [hlength]
      exact (List.getElem?_eq_some_iff.mp hi).1
    have hcleaned : ws[i]? = some ws[i] := List.getElem?_eq_getElem hbound
    obtain ⟨q, ms', cleaned, hi', hdict, happly⟩ := hall i _ hcleaned
    obtain rfl := Value.dict.inj (Option.some.inj (hi.symm.trans hi'))
    obtain ⟨w', hw', hrule'⟩ := get?_of_applyNamed happly hrule
    rw [hget, Option.getD_some] at hrule'
    exact ⟨_, w', Value.inEntry?_eq_some_iff.mpr ⟨ws, cleaned, rfl, hdict ▸ hcleaned, hw'⟩, hrule'⟩

/-- What stands at the end of a path in an accepted answer is accepted by the rule of the field that the
path leads to, and stands there then as cleaned. -/
theorem Field.Leads.at?_of_apply {f g : Field} {path : List (Nat × String)} (h : f.Leads path g)
    {rule : Rule} {issues : List Issue} (hcompile : f.compile = .ok (rule, issues)) {p : String}
    {v w u : Value} (happly : rule.apply p v = .ok (w, [])) (hu : v.at? path = some u) :
    ∃ rule issues q w', g.compile = .ok (rule, issues) ∧ w.at? path = some w' ∧
      rule.apply q u = .ok (w', []) := by
  -- The path is walked down in the answer and in the cleaned one at once.
  induction h generalizing rule issues p v w with
  | self f =>
    obtain rfl := Option.some.inj hu
    exact ⟨rule, issues, p, w, hcompile, rfl, happly⟩
  | @entry f k g path i hsection hk _ ih =>
    obtain ⟨v', hv', hu⟩ := Option.bind_eq_some_iff.mp hu
    obtain ⟨rules, hrules, rfl⟩ := exists_rules_of_section hsection hcompile
    obtain ⟨rule, found, hget, hcompile'⟩ := exists_compile_of_isLastIn hrules hk
    obtain ⟨q, w', hw', happly'⟩ := Rule.inEntry?_of_apply happly hget hv'
    obtain ⟨rule, issues, q, w'', hg, hat, hrule⟩ := ih hcompile' happly' hu
    refine ⟨rule, issues, q, w'', hg, ?_, hrule⟩
    exact Option.bind_eq_some_iff.mpr ⟨w', hw', hat⟩

/-- The rule of a field for files accepts anything. -/
theorem Field.rule_of_file {f : Field} (hfile : f.type.isFile = true) {rule : Rule} {issues : List Issue}
    (hcompile : f.compile = .ok (rule, issues)) :
    ∃ types size files, rule = .any f.ruleHead types size files := by
  -- A section is no file field, so the rule is the plain one of the type.
  have hsection : f.type ≠ .repeatable := by
    intro htype
    rw [htype] at hfile
    cases hfile
  rw [compile_eq_plainRule hsection] at hcompile
  unfold plainRule at hcompile
  cases htype : f.type with
  | file | image | attachment =>
    rw [htype] at hcompile
    cases hcompile
    exact ⟨_, _, _, rfl⟩
  | _ =>
    rw [htype] at hfile
    cases hfile

/-- The answer to a field for files is cleaned to itself. -/
theorem Field.eq_of_apply_file {f : Field} (hfile : f.type.isFile = true) {rule : Rule}
    {issues : List Issue} (hcompile : f.compile = .ok (rule, issues)) {p : String} {v w : Value}
    (hv : v ≠ .missing) (h : rule.apply p v = .ok (w, [])) : w = v := by
  obtain ⟨types, size, files, rfl⟩ := rule_of_file hfile hcompile
  rw [Rule.apply_eq (by simp [Rule.kind]) (by simp [Rule.kind])] at h
  split at h
  · obtain ⟨-, rfl⟩ := Rule.applyEmpty_eq_iff.mp (Except.ok.inj h)
    cases v with
    | missing => exact absurd rfl hv
    | _ => rfl
  · exact (Prod.mk.inj (Except.ok.inj h)).1.symm

/-! ### Submissions -/

namespace Session

/-- A value is given as an answer for files: to the visible field itself, or in the entries of its answer
to the sub-field that a path leads to. -/
structure FileAnswer (s : Session) (f : Field) (path : List (Nat × String)) (u : Value) : Prop where
  visible : f ∈ s.visibleFields
  leads : ∃ g, f.Leads path g ∧ g.type.isFile = true
  given : ∃ v, s.answers.get? f.id = some v ∧ v.at? path = some u
  present : u ≠ .missing

/-- The answer to the field is checked by the rule of the field, and is handed on under its label: the
rule is in the contract, and no later visible field has the label. -/
structure HandsOn (s : Session) (f : Field) : Prop where
  rule : ∃ rule issues, s.contract.rule? f.id = some rule ∧ f.compile = .ok (rule, issues)
  label : ∃ before after, s.visibleFields = before ++ f :: after ∧ f.label ∉ after.map (·.label)

end Session

/-- In the place of the value something is handed on, and it is what the value should be handed on
as. -/
def Submission.Reduces (sub : Submission) (f : Field) (path : List (Nat × String)) (u : Value) : Prop :=
  ∃ data v p, sub.data = some data ∧ data.get? f.label = some v ∧ v.at? path = some p ∧ u.ReducesTo p

namespace Session

variable {s : Session} {sub : Submission}

/-- In a session that is bound to a form with distinct ids every visible field hands on its answer, if
the labels are distinct. -/
theorem handsOn_of_bound (hbound : s.Bound) (hids : (s.schema.fields.map (·.id)).Nodup)
    (hlabels : (s.visibleFields.map (·.label)).Nodup) {f : Field} (hf : f ∈ s.visibleFields) :
    s.HandsOn f := by
  have hlast : f.IsLastIn s.schema.fields := Field.isLastIn_of_nodup hids (List.mem_filter.mp hf).1
  exact ⟨Schema.exists_rule?_of_isLastIn hbound hlast, exists_last_of_nodup hlabels hf⟩

/-- A file answer of a field that hands on its answer stands where it stood when it is cleaned. -/
theorem FileAnswer.exists_cleaned (h : s.submit = .ok sub) (ha : sub.accepted = true) {f : Field}
    {path : List (Nat × String)} {u : Value} (hf : s.HandsOn f) (hu : s.FileAnswer f path u) :
    ∃ data w, sub.data = some data ∧ data.get? f.label = some (f.submitted w) ∧
      w.at? path = some u := by
  obtain ⟨hvalidate, hvalid, hdata⟩ := validate_of_submit h ha
  obtain ⟨cleaned, hcleaned, -, hrules⟩ := Contract.cleaned_of_validate hvalidate hvalid
  rw [hcleaned, Option.getD_some] at hdata
  obtain ⟨rule, issues, hrule, hcompile⟩ := hf.rule
  obtain ⟨before, after, hsplit, hlast⟩ := hf.label
  obtain ⟨v, hv, hat⟩ := hu.given
  obtain ⟨g, hleads, hfile⟩ := hu.leads
  have hvisible : (some s.visible).all (·.contains f.id) = true := (List.mem_filter.mp hu.visible).2
  obtain ⟨w, hw, happly⟩ := hrules f.id rule (Contract.get?_asked.mpr ⟨hvisible, hrule⟩)
  rw [hv, Option.getD_some] at happly
  -- At the end of the path the answer meets the rule of a field for files, which alters nothing.
  obtain ⟨rule', issues', q, u', hcompile', hat', happly'⟩ := hleads.at?_of_apply hcompile happly hat
  obtain rfl := Field.eq_of_apply_file hfile hcompile' hu.present happly'
  exact ⟨_, w, hdata, get?_submittedData hsplit hlast hw, hat'⟩

/-- Of a visible field that hands on its answer, a file answer in an accepted submission is reduced iff it
answers the field itself, is no empty object and has nothing to reduce in tuples, or answers a sub-field
and has nothing to reduce at all. -/
theorem submit_reduces_iff (h : s.submit = .ok sub) (ha : sub.accepted = true) {f : Field}
    {path : List (Nat × String)} {u : Value} (hf : s.HandsOn f) (hu : s.FileAnswer f path u) :
    sub.Reduces f path u ↔
      (path = [] ∧ u ≠ .dict [] ∧ u.TuplesReduced) ∨ (path ≠ [] ∧ u.ReducesTo u) := by
  obtain ⟨data, w, hdata, hget, hat⟩ := hu.exists_cleaned h ha hf
  have hplace : sub.Reduces f path u ↔ ∃ p, (f.submitted w).at? path = some p ∧ u.ReducesTo p := by
    constructor
    · rintro ⟨data', v, p, hdata', hv, hp, hreduces⟩
      obtain rfl := Option.some.inj (hdata.symm.trans hdata')
      obtain rfl := Option.some.inj (hget.symm.trans hv)
      exact ⟨p, hp, hreduces⟩
    · rintro ⟨p, hp, hreduces⟩
      exact ⟨data, _, p, hdata, hget, hp, hreduces⟩
  obtain ⟨g, hleads, hfile⟩ := hu.leads
  -- An empty path ends at the field itself, any other one begins at a section.
  rw [hplace]
  cases hleads with
  | self =>
    obtain rfl := Option.some.inj hat
    have hself : (∃ p, (f.submitted w).at? [] = some p ∧ w.ReducesTo p) ↔
        w.ReducesTo (f.submitted w) := by
      constructor
      · rintro ⟨p, hp, hreduces⟩
        rwa [Option.some.inj hp]
      · exact fun hreduces => ⟨_, rfl, hreduces⟩
    rw [hself, Field.reducesTo_submitted_iff hfile]
    simp
  | entry i hsection hk hleads =>
    -- The answer to a section is handed on as it was cleaned.
    have hsame : f.submitted w = w := by
      unfold Field.submitted
      rw [hsection]
      rfl
    rw [hsame, hat]
    simp

/-- A field for the file of a cover. -/
def coverField : Field := ⟨"cover", .file, "Cover", true, none, none, none, none, none, none⟩

/-- A field for an image of a document. -/
def scanField : Field := ⟨"scan", .image, "Scan", false, none, none, none, none, none, none⟩

/-- A section of documents. -/
def documentsField : Field :=
  ⟨"docs", .repeatable, "Documents", false, none, none, none, none, none, some [scanField]⟩

/-- A form of a cover and of documents. -/
def archiveForm : Schema := ⟨"Archive", "", [coverField, documentsField], ⟨true, true, ""⟩⟩

/-- The answers of a cover and of one document. -/
def archiveAnswers (cover scan : Value) : Members Value :=
  [("cover", cover), ("docs", .list [.dict [("scan", scan)]])]

/-- The attributes of a file that are handed on. -/
def summarised : Members Value := [("name", .str "a.png"), ("type", .str "image/png"), ("size", .int 2)]

/-- The attributes of a file with its content. -/
def uploaded : Members Value := summarised ++ [("content", .bytes [1, 2])]

/-- In a new session each of the answers is a file answer of a field that hands it on. -/
theorem archive_of_new {cover scan : Value}
    (hs : Session.new .standard archiveForm (.dict (archiveAnswers cover scan)) = .ok s)
    (hcover : cover ≠ .missing) (hscan : scan ≠ .missing) :
    (s.HandsOn coverField ∧ s.FileAnswer coverField [] cover) ∧
      s.HandsOn documentsField ∧ s.FileAnswer documentsField [(0, "scan")] scan := by
  obtain ⟨hschema, -, hinitial, capacity, -, -, hfound⟩ := new_eq_ok hs
  have hanswers : archiveAnswers cover scan = s.answers := Except.ok.inj hinitial
  have hnames : (archiveAnswers cover scan).names.Nodup := by
    show ["cover", "docs"].Nodup
    decide
  have hvisible : ["cover", "docs"] = s.visible := by
    rw [← hanswers, Evaluator.visible_new archiveForm.fields capacity (.dict _ hnames)] at hfound
    -- Both fields are shown whatever is answered: neither has a condition.
    exact Except.ok.inj hfound
  have hfields : s.visibleFields = [coverField, documentsField] := by
    unfold visibleFields
    rw [hschema, ← hvisible]
    rfl
  have hhandsOn : ∀ f ∈ s.visibleFields, s.HandsOn f := by
    refine fun f hf => handsOn_of_bound (bound_of_new hs) ?_ ?_ hf
    · rw [hschema]
      decide
    · rw [hfields]
      decide
  have hcoverVisible : coverField ∈ s.visibleFields := by simp [hfields]
  have hdocsVisible : documentsField ∈ s.visibleFields := by simp [hfields]
  -- The cover is a top-level answer and the scan one of the first entry's.
  refine ⟨⟨hhandsOn _ hcoverVisible, hcoverVisible, ⟨_, .self _, rfl⟩, ⟨cover, ?_, rfl⟩, hcover⟩,
    hhandsOn _ hdocsVisible, hdocsVisible, ⟨scanField, ?_, rfl⟩,
    ⟨.list [.dict [("scan", scan)]], ?_, rfl⟩, hscan⟩
  · rw [← hanswers]
    rfl
  · exact .entry (k := scanField) 0 rfl ⟨[], [], rfl, List.not_mem_nil⟩ (.self _)
  · rw [← hanswers]
    rfl

/-- A file and an object in a list are reduced; so is the answer to a sub-field that has nothing else to
begin with. -/
theorem submit_reduces_listed_files :
    let cover : Value := .list [.dict uploaded, .file uploaded]
    ∃ s sub, Session.new .standard archiveForm (.dict (archiveAnswers cover (.dict summarised))) = .ok s ∧
      s.submit = .ok sub ∧ sub.accepted = true ∧
      sub.data = some [("Cover", .list [.dict summarised, .dict summarised]),
        ("Documents", .list [.dict [("scan", .dict summarised)]])] ∧
      sub.Reduces coverField [] cover ∧
      sub.Reduces documentsField [(0, "scan")] (.dict summarised) := by
  intro cover
  obtain ⟨s, sub, hs, hsub, ha, hdata⟩ : ∃ s sub,
      Session.new .standard archiveForm (.dict (archiveAnswers cover (.dict summarised))) = .ok s ∧
      s.submit = .ok sub ∧ sub.accepted = true ∧
      sub.data = some [("Cover", .list [.dict summarised, .dict summarised]),
        ("Documents", .list [.dict [("scan", .dict summarised)]])] := ⟨_, _, rfl, rfl, rfl, rfl⟩
  obtain ⟨⟨hcover, hcoverFile⟩, hdocs, hdocsFile⟩ := archive_of_new hs nofun nofun
  refine ⟨s, sub, hs, hsub, ha, hdata, ?_, ?_⟩
  -- A list at the top level is reduced item by item; the scan was a summary already.
  · exact (submit_reduces_iff hsub ha hcover hcoverFile).mpr (.inl ⟨rfl, nofun, trivial, trivial, trivial⟩)
  · refine (submit_reduces_iff hsub ha hdocs hdocsFile).mpr (.inr ⟨List.cons_ne_nil _ _, ?_⟩)
    exact Value.isSummaryOf_attributes summarised

/-- A file with its content is not reduced. -/
theorem not_reducesTo_uploaded : ¬(Value.dict uploaded).ReducesTo (.dict uploaded) := by
  rintro ⟨ms, hms, hperm, -⟩
  cases hms
  exact absurd hperm.length_eq (by decide)

/-- An object in a tuple is handed on with its content, and so is the answer to a sub-field. -/
theorem submit_leaves_files :
    let cover : Value := .tuple [.dict uploaded]
    ∃ s sub, Session.new .standard archiveForm (.dict (archiveAnswers cover (.dict uploaded))) = .ok s ∧
      s.submit = .ok sub ∧ sub.accepted = true ∧
      sub.data = some [("Cover", cover), ("Documents", .list [.dict [("scan", .dict uploaded)]])] ∧
      s.FileAnswer coverField [] cover ∧ ¬sub.Reduces coverField [] cover ∧
      s.FileAnswer documentsField [(0, "scan")] (.dict uploaded) ∧
      ¬sub.Reduces documentsField [(0, "scan")] (.dict uploaded) := by
  intro cover
  obtain ⟨s, sub, hs, hsub, ha, hdata⟩ : ∃ s sub,
      Session.new .standard archiveForm (.dict (archiveAnswers cover (.dict uploaded))) = .ok s ∧
      s.submit = .ok sub ∧ sub.accepted = true ∧
      sub.data = some [("Cover", cover), ("Documents", .list [.dict [("scan", .dict uploaded)]])] :=
    ⟨_, _, rfl, rfl, rfl, rfl⟩
  obtain ⟨⟨-, hcover⟩, -, hdocs⟩ := archive_of_new hs nofun nofun
  refine ⟨s, sub, hs, hsub, ha, hdata, hcover, ?_, hdocs, ?_⟩
  -- A summary of a tuple would be a tuple of summaries, and the item is not one.
  · rintro ⟨data, v, p, hdata', hv, hp, hreduces⟩
    obtain rfl := Option.some.inj (hdata.symm.trans hdata')
    cases hv
    cases hp
    obtain ⟨q, qs, heq, hitem, -⟩ := Value.reducesTo_tuple_self_iff.mp hreduces
    obtain ⟨rfl, -⟩ := List.cons.inj heq
    exact not_reducesTo_uploaded hitem
  -- In the section the whole upload came back.
  · rintro ⟨data, v, p, hdata', hv, hp, hreduces⟩
    obtain rfl := Option.some.inj (hdata.symm.trans hdata')
    cases hv
    cases hp
    exact not_reducesTo_uploaded hreduces

end Session
end Questionnaire
