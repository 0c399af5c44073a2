import Questionnaire.Proofs.Number.Digits
import Questionnaire.Proofs.Store.Commit
import Questionnaire.Proofs.Validation.Positions

/-!
# Keys of failures

A report files messages under keys, which are the texts of positions.  The keys of a form tell the
positions apart when no two positions of fields that can be objected to have one text
(`Schema.KeysDistinct`), and then no report mixes the messages of different positions; otherwise
some report does (`Schema.keysIdentify_iff`).  Without dots in the ids of top-level fields all is
well (`Schema.Sound.keysDistinct_of_no_dot`).
-/

namespace Questionnaire

/-! ### Messages under a key -/

/-- Under a key there are the messages of the failures with it, in their order. -/
theorem Report.get?_messagesByField (r : Report) (key : String) : r.messagesByField.get? key =
    if r.failuresOf key = [] then none else some ((r.failuresOf key).map (·.message)) := by
  -- The messages are collected by a fold, so the claim is generalized over what it has so far.
  have hfold (fs : List Failure) (ms : Members (List String)) :
      (fs.foldl (fun ms f => ms.put f.fieldId ((ms.get? f.fieldId).getD [] ++ [f.message]))
        ms).get? key =
        if fs.filter (·.fieldId = key) = [] then ms.get? key
        else some ((ms.get? key).getD [] ++ (fs.filter (·.fieldId = key)).map (·.message)) := by
    induction fs generalizing ms with
    | nil => rfl
    | cons f fs ih =>
      rw [List.foldl_cons, ih, Members.get?_put, List.filter_cons]
      by_cases hkey : f.fieldId = key
      · subst hkey
        by_cases hnone : fs.filter (·.fieldId = f.fieldId) = []
        · simp [hnone]
        · simp [hnone]
      · simp [hkey]
  exact hfold r.failures []

/-! ### Positions with one text -/

/-- Texts without a dot are told apart by texts that begin with them and go on with a
dot, if at all. -/
theorem eq_of_append_eq {s t r r' : String} (hs : '.' ∉ s.toList) (ht : '.' ∉ t.toList)
    (hr : r = "" ∨ ∃ x, r = "." ++ x) (hr' : r' = "" ∨ ∃ x, r' = "." ++ x) (h : s ++ r = t ++ r') :
    s = t ∧ r = r' := by
  -- The part up to the first dot determines the identifier, since no identifier holds one.
  have hstem : ∀ s r : String, '.' ∉ s.toList → (r = "" ∨ ∃ x, r = "." ++ x) →
      (s ++ r).toList.takeWhile (· ≠ '.') = s.toList := by
    intro s r hs hr
    have hkept : ∀ c ∈ s.toList, decide (c ≠ '.') = true := by
      intro c hc
      simpa using fun heq : c = '.' => hs (heq ▸ hc)
    rw [String.toList_append, List.takeWhile_append_of_pos hkept]
    rcases hr with rfl | ⟨x, rfl⟩
    · simp
    · rw [String.toList_append]
      simp
  have heq : s = t := by
    rw [← String.toList_inj, ← hstem s r hs hr, ← hstem t r' ht hr', h]
  subst heq
  exact ⟨rfl, (String.append_right_inj s).mp h⟩

theorem dot_append_ne_empty (s : String) : "." ++ s ≠ "" := by simp

theorem dot_not_mem_toString (n : Nat) : '.' ∉ (toString n).toList := by
  intro h
  rw [show toString n = Nat.repr n from rfl, Nat.toList_repr] at h
  exact absurd (IsDigits.toDigits n _ h) (by decide)

namespace Position

/-- The text of what follows the number of the first entry. -/
def rest (p : Position) : String :=
  match p.path with
  | [] => ""
  | (_, name) :: path => "." ++ (name ++ trail path p.entry)

theorem rest_eq_empty_or_dot (p : Position) : p.rest = "" ∨ ∃ x, p.rest = "." ++ x := by
  unfold rest
  split
  · exact .inl rfl
  · exact .inr ⟨_, rfl⟩

/-- What follows the field is a dot, the number of an entry and the rest, or nothing. -/
theorem text_eq (p : Position) :
    p.text = p.field ++ (p.index?.map fun n => "." ++ (toString n ++ p.rest)).getD "" := by
  obtain ⟨field, path, entry⟩ := p
  refine congrArg (field ++ ·) ?_
  match path, entry with
  | [], none => rfl
  | [], some n =>
    show "." ++ toString n = "." ++ (toString n ++ "")
    rw [String.append_empty]
  | (n, name) :: path, entry =>
    simp only [trail, String.append_assoc]
    rfl

theorem rest_of_index?_eq_none {p : Position} (h : p.index? = none) : p.rest = "" := by
  unfold index? at h
  unfold rest
  cases hpath : p.path with
  | nil => rfl
  | cons e path =>
    rw [hpath] at h
    cases h

/-- A text tells the number and the rest, if the field is known. -/
theorem index?_eq_of_text_eq {p q : Position} (hfield : p.field = q.field) (h : p.text = q.text) :
    p.index? = q.index? ∧ p.rest = q.rest := by
  rw [text_eq, text_eq, hfield, String.append_right_inj] at h
  -- The index is written before the rest, and digits hold no dot.
  cases hp : p.index? with
  | none =>
    cases hq : q.index? with
    | none => exact ⟨rfl, (rest_of_index?_eq_none hp).trans (rest_of_index?_eq_none hq).symm⟩
    | some m =>
      rw [hp, hq] at h
      exact absurd h.symm (dot_append_ne_empty _)
  | some n =>
    cases hq : q.index? with
    | none =>
      rw [hp, hq] at h
      exact absurd h (dot_append_ne_empty _)
    | some m =>
      rw [hp, hq] at h
      obtain ⟨hnumber, hrest⟩ := eq_of_append_eq (dot_not_mem_toString n) (dot_not_mem_toString m)
        p.rest_eq_empty_or_dot q.rest_eq_empty_or_dot ((String.append_right_inj ".").mp h)
      exact ⟨congrArg some (toString_nat_inj hnumber), hrest⟩

/-- The position is that of a field, of an entry, or of a sub-field of an entry. -/
def Shallow (p : Position) : Prop := p.path = [] ∨ ∃ n name, p.path = [(n, name)] ∧ p.entry = none

/-- In the answer to one field distinct shallow positions have distinct texts. -/
theorem Shallow.eq_of_text_eq {p q : Position} (hp : p.Shallow) (hq : q.Shallow)
    (hfield : p.field = q.field) (h : p.text = q.text) : p = q := by
  obtain ⟨hindex, hrest⟩ := index?_eq_of_text_eq hfield h
  obtain ⟨field, path, entry⟩ := p
  obtain ⟨field', path', entry'⟩ := q
  obtain rfl : field = field' := hfield
  rcases hp with rfl | ⟨n, name, rfl, rfl⟩ <;> rcases hq with rfl | ⟨m, name', rfl, rfl⟩
  · obtain rfl : entry = entry' := hindex
    rfl
  · exact absurd hrest.symm (dot_append_ne_empty _)
  · exact absurd hrest (dot_append_ne_empty _)
  · obtain rfl : n = m := Option.some.inj hindex
    obtain rfl : name = name' := by
      have hname := (String.append_right_inj ".").mp hrest
      rwa [trail, String.append_empty, String.append_empty] at hname
    rfl

/-- Without dots in the fields a text tells the field. -/
theorem field_eq_of_text_eq {p q : Position} (hp : '.' ∉ p.field.toList) (hq : '.' ∉ q.field.toList)
    (h : p.text = q.text) : p.field = q.field := by
  have hrest : ∀ p : Position, (p.index?.map fun n => "." ++ (toString n ++ p.rest)).getD "" = "" ∨
      ∃ x, (p.index?.map fun n => "." ++ (toString n ++ p.rest)).getD "" = "." ++ x := by
    intro p
    cases p.index? with
    | none => exact .inl rfl
    | some n => exact .inr ⟨_, rfl⟩
  rw [text_eq, text_eq] at h
  exact (eq_of_append_eq hp hq (hrest p) (hrest q) h).1

end Position

namespace Schema

/-- No two positions of fields that do not accept everything have one text. -/
def KeysDistinct (s : Schema) : Prop :=
  ∀ p q f g, s.At p f → f.Refuses → s.At q g → g.Refuses → p.text = q.text → p = q

variable {s : Schema} (hs : s.Sound)
include hs

/-- Sections of a sound form have no sections in them. -/
theorem Sound.shallow {p : Position} {g : Field} (h : s.At p g) : p.Shallow := by
  obtain ⟨f, hf, -, hleads, hentry⟩ := h
  obtain ⟨field, path, entry⟩ := p
  cases hleads with
  | self => exact .inl rfl
  | @entry _ k _ path i _ hk hleads =>
    have hleaf := hs.leaf_of_nested f hf.mem k (Field.mem_treeList.mpr ⟨k, hk.mem, .inl rfl⟩)
    cases hleads with
    | self =>
      refine .inr ⟨i, g.id, rfl, Option.not_isSome_iff_eq_none.mp fun hsome => ?_⟩
      exact hleaf.1 (hentry hsome)
    | entry _ hsection => exact absurd hsection hleaf.1

/-- Where no id of a top-level field has a dot, the keys of a sound form tell positions apart. -/
theorem Sound.keysDistinct_of_no_dot (hdot : ∀ id ∈ s.fieldIds, '.' ∉ id.toList) :
    s.KeysDistinct := by
  intro p q f g hp _ hq _ htext
  have hfield {p : Position} {f : Field} (hp : s.At p f) : '.' ∉ p.field.toList := by
    obtain ⟨k, hk, hat⟩ := hp
    rw [hat.field_eq]
    exact hdot k.id (List.mem_map_of_mem hk.mem)
  exact (hs.shallow hp).eq_of_text_eq (hs.shallow hq)
    (Position.field_eq_of_text_eq (hfield hp) (hfield hq) htext) htext

end Schema

/-! ### Answers that are objected to -/

namespace Field

variable {f : Field} {rule : Rule} {issues : List Issue}

/-- An answer that the field does not accept, unless it accepts everything. -/
def badAnswer (f : Field) : Value := if f.required then .null else .bool true

/-- An answer with a value in an entry at the end of a path, or with a value that is no
entry there. -/
def answerAt (v : Value) : List (Nat × String) → Option Nat → Value
  | [], none => v
  | [], some n => .list (.replicate (n + 1) .null)
  | (n, name) :: path, entry => .list (.replicate (n + 1) (.dict [(name, answerAt v path entry)]))

/-- A truth value is no answer to a field that does not ask for files. -/
theorem exists_breach_of_kind (hkind : rule.kind ≠ "any")
    (hmisconfigured : rule.kind ≠ "misconfigured") :
    ∃ b, rule.answerVerdict (.bool true) = .ok (.bool true, [b]) := by
  cases rule with
  | any => exact absurd rfl hkind
  | misconfigured => exact absurd rfl hmisconfigured
  | _ => exact ⟨_, rfl⟩

/-- A field that refuses anything refuses its bad answer. -/
theorem verdict_badAnswer (hc : f.compile = .ok (rule, issues)) (h : f.Refuses) :
    ∃ w b bs, rule.verdict f.badAnswer = .ok (w, b :: bs) := by
  obtain ⟨hbad, hrefuses⟩ := h
  have hsuits := suits_of_compile hc
  unfold Suits at hsuits
  rw [hbad] at hsuits
  obtain ⟨hhead, hkind⟩ := hsuits
  have hmisconfigured : rule.kind ≠ "misconfigured" := by
    rw [hkind]
    cases f.type <;> decide
  rw [Rule.verdict_eq hmisconfigured]
  unfold badAnswer
  -- A required field refuses no answer; any other one refuses a tuple of nothing it could read.
  by_cases hrequired : f.required = true
  · have hrule : rule.head.required = true := by rw [hhead]; exact hrequired
    rw [if_pos hrequired, hrule]
    exact ⟨_, _, _, rfl⟩
  · have hany : rule.kind ≠ "any" := by
      have hfile := hrefuses.resolve_left hrequired
      rw [hkind]
      cases htype : f.type with
      | file | image | attachment => simp [htype, FieldType.isFile] at hfile
      | _ => decide
    obtain ⟨b, hb⟩ := exists_breach_of_kind hany hmisconfigured
    rw [if_neg hrequired]
    exact ⟨_, b, [], hb⟩

/-- In each position of a field that does not accept everything, there are answers to object to. -/
theorem Leads.exists_objectsTo {g : Field} {path : List (Nat × String)} (h : f.Leads path g)
    (hg : g.Refuses) {entry : Option Nat} (hentry : entry.isSome = true → g.type = .repeatable) :
    ∀ {rule : Rule} {issues : List Issue}, f.compile = .ok (rule, issues) →
      ∃ o, rule.ObjectsTo (answerAt g.badAnswer path entry) o ∧
        o.position = ⟨f.id, path, entry⟩ := by
  -- By induction on the way to the field: the bad answer is put into an entry for each section
  -- passed.
  induction h with
  | self f =>
    intro rule issues hc
    have hhead := head_of_compile hc
    cases entry with
    | none =>
      obtain ⟨w, b, bs, hverdict⟩ := verdict_badAnswer hc hg
      have hentries : Rule.entriesIn? f.badAnswer = none := by
        unfold badAnswer
        split <;> rfl
      refine ⟨_, .own (.inr hentries) hverdict, ?_⟩
      rw [hhead]
      rfl
    | some n =>
      obtain ⟨rules, -, rfl⟩ := exists_rules_of_section (hentry rfl) hc
      have hentries : Rule.entriesIn? (answerAt f.badAnswer [] (some n)) =
          some (.replicate (n + 1) .null) := rfl
      have hlast : (List.replicate (n + 1) Value.null)[n]? = some .null := by simp
      exact ⟨_, .malformed hentries hlast nofun, rfl⟩
  | @entry f k g path n hsection hk _ ih =>
    intro rule issues hc
    obtain ⟨rules, hrules, rfl⟩ := exists_rules_of_section hsection hc
    obtain ⟨rule, found, hget, hcompile⟩ := exists_compile_of_isLastIn hrules hk
    obtain ⟨o, ho, hposition⟩ := ih hg hentry hcompile
    have hmem : (k.id, rule) ∈ Members.ofPairs rules :=
      (Members.get?_eq_some_iff_mem (Members.nodup_names_ofPairs rules)).mp hget
    let ms : Members Value := [(k.id, answerAt g.badAnswer path entry)]
    have hms : (ms.get? k.id).getD .missing = answerAt g.badAnswer path entry := by
      rw [Members.get?_cons, if_pos rfl, Option.getD_some]
    have hentries : Rule.entriesIn? (answerAt g.badAnswer ((n, k.id) :: path) entry) =
        some (.replicate (n + 1) (.dict ms)) := rfl
    have hlast : (List.replicate (n + 1) (Value.dict ms))[n]? = some (.dict ms) := by simp
    refine ⟨o.inEntry f.ruleHead n k.id, .inEntry hentries hlast hmem ?_, ?_⟩
    · rw [hms]
      exact ho
    · unfold Objection.inEntry
      rw [hposition]
      rfl

end Field

/-! ### Reports -/

/-- Two failures in a report that have one key come from one position, and under each key are the
messages of one objection. -/
structure Report.KeysIdentify (report : Report) (os : List Objection) : Prop where
  position_eq : ∀ o ∈ os, ∀ o' ∈ os, ∀ f ∈ o.failures, ∀ f' ∈ o'.failures, f.fieldId = f'.fieldId →
    o.position = o'.position
  messages : ∀ key msgs, report.messagesByField.get? key = some msgs →
    ∃ o ∈ os, o.position.text = key ∧ msgs = o.failures.map (·.message)

/-- Of all failures those with the key of an objection are its own. -/
theorem Objection.filter_flatMap_failures {os : List Objection} (hn : (os.map (·.position)).Nodup)
    {o : Objection} (ho : o ∈ os)
    (htexts : ∀ o' ∈ os, o.position.text = o'.position.text → o.position = o'.position) :
    (os.flatMap (·.failures)).filter (·.fieldId = o.position.text) = o.failures := by
  obtain ⟨before, after, rfl⟩ := List.append_of_mem ho
  rw [List.map_append, List.map_cons] at hn
  obtain ⟨-, hcons, hbefore⟩ := List.nodup_append.mp hn
  have hafter := (List.nodup_cons.mp hcons).1
  -- Other objections have other positions, hence other texts, and their failures are left out.
  have hothers : ∀ os' : List Objection, (∀ o' ∈ os', o.position.text ≠ o'.position.text) →
      (os'.flatMap (·.failures)).filter (·.fieldId = o.position.text) = [] := by
    intro os' h
    refine List.filter_eq_nil_iff.mpr fun f hf => ?_
    obtain ⟨o', ho', hf⟩ := List.mem_flatMap.mp hf
    rw [fieldId_of_mem_failures hf]
    simpa using (h o' ho').symm
  have hown : o.failures.filter (·.fieldId = o.position.text) = o.failures :=
    List.filter_eq_self.mpr fun f hf => by simpa using fieldId_of_mem_failures hf
  rw [List.flatMap_append, List.flatMap_cons, List.filter_append, List.filter_append, hown,
    hothers before, hothers after, List.nil_append, List.append_nil]
  · intro o' ho' htext
    have heq := htexts o' (List.mem_append_right _ (List.mem_cons_of_mem _ ho')) htext
    exact hafter (heq ▸ List.mem_map_of_mem ho')
  · intro o' ho' htext
    have heq := htexts o' (List.mem_append_left _ ho') htext
    exact hbefore _ (List.mem_map_of_mem ho') _ List.mem_cons_self heq.symm

/-- Where distinct positions have distinct texts, keys identify. -/
theorem Report.keysIdentify_of_texts {report : Report} {os : List Objection}
    (hfailures : report.failures = os.flatMap (·.failures)) (hn : (os.map (·.position)).Nodup)
    (htexts : ∀ o ∈ os, ∀ o' ∈ os, o.position.text = o'.position.text → o.position = o'.position) :
    report.KeysIdentify os := by
  constructor
  · intro o ho o' ho' f hf f' hf' heq
    rw [Objection.fieldId_of_mem_failures hf, Objection.fieldId_of_mem_failures hf'] at heq
    exact htexts o ho o' ho' heq
  · intro key msgs hmsgs
    rw [get?_messagesByField] at hmsgs
    split at hmsgs
    · cases hmsgs
    · next hnone =>
      obtain rfl := Option.some.inj hmsgs
      -- There is a failure under the key, and it comes from one of the objections.
      obtain ⟨f, hf⟩ := List.exists_mem_of_ne_nil _ hnone
      obtain ⟨hf, hkey⟩ := List.mem_filter.mp hf
      rw [hfailures] at hf
      obtain ⟨o, ho, hf⟩ := List.mem_flatMap.mp hf
      obtain rfl : o.position.text = key :=
        (Objection.fieldId_of_mem_failures hf).symm.trans (of_decide_eq_true hkey)
      refine ⟨o, ho, rfl, ?_⟩
      unfold failuresOf
      rw [hfailures, Objection.filter_flatMap_failures hn ho (htexts o ho)]

namespace Schema

variable {s : Schema} {c : Contract}

/-- The rule of a top-level field objects to an answer that is bad for it. -/
theorem exists_mem_of_examine (hc : s.compile = .ok c) {p : Position} {g : Field} (hp : s.At p g)
    (hg : g.Refuses) {answers : Members Value} {os : List Objection}
    (hanswer : answers.get? p.field = some (Field.answerAt g.badAnswer p.path p.entry))
    (hos : c.examine answers none = .ok os) : ∃ o ∈ os, o.position = p := by
  obtain ⟨f, hf, hat⟩ := hp
  obtain ⟨rule, issues, hrule, hcompile⟩ := exists_rule?_of_isLastIn hc hf
  obtain ⟨o, ho, hposition⟩ := hat.leads.exists_objectsTo hg hat.section_of_entry hcompile
  have hmem : (f.id, rule) ∈ c.asked none :=
    (Members.get?_eq_some_iff_mem ((nodup_names_of_compile hc).sublist
      (List.filter_sublist.map Prod.fst))).mp (Contract.get?_asked.mpr ⟨rfl, hrule⟩)
  rw [hat.field_eq] at hanswer
  refine ⟨o, (Contract.mem_of_examine hos o).mpr ⟨_, hmem, ?_⟩, hposition.trans ?_⟩
  · rw [hanswer, Option.getD_some]
    exact ho
  · exact Position.ext hat.field_eq.symm rfl rfl

/-- There is a report on all answers, and its failures are those of objections. -/
theorem exists_report (hc : s.compile = .ok c) (answers : Members Value)
    (visible : Option (List String)) :
    ∃ report os, c.validate answers visible = .ok report ∧ c.examine answers visible = .ok os ∧
      report.failures = os.flatMap (·.failures) := by
  obtain ⟨report, hreport⟩ := validate_of_compile hc answers visible
  obtain ⟨os, hos, hfailures⟩ := Contract.exists_examine hreport
  exact ⟨report, os, hreport, hos, hfailures⟩

/-- There is a report on all answers to a sound form.  The keys identify positions in all reports
iff they are distinct; in particular where no id of a top-level field has a dot. -/
theorem keysIdentify_iff (hs : s.Sound) (hc : s.compile = .ok c) :
    (∀ answers visible, ∃ report os, c.validate answers visible = .ok report ∧
      c.examine answers visible = .ok os ∧ report.failures = os.flatMap (·.failures)) ∧
    ((∀ answers visible report os, c.validate answers visible = .ok report →
      c.examine answers visible = .ok os → report.KeysIdentify os) ↔ s.KeysDistinct) ∧
    ((∀ id ∈ s.fieldIds, '.' ∉ id.toList) → s.KeysDistinct) := by
  refine ⟨exists_report hc, ⟨?_, ?_⟩, hs.keysDistinct_of_no_dot⟩
  · intro h p q f g hp hf hq hg htext
    by_contra hne
    -- Of two positions with one text the fields differ, and both can be answered badly at once.
    have hfields : p.field ≠ q.field :=
      fun hfield => hne ((hs.shallow hp).eq_of_text_eq (hs.shallow hq) hfield htext)
    let answers : Members Value := [(p.field, Field.answerAt f.badAnswer p.path p.entry),
      (q.field, Field.answerAt g.badAnswer q.path q.entry)]
    have hfirst : answers.get? p.field = some (Field.answerAt f.badAnswer p.path p.entry) := by
      rw [Members.get?_cons, if_pos rfl]
    have hsecond : answers.get? q.field = some (Field.answerAt g.badAnswer q.path q.entry) := by
      rw [Members.get?_cons, if_neg hfields, Members.get?_cons, if_pos rfl]
    obtain ⟨report, os, hreport, hos, -⟩ := exists_report hc answers none
    obtain ⟨o, ho, rfl⟩ := exists_mem_of_examine hc hp hf hfirst hos
    obtain ⟨o', ho', rfl⟩ := exists_mem_of_examine hc hq hg hsecond hos
    obtain ⟨r, hr, hobjects⟩ := (Contract.mem_of_examine hos o).mp ho
    obtain ⟨r', hr', hobjects'⟩ := (Contract.mem_of_examine hos o').mp ho'
    obtain ⟨x, hx⟩ := Objection.exists_failure hobjects.breaches_ne_nil
    obtain ⟨y, hy⟩ := Objection.exists_failure hobjects'.breaches_ne_nil
    refine hne ((h answers none report os hreport hos).position_eq o ho o' ho' x hx y hy ?_)
    rw [Objection.fieldId_of_mem_failures hx, Objection.fieldId_of_mem_failures hy, htext]
  · intro hdistinct answers visible report os hreport hos
    obtain ⟨os', hos', hfailures⟩ := Contract.exists_examine hreport
    obtain rfl := Except.ok.inj (hos.symm.trans hos')
    refine Report.keysIdentify_of_texts hfailures (nodup_positions hc hos) ?_
    intro o ho o' ho' htext
    obtain ⟨f, hat, -, hf⟩ := at_of_mem_examine hc hos ho
    obtain ⟨g, hat', -, hg⟩ := at_of_mem_examine hc hos ho'
    exact hdistinct _ _ f g hat hf hat' hg htext

/-- A form of a section of documents, in each of which a scan is required, and of a number. -/
def scansForm (id : String) : Value :=
  .dict [("title", .str "Scans"), ("fields", .list [
    .dict [("id", .str "docs"), ("type", .str "repeatable"), ("label", .str "Documents"),
      ("subFields", .list [.dict [("id", .str "scan"), ("type", .str "text"),
        ("label", .str "Scan"), ("required", .bool true)]])],
    .dict [("id", .str id), ("type", .str "number"), ("label", .str "Pages")]])]

theorem keysIdentify_scans :
    let answers : Members Value := [("docs", .list [.dict []]), ("pages", .str "few")]
    ∃ store c report os, Store.importSchema .standard (scansForm "pages") = .ok store ∧
      store.schema.compile = .ok c ∧ c.validate answers none = .ok report ∧
      c.examine answers none = .ok os ∧ report.messagesByField =
        [("docs.0.scan", ["This field is required"]), ("pages", ["Must be a number"])] ∧
      report.KeysIdentify os := by
  intro answers
  obtain ⟨store, c, report, os, hstore, hids, hc, hreport, hos, hkeys⟩ : ∃ store c report os,
      Store.importSchema .standard (scansForm "pages") = .ok store ∧
      store.schema.fieldIds = ["docs", "pages"] ∧ store.schema.compile = .ok c ∧
      c.validate answers none = .ok report ∧ c.examine answers none = .ok os ∧
      report.messagesByField =
        [("docs.0.scan", ["This field is required"]), ("pages", ["Must be a number"])] :=
    ⟨_, _, _, _, rfl, rfl, rfl, rfl, rfl, rfl⟩
  -- Neither identifier holds a dot.
  obtain ⟨-, hiff, hdot⟩ := keysIdentify_iff (Store.begun_of_importSchema hstore).sound hc
  have hdistinct := hdot (by rw [hids]; decide)
  exact ⟨store, c, report, os, hstore, hc, hreport, hos, hkeys,
    hiff.mpr hdistinct answers none report os hreport hos⟩

/-- The id of a field may read as the path to a sub-field, and then the messages of the
two are mixed. -/
theorem not_keysIdentify_of_dots :
    let answers : Members Value := [("docs", .list [.dict []]), ("docs.0.scan", .str "few")]
    ∃ store c report os, Store.importSchema .standard (scansForm "docs.0.scan") = .ok store ∧
      store.schema.compile = .ok c ∧ c.validate answers none = .ok report ∧
      c.examine answers none = .ok os ∧
      os.map (·.position) = [⟨"docs", [(0, "scan")], none⟩, ⟨"docs.0.scan", [], none⟩] ∧
      report.failures.map (·.fieldId) = ["docs.0.scan", "docs.0.scan"] ∧
      report.messagesByField = [("docs.0.scan", ["This field is required", "Must be a number"])] ∧
      ¬report.KeysIdentify os := by
  intro answers
  refine ⟨_, _, _, _, rfl, rfl, rfl, rfl, rfl, rfl, rfl, fun h => ?_⟩
  have heq := h.position_eq _ (.head _) _ (.tail _ (.head _)) _ (.head _) _ (.head _) rfl
  cases congrArg Position.path heq

end Schema
end Questionnaire
