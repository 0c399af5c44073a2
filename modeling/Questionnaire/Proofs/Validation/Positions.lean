import Questionnaire.Proofs.Session.Files
import Questionnaire.Proofs.Validation.Objections

/-!
# Positions and fields

Every objection stands in a position that belongs to a field of the form (`Schema.At`): the field
whose rule objects.  That a field can be objected to at all depends on its type, its pattern and
whether it is required (`Field.Refuses`).  In one report there is at most one objection in each
position (`Schema.nodup_positions`).
-/

namespace Questionnaire

/-! ### The rule of a field -/

namespace Field

variable {f : Field} {rule : Rule} {issues : List Issue}

/-- The field does not accept everything: its pattern is not bad, and it is required or does not
ask for files. -/
def Refuses (f : Field) : Prop := f.badPattern? = none ∧ (f.required = true ∨ f.type.isFile = false)

/-- A compiled rule suits its field. -/
theorem suits_of_compile (h : f.compile = .ok (rule, issues)) : f.Suits rule := by
  by_cases hsection : f.type = .repeatable
  · obtain ⟨rules, -, rfl⟩ := exists_rules_of_section hsection h
    have hbad : f.badPattern? = none := badPattern?_of_not_text (by simp [hsection])
    unfold Suits
    rw [hbad, hsection]
    exact ⟨rfl, rfl⟩
  · have hplain := compile_of_plain hsection
    cases hfault : f.patternFault? with
    | some e =>
      rw [hfault] at hplain
      cases h.symm.trans hplain
    | none =>
      rw [hfault] at hplain
      obtain ⟨rule', hok, hsuits⟩ := hplain
      cases h.symm.trans hok
      exact hsuits

theorem head_of_compile (h : f.compile = .ok (rule, issues)) : rule.head = f.ruleHead := by
  have hsuits := suits_of_compile h
  unfold Suits at hsuits
  split at hsuits
  · rw [hsuits]
    rfl
  · exact hsuits.1

theorem type_of_section {head : RuleHead} {entries : List (String × Rule)}
    (h : f.compile = .ok (.repeatable head entries, issues)) : f.type = .repeatable := by
  have hsuits := suits_of_compile h
  unfold Suits at hsuits
  split at hsuits
  · cases hsuits
  · obtain ⟨-, hkind⟩ := hsuits
    cases htype : f.type with
    | repeatable => rfl
    | _ => simp [htype, Rule.kind, FieldType.ruleKind] at hkind

/-- A rule that has something to object to in an answer is that of a field that does not accept
everything. -/
theorem refuses_of_verdict (h : f.compile = .ok (rule, issues)) {v w : Value} {b : Breach}
    {bs : List Breach} (hverdict : rule.verdict v = .ok (w, b :: bs)) : f.Refuses := by
  have hsuits := suits_of_compile h
  unfold Suits at hsuits
  split at hsuits
  · subst hsuits
    cases hverdict
  -- A file field that is not required has nothing to refuse.
  · next hbad =>
    refine ⟨hbad, ?_⟩
    by_contra hneither
    obtain ⟨hrequired, hfile⟩ := not_or.mp hneither
    obtain ⟨types, size, files, rfl⟩ := rule_of_file (Bool.not_eq_false _ |>.mp hfile) h
    have hoptional : f.ruleHead.required = false := Bool.not_eq_true _ |>.mp hrequired
    rw [Rule.verdict_eq (by simp [Rule.kind])] at hverdict
    split at hverdict
    · have hhead : (Rule.any f.ruleHead types size files).head.required = false := hoptional
      rw [hhead] at hverdict
      cases hverdict
    · cases hverdict

/-- Every rule that is kept for fields is that of the last field with its name. -/
theorem exists_isLastIn_of_mem {fields : List Field} {rules : List (String × Rule)}
    (h : compileList fields = .ok (rules, issues)) {e : String × Rule}
    (he : e ∈ Members.ofPairs rules) :
    ∃ k : Field, k.IsLastIn fields ∧ k.id = e.1 ∧ ∃ found, k.compile = .ok (e.2, found) := by
  have hname : e.1 ∈ fields.map (·.id) := by
    rw [← names_of_compileList h]
    exact List.mem_map_of_mem (Members.mem_of_mem_ofPairs he)
  obtain ⟨k, hk, hid⟩ := exists_isLastIn hname
  obtain ⟨rule, found, hget, hcompile⟩ := exists_compile_of_isLastIn h hk
  have hrule : (Members.ofPairs rules).get? e.1 = some e.2 :=
    (Members.get?_eq_some_iff_mem (Members.nodup_names_ofPairs rules)).mpr he
  rw [hid, hrule] at hget
  obtain rfl := Option.some.inj hget
  exact ⟨k, hk, hid, found, hcompile⟩

/-! ### The field of a position -/

/-- The position, in the answer to the first field, belongs to the second: it is that of an answer
to it, or that of an entry if it is a section. -/
structure At (f : Field) (p : Position) (g : Field) : Prop where
  field_eq : p.field = f.id
  leads : f.Leads p.path g
  section_of_entry : p.entry.isSome = true → g.type = .repeatable

theorem IsLastIn.of_cons {k f : Field} {ks : List Field} (h : k.IsLastIn (f :: ks)) :
    (k = f ∧ f.id ∉ ks.map (·.id)) ∨ k.IsLastIn ks := by
  obtain ⟨before, after, heq, hlast⟩ := h
  cases before with
  | nil =>
    cases heq
    exact .inl ⟨rfl, hlast⟩
  | cons b before =>
    cases heq
    exact .inr ⟨before, after, rfl, hlast⟩

/-- There is one last field with an id. -/
theorem IsLastIn.eq {k k' : Field} {ks : List Field} (hk : k.IsLastIn ks) (hk' : k'.IsLastIn ks)
    (hid : k.id = k'.id) : k = k' := by
  induction ks with
  | nil => exact absurd hk.mem List.not_mem_nil
  | cons f ks ih =>
    rcases hk.of_cons with ⟨rfl, hlast⟩ | hrest
    · rcases hk'.of_cons with ⟨rfl, -⟩ | hrest'
      · rfl
      · exact absurd (hid ▸ List.mem_map_of_mem hrest'.mem) hlast
    · rcases hk'.of_cons with ⟨rfl, hlast⟩ | hrest'
      · exact absurd (hid ▸ List.mem_map_of_mem hrest.mem) hlast
      · exact ih hrest hrest'

/-- A path leads to one field. -/
theorem Leads.eq {g g' : Field} {path : List (Nat × String)} (h : f.Leads path g)
    (h' : f.Leads path g') : g = g' := by
  induction h with
  | self => cases h' with
    | self => rfl
  | @entry f k g path i hsection hk _ ih =>
    generalize hpath : (i, k.id) :: path = whole at h'
    cases h' with
    | self => cases hpath
    | @entry _ k' _ path' j _ hk' hleads =>
      obtain ⟨hplace, rfl⟩ := List.cons.inj hpath
      obtain rfl := hk.eq hk' (Prod.mk.inj hplace).2
      exact ih hleads

/-- What the rule of a field objects to stands in a position of a field that does not accept
everything, and it is the rule of this field that objects. -/
theorem at_of_objectsTo {v : Value} {o : Objection} (h : rule.ObjectsTo v o) :
    ∀ {f : Field} {issues : List Issue}, f.compile = .ok (rule, issues) →
      ∃ g, f.At o.position g ∧ o.head = g.ruleHead ∧ g.Refuses := by
  induction h with
  | own _ hverdict =>
    intro f issues hc
    have hhead := head_of_compile hc
    exact ⟨f, ⟨congrArg RuleHead.fieldId hhead, .self f, nofun⟩, hhead,
      refuses_of_verdict hc hverdict⟩
  | malformed =>
    intro f issues hc
    have hhead := head_of_compile hc
    have htype := type_of_section hc
    refine ⟨f, ⟨congrArg RuleHead.fieldId hhead, .self f, fun _ => htype⟩, hhead, ?_, .inr ?_⟩
    · exact badPattern?_of_not_text (by simp [htype])
    · rw [htype]
      rfl
  | @inEntry head entries v vs n ms e o _ _ he _ ih =>
    intro f issues hc
    have hhead := head_of_compile hc
    have htype := type_of_section hc
    obtain ⟨rules, hrules, heq⟩ := exists_rules_of_section htype hc
    obtain ⟨-, rfl⟩ := Rule.repeatable.inj heq
    -- The path goes on to the last sub-field with the name, whose rule it is.
    obtain ⟨k, hk, hid, found, hcompile⟩ := exists_isLastIn_of_mem hrules he
    obtain ⟨g, hat, hg, hrefuses⟩ := ih hcompile
    refine ⟨g, ⟨congrArg RuleHead.fieldId hhead, ?_, hat.section_of_entry⟩, hg, hrefuses⟩
    rw [← hid]
    exact .entry n htype hk hat.leads

end Field

namespace Schema

/-- The position belongs to the field. -/
def At (s : Schema) (p : Position) (g : Field) : Prop := ∃ f : Field, f.IsLastIn s.fields ∧ f.At p g

/-- A position belongs to one field. -/
theorem At.eq {s : Schema} {p : Position} {g g' : Field} (h : s.At p g) (h' : s.At p g') :
    g = g' := by
  obtain ⟨f, hf, hat⟩ := h
  obtain ⟨f', hf', hat'⟩ := h'
  obtain rfl := hf.eq hf' (hat.field_eq.symm.trans hat'.field_eq)
  exact hat.leads.eq hat'.leads

variable {s : Schema} {c : Contract} (hc : s.compile = .ok c)
include hc

/-- Each rule of the contract is that of the last field with its name. -/
theorem exists_isLastIn_of_rule {r : String × Rule} (hr : r ∈ c.rules) :
    ∃ f : Field, f.IsLastIn s.fields ∧ f.id = r.1 ∧ ∃ found, f.compile = .ok (r.2, found) := by
  obtain ⟨⟨rules, issues⟩, hrules, hc⟩ := Outcome.bind_eq_ok_iff.mp hc
  obtain rfl := Outcome.pure_eq_ok_iff.mp hc
  exact Field.exists_isLastIn_of_mem hrules hr

/-- What is objected to stands in a position of the field whose rule objects. -/
theorem at_of_mem_examine {answers : Members Value} {visible : Option (List String)}
    {os : List Objection} (hos : c.examine answers visible = .ok os) {o : Objection} (ho : o ∈ os) :
    ∃ g, s.At o.position g ∧ o.head = g.ruleHead ∧ g.Refuses := by
  obtain ⟨r, hr, hobjects⟩ := (Contract.mem_of_examine hos o).mp ho
  obtain ⟨f, hf, -, found, hcompile⟩ := exists_isLastIn_of_rule hc (List.mem_of_mem_filter hr)
  obtain ⟨g, hat, hg⟩ := Field.at_of_objectsTo hobjects hcompile
  exact ⟨g, ⟨f, hf, hat⟩, hg⟩

end Schema

/-! ### One objection in each position -/

namespace Position

/-- The number of the entry that the position is in, or is that of. -/
def index? (p : Position) : Option Nat :=
  match p.path with
  | [] => p.entry
  | (n, _) :: _ => some n

/-- The sub-field that the position is in. -/
def part? (p : Position) : Option String := p.path.head?.map (·.2)

end Position

namespace Rule

/-- A rule that goes through no entries has at most one objection. -/
theorem nodup_of_no_entries {rule : Rule} {v w : Value} {os : List Objection}
    (h : rule.kind ≠ "repeatable" ∨ entriesIn? v = none) (hos : rule.examine v = .ok (w, os)) :
    (os.map (·.position)).Nodup := by
  rw [examine_of_no_entries h] at hos
  obtain ⟨⟨cleaned, breaches⟩, -, heq⟩ := Outcome.map_eq_ok_iff.mp hos
  cases heq
  cases breaches with
  | nil => exact List.nodup_nil
  | cons b bs => exact List.nodup_singleton _

/-- What is objected to in distinct positions of an answer stands in distinct positions of the entry
that the answer is part of. -/
theorem nodup_inEntry {rule : Rule} {v w : Value} {os : List Objection}
    (hos : rule.examine v = .ok (w, os))
    (hn : (os.map (·.position)).Nodup) (h : RuleHead) (n : Nat) (name : String) :
    ((os.map (Objection.inEntry h n name)).map (·.position)).Nodup := by
  have hmoved : (os.map (Objection.inEntry h n name)).map (·.position) =
      (os.map (·.position)).map fun p : Position => ⟨h.fieldId, (n, name) :: p.path, p.entry⟩ := by
    rw [List.map_map, List.map_map]
    rfl
  rw [hmoved]
  refine hn.map_on fun p hp q hq heq => ?_
  obtain ⟨o, ho, rfl⟩ := List.mem_map.mp hp
  obtain ⟨o', ho', rfl⟩ := List.mem_map.mp hq
  -- The field, which the new position does not tell, is that of the rule.
  have hfield :=
    ((mem_of_examine hos o).mp ho).field_eq.trans ((mem_of_examine hos o').mp ho').field_eq.symm
  obtain ⟨-, hpath, hentry⟩ := Position.mk.inj heq
  exact Position.ext hfield (List.cons.inj hpath).2 hentry

theorem nodup_of_examineNamed {h : RuleHead} {n : Nat} {rules : List (String × Rule)}
    {ms cleaned : Members Value} {os : List Objection} (hnames : (Members.names rules).Nodup)
    (hrules : ∀ e ∈ rules, ∀ v w os, e.2.examine v = .ok (w, os) → (os.map (·.position)).Nodup)
    (hos : examineNamed h n rules ms = .ok (cleaned, os)) : (os.map (·.position)).Nodup := by
  rw [examineNamed_eq_gather _ _ _ _ 0] at hos
  refine nodup_of_gather hos (·.position) Position.part? (fun _ e => some e.1) ?_ ?_
  · intro i e r he hr
    obtain ⟨⟨w, found⟩, hfound, rfl⟩ := Outcome.map_eq_ok_iff.mp hr
    have hn := hrules e (List.mem_of_getElem? he) _ _ _ hfound
    refine ⟨nodup_inEntry hfound hn h n e.1, fun o ho => ?_⟩
    obtain ⟨p, -, rfl⟩ := List.mem_map.mp ho
    rfl
  · intro i j a b ha hb hname
    exact Members.eq_of_getElem?_of_nodup hnames ha hb (Option.some.inj hname)

theorem nodup_of_examineEntry {h : RuleHead}
    {f : Nat → Members Value → Outcome (Members Value × List Objection)}
    (hf : ∀ n ms cleaned os, f n ms = .ok (cleaned, os) → (os.map (·.position)).Nodup ∧
      ∀ o ∈ os, o.position.index? = some n)
    {n : Nat} {v w : Value} {os : List Objection} (hos : examineEntry h f n v = .ok (w, os)) :
    (os.map (·.position)).Nodup ∧ ∀ o ∈ os, o.position.index? = some n := by
  by_cases hv : ∃ ms, v = .dict ms
  · obtain ⟨ms, rfl⟩ := hv
    obtain ⟨⟨cleaned, found⟩, hfound, heq⟩ := Outcome.map_eq_ok_iff.mp hos
    cases heq
    exact hf n ms cleaned found hfound
  · rw [examineEntry_other _ _ _ (not_exists.mp hv)] at hos
    cases hos
    refine ⟨List.nodup_singleton _, fun o ho => ?_⟩
    obtain rfl := List.mem_singleton.mp ho
    rfl

/-- A well-made rule has at most one objection in each position. -/
theorem WellMade.nodup_positions {rule : Rule} (h : rule.WellMade) {v w : Value}
    {os : List Objection} (hos : rule.examine v = .ok (w, os)) : (os.map (·.position)).Nodup := by
  induction h generalizing v w os with
  | string => exact nodup_of_no_entries (.inl (by simp [kind])) hos
  | other _ not_section => exact nodup_of_no_entries (.inl not_section) hos
  | @repeatable h entries nodup _ ih =>
    cases hvs : entriesIn? v with
    | none => exact nodup_of_no_entries (.inr hvs) hos
    | some vs =>
      rw [examine_of_entries hvs] at hos
      obtain ⟨⟨ws, found⟩, hfound, heq⟩ := Outcome.map_eq_ok_iff.mp hos
      cases heq
      -- Objections of one entry are told apart by their parts, those of two entries by the numbers.
      refine nodup_of_gather hfound (·.position) Position.index? (fun n _ => some n) ?_ ?_
      · intro i u r _ hr
        refine nodup_of_examineEntry (fun n ms cleaned os hos => ?_) hr
        refine ⟨nodup_of_examineNamed nodup (fun e he v w os => ih e he) hos, fun o ho => ?_⟩
        obtain ⟨e, -, r, -, p, -, rfl⟩ := (mem_of_examineNamed hos o).mp ho
        rfl
      · intro i j _ _ _ _ heq
        exact Nat.add_left_cancel (Option.some.inj heq)

end Rule

/-- In a report on the answers to a form there is at most one objection in each position. -/
theorem Schema.nodup_positions {s : Schema} {c : Contract} (hc : s.compile = .ok c)
    {answers : Members Value} {visible : Option (List String)} {os : List Objection}
    (hos : c.examine answers visible = .ok os) : (os.map (·.position)).Nodup := by
  obtain ⟨⟨data, found⟩, hfound, rfl⟩ := Outcome.map_eq_ok_iff.mp hos
  have hnames : (c.asked visible).names.Nodup :=
    (nodup_names_of_compile hc).sublist (List.filter_sublist.map Prod.fst)
  have hrules : ∀ r ∈ c.asked visible, r ∈ c.rules := fun r hr => List.mem_of_mem_filter hr
  -- Different rules object at different fields, and one rule nowhere twice.
  refine nodup_of_gather hfound (·.position) Position.field (fun _ r => r.1) ?_ ?_
  · intro i r x hr hx
    obtain ⟨⟨w, os⟩, hexamine, rfl⟩ := Outcome.map_eq_ok_iff.mp hx
    have hmem := hrules r (List.mem_of_getElem? hr)
    refine ⟨(wellMade_of_compile hc hmem).nodup_positions hexamine, fun o ho => ?_⟩
    obtain ⟨f, -, hid, found, hcompile⟩ := exists_isLastIn_of_rule hc hmem
    rw [((Rule.mem_of_examine hexamine o).mp ho).field_eq, Field.head_of_compile hcompile]
    exact hid
  · intro i j a b ha hb hname
    exact Members.eq_of_getElem?_of_nodup hnames ha hb hname

end Questionnaire
