import Questionnaire.Proofs.Members
import Questionnaire.Proofs.Validation.Application

/-!
# What compilation says about patterns

A text field has a bad pattern (`Field.badPattern?`) when the pattern is there, is not empty and
cannot be read.  A form should be compiled whatever the patterns are: each field gets the rule of its
kind, or an unusable rule and an issue if its pattern is bad (`Schema.PatternsReported`).

`Field.compileList_eq` says what compilation does to a list of fields: a bad pattern is reported if
its fault is a mere defect, and the first one whose fault is not ends the compilation.  So all goes
well exactly when the faults are all defects, apart from forms that no store accepts
(`Schema.patternsReported_iff`).  A repetition beyond what can be counted is no defect
(`Schema.not_patternsReported_of_repetition`).
-/

namespace Questionnaire

/-- The kind of the rule for the answers to fields of a type. -/
def FieldType.ruleKind : FieldType → String
  | .text | .textarea | .email | .select | .radio => "string"
  | .number | .rating => "number"
  | .multiSelect | .checkbox => "choice_list"
  | .date => "date"
  | .file | .image | .attachment => "any"
  | .matrix => "matrix"
  | .repeatable => "repeatable"

/-- The words for a pattern that cannot be read. -/
def badPatternMessage (pattern : String) (fault : Pattern.Fault) : String :=
  s!"Invalid pattern {Text.quoted pattern}: {fault.message pattern}"

namespace Field

/-! ### Bad patterns -/

/-- The pattern that the answer to a text field has to match; an empty one counts as none. -/
def textPattern? (f : Field) : Option String :=
  if f.type = .text ∨ f.type = .textarea then
    (f.constraints.getD .unconstrained).pattern.filter (· ≠ "")
  else none

/-- The pattern of a text field that cannot be read, and what is wrong with it. -/
def badPattern? (f : Field) : Option (String × Pattern.Fault) :=
  f.textPattern?.bind fun p => match Pattern.read p with
    | .ok _ => none
    | .error fault => some (p, fault)

/-- The issue with the pattern of a field. -/
def patternIssue? (f : Field) : Option Issue :=
  f.badPattern?.map fun bad => ⟨f.id, .pattern, .error, badPatternMessage bad.1 bad.2⟩

/-- The fault of a bad pattern that is no mere defect of it. -/
def patternFault? (f : Field) : Option Fault :=
  f.badPattern?.bind fun bad => if bad.2.isDefect then none else some (.pattern bad.1 bad.2)

/-- What the rule of a field knows about it. -/
def ruleHead (f : Field) : RuleHead :=
  ⟨f.id, f.type, f.required, (f.constraints.getD .unconstrained).customMessage⟩

/-- A rule is unusable if the pattern of the field is bad, and otherwise of the kind that the type of
the field asks for. -/
def Suits (f : Field) (rule : Rule) : Prop :=
  match f.badPattern? with
  | some bad => rule = .misconfigured f.ruleHead (badPatternMessage bad.1 bad.2)
  | none => rule.head = f.ruleHead ∧ rule.kind = f.type.ruleKind

theorem badPattern?_of_not_text {f : Field} (h : ¬(f.type = .text ∨ f.type = .textarea)) :
    f.badPattern? = none := by
  unfold badPattern? textPattern?
  rw [if_neg h]
  rfl

theorem patternFault?_of_read {f : Field} {p : String} {fault : Pattern.Fault}
    (hp : f.textPattern? = some p) (hread : Pattern.read p = .error fault)
    (hdefect : fault.isDefect = false) : f.patternFault? = some (.pattern p fault) := by
  unfold patternFault? badPattern?
  rw [hp, Option.bind_some, hread]
  dsimp only [Option.bind_some]
  rw [hdefect, if_neg Bool.false_ne_true]

/-! ### Fields that are compiled -/

mutual

/-- A field and, if it is a section, the fields in it, at any depth, in the order of the document. -/
def compiled : Field → List Field
  | f@⟨_, type, _, _, _, _, _, _, _, subFields⟩ =>
    f :: if type = .repeatable then compiledOpt subFields else []

/-- The compiled fields of an optional list of fields. -/
def compiledOpt : Option (List Field) → List Field
  | none => []
  | some fields => compiledList fields

/-- The compiled fields of a list of fields. -/
def compiledList : List Field → List Field
  | [] => []
  | f :: fs => f.compiled ++ compiledList fs

end

theorem compiled_eq (f : Field) :
    f.compiled = f :: if f.type = .repeatable then compiledList f.children else [] := by
  obtain ⟨_, _, _, _, _, _, _, _, _, subFields⟩ := f
  cases subFields <;> rfl

/-! ### Compiling one field -/

/-- A text field gets a rule for texts, unless its pattern is bad. -/
theorem textRule_eq {f : Field} (h : f.type = .text ∨ f.type = .textarea) :
    let c := f.constraints.getD .unconstrained
    textRule f.id f.ruleHead c = match f.badPattern? with
      | none => .ok (.string f.ruleHead c.minLength c.maxLength f.textPattern? false, [])
      | some (p, fault) =>
        if fault.isDefect then
          .ok (.misconfigured f.ruleHead (badPatternMessage p fault),
            [⟨f.id, .pattern, .error, badPatternMessage p fault⟩])
        else .error (.pattern p fault) := by
  intro c
  -- Both texts and text areas are compiled with their pattern, the empty one counting as none.
  have hpattern : f.textPattern? = c.pattern.filter (· ≠ "") := if_pos h
  unfold badPattern? textRule
  rw [← hpattern]
  cases f.textPattern? with
  | none => rfl
  | some p =>
    dsimp only [Option.bind_some]
    cases Pattern.read p with
    | ok program => rfl
    | error fault => rfl

theorem compile_eq_plainRule {f : Field} (h : f.type ≠ .repeatable) :
    f.compile = plainRule f.id f.type f.ruleHead (f.constraints.getD .unconstrained) := by
  obtain ⟨id, type, _, _, _, _, _, _, _, _⟩ := f
  rw [compile]
  exact if_neg h

/-- A field that is no section fails by its pattern, or gets a rule that suits it. -/
theorem compile_of_plain {f : Field} (h : f.type ≠ .repeatable) :
    match f.patternFault? with
    | some e => f.compile = .error e
    | none => ∃ rule, f.compile = .ok (rule, f.patternIssue?.toList) ∧ f.Suits rule := by
  have hcompile := compile_eq_plainRule h
  -- Only the rules of texts have patterns.
  by_cases htext : f.type = .text ∨ f.type = .textarea
  · have hrule : f.compile = textRule f.id f.ruleHead (f.constraints.getD .unconstrained) := by
      rw [hcompile]
      rcases htext with htext | htext <;> rw [htext] <;> rfl
    have hkind : f.type.ruleKind = "string" := by rcases htext with htext | htext <;> rw [htext] <;> rfl
    rw [hrule, textRule_eq htext]
    unfold patternFault? patternIssue? Suits
    rcases f.badPattern? with _ | ⟨p, fault⟩
    · exact ⟨_, rfl, rfl, hkind.symm⟩
    · dsimp only [Option.bind_some]
      cases fault.isDefect with
      | false => rfl
      | true => exact ⟨_, rfl, rfl⟩
  · have hbad := badPattern?_of_not_text htext
    unfold patternFault? patternIssue? Suits
    rw [hcompile, hbad]
    dsimp only [Option.bind_none]
    obtain ⟨id, type, _, _, _, _, _, _, _, _⟩ := f
    cases type with
    | text => exact absurd (Or.inl rfl) htext
    | textarea => exact absurd (Or.inr rfl) htext
    | repeatable => exact absurd rfl h
    | _ => exact ⟨_, rfl, rfl, rfl⟩

theorem compile_of_section {f : Field} (h : f.type = .repeatable) :
    f.compile = (compileList f.children).map fun r =>
      (.repeatable f.ruleHead (Members.ofPairs r.1), r.2) := by
  obtain ⟨id, type, _, required, _, _, _, constraints, _, subFields⟩ := f
  rw [compile]
  dsimp only
  rw [if_pos h, compileOpt_eq]
  show _ = (compileList (subFields.getD [])).map _
  cases compileList (subFields.getD []) <;> rfl

/-! ### Compiling all fields -/

/-- The rule of a field that can be compiled. -/
def rule (f : Field) : Rule := (f.compile.toOption.map (·.1)).getD default

/-- What comes of a list of fields: the first pattern with a fault that is no defect ends the
compilation, and otherwise there are the rules of the fields, and the issues with all patterns. -/
def outcome (compiled : List Field) {α : Type} (a : α) : Outcome (α × List Issue) :=
  match compiled.findSome? patternFault? with
  | some e => .error e
  | none => .ok (a, compiled.filterMap patternIssue?)

theorem rule_of_compile {f : Field} {rule : Rule} {issues : List Issue}
    (h : f.compile = .ok (rule, issues)) : f.rule = rule := by
  unfold Field.rule
  rw [h]
  rfl

theorem compileList_eq_of_forall {fs : List Field}
    (h : ∀ f ∈ fs, f.compile = outcome f.compiled f.rule) :
    compileList fs = outcome (compiledList fs) (fs.map fun f => (f.id, f.rule)) := by
  induction fs with
  | nil => rfl
  | cons f fs ih =>
    obtain ⟨hf, hfs⟩ := List.forall_mem_cons.mp h
    rw [compileList, hf, ih hfs, compiledList]
    unfold outcome
    rw [List.findSome?_append, List.filterMap_append]
    -- The first field decides, and the others only if it can be compiled.
    cases f.compiled.findSome? patternFault? with
    | some e => rfl
    | none => cases (compiledList fs).findSome? patternFault? <;> rfl

/-- A field compiles to the first fault in it, or to its rule and its issues. -/
theorem compile_eq (f : Field) : f.compile = outcome f.compiled f.rule := by
  induction f using childrenInduction with
  | step f ih =>
    -- A section adds nothing of its own to what its sub-fields compile to.
    by_cases hsection : f.type = .repeatable
    · have hbad : f.badPattern? = none := badPattern?_of_not_text (by simp [hsection])
      have hcompile := compile_of_section hsection
      rw [compileList_eq_of_forall ih] at hcompile
      have hcompiled : f.compiled = f :: compiledList f.children := by
        rw [compiled_eq, if_pos hsection]
      unfold outcome at hcompile ⊢
      rw [hcompiled, List.findSome?_cons, List.filterMap_cons, patternFault?, patternIssue?, hbad]
      dsimp only [Option.bind_none, Option.map_none]
      cases hfault : (compiledList f.children).findSome? patternFault? with
      | some e =>
        rw [hfault] at hcompile
        exact hcompile
      | none =>
        rw [hfault] at hcompile
        rw [rule_of_compile hcompile]
        exact hcompile
    · have hcompile := compile_of_plain hsection
      have hcompiled : f.compiled = [f] := by rw [compiled_eq, if_neg hsection]
      unfold outcome
      rw [hcompiled, List.findSome?_singleton]
      cases hfault : f.patternFault? with
      | some e =>
        rw [hfault] at hcompile
        exact hcompile
      | none =>
        rw [hfault] at hcompile
        obtain ⟨rule, hok, _⟩ := hcompile
        rw [rule_of_compile hok, hok]
        cases hissue : f.patternIssue? <;> simp [hissue]

/-- What compilation does to a list of fields. -/
theorem compileList_eq (fs : List Field) :
    compileList fs = outcome (compiledList fs) (fs.map fun f => (f.id, f.rule)) :=
  compileList_eq_of_forall fun f _ => compile_eq f

theorem compile_of_no_fault {f : Field} (h : ∀ g ∈ f.compiled, g.patternFault? = none) :
    f.compile = .ok (f.rule, f.compiled.filterMap patternIssue?) := by
  rw [compile_eq]
  unfold outcome
  rw [List.findSome?_eq_none_iff.mpr h]

theorem rule_of_section {f : Field} (hsection : f.type = .repeatable)
    (h : ∀ g ∈ f.compiled, g.patternFault? = none) :
    f.rule = .repeatable f.ruleHead (Members.ofPairs (f.children.map fun g => (g.id, g.rule))) := by
  have hcompile := compile_of_no_fault h
  rw [compile_of_section hsection, compileList_eq] at hcompile
  obtain ⟨⟨entries, issues⟩, hentries, heq⟩ := Outcome.map_eq_ok_iff.mp hcompile
  unfold outcome at hentries
  cases hfault : (compiledList f.children).findSome? patternFault? with
  | some e =>
    rw [hfault] at hentries
    cases hentries
  | none =>
    rw [hfault] at hentries
    cases hentries
    exact (Prod.mk.inj heq).1.symm

/-- Unless a fault ends the compilation of a field, its rule suits it. -/
theorem suits_rule {f : Field} (h : ∀ g ∈ f.compiled, g.patternFault? = none) :
    f.Suits f.rule := by
  by_cases hsection : f.type = .repeatable
  · have hbad : f.badPattern? = none := badPattern?_of_not_text (by simp [hsection])
    unfold Suits
    rw [hbad, rule_of_section hsection h, hsection]
    exact ⟨rfl, rfl⟩
  · have hself : f.patternFault? = none := h f (by rw [compiled_eq]; exact List.mem_cons_self)
    have hplain := compile_of_plain hsection
    rw [hself] at hplain
    obtain ⟨rule, hok, hsuits⟩ := hplain
    rw [rule_of_compile hok]
    exact hsuits

/-! ### Fields that are not compiled -/

theorem sublist_compiledList_of_forall {fs : List Field} (h : ∀ f ∈ fs, f.compiled.Sublist f.tree) :
    (compiledList fs).Sublist (treeList fs) := by
  induction fs with
  | nil => exact List.Sublist.slnil
  | cons f fs ih =>
    obtain ⟨hf, hfs⟩ := List.forall_mem_cons.mp h
    exact hf.append (ih hfs)

theorem sublist_compiled (f : Field) : f.compiled.Sublist f.tree := by
  induction f using childrenInduction with
  | step f ih =>
    rw [compiled_eq, tree_eq]
    split
    · exact (sublist_compiledList_of_forall ih).cons_cons f
    · exact (List.nil_sublist _).cons_cons f

theorem sublist_compiledList (fs : List Field) : (compiledList fs).Sublist (treeList fs) :=
  sublist_compiledList_of_forall fun f _ => sublist_compiled f

variable {α : Type} {P : Field → Option α}

theorem filterMap_compiledList_eq_iff_forall {fs : List Field} :
    (compiledList fs).filterMap P = (treeList fs).filterMap P ↔
      ∀ f ∈ fs, f.compiled.filterMap P = f.tree.filterMap P := by
  induction fs with
  | nil => exact ⟨fun _ => nofun, fun _ => rfl⟩
  | cons f fs ih =>
    rw [compiledList, treeList, List.filterMap_append, List.filterMap_append, List.forall_mem_cons,
      ← ih]
    constructor
    · intro h
      -- Both parts on the left are sublists, so if they are as long together they are as long each.
      have hf := (sublist_compiled f).filterMap P
      have hfs := (sublist_compiledList fs).filterMap P
      have hlength := congrArg List.length h
      rw [List.length_append, List.length_append] at hlength
      have hfle := hf.length_le
      have hfsle := hfs.length_le
      exact ⟨hf.eq_of_length (by omega), hfs.eq_of_length (by omega)⟩
    · rintro ⟨hf, hfs⟩
      rw [hf, hfs]

theorem mem_treeList_iff_mem_tree {g : Field} {fs : List Field} :
    g ∈ treeList fs ↔ ∃ f ∈ fs, g ∈ f.tree := by
  rw [treeList_eq_flatMap, List.mem_flatMap]

/-- A tree contains the trees of all fields in it. -/
theorem tree_subset {f g : Field} (h : g ∈ f.tree) : g.tree ⊆ f.tree := by
  induction f using childrenInduction with
  | step f ih =>
    rw [tree_eq f, List.mem_cons] at h
    rcases h with rfl | h
    · exact List.Subset.refl _
    · obtain ⟨k, hk, hg⟩ := mem_treeList_iff_mem_tree.mp h
      intro x hx
      rw [tree_eq f]
      exact List.mem_cons_of_mem _ (mem_treeList_iff_mem_tree.mpr ⟨k, hk, ih k hk hg hx⟩)

theorem tree_subset_treeList {g : Field} {fs : List Field} (h : g ∈ treeList fs) :
    g.tree ⊆ treeList fs := by
  obtain ⟨f, hf, hg⟩ := mem_treeList_iff_mem_tree.mp h
  exact fun x hx => mem_treeList_iff_mem_tree.mpr ⟨f, hf, tree_subset hg hx⟩

/-- Compiling a field finds all that the fields in it have, exactly when nothing is below a field
that is no section. -/
theorem filterMap_compiled_eq_iff (f : Field) :
    f.compiled.filterMap P = f.tree.filterMap P ↔
      ∀ g ∈ f.tree, g.type ≠ .repeatable → ∀ k ∈ treeList g.children, P k = none := by
  induction f using childrenInduction with
  | step f ih =>
    -- The field itself is on both sides.
    have hhead (l l' : List Field) :
        (f :: l).filterMap P = (f :: l').filterMap P ↔ l.filterMap P = l'.filterMap P := by
      rw [List.filterMap_cons, List.filterMap_cons]
      cases P f <;> simp
    rw [forall_tree_iff f, compiled_eq, tree_eq, hhead]
    by_cases hsection : f.type = .repeatable
    · rw [if_pos hsection, filterMap_compiledList_eq_iff_forall]
      have hself : f.type ≠ .repeatable → ∀ k ∈ treeList f.children, P k = none :=
        fun hne => absurd hsection hne
      rw [and_iff_right hself]
      exact forall₂_congr ih
    · rw [if_neg hsection, List.filterMap_nil, eq_comm, List.filterMap_eq_nil_iff]
      constructor
      · intro h
        refine ⟨fun _ => h, fun k hk g hg _ x hx => h x ?_⟩
        have hxg : x ∈ g.tree := by
          rw [tree_eq]
          exact List.mem_cons_of_mem _ hx
        exact mem_treeList_iff_mem_tree.mpr ⟨k, hk, tree_subset hg hxg⟩
      · exact fun h => h.1 hsection

theorem filterMap_compiledList_eq_iff (fs : List Field) :
    (compiledList fs).filterMap P = (treeList fs).filterMap P ↔
      ∀ f ∈ treeList fs, f.type ≠ .repeatable → ∀ g ∈ treeList f.children, P g = none := by
  rw [filterMap_compiledList_eq_iff_forall, forall_treeList_iff]
  exact forall₂_congr fun f _ => filterMap_compiled_eq_iff f

end Field

/-! ### Compiling a form -/

namespace Schema

/-- The fields that are compiled with a form. -/
def compiledFields (s : Schema) : List Field := Field.compiledList s.fields

/-- What compilation does to a form. -/
theorem compile_eq (s : Schema) :
    s.compile = (Field.outcome s.compiledFields (s.fields.map fun f => (f.id, f.rule))).map
      fun r => ⟨Members.ofPairs r.1, r.2 ++ s.conditionIssues⟩ := by
  unfold compile compiledFields
  rw [Field.compileList_eq]
  rcases Field.outcome .. with e | ⟨rules, issues⟩ <;> rfl

theorem compile_of_no_fault {s : Schema} (h : ∀ f ∈ s.compiledFields, f.patternFault? = none) :
    s.compile = .ok ⟨Members.ofPairs (s.fields.map fun f => (f.id, f.rule)),
      s.compiledFields.filterMap Field.patternIssue? ++ s.conditionIssues⟩ := by
  rw [compile_eq]
  unfold Field.outcome
  rw [List.findSome?_eq_none_iff.mpr h]
  rfl

theorem compile_of_fault {s : Schema} {e : Fault}
    (h : s.compiledFields.findSome? Field.patternFault? = some e) : s.compile = .error e := by
  rw [compile_eq]
  unfold Field.outcome
  rw [h]
  rfl

/-- A form that can be compiled has no pattern with a fault that is no defect. -/
theorem no_fault_of_compile {s : Schema} {c : Contract} (h : s.compile = .ok c) :
    ∀ f ∈ s.compiledFields, f.patternFault? = none := by
  cases hfault : s.compiledFields.findSome? Field.patternFault? with
  | none => exact List.findSome?_eq_none_iff.mp hfault
  | some e =>
    rw [compile_of_fault hfault] at h
    cases h

/-- No issue with a condition is one with a pattern. -/
theorem kind_of_mem_conditionIssues {s : Schema} {i : Issue} (h : i ∈ s.conditionIssues) :
    i.kind ≠ .pattern := by
  obtain ⟨f, _, hi⟩ := List.mem_flatMap.mp h
  unfold Field.conditionIssues at hi
  rcases List.mem_append.mp hi with hi | hi
  · obtain ⟨c, _, hc⟩ := List.mem_filterMap.mp hi
    split_ifs at hc
    · cases hc
      exact nofun
    · cases hc
      exact nofun
  · obtain ⟨g, _, hg⟩ := List.mem_filterMap.mp hi
    split_ifs at hg
    cases hg
    exact nofun

theorem filter_pattern_issues (s : Schema) :
    (s.compiledFields.filterMap Field.patternIssue? ++ s.conditionIssues).filter (·.kind = .pattern) =
      s.compiledFields.filterMap Field.patternIssue? := by
  have hpatterns : ∀ i ∈ s.compiledFields.filterMap Field.patternIssue?, i.kind = .pattern := by
    intro i hi
    obtain ⟨f, _, hf⟩ := List.mem_filterMap.mp hi
    obtain ⟨bad, _, rfl⟩ := Option.map_eq_some_iff.mp hf
    rfl
  rw [List.filter_append, List.filter_eq_self.mpr fun i hi => by simpa using hpatterns i hi,
    List.filter_eq_nil_iff.mpr fun i hi => by simpa using kind_of_mem_conditionIssues hi,
    List.append_nil]

/-- What a contract should say of a form: each top-level field has one rule, and a section the rules
of its sub-fields; each rule is unusable or of the kind of its field, as the pattern wants; and of
all fields with a bad pattern, in order, there is one issue. -/
structure Reports (s : Schema) (c : Contract) : Prop where
  rules : c.rules = s.fields.map fun f => (f.id, f.rule)
  entries : ∀ f ∈ Field.treeList s.fields, f.type = .repeatable →
    f.rule = .repeatable f.ruleHead (Members.ofPairs (f.children.map fun g => (g.id, g.rule)))
  suits : ∀ f ∈ Field.treeList s.fields, f.Suits f.rule
  issues : c.issues.filter (·.kind = .pattern) =
    (Field.treeList s.fields).filterMap Field.patternIssue?

/-- A form can be compiled, and its contract says what it should. -/
def PatternsReported (s : Schema) : Prop := ∃ c, s.compile = .ok c ∧ s.Reports c

theorem patternIssue?_eq_none_iff {f : Field} : f.patternIssue? = none ↔ f.badPattern? = none :=
  Option.map_eq_none_iff

/-- If a form can be compiled and all bad patterns are reported, none of them is below a field that
is no section, and none has a fault that is no defect. -/
theorem Reports.no_fault {s : Schema} {c : Contract} (h : s.Reports c) (hc : s.compile = .ok c) :
    (∀ f ∈ Field.treeList s.fields, f.patternFault? = none) ∧
      ∀ f ∈ Field.treeList s.fields, f.type ≠ .repeatable →
        ∀ g ∈ Field.treeList f.children, g.badPattern? = none := by
  have hcompiled := no_fault_of_compile hc
  rw [compile_of_no_fault hcompiled] at hc
  have hissues := h.issues
  rw [← Except.ok.inj hc, filter_pattern_issues] at hissues
  have hstray : ∀ f ∈ Field.treeList s.fields, f.type ≠ .repeatable →
      ∀ g ∈ Field.treeList f.children, g.badPattern? = none := by
    intro f hf hsection g hg
    have hnone := (Field.filterMap_compiledList_eq_iff s.fields).mp hissues f hf hsection g hg
    exact patternIssue?_eq_none_iff.mp hnone
  refine ⟨?_, hstray⟩
  -- What is not compiled has no bad pattern at all, so the faults are those of what is compiled.
  have hfaults : s.compiledFields.filterMap Field.patternFault? =
      (Field.treeList s.fields).filterMap Field.patternFault? := by
    refine (Field.filterMap_compiledList_eq_iff s.fields).mpr fun f hf hsection g hg => ?_
    unfold Field.patternFault?
    rw [hstray f hf hsection g hg, Option.bind_none]
  rw [List.filterMap_eq_nil_iff.mpr hcompiled] at hfaults
  exact List.filterMap_eq_nil_iff.mp hfaults.symm

/-- A form is compiled and all bad patterns in it are reported, exactly when no id of a top-level
field occurs twice, no pattern has a fault that is no defect, and no field that is no section has a
bad pattern below it.  Otherwise the first fault that is no defect, if there is one where it is
compiled, is all that comes of the form.  No pattern is too deep to be read, so depth is not among the
faults. -/
theorem patternsReported_iff (s : Schema) :
    (s.PatternsReported ↔ s.fieldIds.Nodup ∧
      (∀ f ∈ Field.treeList s.fields, f.patternFault? = none) ∧
      ∀ f ∈ Field.treeList s.fields, f.type ≠ .repeatable →
        ∀ g ∈ Field.treeList f.children, g.badPattern? = none) ∧
    ∀ e, s.compiledFields.findSome? Field.patternFault? = some e → s.compile = .error e := by
  refine ⟨⟨?_, ?_⟩, fun e => compile_of_fault⟩
  -- A report of every pattern has one rule for each field, hence distinct identifiers.
  · rintro ⟨c, hc, hreports⟩
    refine ⟨?_, hreports.no_fault hc⟩
    have hrules := hreports.rules
    rw [compile_of_no_fault (no_fault_of_compile hc)] at hc
    rw [← Except.ok.inj hc] at hrules
    have hnames := Members.length_ofPairs_eq_iff.mp (congrArg List.length hrules)
    rwa [Members.names, List.map_map] at hnames
  -- Without a fault every field compiles, and its issues are those of its own pattern.
  · rintro ⟨hnodup, hfault, hstray⟩
    have hcompiled : ∀ f ∈ s.compiledFields, f.patternFault? = none :=
      fun f hf => hfault f ((Field.sublist_compiledList s.fields).subset hf)
    have htree : ∀ f ∈ Field.treeList s.fields, ∀ g ∈ f.compiled, g.patternFault? = none := by
      intro f hf g hg
      exact hfault g (Field.tree_subset_treeList hf ((Field.sublist_compiled f).subset hg))
    refine ⟨_, compile_of_no_fault hcompiled, ?_, ?_, ?_, ?_⟩
    · refine Members.ofPairs_of_nodup ?_
      rw [Members.names, List.map_map]
      exact hnodup
    · exact fun f hf hsection => Field.rule_of_section hsection (htree f hf)
    · exact fun f hf => Field.suits_rule (htree f hf)
    · rw [filter_pattern_issues]
      refine (Field.filterMap_compiledList_eq_iff s.fields).mpr fun f hf hsection g hg => ?_
      exact patternIssue?_eq_none_iff.mpr (hstray f hf hsection g hg)

/-- A field for a code, which may have to match a pattern, and may have conditions. -/
def codeField (pattern : Option String) (conditions : Option (List Condition)) : Field :=
  ⟨"code", .text, "Code", false, none, none, none,
    pattern.map fun p => { Constraints.unconstrained with pattern := some p }, conditions, none⟩

/-- A repetition beyond what can be counted is a fault, but no defect of the pattern. -/
theorem patternFault?_codeField (conditions : Option (List Condition)) :
    (codeField (some "a{4294967295}") conditions).patternFault? =
      some (.pattern "a{4294967295}" .repetitionTooLarge) := by
  have hpattern : (codeField (some "a{4294967295}") conditions).textPattern? =
      some "a{4294967295}" := by
    have htext : (codeField (some "a{4294967295}") conditions).type = .text := rfl
    unfold Field.textPattern?
    rw [if_pos (Or.inl htext)]
    exact Option.filter_eq_some_iff.mpr ⟨rfl, by decide⟩
  exact Field.patternFault?_of_read hpattern Pattern.read_of_repetition rfl

/-- A section of codes. -/
def codesField (pattern : Option String) : Field :=
  ⟨"codes", .repeatable, "Codes", false, none, none, none, none, none,
    some [codeField pattern none]⟩

/-- A form with one section of codes. -/
def codesForm (pattern : Option String) : Schema where
  title := "Codes"
  description := ""
  fields := [codesField pattern]
  settings := ⟨true, true, ""⟩

/-- A form with such a pattern, here in a section, is not compiled at all. -/
theorem not_patternsReported_of_repetition :
    (codesForm (some "a{4294967295}")).compile =
        .error (.pattern "a{4294967295}" .repetitionTooLarge) ∧
      ¬(codesForm (some "a{4294967295}")).PatternsReported := by
  have hcompiled (pattern : Option String) :
      (codesForm pattern).compiledFields = [codesField pattern, codeField pattern none] := rfl
  have hsection (pattern : Option String) : (codesField pattern).patternFault? = none := rfl
  have hfails : (codesForm (some "a{4294967295}")).compile =
      .error (.pattern "a{4294967295}" .repetitionTooLarge) := by
    refine compile_of_fault ?_
    -- The fault is that of the only pattern.
    rw [hcompiled, List.findSome?_cons, hsection]
    dsimp only
    rw [List.findSome?_singleton, patternFault?_codeField]
  refine ⟨hfails, ?_⟩
  rintro ⟨c, hc, _⟩
  rw [hfails] at hc
  cases hc

end Schema

end Questionnaire
