import Questionnaire.Proofs.Form.Soundness
import Questionnaire.Proofs.Outcome
import Questionnaire.Validation.Compilation

/-!
# Forms that cannot be compiled

A text field with a defective pattern gets a rule that accepts anything, so that its form can be
compiled all the same.  What remains are patterns that fail to be read without being defective, such
as one that repeats a part too often.  `Schema.unreadable_of_compile` says that every form that
cannot be compiled has such a pattern.
-/

namespace Questionnaire

namespace Field

/-- A text field has a pattern that cannot be read, though it is not defective; `e` is the fault. -/
def Unreadable (f : Field) (e : Fault) : Prop :=
  (f.type = .text ∨ f.type = .textarea) ∧ ∃ p fault, f.constraints.bind (·.pattern) = some p ∧
    Pattern.read p = .error fault ∧ fault.isDefect = false ∧ e = .pattern p fault

variable {e : Fault}

/-- A text fails to compile on a pattern whose fault is no defect of the pattern. -/
theorem textRule_eq_error {id : String} {head : RuleHead} {c : Constraints}
    (h : textRule id head c = .error e) :
    ∃ p fault, c.pattern = some p ∧ Pattern.read p = .error fault ∧ fault.isDefect = false ∧
      e = .pattern p fault := by
  unfold textRule at h
  dsimp only at h
  split at h
  · cases h
  · next p hp =>
    have hpattern : c.pattern = some p := (Option.filter_eq_some_iff.mp hp).1
    split at h
    · cases h
    · next fault hread =>
      by_cases hdefect : fault.isDefect = true
      · rw [if_pos hdefect] at h
        cases h
      · rw [if_neg hdefect] at h
        cases h
        exact ⟨p, fault, hpattern, hread, by simpa using hdefect, rfl⟩

theorem textRule_of_read {id : String} {head : RuleHead} {c : Constraints} {p : String}
    {fault : Pattern.Fault} (hpattern : c.pattern = some p) (hp : p ≠ "")
    (hread : Pattern.read p = .error fault) (hdefect : fault.isDefect = false) :
    textRule id head c = .error (.pattern p fault) := by
  have hfilter : c.pattern.filter (· ≠ "") = some p := by
    rw [hpattern, Option.filter_some, if_pos (by simpa using hp)]
  unfold textRule
  dsimp only
  rw [hfilter]
  dsimp only
  rw [hread]
  dsimp only
  rw [hdefect, if_neg Bool.false_ne_true]

theorem plainRule_eq_error {id : String} {type : FieldType} {head : RuleHead} {c : Constraints}
    (h : plainRule id type head c = .error e) :
    (type = .text ∨ type = .textarea) ∧ textRule id head c = .error e := by
  cases type with
  | text => exact ⟨Or.inl rfl, h⟩
  | textarea => exact ⟨Or.inr rfl, h⟩
  | _ => cases h

theorem compileList_eq_error {fields : List Field} (h : compileList fields = .error e) :
    ∃ f ∈ fields, f.compile = .error e := by
  induction fields with
  | nil => cases h
  | cons f fields ih =>
    rw [compileList] at h
    rcases Outcome.bind_eq_error_iff.mp h with h | ⟨_, _, h⟩
    · exact ⟨f, List.mem_cons_self, h⟩
    · rcases Outcome.bind_eq_error_iff.mp h with h | ⟨_, _, h⟩
      · obtain ⟨g, hg, hfails⟩ := ih h
        exact ⟨g, List.mem_cons_of_mem _ hg, hfails⟩
      · cases h

/-- A field that cannot be compiled has an unreadable pattern, or a sub-field that cannot be. -/
theorem compile_eq_error {f : Field} (h : f.compile = .error e) :
    f.Unreadable e ∨ ∃ g ∈ f.children, g.compile = .error e := by
  -- A section hands on what its sub-fields do; any other field can only fail on its pattern.
  obtain ⟨id, type, _, required, _, _, _, constraints, _, subFields⟩ := f
  rw [compile] at h
  dsimp only at h
  by_cases htype : type = .repeatable
  · rw [if_pos htype] at h
    rcases Outcome.bind_eq_error_iff.mp h with h | ⟨_, _, h⟩
    · cases subFields with
      | none =>
        rw [compileOpt] at h
        cases h
      | some fields =>
        rw [compileOpt] at h
        exact Or.inr (compileList_eq_error h)
    · cases h
  · rw [if_neg htype] at h
    obtain ⟨htext, h⟩ := plainRule_eq_error h
    obtain ⟨p, fault, hp, hread, hdefect, he⟩ := textRule_eq_error h
    refine Or.inl ⟨htext, p, fault, ?_, hread, hdefect, he⟩
    cases constraints with
    | none => cases hp
    | some c => exact hp

theorem unreadable_of_compile (f : Field) :
    f.compile = .error e → ∃ g ∈ f.tree, g.Unreadable e := by
  induction f using childrenInduction with
  | step f ih =>
    intro h
    rw [tree_eq]
    rcases compile_eq_error h with h | ⟨g, hg, h⟩
    · exact ⟨f, List.mem_cons_self, h⟩
    · obtain ⟨k, hk, hunreadable⟩ := ih g hg h
      rw [tree_eq] at hk
      refine ⟨k, List.mem_cons_of_mem _ (mem_treeList.mpr ⟨g, hg, ?_⟩), hunreadable⟩
      exact List.mem_cons.mp hk

end Field

/-- A form that cannot be compiled has a field with an unreadable pattern. -/
theorem Schema.unreadable_of_compile {s : Schema} {e : Fault} (h : s.compile = .error e) :
    ∃ f ∈ Field.treeList s.fields, f.Unreadable e := by
  rcases Outcome.bind_eq_error_iff.mp h with h | ⟨_, _, h⟩
  · obtain ⟨f, hf, h⟩ := Field.compileList_eq_error h
    obtain ⟨g, hg, hunreadable⟩ := Field.unreadable_of_compile f h
    rw [Field.tree_eq] at hg
    exact ⟨g, Field.mem_treeList.mpr ⟨f, hf, List.mem_cons.mp hg⟩, hunreadable⟩
  · cases h

/-- More repetitions than can be counted are such a fault. -/
theorem Pattern.read_of_repetition : Pattern.read "a{4294967295}" = .error .repetitionTooLarge := by
  have hcases : (match Pattern.read "a{4294967295}" with
      | .error .repetitionTooLarge => true
      | _ => false) = true := by decide +kernel
  revert hcases
  -- The outcome stays a letter, so that it is not computed again.
  generalize Pattern.read "a{4294967295}" = o
  intro hcases
  split at hcases
  · rfl
  · cases hcases

end Questionnaire
