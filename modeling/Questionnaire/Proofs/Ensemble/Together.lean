import Questionnaire.Proofs.Ensemble.Basic
import Questionnaire.Proofs.Session.Failure

/-!
# Whether a store and its sessions move together

A command should move a store and all sessions that follow it to a new form, or nothing at all
(`MovesTogether`).  The store takes up a form before the sessions have gone on with it, however, and
nobody goes back when a session fails.  `movesTogether_iff` says when all is well none the less:
when the command makes no new form, or one with which every session can go on.  Otherwise the store
and the sessions before the first that cannot go on have the new form, that one is left between the
forms, and those after it have the old form.
-/

namespace Questionnaire.Ensemble

/-! ### Going on one after the other -/

variable {c : Config} {schema : Schema}

/-- Of some sessions the ones before the first that cannot go on with a form are in step with it,
and the ones after that one are as they were. -/
def BrokenOff (c : Config) (schema : Schema) (before after : List Session) : Prop :=
  ∃ done done' stuck rest, before = done ++ stuck :: rest ∧
    after = done' ++ ((Session.rebind c schema).run.run stuck).2 :: rest ∧
    done.length = done'.length ∧ (∀ s ∈ done', s.InStep schema) ∧ ¬stuck.CanGoOn c schema

/-- Where some session cannot go on, the round breaks off at the first such one. -/
theorem goOn_of_not_forall {ss : List Session} (h : ¬∀ s ∈ ss, s.CanGoOn c schema) :
    ∃ e ss', goOn c schema ss = (.error e, ss') ∧ BrokenOff c schema ss ss' := by
  induction ss with
  | nil => exact absurd (fun s hs => absurd hs List.not_mem_nil) h
  | cons s ss ih =>
    by_cases hs : s.CanGoOn c schema
    -- The first that cannot go on is among the others, or it is this one.
    · have hrebind := hs.run_rebind
      have hss : ¬∀ s ∈ ss, s.CanGoOn c schema := fun hss => h (List.forall_mem_cons.mpr ⟨hs, hss⟩)
      obtain ⟨e, ss', hgoOn, done, done', stuck, rest, rfl, rfl, hlength, hdone, hstuck⟩ := ih hss
      refine ⟨e, _, ?_, s :: done, ((Session.rebind c schema).run.run s).2 :: done', stuck, rest,
        rfl, rfl, congrArg (· + 1) hlength, ?_, hstuck⟩
      · rw [goOn_cons_ok hrebind, hgoOn]
        rfl
      · exact List.forall_mem_cons.mpr ⟨(Session.inStep_of_rebind hrebind).1, hdone⟩
    · rcases hrebind : (Session.rebind c schema).run.run s with ⟨e | _, s'⟩
      · refine ⟨e, s' :: ss, goOn_cons_error hrebind ss, [], [], s, ss, rfl, ?_, rfl,
          fun s hs => absurd hs List.not_mem_nil, hs⟩
        rw [hrebind]
        rfl
      · exact absurd (Session.run_rebind_eq_ok_iff.mp hrebind).1 hs

/-! ### Commands -/

/-- The store is what it was, and each session has the form, the contract, the answers and the
visible fields that it had. -/
def Unchanged (a b : Ensemble) : Prop :=
  b.store = a.store ∧ List.Forall₂ Session.Same a.sessions b.sessions

/-- Every session is in step with the form of the store. -/
def InStep (a : Ensemble) : Prop := ∀ s ∈ a.sessions, s.InStep a.store.schema

/-- A command that fails changes nothing, and after one that makes a new form all sessions are in
step with it. -/
def MovesTogether (a : Ensemble) (command : Command) : Prop :=
  match a.run command with
  | (.error _, b) => a.Unchanged b
  | (.ok _, b) => if (a.proposal command).isSome then b.InStep else a.Unchanged b

variable {a : Ensemble} {command : Command} {t : Store}

/-- An ensemble of the same store and sessions is unchanged. -/
theorem Unchanged.of_eq {b : Ensemble} (hstore : b.store = a.store)
    (hsessions : b.sessions = a.sessions) : a.Unchanged b := by
  refine ⟨hstore, ?_⟩
  rw [hsessions]
  exact List.forall₂_same.mpr fun s _ => Session.Same.refl s

/-- A command that makes no new store changes nothing. -/
theorem unchanged_of_no_proposal (h : a.proposal command = none) :
    a.Unchanged (a.run command).2 :=
  Unchanged.of_eq (run_of_proposal_eq_none h).1 (run_of_proposal_eq_none h).2

/-- What a command does that makes a new store: the store is taken up, and either all sessions are
in step with its form, or the command fails and the sessions have broken off. -/
theorem run_spec (ht : a.proposal command = some t) :
    (a.run command).2.store = t ∧
      ((∀ s ∈ a.sessions, s.CanGoOn a.config t.schema) ∧ (∃ v, (a.run command).1 = .ok v) ∧
          (a.run command).2.InStep ∨
        (∃ e, (a.run command).1 = .error e) ∧
          BrokenOff a.config t.schema a.sessions (a.run command).2.sessions) := by
  obtain ⟨answer, houtcome, hstore, hsessions⟩ := run_of_proposal_eq_some ht
  refine ⟨hstore, ?_⟩
  -- Either every session can go on and the round reaches the last, or it breaks off.
  by_cases hgo : ∀ s ∈ a.sessions, s.CanGoOn a.config t.schema
  · rw [goOn_of_forall hgo] at houtcome hsessions
    refine Or.inl ⟨hgo, ⟨answer, houtcome⟩, ?_⟩
    unfold InStep
    rw [hstore, hsessions]
    intro s' hs'
    obtain ⟨s, hs, rfl⟩ := List.mem_map.mp hs'
    exact (Session.inStep_of_rebind (hgo s hs).run_rebind).1
  · obtain ⟨e, ss', hgoOn, hbroken⟩ := goOn_of_not_forall hgo
    rw [hgoOn] at houtcome hsessions
    refine Or.inr ⟨⟨e, houtcome⟩, ?_⟩
    rw [hsessions]
    exact hbroken

/-- A round that broke off met a session that cannot go on. -/
theorem not_forall_of_brokenOff {ss ss' : List Session} (h : BrokenOff c schema ss ss') :
    ¬∀ s ∈ ss, s.CanGoOn c schema := by
  obtain ⟨done, _, stuck, rest, rfl, _, _, _, hstuck⟩ := h
  intro hall
  exact hstuck (hall stuck (List.mem_append_right _ List.mem_cons_self))

/-- After an error, moving together can only mean that nothing moved. -/
theorem movesTogether_of_error {e : Fault} (h : (a.run command).1 = .error e) :
    a.MovesTogether command ↔ a.Unchanged (a.run command).2 := by
  unfold MovesTogether
  revert h
  rcases a.run command with ⟨_, b⟩
  rintro rfl
  exact Iff.rfl

/-- After an answer, moving together is being in step where there was a proposal. -/
theorem movesTogether_of_ok {v : Value} (h : (a.run command).1 = .ok v) :
    a.MovesTogether command ↔
      if (a.proposal command).isSome then (a.run command).2.InStep
      else a.Unchanged (a.run command).2 := by
  unfold MovesTogether
  revert h
  rcases a.run command with ⟨_, b⟩
  rintro rfl
  exact Iff.rfl

/-- A command moves a store and its sessions together if all sessions can go on with the form that
it makes, and otherwise only if it happens to change nothing.  For the store takes up what the
command makes in any case: if a session cannot go on, the command fails when the store has the new
form and so have the sessions before that one. -/
theorem movesTogether_iff (a : Ensemble) (command : Command) :
    (a.MovesTogether command ↔ ∀ t, a.proposal command = some t →
      (∀ s ∈ a.sessions, s.CanGoOn a.config t.schema) ∨ a.Unchanged (a.run command).2) ∧
    (a.proposal command = none → a.Unchanged (a.run command).2) ∧
    ∀ t, a.proposal command = some t → (a.run command).2.store = t ∧
      ((∀ s ∈ a.sessions, s.CanGoOn a.config t.schema) ∧ (∃ v, (a.run command).1 = .ok v) ∧
          (a.run command).2.InStep ∨
        (∃ e, (a.run command).1 = .error e) ∧
          BrokenOff a.config t.schema a.sessions (a.run command).2.sessions) := by
  refine ⟨?_, unchanged_of_no_proposal, fun t => run_spec⟩
  cases hp : a.proposal command with
  | none =>
    have hsame := unchanged_of_no_proposal hp
    refine ⟨fun _ t ht => absurd ht nofun, fun _ => ?_⟩
    rcases hrun : (a.run command).1 with e | v
    · exact (movesTogether_of_error hrun).mpr hsame
    · rw [movesTogether_of_ok hrun, hp]
      exact hsame
  | some t =>
    -- There is one proposal only, so nothing is said about others.
    have hone : (∀ t', some t = some t' →
        (∀ s ∈ a.sessions, s.CanGoOn a.config t'.schema) ∨ a.Unchanged (a.run command).2) ↔
        (∀ s ∈ a.sessions, s.CanGoOn a.config t.schema) ∨ a.Unchanged (a.run command).2 := by
      simp
    rw [hone]
    rcases (run_spec hp).2 with ⟨hgo, ⟨v, hok⟩, hinStep⟩ | ⟨⟨e, herror⟩, hbroken⟩
    · rw [movesTogether_of_ok hok, hp]
      exact ⟨fun _ => Or.inl hgo, fun _ => hinStep⟩
    · rw [movesTogether_of_error herror]
      exact (or_iff_right (not_forall_of_brokenOff hbroken)).symm

/-- A form of one code, which may have to match a pattern. -/
def codeForm (pattern : Option String) : Schema where
  title := "Codes"
  description := ""
  fields := [⟨"code", .text, "Code", false, none, none, none,
    pattern.map fun p => { Constraints.unconstrained with pattern := some p }, none, none⟩]
  settings := ⟨true, true, ""⟩

/-- A repetition beyond what a pattern can count is no mere defect of the pattern. -/
theorem compile_codeForm :
    (codeForm (some "a{4294967295}")).compile =
      .error (.pattern "a{4294967295}" .repetitionTooLarge) := by
  -- The compiler hands the error of the pattern reader on.
  have hrule (head : RuleHead) : Field.textRule "code" head
      { Constraints.unconstrained with pattern := some "a{4294967295}" } =
        .error (.pattern "a{4294967295}" .repetitionTooLarge) :=
    Field.textRule_of_read rfl (by simp) Pattern.read_of_repetition rfl
  have hfields : (codeForm (some "a{4294967295}")).fields =
      [⟨"code", .text, "Code", false, none, none, none,
        some { Constraints.unconstrained with pattern := some "a{4294967295}" }, none, none⟩] := rfl
  unfold Schema.compile
  rw [hfields, Field.compileList, Field.compile]
  dsimp only [Option.getD_some]
  rw [if_neg (by simp)]
  unfold Field.plainRule
  dsimp only
  rw [hrule]
  rfl

/-- Of two sessions that follow a store, neither can go on when a field gets a pattern that cannot
be read.  The command fails, but the store has the new form, and so has the first session, which has
the contract of the old one. -/
theorem not_movesTogether_of_pattern :
    let command : Command := .store (.updateField (.str "code")
      (.dict [("validations", .dict [("pattern", .str "a{4294967295}")])]))
    ∃ store s, Store.replace (codeForm none) = .ok store ∧
      Session.new .standard store.schema .null = .ok s ∧
      let a : Ensemble := ⟨.standard, store, ⟨[], 0⟩, [s, s]⟩
      ∃ b, a.run command = (.error (.pattern "a{4294967295}" .repetitionTooLarge), b) ∧
        b.store.schema = codeForm (some "a{4294967295}") ∧
        b.sessions = [{ s with schema := b.store.schema }, s] ∧ ¬a.MovesTogether command := by
  intro command
  let p := "a{4294967295}"
  -- The command is accepted by the store: patterns are read only when a schema is compiled.
  obtain ⟨store, s, hstore, hs, hproposal⟩ : ∃ store s,
      Store.replace (codeForm none) = .ok store ∧
      Session.new .standard store.schema .null = .ok s ∧
      Ensemble.effect ⟨.standard, store, ⟨[], 0⟩, [s, s]⟩ command =
        (.ok (.silent ⟨codeForm (some p), ["code"]⟩), ⟨[], 0⟩) := ⟨_, _, rfl, rfl, rfl⟩
  have hrebind : (Session.rebind .standard (codeForm (some p))).run.run s =
      (.error (.pattern p .repetitionTooLarge), { s with schema := codeForm (some p) }) := by
    rw [Session.run_rebind, compile_codeForm]
  let a : Ensemble := ⟨.standard, store, ⟨[], 0⟩, [s, s]⟩
  -- The first session is caught between the schemas and the second was never asked.
  have hrun : a.run command = (.error (.pattern p .repetitionTooLarge),
      ⟨.standard, ⟨codeForm (some p), ["code"]⟩, ⟨[], 0⟩,
        [{ s with schema := codeForm (some p) }, s]⟩) := by
    unfold run
    rw [hproposal]
    show ((goOn .standard (codeForm (some p)) [s, s]).1.map _, (_ : Ensemble)) = _
    rw [goOn_cons_error hrebind]
    rfl
  refine ⟨store, s, hstore, hs, _, hrun, rfl, rfl, ?_⟩
  rw [movesTogether_of_error (congrArg Prod.fst hrun), hrun]
  rintro ⟨hsame, _⟩
  obtain rfl := Except.ok.inj hstore
  -- The two forms differ in the constraints of their only field.
  cases congrArg (fun t => t.schema.fields.map (·.constraints)) hsame

end Questionnaire.Ensemble
