import Questionnaire.Json.Reader
import Questionnaire.Proofs.Value.Json

/-!
# What is read from JSON text

Whatever value is read from a text is JSON data (`Json.isJson_of_read`): members are put one by one, so
that no name comes twice.  It may have numbers of all kinds, the infinities among them.
-/

namespace Questionnaire.Json

theorem isJson_of_words {w : String × Value} (h : w ∈ words) : w.2.IsJson Number.Any := by
  unfold words at h
  simp only [List.mem_cons, List.not_mem_nil, or_false] at h
  rcases h with rfl | rfl | rfl | rfl | rfl | rfl
  · exact .null
  · exact .bool true
  · exact .bool false
  · exact .float trivial
  · exact .float trivial
  · exact .float trivial

theorem isJson_of_scanNumber {c after : Cursor} {v : Value} (h : scanNumber c = .ok (v, after)) :
    v.IsJson Number.Any := by
  unfold scanNumber at h
  extract_lets minus whole at h
  split at h
  · cases h
  · split at h
    · split at h
      · cases h
      · obtain ⟨rfl, _⟩ := Prod.mk.inj (Except.ok.inj h)
        exact .int trivial
    · obtain ⟨rfl, _⟩ := Prod.mk.inj (Except.ok.inj h)
      exact .float trivial

theorem scan_bind_eq_ok_iff {α β : Type} {x : Except Failure α} {f : α → Except Failure β} {b : β} :
    (x >>= f) = .ok b ↔ ∃ a, x = .ok a ∧ f a = .ok b := by
  cases x with
  | error e => simp [bind, Except.bind]
  | ok a => simp [bind, Except.bind]

/-- What is read with some fuel: values, members after others, and items after others. -/
structure ReadsData (fuel : Nat) : Prop where
  value : ∀ c v after, scanValue fuel c = .ok (v, after) → v.IsJson Number.Any
  members : ∀ done c ms after, (Value.dict done).IsJson Number.Any →
    scanMembers fuel done c = .ok (ms, after) → (Value.dict ms).IsJson Number.Any
  items : ∀ done c vs after, (∀ v ∈ done, v.IsJson Number.Any) →
    scanItems fuel done c = .ok (vs, after) → ∀ v ∈ vs, v.IsJson Number.Any

namespace ReadsData

variable {fuel : Nat} (ih : ReadsData fuel) {c after : Cursor}
include ih

/-- A scanned value comes from JSON, given that its items and members do. -/
theorem isJson_of_scanValue {v : Value} (h : scanValue (fuel + 1) c = .ok (v, after)) :
    v.IsJson Number.Any := by
  rw [scanValue] at h
  split at h
  · obtain ⟨⟨cs, mid⟩, _, h⟩ := scan_bind_eq_ok_iff.mp h
    cases h
    exact .str _
  · dsimp only at h
    split at h
    · cases h
      exact .dict List.nodup_nil (by simp)
    · obtain ⟨⟨ms, mid⟩, hms, h⟩ := scan_bind_eq_ok_iff.mp h
      cases h
      exact ih.members [] _ ms mid (.dict List.nodup_nil (by simp)) hms
  · dsimp only at h
    split at h
    · cases h
      exact .list (by simp)
    · obtain ⟨⟨vs, mid⟩, hvs, h⟩ := scan_bind_eq_ok_iff.mp h
      cases h
      exact .list (ih.items [] _ vs mid (by simp) hvs)
  · split at h
    · cases h
      exact isJson_of_words (List.mem_of_find?_eq_some ‹_›)
    · exact isJson_of_scanNumber h

/-- Scanned members come from JSON. -/
theorem isJson_of_scanMembers {done ms : Members Value} (hdone : (Value.dict done).IsJson Number.Any)
    (h : scanMembers (fuel + 1) done c = .ok (ms, after)) : (Value.dict ms).IsJson Number.Any := by
  rw [scanMembers] at h
  split at h
  · obtain ⟨⟨name, c'⟩, _, h⟩ := scan_bind_eq_ok_iff.mp h
    dsimp only at h
    split at h
    · obtain ⟨⟨v, c''⟩, hv, h⟩ := scan_bind_eq_ok_iff.mp h
      -- The member is put among those that were read before it, in the place of its name.
      have hdone := hdone.put (String.ofList name) (ih.value _ v c'' hv)
      dsimp only at h
      split at h
      · cases h
        exact hdone
      · exact ih.members _ _ ms after hdone h
      · cases h
    · cases h
  · cases h

/-- Scanned items come from JSON. -/
theorem isJson_of_scanItems {done vs : List Value} (hdone : ∀ v ∈ done, v.IsJson Number.Any)
    (h : scanItems (fuel + 1) done c = .ok (vs, after)) : ∀ v ∈ vs, v.IsJson Number.Any := by
  rw [scanItems] at h
  obtain ⟨⟨v, c'⟩, hv, h⟩ := scan_bind_eq_ok_iff.mp h
  have hdone : ∀ w ∈ v :: done, w.IsJson Number.Any :=
    List.forall_mem_cons.mpr ⟨ih.value _ v c' hv, hdone⟩
  dsimp only at h
  split at h
  · cases h
    exact fun w hw => hdone w (List.mem_reverse.mp hw)
  · exact ih.items _ _ vs after hdone h
  · cases h

end ReadsData

/-- By induction on the fuel: whatever is scanned comes from JSON. -/
theorem readsData (fuel : Nat) : ReadsData fuel := by
  induction fuel with
  | zero => exact ⟨nofun, nofun, nofun⟩
  | succ fuel ih =>
    exact ⟨fun _ _ _ h => ih.isJson_of_scanValue h,
      fun _ _ _ _ hdone h => ih.isJson_of_scanMembers hdone h,
      fun _ _ _ _ hdone h => ih.isJson_of_scanItems hdone h⟩

/-- What is read from a text is JSON data. -/
theorem isJson_of_read {text : String} {v : Value} (h : read text = .ok v) :
    v.IsJson Number.Any := by
  unfold read readChars at h
  split at h
  · cases h
  -- What has been read was scanned, and nothing was left over.
  · cases hscan : scanValue (2 * text.toList.length + 2) (Cursor.skipBlanks ⟨text.toList, 0⟩) with
    | error e =>
      rw [hscan] at h
      cases h
    | ok r =>
      rw [hscan] at h
      have hread : (if r.2.skipBlanks.rest.isEmpty then .ok r.1
          else .error (.stopsAt r.2.skipBlanks.place .extraData) : Except Failure Value).mapError
            (Failure.locate text.toList) = .ok v := h
      split at hread
      · cases hread
        exact (readsData _).value _ r.1 r.2 hscan
      · cases hread

end Questionnaire.Json
