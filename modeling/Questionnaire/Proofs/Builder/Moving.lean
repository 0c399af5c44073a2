import Questionnaire.Proofs.Builder.Commit
import Questionnaire.Proofs.Store.Reordering

/-!
# Moving fields

A field is moved by taking it out of the list and inserting it again among the others.  A list of
fields is seen here as the others with the field inserted at its position (`List.insertIdx`), so
that a move only changes this position (`Builder.moveField_insertIdx`), and the way back is a move
too.
-/

namespace Questionnaire

namespace Field

variable {others : List Field} {f : Field} {p : Nat}

/-- The others are what is left without the id of the field. -/
theorem filter_insertIdx (hp : p ≤ others.length)
    (hn : ((others.insertIdx p f).map (·.id)).Nodup) :
    (others.insertIdx p f).filter (·.id ≠ f.id) = others := by
  rw [insertIdx_eq_take_append hp] at hn ⊢
  rw [filter_at_key hn, List.take_append_drop]

end Field

namespace Builder

theorem insertionIndex_le {v : Value} {count k : Nat} (h : insertionIndex v count = .ok k) :
    k ≤ count := by
  -- A float is an index only where a comparison decides it; all that is accepted is clamped.
  cases v with
  | bool b =>
    cases h
    exact Nat.min_le_right _ _
  | int n =>
    cases h
    exact Nat.min_le_right _ _
  | float x =>
    simp only [insertionIndex] at h
    split_ifs at h
    · cases h
      exact Nat.le_refl _
    · cases h
    · cases h
      exact count.zero_le
  | _ => cases h

variable {s : Store} {f : Field} {others : List Field} {p : Nat}

section Inserted

variable (hsound : s.schema.Sound) (hissued : s.schema.allFieldIds ⊆ s.issued)
  (hfields : s.schema.fields = others.insertIdx p f) (hp : p ≤ others.length) {index : Value}
  {k : Nat} (hk : insertionIndex index others.length = .ok k)
include hsound hissued hfields hp hk

/-- A move inserts the field among the others at another position, and alters nothing else. -/
theorem moveField_insertIdx :
    moveField s (.str f.id) index =
      .ok ⟨{ s.schema with fields := others.insertIdx k f }, s.issued⟩ := by
  have hmem : f ∈ s.schema.fields :=
    hfields ▸ (List.perm_insertIdx f others hp).symm.subset List.mem_cons_self
  have hothers : s.schema.fields.filter (·.id ≠ f.id) = others := by
    rw [hfields]
    exact Field.filter_insertIdx hp (hfields ▸ hsound.nodup_ids)
  have hle : k ≤ others.length := insertionIndex_le hk
  unfold moveField
  rw [hsound.field?_id hmem]
  simp only [hothers]
  refine Outcome.bind_eq_ok_iff.mpr ⟨k, hk, ?_⟩
  rw [← insertIdx_eq_take_append hle]
  exact Store.commit_of_perm hsound hissued (hfields ▸ perm_insertIdx_insertIdx hle hp f)

/-- A move is the reordering by the fields as the move puts them. -/
theorem reorderFields_eq_moveField {v : Value} {vs : List Value} (hvs : v.iterate = .ok vs)
    (hread : Store.fieldsOf vs = .ok (others.insertIdx k f)) :
    s.reorderFields v = moveField s (.str f.id) index := by
  have hperm : (others.insertIdx k f).Perm s.schema.fields :=
    hfields ▸ perm_insertIdx_insertIdx (insertionIndex_le hk) hp f
  rw [moveField_insertIdx hsound hissued hfields hp hk]
  exact Store.reorderFields_eq_ok_iff.mpr
    ⟨vs, _, hvs, hread, hperm.map _, Store.commit_of_perm hsound hissued hperm⟩

end Inserted

/-- A field of the form can be moved to any whole number.  It is then at that position, or at the
nearest one that there is, and the others are in their order; the ledger remains what it is, and the
move to the former position leads back to the former store. -/
theorem moveField_moves (hs : s.Reachable) (hf : s.schema.fields[p]? = some f) (i : Int) :
    let k := (min (max i 0) (s.schema.fields.length - 1)).toNat
    ∃ t, moveField s (.str f.id) (.int i) = .ok t ∧
      t.schema = { s.schema with fields := (s.schema.fields.eraseIdx p).insertIdx k f } ∧
      t.schema.fields[k]? = some f ∧ t.schema.fields.eraseIdx k = s.schema.fields.eraseIdx p ∧
      t.schema.fields.Perm s.schema.fields ∧ t.issued = s.issued ∧
      moveField t (.str f.id) (.int p) = .ok s := by
  intro k
  -- The others keep their order, and the position counts among them.
  obtain ⟨hlt, hfp⟩ := List.getElem?_eq_some_iff.mp hf
  obtain ⟨others, hothers⟩ : ∃ others, s.schema.fields.eraseIdx p = others := ⟨_, rfl⟩
  have hlength : others.length = s.schema.fields.length - 1 :=
    hothers ▸ List.length_eraseIdx_of_lt hlt
  have hp : p ≤ others.length := by omega
  have hk : k ≤ others.length := by omega
  have hfields : others.insertIdx p f = s.schema.fields := by
    rw [← hothers, ← hfp, List.insertIdx_eraseIdx_getElem hlt]
  have hmove : moveField s (.str f.id) (.int i) =
      .ok ⟨{ s.schema with fields := others.insertIdx k f }, s.issued⟩ :=
    moveField_insertIdx hs.sound hs.issued hfields.symm hp (congrArg Except.ok (by omega))
  have ht := committed_of_moveField hmove
  rw [hothers]
  refine ⟨_, hmove, rfl, ?_, List.eraseIdx_insertIdx_self f, ?_, rfl, ?_⟩
  · rw [List.getElem?_insertIdx_self, if_pos hk]
  · rw [← hfields]
    exact perm_insertIdx_insertIdx hk hp f
  · -- Seen from the new store, the others are the same and the field is among them at `k`.
    have hback : insertionIndex (.int p) others.length = .ok p :=
      congrArg Except.ok (by omega)
    rw [moveField_insertIdx ht.sound (fun id hid => ht.mem_issued.mpr (Or.inr hid)) rfl hk hback,
      hfields]

/-- A form of three questions. -/
def threeQuestions : Value :=
  .dict [("title", .str "Questions"), ("fields", .list (["a", "b", "c"].map fun id =>
    .dict [("id", .str id), ("type", .str "text"), ("label", .str "Why?")]))]

/-- The last of three fields is moved before the start, and back. -/
theorem moveField_moves_last :
    ∃ w f, Workspace.new .standard ⟨[], 0⟩ threeQuestions none = .ok w ∧ w.store.Reachable ∧
      w.store.schema.fields[2]? = some f ∧ f.id = "c" ∧
      ∃ t, moveField w.store (.str "c") (.int (-5)) = .ok t ∧
        t.schema.fieldIds = ["c", "a", "b"] ∧ t.issued = w.store.issued ∧
        moveField t (.str "c") (.int 2) = .ok w.store := by
  obtain ⟨w, f, hw, hf, hid, hids⟩ : ∃ w f,
      Workspace.new .standard ⟨[], 0⟩ threeQuestions none = .ok w ∧
      w.store.schema.fields[2]? = some f ∧ f.id = "c" ∧
      ((w.store.schema.fields.eraseIdx 2).insertIdx 0 f).map (·.id) = ["c", "a", "b"] :=
    ⟨_, _, rfl, rfl, rfl, rfl⟩
  have hreachable : w.store.Reachable := ⟨.standard, ⟨[], 0⟩, _, none, w, [], hw, rfl⟩
  obtain ⟨t, hmove, hschema, _, _, _, hissued, hback⟩ := moveField_moves hreachable hf (-5)
  refine ⟨w, f, hw, hreachable, hf, hid, t, hid ▸ hmove, ?_, hissued, hid ▸ hback⟩
  have hstart : (min (max (-5) 0) ((w.store.schema.fields.length : Int) - 1)).toNat = 0 := by omega
  rw [hschema, hstart]
  exact hids

end Builder
end Questionnaire
