import Questionnaire.Text.LetterCase
import Mathlib.Data.List.Basic

/-!
# Letters that differ in case only

Two characters are in one class when they have the same lower case, or their lower cases are variants of
each other (`Text.mem_caseClass_iff`).  Beside the ASCII letters themselves, four characters of other
scripts are in the class of one (`Text.exists_capital_iff`); no other character is in the class of an
ASCII digit or of a punctuation mark (`Text.mem_caseClass_of_caseless`).
-/

namespace Questionnaire.Text

/-! ### Lower case -/

/-- The runs of capital letters keep within the code points. -/
theorem lowerRuns_nonneg : ∀ r ∈ lowerRuns, 0 ≤ (r.first : Int) + r.shift := by
  decide +kernel

theorem CaseRun.applied_eq_some_iff {r : CaseRun} {n k : Nat} : r.applied n = some k ↔
    (r.first ≤ n ∧ n ≤ r.last ∧ (n - r.first) % r.step = 0) ∧ ((n : Int) + r.shift).toNat = k := by
  unfold applied
  split <;> simp_all

/-- A letter of a run is found again from its lower case. -/
theorem CaseRun.source_of_applied {r : CaseRun} (hr : r ∈ lowerRuns) {n k : Nat}
    (h : r.applied n = some k) : ((k : Int) - r.shift).toNat = n := by
  obtain ⟨⟨hfirst, -, -⟩, rfl⟩ := applied_eq_some_iff.mp h
  have hnonneg := lowerRuns_nonneg r hr
  omega

/-- A character is its own lower case, or a run has it. -/
theorem simpleLower_cases (n : Nat) :
    simpleLower n = n ∨ ∃ r ∈ lowerRuns, r.applied n = some (simpleLower n) := by
  unfold simpleLower mapCase
  cases h : lowerRuns.findSome? (·.applied n) with
  | none => exact .inl rfl
  | some k => exact .inr (List.exists_of_findSome?_eq_some h)

theorem mem_withLower_iff {m n : Nat} : m ∈ withLower n ↔ simpleLower m = n := by
  have hcapitals : m ∈ (lowerRuns.filterMap fun r =>
      let m := ((n : Int) - r.shift).toNat
      if simpleLower m = n ∧ r.applied m = some n then some m else none) ↔
      simpleLower m = n ∧ ∃ r ∈ lowerRuns, r.applied m = some n := by
    rw [List.mem_filterMap]
    constructor
    · rintro ⟨r, hr, h⟩
      dsimp only at h
      split at h
      · next hm =>
        cases h
        exact ⟨hm.1, r, hr, hm.2⟩
      · cases h
    · rintro ⟨hm, r, hr, happlied⟩
      refine ⟨r, hr, ?_⟩
      dsimp only
      rw [CaseRun.source_of_applied hr happlied, if_pos ⟨hm, happlied⟩]
  unfold withLower
  dsimp only at hcapitals ⊢
  -- Beside the capitals of the runs the list has the character itself if it is its own lower case.
  constructor
  · intro h
    split at h
    · next hn =>
      rcases List.mem_cons.mp h with rfl | h
      · exact hn
      · exact (hcapitals.mp h).1
    · exact (hcapitals.mp h).1
  · intro h
    have hm : m = n ∧ simpleLower n = n ∨ ∃ r ∈ lowerRuns, r.applied m = some n := by
      rcases simpleLower_cases m with hself | hrun
      · exact .inl ⟨hself.symm.trans h, (hself.symm.trans h) ▸ h⟩
      · exact .inr (h ▸ hrun)
    split
    · next hn =>
      rcases hm with ⟨rfl, -⟩ | hrun
      · exact List.mem_cons_self
      · exact List.mem_cons_of_mem _ (hcapitals.mpr ⟨h, hrun⟩)
    · next hn =>
      rcases hm with ⟨-, hself⟩ | hrun
      · exact absurd hself hn
      · exact hcapitals.mpr ⟨h, hrun⟩

/-! ### Classes -/

/-- The table of variants goes both ways. -/
theorem variantTable_symm : ∀ e ∈ variantTable, ∀ n ∈ e.2, e.1 ∈ caseVariants n := by
  decide +kernel

theorem mem_caseVariants_of_mem {m n : Nat} (h : m ∈ caseVariants n) : n ∈ caseVariants m := by
  unfold caseVariants at h
  cases hlookup : variantTable.lookup n with
  | none =>
    rw [hlookup] at h
    cases h
  | some variants =>
    rw [hlookup] at h
    obtain ⟨before, after, htable, -⟩ := List.lookup_eq_some_iff.mp hlookup
    exact variantTable_symm (n, variants) (htable ▸ List.mem_append_right before List.mem_cons_self) m h

theorem mem_caseClass_iff {m n : Nat} : m ∈ caseClass n ↔
    simpleLower m = simpleLower n ∨ simpleLower m ∈ caseVariants (simpleLower n) := by
  unfold caseClass
  simp only [List.mem_flatMap, mem_withLower_iff, List.mem_cons, exists_eq_right']

theorem mem_caseClass_self (n : Nat) : n ∈ caseClass n := mem_caseClass_iff.mpr (.inl rfl)

/-! ### ASCII characters -/

/-- What may have a given lower case, as far as the runs tell. -/
def lowerSources (k : Nat) : List Nat :=
  k :: lowerRuns.filterMap fun r =>
    if r.applied ((k : Int) - r.shift).toNat = some k then some ((k : Int) - r.shift).toNat else none

theorem mem_lowerSources (n : Nat) : n ∈ lowerSources (simpleLower n) := by
  rcases simpleLower_cases n with hself | ⟨r, hr, happlied⟩
  · rw [hself]
    exact List.mem_cons_self
  · refine List.mem_cons_of_mem _ (List.mem_filterMap.mpr ⟨r, hr, ?_⟩)
    rw [CaseRun.source_of_applied hr happlied, if_pos happlied]

/-- What may have a given character in its class. -/
def caseSources (m : Nat) : List Nat :=
  (simpleLower m :: caseVariants (simpleLower m)).flatMap lowerSources

theorem mem_caseSources {m n : Nat} (h : m ∈ caseClass n) : n ∈ caseSources m := by
  refine List.mem_flatMap.mpr ⟨simpleLower n, ?_, mem_lowerSources n⟩
  rcases mem_caseClass_iff.mp h with h | h
  · exact h ▸ List.mem_cons_self
  · exact List.mem_cons_of_mem _ (mem_caseVariants_of_mem h)

/-- The characters of other scripts that are in the class of an ASCII letter. -/
def foreignLetters : List Nat := [0x130, 0x131, 0x17f, 0x212a]

/-- The ASCII letters, and the other characters in their classes. -/
def foldedLetters : List Nat := List.range' 0x41 26 ++ List.range' 0x61 26 ++ foreignLetters

theorem caseSources_capital : ∀ m ∈ List.range' 0x41 26, ∀ n ∈ caseSources m, n ∈ foldedLetters := by
  decide +kernel

theorem exists_capital_of_folded : ∀ n ∈ foldedLetters, ∃ m ∈ List.range' 0x41 26,
    simpleLower m = simpleLower n ∨ simpleLower m ∈ caseVariants (simpleLower n) := by
  decide +kernel

/-- The class of a character has a capital ASCII letter just if it is one of these. -/
theorem exists_capital_iff {n : Nat} :
    (∃ m ∈ caseClass n, 0x41 ≤ m ∧ m ≤ 0x5a) ↔ n ∈ foldedLetters := by
  constructor
  · rintro ⟨m, hm, hlow, hhigh⟩
    exact caseSources_capital m (List.mem_range'_1.mpr ⟨hlow, by omega⟩) n (mem_caseSources hm)
  · intro hn
    obtain ⟨m, hm, hlower⟩ := exists_capital_of_folded n hn
    obtain ⟨hlow, hhigh⟩ := List.mem_range'_1.mp hm
    exact ⟨m, mem_caseClass_iff.mpr hlower, hlow, by omega⟩

/-- ASCII digits, and the punctuation marks of email addresses. -/
def caselessCharacters : List Nat := List.range' 0x30 10 ++ "'+-.@_".toList.map Char.toNat

theorem caseSources_caseless : ∀ m ∈ caselessCharacters, ∀ n ∈ caseSources m, n = m := by
  decide +kernel

/-- These characters are alone in their classes. -/
theorem mem_caseClass_of_caseless {m n : Nat} (hm : m ∈ caselessCharacters) :
    m ∈ caseClass n ↔ n = m := by
  constructor
  · exact fun h => caseSources_caseless m hm n (mem_caseSources h)
  · rintro rfl
    exact mem_caseClass_self _

end Questionnaire.Text
