import Mathlib.Combinatorics.Pigeonhole
import Mathlib.Data.Nat.Digits.Lemmas
import Questionnaire.Proofs.Json.Text
import Questionnaire.Proofs.Outcome

/-!
# Searches for fresh ids

A search goes through the ids that the words of a stream are cut to, one after the other
(`IdSource.idAt`), and ends at the first one that is not in use.  It is bounded, and
`freshId_gives_iff` says that the bound takes nothing away: where the stream has an id that is not
in use, the search ends with the first of them.

The reason is that cut words come in turns.  Two numbers whose words are cut to the same id have
successors whose words are so too (`IdSource.take_wordOf_add`).  So once more counted words were met
in vain than there are ids in use, two of them agreed, and every id that comes later came before.
-/

namespace Questionnaire

namespace IdSource

/-! ### Words of numbers -/

/-- The hexadecimal digits of a positive number are those of its base. -/
theorem toDigits_eq_digits {n : Nat} (hn : n ≠ 0) :
    Nat.toDigits 16 n = ((Nat.digits 16 n).map Nat.digitChar).reverse := by
  induction n using Nat.strongRecOn with
  | ind n ih =>
    rw [Nat.digits_def' (by decide) (Nat.pos_of_ne_zero hn), List.map_cons, List.reverse_cons]
    by_cases hlt : n < 16
    · rw [Nat.toDigits_of_lt_base hlt, Nat.div_eq_of_lt hlt, Nat.mod_eq_of_lt hlt]
      rfl
    · rw [Nat.toDigits_of_base_le (by decide) (by omega), ih (n / 16) (by omega) (by omega)]

/-- A word is written in thirty-two digits at least. -/
theorem wordOf_eq_map (n : Nat) : wordOf n = (Nat.digitsAppend 16 32 n).map Nat.digitChar := by
  by_cases hn : n = 0
  · subst hn
    decide
  · unfold wordOf Text.hexPadded Nat.digitsAppend
    rw [toDigits_eq_digits hn]
    simp

/-- Padding makes a short word long enough. -/
theorem length_digitsAppend (n : Nat) :
    (Nat.digitsAppend 16 32 n).length = max 32 (Nat.digits 16 n).length := by
  rw [Nat.digitsAppend, List.length_append, List.length_replicate]
  omega

/-- The first digits of a word tell the number up to a power of the base. -/
theorem ofDigits_take (n k : Nat) :
    Nat.ofDigits 16 ((Nat.digitsAppend 16 32 n).take k) = n % 16 ^ k := by
  rw [← Nat.ofDigits_mod_pow_eq_ofDigits_take k (by decide) _
      fun d => Nat.lt_of_mem_digitsAppend (by decide) 32 d,
    Nat.digitsAppend, Nat.ofDigits_append_replicate_zero, Nat.ofDigits_digits]

/-- Digits can be read off their characters. -/
theorem map_digitChar_inj {ds es : List Nat} (hds : ∀ d ∈ ds, d < 16) (hes : ∀ e ∈ es, e < 16)
    (h : ds.map Nat.digitChar = es.map Nat.digitChar) : ds = es := by
  have hvalues {ds : List Nat} (hds : ∀ d ∈ ds, d < 16) :
      (ds.map Nat.digitChar).map Text.hexValue? = ds.map some := by
    rw [List.map_map]
    exact List.map_congr_left fun d hd => Text.hexValue?_digitChar d (hds d hd)
  have h := congrArg (List.map Text.hexValue?) h
  rw [hvalues hds, hvalues hes] at h
  exact List.map_injective_iff.mpr (Option.some_injective Nat) h

/-- The words of two numbers are cut to the same id iff they are cut to the same length and the
numbers have the same lowest digits. -/
theorem take_wordOf_eq_iff {m n k : Nat} :
    (wordOf m).take k = (wordOf n).take k ↔
      min k (max 32 (Nat.digits 16 m).length) = min k (max 32 (Nat.digits 16 n).length) ∧
        m % 16 ^ k = n % 16 ^ k := by
  have hlt {n : Nat} : ∀ d ∈ (Nat.digitsAppend 16 32 n).take k, d < 16 := fun d hd =>
    Nat.lt_of_mem_digitsAppend (by decide) 32 d (List.mem_of_mem_take hd)
  rw [wordOf_eq_map, wordOf_eq_map, ← List.map_take, ← List.map_take, ← length_digitsAppend,
    ← length_digitsAppend, ← List.length_take, ← List.length_take, ← ofDigits_take, ← ofDigits_take]
  constructor
  · intro h
    rw [map_digitChar_inj hlt hlt h]
    exact ⟨rfl, rfl⟩
  · rintro ⟨hlength, hvalue⟩
    rw [Nat.ofDigits_inj_of_len_eq (by decide) hlength hlt hlt hvalue]

/-- The words of two numbers that are cut to the same id are followed by such words. -/
theorem take_wordOf_add {m n k : Nat} (h : (wordOf m).take k = (wordOf n).take k) (i : Nat) :
    (wordOf (m + i)).take k = (wordOf (n + i)).take k := by
  obtain ⟨hlength, hmod⟩ := take_wordOf_eq_iff.mp h
  have hmono (n : Nat) : (Nat.digits 16 n).length ≤ (Nat.digits 16 (n + i)).length :=
    Nat.le_length_digits_le 16 n (n + i) (Nat.le_add_right n i)
  by_cases hk : k ≤ max 32 (Nat.digits 16 m).length
  · -- Both words reach the length, and so do all later ones.
    have hm := hmono m
    have hn := hmono n
    exact take_wordOf_eq_iff.mpr ⟨by omega, Nat.ModEq.add_right i hmod⟩
  · -- Neither word is cut, so the numbers are the same.
    have hlt {n : Nat} (hn : (Nat.digits 16 n).length ≤ k) : n < 16 ^ k :=
      (Nat.digits_length_le_iff (by decide) n).mp hn
    rw [Nat.mod_eq_of_lt (hlt (by omega)), Nat.mod_eq_of_lt (hlt (by omega))] at hmod
    rw [hmod]

/-! ### Streams -/

/-- The word that is drawn after `k` others. -/
def wordAt (ids : IdSource) (k : Nat) : List Char :=
  match ids.given[k]? with
  | some w => w.toList
  | none => wordOf (ids.counted + (k - ids.given.length) + 1)

/-- The stream after `k` words. -/
def drop (ids : IdSource) (k : Nat) : IdSource :=
  ⟨ids.given.drop k, ids.counted + (k - ids.given.length)⟩

/-- The id of `n` characters that is met after `k` others. -/
def idAt (ids : IdSource) (n k : Nat) : String := String.ofList ((ids.wordAt k).take n)

/-- After `k` ids that are in use the stream has one that is not. -/
structure FirstFree (ids : IdSource) (n : Nat) (inUse : List String) (k : Nat) : Prop where
  free : ids.idAt n k ∉ inUse
  used_before : ∀ j < k, ids.idAt n j ∈ inUse

variable {ids : IdSource} {n : Nat} {inUse : List String}

/-- Drawing hands out the word in front. -/
theorem draw_eq (ids : IdSource) : ids.draw = (ids.wordAt 0, ids.drop 1) := by
  obtain ⟨_ | ⟨w, ws⟩, counted⟩ := ids
  · rfl
  · simp [draw, wordAt, drop]

/-- Dropped words are skipped. -/
theorem wordAt_drop (ids : IdSource) (j k : Nat) : (ids.drop j).wordAt k = ids.wordAt (j + k) := by
  unfold wordAt drop
  rw [List.getElem?_drop, List.length_drop]
  cases hw : ids.given[j + k]? with
  | some w => rfl
  | none =>
    have hle := List.getElem?_eq_none_iff.mp hw
    dsimp only
    congr 1
    omega

/-- Dropping adds up. -/
theorem drop_drop (ids : IdSource) (j k : Nat) : (ids.drop j).drop k = ids.drop (j + k) := by
  unfold drop
  rw [List.drop_drop, List.length_drop, IdSource.mk.injEq]
  refine ⟨rfl, ?_⟩
  dsimp only
  omega

/-- Dropped words give no identifiers. -/
theorem idAt_drop (ids : IdSource) (n j k : Nat) : (ids.drop j).idAt n k = ids.idAt n (j + k) := by
  rw [idAt, wordAt_drop, idAt]

/-- Behind the given words the identifiers are counted. -/
theorem idAt_counted {k : Nat} (hk : ids.given.length ≤ k) :
    ids.idAt n k =
      String.ofList ((wordOf (ids.counted + (k - ids.given.length) + 1)).take n) := by
  unfold idAt wordAt
  rw [List.getElem?_eq_none hk]

/-- There is one first free identifier at most. -/
theorem FirstFree.unique {j k : Nat} (hj : ids.FirstFree n inUse j) (hk : ids.FirstFree n inUse k) :
    j = k := by
  rcases Nat.lt_trichotomy j k with h | h | h
  · exact absurd (hk.used_before j h) hj.free
  · exact h
  · exact absurd (hj.used_before k h) hk.free

/-- Where more counted words are met in vain than ids are in use, all words are. -/
theorem idAt_mem (h : ∀ k < ids.given.length + inUse.length + 1, ids.idAt n k ∈ inUse) (k : Nat) :
    ids.idAt n k ∈ inUse := by
  -- Of one more identifier than there are in use, two agree. From there on identifiers come round
  -- again, so whatever comes later has come before.
  obtain ⟨g, hg⟩ : ∃ g, g = ids.given.length := ⟨_, rfl⟩
  have hsmall : inUse.toFinset.card < (Finset.range (inUse.length + 1)).card := by
    rw [Finset.card_range]
    exact Nat.lt_succ_of_le inUse.toFinset_card_le
  have hmaps : ∀ i ∈ Finset.range (inUse.length + 1), ids.idAt n (g + i) ∈ inUse.toFinset := by
    intro i hi
    exact List.mem_toFinset.mpr (h _ (by have := Finset.mem_range.mp hi; omega))
  obtain ⟨i, j, hij, hj, hsame⟩ : ∃ i j, i < j ∧ j ≤ inUse.length ∧
      ids.idAt n (g + i) = ids.idAt n (g + j) := by
    obtain ⟨i, hi, j, hj, hne, hsame⟩ :=
      Finset.exists_ne_map_eq_of_card_lt_of_maps_to hsmall hmaps
    have hi := Finset.mem_range.mp hi
    have hj := Finset.mem_range.mp hj
    rcases Nat.lt_or_gt_of_ne hne with hlt | hlt
    · exact ⟨i, j, hlt, by omega, hsame⟩
    · exact ⟨j, i, hlt, by omega, hsame.symm⟩
  induction k using Nat.strongRecOn with
  | ind k ih =>
    by_cases hk : k < g + inUse.length + 1
    · exact h k (hg ▸ hk)
    · -- The id is the one that came as much earlier as the two that agree are apart.
      rw [idAt_counted (by omega), idAt_counted (by omega)] at hsame
      have hsame := take_wordOf_add (String.ofList_injective hsame) (k - (g + j))
      have hearlier : ids.idAt n k = ids.idAt n (k - (j - i)) := by
        rw [idAt_counted (by omega), idAt_counted (by omega)]
        have hk : ids.counted + (k - ids.given.length) + 1 =
          ids.counted + (g + j - ids.given.length) + 1 + (k - (g + j)) := by omega
        have hk' : ids.counted + (k - (j - i) - ids.given.length) + 1 =
          ids.counted + (g + i - ids.given.length) + 1 + (k - (g + j)) := by omega
        rw [hk, hk', hsame]
      rw [hearlier]
      exact ih _ (by omega)

end IdSource

/-! ### Searches -/

/-- A text is contained in a list of texts when it is one of them. -/
theorem Value.containsText_texts (ss : List String) (s : String) :
    (Value.texts ss).containsText s = .ok (decide (s ∈ ss)) := by
  have hany : (ss.map Value.str).any (·.isText s) = decide (s ∈ ss) := by
    rw [Bool.eq_iff_iff, List.any_eq_true, decide_eq_true_iff]
    simp [Value.isText, Value.text?]
  exact congrArg Except.ok hany

/-- An identifier is the first part of a word. -/
theorem Config.idPart_int {c : Config} {n : Nat} (hlength : c.idLength = .int n)
    (word : List Char) : c.idPart word = .ok (word.take n) := by
  simp [idPart, hlength]

/-- Drawing a word hands it out and drops it. -/
theorem Drawing.run_word (ids : IdSource) :
    Drawing.word.run.run ids = (.ok (ids.wordAt 0), ids.drop 1) := by
  have hword : Drawing.word.run.run ids = (.ok ids.draw.1, ids.draw.2) := rfl
  rw [hword, ids.draw_eq]

section Searches

variable {c : Config} {n : Nat} (hlength : c.idLength = .int n) {issued taken : List String}
  {ids : IdSource}
include hlength

/-- A bounded search goes on after an id that is in use, and ends at one that is not. -/
theorem freshIdWithin_succ (fuel : Nat) :
    (freshIdWithin c issued (.texts taken) (fuel + 1)).run.run ids =
      if ids.idAt n 0 ∈ issued ++ taken then
        (freshIdWithin c issued (.texts taken) fuel).run.run (ids.drop 1)
      else (.ok (ids.idAt n 0), ids.drop 1) := by
  have hlift {α β : Type} (a : α) (f : α → Drawing β) (mid : IdSource) :
      ((liftM (.ok a : Outcome α) : Drawing α) >>= f).run.run mid = (f a).run.run mid := rfl
  rw [freshIdWithin, run_run_bind, Drawing.run_word]
  dsimp only
  rw [Config.idPart_int hlength, hlift]
  rw [Value.containsText_texts, hlift]
  unfold IdSource.idAt
  -- Two tests are made, for the identifiers to avoid and for those in use; either one goes on.
  by_cases htaken : String.ofList ((ids.wordAt 0).take n) ∈ taken
  · simp [htaken]
  · by_cases hissued : String.ofList ((ids.wordAt 0).take n) ∈ issued
    · simp [htaken, hissued]
    · rw [if_neg (by simpa using htaken), if_neg hissued, if_neg (by simp [htaken, hissued])]
      rfl

/-- A bounded search meets ids that are in use, and then one that is not, or gives up. -/
theorem freshIdWithin_run (fuel : Nat) :
    (∃ k < fuel, ids.FirstFree n (issued ++ taken) k ∧
      (freshIdWithin c issued (.texts taken) fuel).Gives ids (ids.idAt n k) (ids.drop (k + 1))) ∨
    ((∀ k < fuel, ids.idAt n k ∈ issued ++ taken) ∧
      (freshIdWithin c issued (.texts taken) fuel).run.run ids =
        (.error .noFreeId, ids.drop fuel)) := by
  induction fuel generalizing ids with
  | zero =>
    have hstay : ids.drop 0 = ids := by simp [IdSource.drop]
    exact Or.inr ⟨by simp, by rw [hstay]; rfl⟩
  | succ fuel ih =>
    unfold Drawing.Gives
    rw [freshIdWithin_succ hlength]
    -- By induction on the fuel: a used identifier moves the search one word on.
    by_cases hused : ids.idAt n 0 ∈ issued ++ taken
    · rw [if_pos hused]
      have hbefore {k : Nat} (h : ∀ j < k, (ids.drop 1).idAt n j ∈ issued ++ taken) :
          ∀ j < k + 1, ids.idAt n j ∈ issued ++ taken := by
        rintro (_ | j) hj
        · exact hused
        · have := h j (by omega)
          rwa [IdSource.idAt_drop, Nat.add_comm] at this
      rcases @ih (ids.drop 1) with ⟨k, hk, hfirst, hgives⟩ | ⟨hall, hrun⟩
      · refine Or.inl ⟨k + 1, by omega, ⟨?_, hbefore hfirst.used_before⟩, ?_⟩
        · have hfree := hfirst.free
          rwa [IdSource.idAt_drop, Nat.add_comm] at hfree
        · unfold Drawing.Gives at hgives
          rw [hgives, IdSource.idAt_drop, IdSource.drop_drop, Nat.add_comm 1 k,
            Nat.add_comm 1 (k + 1)]
      · exact Or.inr ⟨hbefore hall, by rw [hrun, IdSource.drop_drop, Nat.add_comm]⟩
    · rw [if_neg hused]
      exact Or.inl ⟨0, by omega, ⟨hused, by simp⟩, rfl⟩

/-- A search ends with the first id of the stream that is not in use, and gives up only where the
stream has none. -/
theorem freshId_run :
    (∃ k, ids.FirstFree n (issued ++ taken) k ∧
      (freshId c issued (.texts taken)).Gives ids (ids.idAt n k) (ids.drop (k + 1))) ∨
    ((∀ k, ids.idAt n k ∈ issued ++ taken) ∧
      ∃ rest, (freshId c issued (.texts taken)).run.run ids = (.error .noFreeId, rest)) := by
  have hfuel : (freshId c issued (.texts taken)).run.run ids =
      (freshIdWithin c issued (.texts taken)
        (ids.given.length + (issued ++ taken).length + 1)).run.run ids := by
    simp [freshId, Value.texts, Value.iterate?]
    rfl
  unfold Drawing.Gives
  rw [hfuel]
  rcases freshIdWithin_run hlength (ids.given.length + (issued ++ taken).length + 1)
    with ⟨k, _, hfirst, hgives⟩ | ⟨hall, hrun⟩
  · exact Or.inl ⟨k, hfirst, hgives⟩
  · exact Or.inr ⟨IdSource.idAt_mem hall, _, hrun⟩

/-- The search gives the first free identifier and drops the words up to it. -/
theorem freshId_gives_iff {id : String} {ids' : IdSource} :
    (freshId c issued (.texts taken)).Gives ids id ids' ↔
      ∃ k, ids.FirstFree n (issued ++ taken) k ∧ id = ids.idAt n k ∧ ids' = ids.drop (k + 1) := by
  have hrun : (∃ k, ids.FirstFree n (issued ++ taken) k ∧ _) ∨ _ := freshId_run hlength
  rcases hrun with ⟨k, hfirst, hgives⟩ | ⟨hall, rest, hrun⟩
  · unfold Drawing.Gives at hgives ⊢
    rw [hgives, Prod.mk.injEq]
    constructor
    · rintro ⟨hid, rfl⟩
      exact ⟨k, hfirst, (Except.ok.inj hid).symm, rfl⟩
    · rintro ⟨j, hj, rfl, rfl⟩
      rw [hfirst.unique hj]
      exact ⟨rfl, rfl⟩
  · unfold Drawing.Gives
    rw [hrun]
    constructor
    · nofun
    · rintro ⟨k, hfirst, -⟩
      exact absurd (hall k) hfirst.free

end Searches

/-! ### Computations that find their ids -/

namespace Drawing

variable {α β : Type} {ids mid : IdSource}

/-- No search of the computation gives up. -/
def Finds (d : Drawing α) (ids : IdSource) : Prop :=
  ∀ rest, d.run.run ids ≠ (.error .noFreeId, rest)

/-- A drawing that gives something finds its identifiers. -/
theorem Gives.finds {d : Drawing α} {a : α} (h : d.Gives ids a mid) : d.Finds ids := by
  intro rest hd
  cases h.symm.trans hd

/-- Where a sequence finds identifiers, its first step does. -/
theorem Finds.first {d : Drawing α} {f : α → Drawing β} (h : (d >>= f).Finds ids) :
    d.Finds ids := by
  intro rest hd
  exact h rest (by rw [run_run_bind, hd])

/-- And so does the next one, with what is left. -/
theorem Finds.next {d : Drawing α} {f : α → Drawing β} (h : (d >>= f).Finds ids) {a : α}
    (hd : d.Gives ids a mid) : (f a).Finds mid := by
  intro rest hf
  exact h rest (by rw [run_run_bind, hd]; exact hf)

/-- What a computation needs before it draws words is no search. -/
theorem Finds.next_ok {o : Outcome α} {f : α → Drawing β} (h : (liftM o >>= f).Finds ids) {a : α}
    (ho : o = .ok a) : (f a).Finds ids :=
  h.next (gives_lift_iff.mpr ⟨ho, rfl⟩)

/-- And so does what follows a guard. -/
theorem Finds.of_guard {p : Prop} [Decidable p] {e : Fault} {rest : Drawing α}
    (h : Finds (do if p then throw e
                   rest) ids) (hp : ¬p) : rest.Finds ids := by
  simpa [hp] using h

end Drawing

namespace IdSource

/-- The words that are given have characters. -/
def Written (ids : IdSource) : Prop := ∀ w ∈ ids.given, w ≠ ""

variable {ids : IdSource} (h : ids.Written)
include h

/-- Dropping words leaves the others written. -/
theorem Written.drop (k : Nat) : (ids.drop k).Written := fun w hw => h w (List.mem_of_mem_drop hw)

/-- No written word is empty. -/
theorem Written.wordAt_ne_nil (k : Nat) : ids.wordAt k ≠ [] := by
  unfold wordAt
  cases hw : ids.given[k]? with
  | some w => exact fun hnil => h w (List.mem_of_getElem? hw) (String.toList_eq_nil_iff.mp hnil)
  | none =>
    intro hnil
    have hlength := congrArg List.length hnil
    rw [wordOf_eq_map, List.length_map, length_digitsAppend, List.length_nil] at hlength
    omega

/-- No identifier of written words is empty. -/
theorem Written.idAt_ne {n : Nat} (hn : 1 ≤ n) (k : Nat) : ids.idAt n k ≠ "" := by
  intro hid
  have hnil := congrArg String.toList hid
  rw [idAt, String.toList_ofList, String.toList_empty, List.take_eq_nil_iff] at hnil
  rcases hnil with hzero | hnil
  · omega
  · exact h.wordAt_ne_nil k hnil

/-- A search that does not give up ends with an id that has characters and that is not in use. -/
theorem Written.exists_freshId_gives {c : Config} {n : Nat} (hlength : c.idLength = .int n)
    (hn : 1 ≤ n) {issued taken : List String}
    (hfinds : (freshId c issued (.texts taken)).Finds ids) :
    ∃ id ids', (freshId c issued (.texts taken)).Gives ids id ids' ∧ id ∉ issued ∧ id ∉ taken ∧
      id ≠ "" ∧ ids'.Written := by
  rcases freshId_run hlength with ⟨k, hfirst, hgives⟩ | ⟨-, rest, hrun⟩
  · obtain ⟨hissued, htaken⟩ := List.mem_append.not.trans not_or |>.mp hfirst.free
    exact ⟨_, _, hgives, hissued, htaken, h.idAt_ne hn k, h.drop (k + 1)⟩
  · exact absurd hrun (hfinds rest)

end IdSource
end Questionnaire
