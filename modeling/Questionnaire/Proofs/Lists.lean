import Mathlib.Data.List.Dedup
import Mathlib.Data.List.DropRight
import Mathlib.Data.List.InsertIdx
import Mathlib.Data.Option.Basic

/-!
# Lists taken apart

Forms, answers and memories are lists of items with keys, and what is done to them is done to one item:
the one with a key, the one at a position, the one that is the latest.  The lemmas here take a list
apart at such an item, and say what the list is without it or with another one in its place.
-/

namespace Questionnaire

/-! ### Items with distinct keys -/

section Keys

variable {α : Type} {key : α → String} {before after : List α} {a : α}
  (hn : ((before ++ a :: after).map key).Nodup)
include hn

theorem forall_key_ne : ∀ b ∈ before ++ after, key b ≠ key a := by
  have hperm : ((a :: (before ++ after)).map key).Perm ((before ++ a :: after).map key) :=
    List.perm_middle.symm.map _
  obtain ⟨hkey, -⟩ := List.nodup_cons.mp (hperm.nodup_iff.mpr hn)
  exact fun b hb hba => hkey (List.mem_map.mpr ⟨b, hb, hba⟩)

/-- What is done to all items with one key is done at one position. -/
theorem map_at_key (change : α → α) :
    ((before ++ a :: after).map fun b => if key b = key a then change b else b) =
      before ++ change a :: after := by
  obtain ⟨hbefore, hafter⟩ := List.forall_mem_append.mp (forall_key_ne hn)
  have hkeep {bs : List α} (hbs : ∀ b ∈ bs, key b ≠ key a) :
      (bs.map fun b => if key b = key a then change b else b) = bs :=
    (List.map_congr_left fun b hb => if_neg (hbs b hb)).trans (List.map_id' bs)
  rw [List.map_append, List.map_cons, if_pos rfl, hkeep hbefore, hkeep hafter]

/-- What is left without one key are all items but one. -/
theorem filter_at_key :
    ((before ++ a :: after).filter fun b => key b ≠ key a) = before ++ after := by
  rw [List.filter_append, List.filter_cons_of_neg (by simp), ← List.filter_append,
    List.filter_eq_self]
  exact fun b hb => decide_eq_true (forall_key_ne hn b hb)

end Keys

/-! ### Positions -/

theorem exists_split_of_lt {α : Type} {l : List α} {n : Nat} (h : n < l.length) :
    ∃ before a after, l = before ++ a :: after ∧ before.length = n :=
  ⟨l.take n, l[n], l.drop (n + 1), by simp, by simp [h.le]⟩

theorem insertIdx_eq_take_append {α : Type} {as : List α} {n : Nat} (h : n ≤ as.length) (a : α) :
    as.insertIdx n a = as.take n ++ a :: as.drop n := by
  induction n generalizing as with
  | zero => rfl
  | succ n ih =>
    cases as with
    | nil => cases h
    | cons b as =>
      rw [List.insertIdx_succ_cons, ih (Nat.le_of_succ_le_succ h)]
      rfl

theorem perm_insertIdx_insertIdx {α : Type} {as : List α} {i j : Nat} (hi : i ≤ as.length)
    (hj : j ≤ as.length) (a : α) : (as.insertIdx i a).Perm (as.insertIdx j a) :=
  (List.perm_insertIdx a as hi).trans (List.perm_insertIdx a as hj).symm

/-- Two items that come one after the other, not necessarily next to each other. -/
theorem exists_split_of_pair_sublist {α : Type} {a b : α} {l : List α} (h : [a, b].Sublist l) :
    ∃ before mid rest, l = before ++ a :: (mid ++ b :: rest) := by
  obtain ⟨upToA, fromB, rfl, ha, hb⟩ := List.cons_sublist_iff.mp h
  obtain ⟨before, between, rfl⟩ := List.append_of_mem ha
  obtain ⟨between', rest, rfl⟩ := List.append_of_mem (List.singleton_sublist.mp hb)
  exact ⟨before, between ++ between', rest, by simp⟩

theorem mem_middle_iff {α : Type} {before after : List α} {a b : α} (h : a ≠ b) :
    a ∈ before ++ b :: after ↔ a ∈ before ++ after := by
  simp [h]

/-! ### Functions of items -/

/-- Where a list has distinct values of a function, each item is the last one with its own. -/
theorem exists_last_of_nodup {α β : Type} {g : α → β} {as : List α} (hn : (as.map g).Nodup) {a : α}
    (ha : a ∈ as) : ∃ before after, as = before ++ a :: after ∧ g a ∉ after.map g := by
  obtain ⟨before, after, rfl⟩ := List.append_of_mem ha
  rw [List.map_append, List.map_cons] at hn
  exact ⟨before, after, rfl, (List.nodup_cons.mp (List.nodup_append.mp hn).2.1).1⟩

theorem isEmpty_eq_of_mem_map {α β : Type} {g : α → β} {as bs : List α}
    (h : ∀ b, b ∈ as.map g ↔ b ∈ bs.map g) : as.isEmpty = bs.isEmpty := by
  have hnil (cs : List α) : cs = [] ↔ ∀ b, b ∉ cs.map g := by
    rw [← List.eq_nil_iff_forall_not_mem, List.map_eq_nil_iff]
  rw [Bool.eq_iff_iff, List.isEmpty_iff, List.isEmpty_iff, hnil as, hnil bs]
  exact forall_congr' fun b => not_congr (h b)

/-- Optional lists are mapped alike iff their items are. -/
theorem map_map_eq_iff {α β : Type} {o : Option (List α)} {g h : α → β} :
    o.map (·.map g) = o.map (·.map h) ↔ ∀ a ∈ o.getD [], g a = h a := by
  cases o with
  | none => simp
  | some as => simp

theorem map_map_eq_self_iff {α : Type} {o : Option (List α)} {g : α → α} :
    o.map (·.map g) = o ↔ ∀ a ∈ o.getD [], g a = a := by
  cases o with
  | none => simp
  | some as =>
    have hmap : as.map g = as.map id ↔ ∀ a ∈ as, g a = id a := List.map_inj_left
    rw [List.map_id] at hmap
    exact Option.some_inj.trans hmap

theorem rel_or {α : Type} {R : α → α → Prop} {a b c d : Option α} (h : Option.Rel R a b)
    (h' : Option.Rel R c d) : Option.Rel R (a.or c) (b.or d) := by
  cases h with
  | none => exact h'
  | some h => exact .some h

/-! ### Latest occurrences -/

section Latest

variable {α : Type} [DecidableEq α]

/-- One more item is the latest, wherever it occurred before. -/
theorem dedup_concat (l : List α) (a : α) : (l ++ [a]).dedup = l.dedup.filter (· ≠ a) ++ [a] := by
  induction l with
  | nil => rfl
  | cons b l ih =>
    rw [List.cons_append]
    by_cases hmem : b ∈ l
    · rw [List.dedup_cons_of_mem (List.mem_append_left _ hmem), List.dedup_cons_of_mem hmem, ih]
    · rw [List.dedup_cons_of_notMem hmem]
      by_cases hb : b = a
      · subst hb
        rw [List.dedup_cons_of_mem (by simp), ih, List.filter_cons_of_neg (by simp)]
      · rw [List.dedup_cons_of_notMem (by simp [hmem, hb]), ih,
          List.filter_cons_of_pos (by simpa using hb), List.cons_append]

theorem filter_ne_of_not_mem {l : List α} {a : α} (h : a ∉ l) : l.filter (· ≠ a) = l := by
  rw [List.filter_eq_self]
  intro b hb
  rw [decide_eq_true_eq]
  rintro rfl
  exact h hb

/-- An item that only changes its place does not make the list longer. -/
theorem length_filter_ne_concat {l : List α} (hl : l.Nodup) {a : α} (h : a ∈ l) :
    (l.filter (· ≠ a) ++ [a]).length = l.length := by
  have herase : l.filter (· ≠ a) = l.erase a := by
    rw [hl.erase_eq_filter]
    exact List.filter_congr fun b _ => Bool.eq_iff_iff.mpr (by simp)
  rw [herase, List.length_append, List.length_erase_of_mem h, List.length_singleton]
  exact Nat.sub_add_cancel (List.length_pos_of_mem h)

omit [DecidableEq α] in
theorem length_rtake (l : List α) (n : Nat) : (l.rtake n).length = min n l.length := by
  rw [List.rtake, List.length_drop]
  omega

/-- Among the first items of a list without repetitions one is left out at most. -/
theorem take_filter_take {l : List α} (hl : l.Nodup) (a : α) (n : Nat) :
    ((l.take (n + 1)).filter (· ≠ a)).take n = (l.filter (· ≠ a)).take n := by
  induction l generalizing n with
  | nil => rfl
  | cons b l ih =>
    obtain ⟨hb, hl⟩ := List.nodup_cons.mp hl
    rw [List.take_succ_cons]
    -- Where the head is the value itself, it is not in the tail and nothing more is left out.
    by_cases hba : b = a
    · subst hba
      rw [List.filter_cons_of_neg (by simp), List.filter_cons_of_neg (by simp),
        filter_ne_of_not_mem fun h => hb (List.take_subset n l h), filter_ne_of_not_mem hb,
        List.take_take, Nat.min_self]
    · rw [List.filter_cons_of_pos (by simpa using hba),
        List.filter_cons_of_pos (by simpa using hba)]
      cases n with
      | zero => rfl
      | succ n => rw [List.take_succ_cons, List.take_succ_cons, ih hl]

/-- The latest items are the same after one more if those too old were forgotten before. -/
theorem rtake_concat_rtake {l : List α} (hl : l.Nodup) (a : α) {n : Nat} (hn : 0 < n) :
    ((l.rtake n).filter (· ≠ a) ++ [a]).rtake n = (l.filter (· ≠ a) ++ [a]).rtake n := by
  obtain ⟨n, rfl⟩ := Nat.exists_eq_succ_of_ne_zero hn.ne'
  rw [List.rtake_concat_succ, List.rtake_concat_succ]
  simp only [List.rtake_eq_reverse_take_reverse, List.filter_reverse, List.reverse_reverse]
  rw [take_filter_take (List.nodup_reverse.mpr hl), List.filter_reverse]

end Latest

end Questionnaire
