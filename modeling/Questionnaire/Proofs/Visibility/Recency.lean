import Questionnaire.Proofs.Visibility.Memory

/-!
# The order in which results are forgotten

The memory of an evaluator holds the results for the keys that were asked for most recently, as many
as its capacity allows, the latest last (`Evaluator.cache_after`).  A call with the key of a result
that is there makes this result the latest; one that puts a new result into memory may make the oldest
one be forgotten; answers without a key leave the memory as it is.

`List.dedup` keeps the last occurrence of every item, so the keys in the order of their latest requests
are those of `requested` without repetition.
-/

namespace Questionnaire

namespace Evaluator

/-! ### Keys in memory -/

/-- The keys in memory, the latest last. -/
def keys (e : Evaluator) : List Frozen := e.cache.map Prod.fst

/-- The keys that calls ask for; answers that cannot be frozen have none. -/
def requested (history : List Value) : List Frozen := history.filterMap answersKey?

/-- No call fails to answer. -/
def AnswersAll (e : Evaluator) (history : List Value) : Prop :=
  ∀ o ∈ e.visibleSets history, ∃ ids, o = .ok ids

/-- A call for the answers puts a result for a key into memory: it is their key, and there is no
result for it yet. -/
def Inserts (e : Evaluator) (answers : Value) (key : Frozen) : Prop :=
  answersKey? answers = some key ∧ key ∉ e.keys

/-- The latest of the calls that put a result for the key into memory answered `found`. -/
def LastInserted (e : Evaluator) (history : List Value) (key : Frozen) (found : List String) : Prop :=
  ∃ before answers rest, history = before ++ answers :: rest ∧
    (e.after before).Inserts answers key ∧ ((e.after before).visible answers).2 = .ok found ∧
    ∀ mid later tail, rest = mid ++ later :: tail →
      ¬(e.after (before ++ answers :: mid)).Inserts later key

variable {e : Evaluator} {history : List Value} {answers : Value} {key : Frozen}
  {found : List String}

theorem mem_keys (h : (key, found) ∈ e.cache) : key ∈ e.keys := List.mem_map_of_mem h

theorem lookup_eq_none_iff : e.cache.lookup key = none ↔ key ∉ e.keys := by
  rw [List.lookup_eq_none_iff]
  constructor
  · intro h hmem
    obtain ⟨m, hm, rfl⟩ := List.mem_map.mp hmem
    simpa using h m hm
  · intro h m hm
    rw [bne_iff_ne]
    rintro rfl
    exact h (List.mem_map_of_mem hm)

/-! ### One call -/

theorem keys_refresh (e : Evaluator) (key : Frozen) (found : List String) :
    (e.refresh key found).keys = e.keys.filter (· ≠ key) ++ [key] := by
  show (e.cache.filter (·.1 ≠ key) ++ [(key, found)]).map Prod.fst = _
  rw [List.map_append, keys, List.filter_map]
  rfl

section Call

variable {k : Nat} (hcapacity : e.capacity = .int k)
include hcapacity

/-- A new result is the latest one, and the oldest is forgotten if there are too many. -/
theorem keys_remember (hlength : e.keys.length ≤ k) (key : Frozen) (found : List String) :
    (e.remember key found).keys = (e.keys ++ [key]).rtake k := by
  have hkeys : (e.cache ++ [(key, found)]).map Prod.fst = e.keys ++ [key] := List.map_append
  have hcache : (e.cache ++ [(key, found)]).length = e.keys.length + 1 := by
    rw [← List.length_map Prod.fst, hkeys, List.length_append, List.length_singleton]
  -- The evaluator asks whether the entries exceed the capacity after the new one was added.
  have hfull : e.capacity.lt (.ofNat (e.cache ++ [(key, found)]).length) =
      decide (k < e.keys.length + 1) := by
    rw [hcapacity, hcache, Number.ofNat, Number.int_lt_int, decide_eq_decide]
    omega
  show (if e.capacity.lt (.ofNat (e.cache ++ [(key, found)]).length) then
    (e.cache ++ [(key, found)]).drop 1 else e.cache ++ [(key, found)]).map Prod.fst = _
  rw [hfull, List.rtake, List.length_append, List.length_singleton]
  by_cases hroom : k < e.keys.length + 1
  · rw [if_pos (decide_eq_true hroom), List.map_drop, hkeys]
    congr 1
    omega
  · rw [if_neg (by simpa using hroom), hkeys, show e.keys.length + 1 - k = 0 by omega,
      List.drop_zero]

/-- What a call that answers does: without a key nothing, with the key of a result that is there it
makes this the latest one, and otherwise it puts its own answer into memory. -/
theorem visible_cases (hk : 0 < k) (h : IsAnswers answers)
    (hfound : (e.visible answers).2 = .ok found) :
    (answersKey? answers = none ∧ (e.visible answers).1 = e) ∨
      (∃ key kept, answersKey? answers = some key ∧ (key, kept) ∈ e.cache ∧
        (e.visible answers).1 = e.refresh key kept) ∨
      ∃ key, e.Inserts answers key ∧ (e.visible answers).1 = e.remember key found := by
  have hremembers : e.remembers = true := by
    rw [remembers_of_int hcapacity, decide_eq_true_eq]
    omega
  rw [visible_of_isAnswers e h, hremembers, if_pos rfl] at hfound ⊢
  -- What the answers and the memory say decides which of the three cases it is.
  cases hkey : answersKey? answers with
  | none => exact Or.inl ⟨rfl, rfl⟩
  | some key =>
    rw [hkey] at hfound
    dsimp only at hfound ⊢
    cases hlookup : e.cache.lookup key with
    | some kept => exact Or.inr (Or.inl ⟨key, kept, rfl, mem_of_lookup_eq_some hlookup, rfl⟩)
    | none =>
      rw [hlookup] at hfound
      dsimp only at hfound ⊢
      cases hvisible : visibleIn e.fields answers with
      | error f =>
        rw [hvisible] at hfound
        cases hfound
      | ok ids =>
        rw [hvisible] at hfound
        obtain rfl := Except.ok.inj hfound
        exact Or.inr (Or.inr ⟨key, ⟨hkey, lookup_eq_none_iff.mp hlookup⟩, rfl⟩)

/-- The key of a call is the latest one after it. -/
theorem keys_visible (hk : 0 < k) (hlength : e.keys.length ≤ k) (hnodup : e.keys.Nodup)
    (h : IsAnswers answers) (hfound : (e.visible answers).2 = .ok found) :
    (e.visible answers).1.keys = match answersKey? answers with
      | none => e.keys
      | some key => (e.keys.filter (· ≠ key) ++ [key]).rtake k := by
  rcases visible_cases hcapacity hk h hfound with
    ⟨hkey, he⟩ | ⟨key, kept, hkey, hmem, he⟩ | ⟨key, ⟨hkey, hnew⟩, he⟩
  -- No key: nothing is touched.
  · rw [hkey, he]
  · rw [hkey, he, keys_refresh]
    dsimp only
    -- A known key moves to the end, and so there are as many keys as before.
    rw [List.rtake, length_filter_ne_concat hnodup (mem_keys hmem), Nat.sub_eq_zero_of_le hlength,
      List.drop_zero]
  · rw [hkey, he, keys_remember hcapacity hlength]
    dsimp only
    -- A new key was not among the others, so taking it out first changes nothing.
    rw [filter_ne_of_not_mem hnew]

end Call

/-! ### Calls one after the other -/

theorem after_concat (e : Evaluator) (history : List Value) (answers : Value) :
    e.after (history ++ [answers]) = ((e.after history).visible answers).1 := by
  induction history generalizing e with
  | nil => rfl
  | cons a history ih => exact ih _

theorem capacity_after (h : ∀ a ∈ history, IsAnswers a) :
    (e.after history).capacity = e.capacity := by
  induction history generalizing e with
  | nil => rfl
  | cons a rest ih =>
    obtain ⟨ha, hrest⟩ := List.forall_mem_cons.mp h
    exact (ih hrest).trans (e.capacity_visible ha)

/-- A history is answered when its beginning is and the last request after it. -/
theorem answersAll_concat : e.AnswersAll (history ++ [answers]) ↔
    e.AnswersAll history ∧ ∃ found, ((e.after history).visible answers).2 = .ok found := by
  unfold AnswersAll
  rw [visibleSets_append, List.forall_mem_append]
  refine and_congr_right fun _ => ?_
  rw [visibleSets, visibleSets, List.forall_mem_singleton]
  simp only [Outcome.map_eq_ok_iff]
  constructor
  · rintro ⟨_, found, hfound, -⟩
    exact ⟨found, hfound⟩
  · rintro ⟨found, hfound⟩
    exact ⟨_, found, hfound, rfl⟩

/-- A result stays that of the latest insertion until there is another one. -/
theorem LastInserted.concat (h : e.LastInserted history key found)
    (hnot : ¬(e.after history).Inserts answers key) :
    e.LastInserted (history ++ [answers]) key found := by
  obtain ⟨before, first, rest, rfl, hinserts, hfound, hlater⟩ := h
  refine ⟨before, first, rest ++ [answers], by simp, hinserts, hfound, fun mid later tail hrest => ?_⟩
  -- What comes last in the longer history is either the new request or a request of the old one.
  rcases List.eq_nil_or_concat tail with rfl | ⟨tail, last, rfl⟩
  · obtain ⟨rfl, hlast⟩ := List.append_inj' hrest rfl
    obtain rfl := List.cons.inj hlast |>.1
    exact hnot
  · have hsplit : rest ++ [answers] = (mid ++ later :: tail) ++ [last] := by simp [hrest]
    obtain ⟨rfl, -⟩ := List.append_inj' hsplit rfl
    exact hlater mid later tail rfl

section Run

variable {fields : List Field} {k : Nat} (hk : 0 < k) (hhistory : ∀ a ∈ history, IsAnswers a)
  (hanswers : (new fields (.int k)).AnswersAll history)
include hk hhistory hanswers

/-- After any calls the keys in memory are the ones that were asked for most recently. -/
theorem keys_after : ((new fields (.int k)).after history).keys =
    (requested history).dedup.rtake k := by
  induction history using List.reverseRecOn with
  | nil => exact (List.rtake_nil k).symm
  | append_singleton history answers ih =>
    obtain ⟨hhistory, ha⟩ := List.forall_mem_append.mp hhistory
    obtain ⟨hanswers, found, hfound⟩ := answersAll_concat.mp hanswers
    have hkeys := ih hhistory hanswers
    -- The two hypotheses of the step are read off what is known before it.
    have hlength : ((new fields (.int k)).after history).keys.length ≤ k := by
      rw [hkeys, length_rtake]
      exact Nat.min_le_left _ _
    have hnodup : ((new fields (.int k)).after history).keys.Nodup := by
      rw [hkeys]
      exact (List.nodup_dedup _).sublist (List.drop_sublist _ _)
    rw [after_concat, keys_visible (capacity_after hhistory) hk hlength hnodup
      (ha answers List.mem_cons_self) hfound, hkeys]
    -- The new key, if there is one, is the last one asked for.
    have hrequested : requested (history ++ [answers]) =
        requested history ++ (answersKey? answers).toList := by
      unfold requested
      rw [List.filterMap_append]
      cases hkey : answersKey? answers <;> simp [hkey]
    rw [hrequested]
    cases answersKey? answers with
    | none => rw [Option.toList_none, List.append_nil]
    | some key =>
      rw [Option.toList_some, dedup_concat]
      exact rtake_concat_rtake (List.nodup_dedup _) key hk

/-- After any calls each result in memory is the answer of the call that put it there. -/
theorem lastInserted_after (hmem : (key, found) ∈ ((new fields (.int k)).after history).cache) :
    (new fields (.int k)).LastInserted history key found := by
  induction history using List.reverseRecOn generalizing found with
  | nil => cases hmem
  | append_singleton history answers ih =>
    obtain ⟨hhistory, ha⟩ := List.forall_mem_append.mp hhistory
    obtain ⟨hanswers, ids, hids⟩ := answersAll_concat.mp hanswers
    -- An entry from before was inserted before: the step does not insert a key it knows.
    have hold (hmem : (key, found) ∈ ((new fields (.int k)).after history).cache) :
        (new fields (.int k)).LastInserted (history ++ [answers]) key found :=
      (ih hhistory hanswers hmem).concat fun hinserts => hinserts.2 (mem_keys hmem)
    rw [after_concat] at hmem
    rcases visible_cases (capacity_after hhistory) hk (ha answers List.mem_cons_self) hids with
      ⟨-, he⟩ | ⟨other, kept, -, hkept, he⟩ | ⟨other, hinserts, he⟩
    · rw [he] at hmem
      exact hold hmem
    · rw [he] at hmem
      rcases mem_cache_refresh hmem with hmem | hmem
      · exact hold hmem
      · obtain ⟨rfl, rfl⟩ := Prod.mk.inj hmem
        exact hold hkept
    · rw [he] at hmem
      rcases mem_cache_remember hmem with hmem | hmem
      · exact hold hmem
      · obtain ⟨rfl, rfl⟩ := Prod.mk.inj hmem
        exact ⟨history, answers, [], rfl, hinserts, hids, by simp⟩

end Run

/-- With nothing to remember a call leaves the evaluator as it is. -/
theorem visible_of_not_remembers (he : e.remembers = false) (h : IsAnswers answers) :
    (e.visible answers).1 = e := by
  rw [visible_of_isAnswers e h, he]
  rfl

theorem after_of_not_remembers (he : e.remembers = false) (h : ∀ a ∈ history, IsAnswers a) :
    e.after history = e := by
  induction history with
  | nil => rfl
  | cons a rest ih =>
    obtain ⟨ha, hrest⟩ := List.forall_mem_cons.mp h
    rw [after, visible_of_not_remembers he ha, ih hrest]

/-- Answers without a key leave the evaluator as it is. -/
theorem visible_of_answersKey?_eq_none (e : Evaluator) (h : IsAnswers answers)
    (hkey : answersKey? answers = none) : (e.visible answers).1 = e := by
  rw [visible_of_isAnswers e h, hkey, ite_self]

/-- Where fields can be judged for all answers, no call fails. -/
theorem answersAll_of_visibleIn (hhistory : ∀ a ∈ history, IsAnswers a)
    (hvisible : ∀ a ∈ history, ∃ ids, visibleIn e.fields a = .ok ids) : e.AnswersAll history := by
  induction history using List.reverseRecOn with
  | nil => exact fun o ho => by cases ho
  | append_singleton history answers ih =>
    rw [List.forall_mem_append, List.forall_mem_singleton] at hhistory hvisible
    obtain ⟨hhistory, ha⟩ := hhistory
    obtain ⟨hvisible, ids, hids⟩ := hvisible
    refine answersAll_concat.mpr ⟨ih hhistory hvisible, ?_⟩
    -- What is found is decided anew, recalled, or decided and remembered; none of these fails.
    rw [visible_of_isAnswers _ ha, fields_after hhistory, hids]
    split
    · exact ⟨ids, rfl⟩
    · split
      · exact ⟨_, rfl⟩
      · exact ⟨ids, rfl⟩

/-- After any calls that all answer, memory holds the keys that were asked for most recently, as many
as there is room for and the latest last, each with the answer of the call that last put it there;
answers without a key change nothing.  Without room there is never anything in memory. -/
theorem cache_after (fields : List Field) (k : Int) {history : List Value}
    (hhistory : ∀ a ∈ history, IsAnswers a)
    (hanswers : (new fields (.int k)).AnswersAll history) :
    let e := (new fields (.int k)).after history
    (0 < k →
      e.keys = (requested history).dedup.rtake k.toNat ∧
        e.cache.length = min k.toNat (requested history).dedup.length ∧
        (∀ key found, (key, found) ∈ e.cache →
          (new fields (.int k)).LastInserted history key found) ∧
        ∀ answers, IsAnswers answers → answersKey? answers = none → (e.visible answers).1 = e) ∧
      (k ≤ 0 → e.cache = []) := by
  intro e
  constructor
  · intro hk
    obtain ⟨n, rfl⟩ := Int.eq_ofNat_of_zero_le hk.le
    have hn : 0 < n := Int.natCast_pos.mp hk
    have hkeys : e.keys = (requested history).dedup.rtake n := keys_after hn hhistory hanswers
    refine ⟨hkeys, ?_, fun key found hmem => lastInserted_after hn hhistory hanswers hmem,
      fun answers h hkey => visible_of_answersKey?_eq_none e h hkey⟩
    -- There are as many entries as keys.
    rw [← List.length_map Prod.fst]
    exact (congrArg List.length hkeys).trans (length_rtake _ _)
  · intro hk
    -- With no positive capacity nothing is remembered.
    have hremembers : (new fields (.int k)).remembers = false := by
      rw [remembers_of_int rfl, decide_eq_false_iff_not]
      exact hk.not_gt
    show ((new fields (.int k)).after history).cache = []
    rw [after_of_not_remembers hremembers hhistory]
    rfl

/-- An age, and a note that is asked for above the age of one. -/
def ageForm : List Field :=
  [⟨"age", .number, "Age", false, none, none, none, none, none, none⟩,
    ⟨"note", .text, "Note", false, none, none, none, none,
      some [⟨"age", .greaterThan, .int 1⟩], none⟩]

/-- The answer to the question for the age. -/
def ageAnswers (age : Value) : Value := .dict [("age", age)]

theorem isAnswers_ageAnswers (age : Value) : IsAnswers (ageAnswers age) :=
  .dict _ (List.nodup_singleton _)

theorem answersKey?_ageAnswers (n : Int) :
    answersKey? (ageAnswers (.int n)) = some (.dict [("age", (Frozen.int n).key)]) := by
  show some (Frozen.dict (Frozen.sortMembers [("age", .int n)])).key = _
  rw [Frozen.sortMembers_singleton]
  rfl

/-- With room for two results the age of one is still there after that of three, since it was asked
for again, and the age of two is forgotten; bytes have no key. -/
theorem cache_after_ages :
    let history := [ageAnswers (.int 1), ageAnswers (.int 2), ageAnswers (.bytes []),
      ageAnswers (.int 1), ageAnswers (.int 3)]
    let e := (new ageForm (.int 2)).after history
    (∀ a ∈ history, IsAnswers a) ∧ (new ageForm (.int 2)).AnswersAll history ∧
      e.keys = [.dict [("age", (Frozen.int 1).key)], .dict [("age", (Frozen.int 3).key)]] ∧
      e.cache.length = 2 ∧ ((new ageForm (.int 0)).after history).cache = [] := by
  intro history e
  have hhistory : ∀ a ∈ history, IsAnswers a := by simp [history, isAnswers_ageAnswers]
  have hanswers (k : Int) : (new ageForm (.int k)).AnswersAll history := by
    refine answersAll_of_visibleIn hhistory ?_
    simp only [history, List.forall_mem_cons]
    exact ⟨⟨_, rfl⟩, ⟨_, rfl⟩, ⟨_, rfl⟩, ⟨_, rfl⟩, ⟨_, rfl⟩, List.forall_mem_nil _⟩
  have hrequested : requested history = [.dict [("age", (Frozen.int 1).key)],
      .dict [("age", (Frozen.int 2).key)], .dict [("age", (Frozen.int 1).key)],
      .dict [("age", (Frozen.int 3).key)]] := by
    have hbytes : answersKey? (ageAnswers (.bytes [])) = none := rfl
    simp only [requested, history, List.filterMap_cons, answersKey?_ageAnswers, hbytes,
      List.filterMap_nil]
  obtain ⟨hkeys, hlength, -, -⟩ := (cache_after ageForm 2 hhistory (hanswers 2)).1 (by decide)
  have hnone := (cache_after ageForm 0 hhistory (hanswers 0)).2 (by decide)
  rw [hrequested] at hkeys hlength
  refine ⟨hhistory, hanswers 2, hkeys.trans ?_, hlength.trans ?_, hnone⟩
  · decide
  · decide

end Evaluator
end Questionnaire
