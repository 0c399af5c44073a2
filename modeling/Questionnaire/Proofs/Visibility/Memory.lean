import Mathlib.Data.Finset.Insert
import Mathlib.Data.Finset.Dedup
import Questionnaire.Proofs.Lists
import Questionnaire.Proofs.Number.Points
import Questionnaire.Proofs.Visibility.Answers

/-!
# What an evaluator remembers

An evaluator should answer calls one after the other like evaluators without memory, each of which
is new (`Evaluator.freshSet`).  What is in memory was found for earlier answers with the same key
(`Recalls`), so this is the case when no answers are confused with earlier ones (`Confuses`), and
with enough room in memory only then (`visibleSets_eq_iff`).

Answers do get confused: their key does not keep the order of the members of an object, nor the sign
of zero, and a condition that looks for a part of the text of an object can see both.
`transparent_iff` says that nothing else can be the reason.
-/

namespace Questionnaire

/-! ### Keys -/

namespace Evaluator

/-- Whether an evaluator remembers anything. -/
def remembers (e : Evaluator) : Bool := (Number.int 0).lt e.capacity || e.capacity.point?.isNone

theorem remembers_of_int {e : Evaluator} {k : Int} (h : e.capacity = .int k) :
    e.remembers = decide (0 < k) := by
  unfold remembers
  rw [h, Number.int_lt_int]
  exact Bool.or_false _

/-- An object has a key, or nothing is to be remembered for it; it never fails at this. -/
theorem key_dict (e : Evaluator) (ms : Members Value) :
    e.key (.dict ms) = .ok (if e.remembers then
      (Value.dict (Members.ofPairs ms)).freeze.toOption.map Frozen.key else none) := by
  unfold key remembers
  -- The evaluator asks whether it is off, the theorem whether it remembers.
  have hoff : (!(Number.int 0).lt e.capacity && !e.capacity.point?.isNone) =
      !((Number.int 0).lt e.capacity || e.capacity.point?.isNone) := by
    rw [Bool.not_or]
  rw [hoff]
  cases (Number.int 0).lt e.capacity || e.capacity.point?.isNone with
  | false => rfl
  | true =>
    -- Names of members are texts, so pairing them up again loses nothing.
    have hfreeze : (do (Datum.ofPairs (← (Value.dict ms).toPairs)).freeze : Outcome Frozen) =
        (Value.dict (Members.ofPairs ms)).freeze := by
      show (Datum.ofPairs (ms.map fun m => (Value.str m.1, m.2))).freeze = _
      rw [Datum.ofPairs_texts]
      rfl
    rw [hfreeze]
    cases hf : (Value.dict (Members.ofPairs ms)).freeze with
    | ok f => rfl
    -- The only failure is a value that cannot be frozen, and then there is no key.
    | error e =>
      obtain ⟨m, rfl, hm⟩ := (Value.requires_freeze _).exists_misuse_of_error hf
      show (if m.family = .type then _ else _) = _
      rw [if_pos hm]
      rfl

/-- Answers have a key, or nothing is to be remembered for them. -/
theorem key_of_isAnswers (e : Evaluator) {answers : Value} (h : IsAnswers answers) :
    e.key (effectiveAnswers answers) = .ok (if e.remembers then answersKey? answers else none) := by
  obtain ⟨ms, hms, hn⟩ := h.effective
  unfold answersKey?
  rw [hms, key_dict, Members.ofPairs_of_nodup hn]

/-! ### One call -/

/-- What one call does with the memory. -/
theorem visible_of_isAnswers (e : Evaluator) {answers : Value} (h : IsAnswers answers) :
    e.visible answers = match if e.remembers then answersKey? answers else none with
      | none => (e, visibleIn e.fields answers)
      | some key => match e.cache.lookup key with
        | some found => (e.refresh key found, .ok found)
        | none => match visibleIn e.fields answers with
          | .error f => (e, .error f)
          | .ok found => (e.remember key found, .ok found) := by
  unfold visible
  dsimp only
  rw [key_of_isAnswers e h, visibleIn_effectiveAnswers]
  cases if e.remembers then answersKey? answers else none <;> rfl

/-- A new evaluator answers what is visible. -/
theorem visible_new (fields : List Field) (capacity : Number) {answers : Value}
    (h : IsAnswers answers) :
    ((new fields capacity).visible answers).2 = visibleIn fields answers := by
  rw [visible_of_isAnswers _ h]
  cases if (new fields capacity).remembers then answersKey? answers else none with
  | none => rfl
  | some key =>
    have hnone : (new fields capacity).cache.lookup key = none := rfl
    have hfields : (new fields capacity).fields = fields := rfl
    dsimp only
    rw [hnone, hfields]
    cases visibleIn fields answers <;> rfl

theorem fields_visible (e : Evaluator) {answers : Value} (h : IsAnswers answers) :
    (e.visible answers).1.fields = e.fields := by
  rw [visible_of_isAnswers e h]
  split
  · rfl
  · split
    · rfl
    · split <;> rfl

theorem capacity_visible (e : Evaluator) {answers : Value} (h : IsAnswers answers) :
    (e.visible answers).1.capacity = e.capacity := by
  rw [visible_of_isAnswers e h]
  split
  · rfl
  · split
    · rfl
    · split <;> rfl

/-! ### Sequences of calls -/

/-- The visible sets that calls one after the other answer. -/
def visibleSets (e : Evaluator) : List Value → List (Outcome (Finset String))
  | [] => []
  | answers :: rest =>
    (e.visible answers).2.map List.toFinset :: (e.visible answers).1.visibleSets rest

/-- The visible set that a new evaluator without memory answers. -/
def freshSet (fields : List Field) (answers : Value) : Outcome (Finset String) :=
  ((new fields (.int 0)).visible answers).2.map List.toFinset

theorem freshSet_of_isAnswers (fields : List Field) {answers : Value} (h : IsAnswers answers) :
    freshSet fields answers = (visibleIn fields answers).map List.toFinset := by
  unfold freshSet
  rw [visible_new fields _ h]

/-- Everything in memory was found for one of some answers, by their key. -/
def Recalls (e : Evaluator) (past : List Value) : Prop :=
  ∀ key found, (key, found) ∈ e.cache →
    ∃ answers ∈ past, answersKey? answers = some key ∧ visibleIn e.fields answers = .ok found

/-- A fresh result for answers differs from the one for earlier answers with the same key. -/
def Confuses (fields : List Field) (earlier later : Value) : Prop :=
  answersKey? earlier = answersKey? later ∧ (answersKey? later).isSome ∧
    ∃ found, freshSet fields earlier = .ok found ∧ freshSet fields later ≠ .ok found

theorem mem_cache_refresh {e : Evaluator} {key : Frozen} {found : List String}
    {m : Frozen × List String} (h : m ∈ (e.refresh key found).cache) :
    m ∈ e.cache ∨ m = (key, found) := by
  rcases List.mem_append.mp h with h | h
  · exact Or.inl (List.mem_filter.mp h).1
  · exact Or.inr (List.mem_singleton.mp h)

/-- Remembering adds no entry but the new one; it may drop the oldest. -/
theorem mem_cache_remember {e : Evaluator} {key : Frozen} {found : List String}
    {m : Frozen × List String} (h : m ∈ (e.remember key found).cache) :
    m ∈ e.cache ∨ m = (key, found) := by
  have hm : m ∈ e.cache ++ [(key, found)] := by
    unfold remember at h
    dsimp only at h
    split at h
    · exact List.mem_of_mem_drop h
    · exact h
  rcases List.mem_append.mp hm with h | h
  · exact Or.inl h
  · exact Or.inr (List.mem_singleton.mp h)

theorem mem_of_lookup_eq_some {e : Evaluator} {key : Frozen} {found : List String}
    (h : e.cache.lookup key = some found) : (key, found) ∈ e.cache := by
  obtain ⟨before, after, hcache, _⟩ := List.lookup_eq_some_iff.mp h
  rw [hcache]
  exact List.mem_append_right _ List.mem_cons_self

theorem Recalls.mono {e : Evaluator} {past past' : List Value} (he : e.Recalls past)
    (hsub : past ⊆ past') : e.Recalls past' := by
  intro key found hm
  obtain ⟨answers, hmem, hfound⟩ := he key found hm
  exact ⟨answers, hsub hmem, hfound⟩

/-- What a call answers was found for its answers, or for earlier ones with the same key. -/
theorem Recalls.exists_visibleIn {e : Evaluator} {past : List Value} (he : e.Recalls past)
    {answers : Value} (h : IsAnswers answers) {found : List String}
    (hfound : (e.visible answers).2 = .ok found) :
    visibleIn e.fields answers = .ok found ∨ ∃ earlier ∈ past,
      answersKey? earlier = answersKey? answers ∧ (answersKey? answers).isSome ∧
        visibleIn e.fields earlier = .ok found := by
  rw [visible_of_isAnswers e h] at hfound
  split at hfound
  · exact Or.inl hfound
  · next key hkey =>
    have hanswers : answersKey? answers = some key := by
      split at hkey
      · exact hkey
      · cases hkey
    -- Three ways to an answer: no key, a remembered result, and a fresh one.
    split at hfound
    · next kept hlookup =>
      obtain rfl := Except.ok.inj hfound
      obtain ⟨earlier, hmem, hearlier, hvisible⟩ := he key kept (mem_of_lookup_eq_some hlookup)
      exact Or.inr ⟨earlier, hmem, hearlier.trans hanswers.symm, by rw [hanswers]; rfl, hvisible⟩
    · split at hfound
      · cases hfound
      · next fresh hfresh =>
        obtain rfl := Except.ok.inj hfound
        exact Or.inl hfresh

/-- A call keeps what is in memory in order. -/
theorem Recalls.cache_visible {e : Evaluator} {past : List Value} (he : e.Recalls past)
    {answers : Value} (h : IsAnswers answers) : (e.visible answers).1.Recalls (answers :: past) := by
  have hkeep : e.Recalls (answers :: past) := he.mono (List.subset_cons_self answers past)
  rw [visible_of_isAnswers e h]
  cases hkey : if e.remembers then answersKey? answers else none with
  | none => exact hkeep
  | some key =>
    have hanswers : answersKey? answers = some key := by
      split at hkey
      · exact hkey
      · cases hkey
    dsimp only
    cases hlookup : e.cache.lookup key with
    -- A refreshed entry was there before, so the answers it came from are in the past.
    | some found =>
      intro key' found' hm
      rcases mem_cache_refresh hm with hm | hm
      · exact hkeep key' found' hm
      · obtain ⟨rfl, rfl⟩ := Prod.mk.inj hm
        exact hkeep _ _ (mem_of_lookup_eq_some hlookup)
    | none =>
      cases hfresh : visibleIn e.fields answers with
      | error f => exact hkeep
      | ok found =>
        intro key' found' hm
        rcases mem_cache_remember hm with hm | hm
        · exact hkeep key' found' hm
        · obtain ⟨rfl, rfl⟩ := Prod.mk.inj hm
          exact ⟨answers, List.mem_cons_self, hanswers, hfresh⟩

/-- A failure is always one of deciding anew: nothing that failed is remembered. -/
theorem visible_eq_error {e : Evaluator} {answers : Value} (h : IsAnswers answers) {f : Fault}
    (hfails : (e.visible answers).2 = .error f) : visibleIn e.fields answers = .error f := by
  rw [visible_of_isAnswers e h] at hfails
  split at hfails
  · exact hfails
  · split at hfails
    · cases hfails
    · split at hfails
      · next g hg =>
        obtain rfl := Except.error.inj hfails
        exact hg
      · cases hfails

/-- A call keeps what is in memory in order, and answers what is fresh unless it confuses the
answers with earlier ones. -/
theorem Recalls.visible {e : Evaluator} {past : List Value} (he : e.Recalls past) {answers : Value}
    (h : IsAnswers answers)
    (hpast : ∀ earlier ∈ past, IsAnswers earlier ∧ ¬Confuses e.fields earlier answers) :
    (e.visible answers).1.Recalls (answers :: past) ∧
      (e.visible answers).2.map List.toFinset = freshSet e.fields answers := by
  refine ⟨he.cache_visible h, ?_⟩
  rw [freshSet_of_isAnswers e.fields h]
  cases hfound : (e.visible answers).2 with
  | error f => rw [visible_eq_error h hfound]
  | ok found =>
    rcases he.exists_visibleIn h hfound with hfresh | ⟨earlier, hmem, hkey, hsome, hvisible⟩
    · rw [hfresh]
    · -- What is answered is the result of earlier answers with the same key.
      obtain ⟨hisAnswers, hnot⟩ := hpast earlier hmem
      by_contra hne
      refine hnot ⟨hkey, hsome, found.toFinset, ?_, ?_⟩
      · rw [freshSet_of_isAnswers e.fields hisAnswers, hvisible]
        rfl
      · rw [freshSet_of_isAnswers e.fields h]
        exact fun heq => hne heq.symm

/-- Without confusion, calls one after the other answer what is fresh. -/
theorem visibleSets_eq_of_not_confuses {e : Evaluator} {past history : List Value}
    (he : e.Recalls past) (hpast : ∀ a ∈ past, IsAnswers a) (hhistory : ∀ a ∈ history, IsAnswers a)
    (hnot : ∀ a ∈ past, ∀ b ∈ history, ¬Confuses e.fields a b)
    (hpairs : ∀ a b, [a, b].Sublist history → ¬Confuses e.fields a b) :
    e.visibleSets history = history.map (freshSet e.fields) := by
  induction history generalizing e past with
  | nil => rfl
  | cons answers rest ih =>
    have ha := hhistory answers List.mem_cons_self
    -- One request: it is answered right, and what is remembered stays a result of the past.
    obtain ⟨he', hresult⟩ := he.visible ha fun earlier hmem =>
      ⟨hpast earlier hmem, hnot earlier hmem answers List.mem_cons_self⟩
    rw [visibleSets, List.map_cons, hresult]
    have hfields := fields_visible e ha
    -- For the rest the answers just asked for are among the past.
    rw [ih he', hfields]
    · exact List.forall_mem_cons.mpr ⟨ha, hpast⟩
    · exact fun a hmem => hhistory a (List.mem_cons_of_mem _ hmem)
    · rw [hfields]
      intro a hmem b hb
      rcases List.mem_cons.mp hmem with rfl | hmem
      · exact hpairs a b ((List.singleton_sublist.mpr hb).cons_cons a)
      · exact hnot a hmem b (List.mem_cons_of_mem _ hb)
    · rw [hfields]
      exact fun a b hsub => hpairs a b (hsub.cons answers)

/-! ### A memory with room -/

/-- There is room in memory for some more results. -/
def Roomy (e : Evaluator) (room : Nat) : Prop :=
  ∃ n : Nat, e.capacity = .int n ∧ e.cache.length + room ≤ n

theorem Roomy.mono {e : Evaluator} {m n : Nat} (h : e.Roomy n) (hmn : m ≤ n) : e.Roomy m := by
  obtain ⟨capacity, hcapacity, hlength⟩ := h
  exact ⟨capacity, hcapacity, by omega⟩

theorem Roomy.remembers {e : Evaluator} (h : e.Roomy 1) : e.remembers = true := by
  obtain ⟨n, hn, hlength⟩ := h
  rw [remembers_of_int hn, decide_eq_true_eq]
  omega

theorem Roomy.cache_remember {e : Evaluator} (h : e.Roomy 1) (key : Frozen) (found : List String) :
    (e.remember key found).cache = e.cache ++ [(key, found)] := by
  obtain ⟨n, hn, hlength⟩ := h
  have hroom : e.capacity.lt (.ofNat (e.cache ++ [(key, found)]).length) = false := by
    rw [hn, Number.ofNat, Number.int_lt_int, decide_eq_false_iff_not, List.length_append,
      List.length_singleton]
    omega
  show (if e.capacity.lt (.ofNat (e.cache ++ [(key, found)]).length) then _ else _) = _
  rw [hroom]
  rfl

theorem length_cache_refresh (e : Evaluator) (key : Frozen) (found : List String) :
    (e.refresh key found).cache.length ≤ e.cache.length + 1 := by
  show (e.cache.filter _ ++ [(key, found)]).length ≤ _
  rw [List.length_append, List.length_singleton]
  have := List.length_filter_le (fun m : Frozen × List String => decide (m.1 ≠ key)) e.cache
  omega

/-- Taking the entries of one key out leaves what is looked up under any other. -/
theorem lookup_filter_ne (cache : List (Frozen × List String)) (key key' : Frozen) :
    (cache.filter fun m => decide (m.1 ≠ key)).lookup key' =
      if key' = key then none else cache.lookup key' := by
  induction cache with
  | nil => simp
  | cons m rest ih =>
    by_cases hm : m.1 = key
    · rw [List.filter_cons_of_neg (by simpa using hm), ih]
      by_cases h : key' = key
      · rw [if_pos h, if_pos h]
      · have hne : (key' == m.1) = false := beq_eq_false_iff_ne.mpr (hm ▸ h)
        rw [if_neg h, if_neg h, List.lookup_cons, hne]
    · rw [List.filter_cons_of_pos (by simpa using hm), List.lookup_cons, List.lookup_cons, ih]
      by_cases h : key' = key
      · have hne : (key' == m.1) = false := beq_eq_false_iff_ne.mpr fun heq => hm (heq ▸ h)
        rw [hne, if_pos h]
      · rw [if_neg h, if_neg h]

/-- After a refresh a key finds its result, and other keys find what they did. -/
theorem lookup_cache_refresh (e : Evaluator) (key key' : Frozen) (found : List String) :
    (e.refresh key found).cache.lookup key' =
      if key' = key then some found else e.cache.lookup key' := by
  show (e.cache.filter (fun m => decide (m.1 ≠ key)) ++ [(key, found)]).lookup key' = _
  rw [List.lookup_append, lookup_filter_ne, List.lookup_cons]
  by_cases h : key' = key
  · have heq : (key' == key) = true := beq_iff_eq.mpr h
    rw [if_pos h, if_pos h, heq]
    rfl
  · have hne : (key' == key) = false := beq_eq_false_iff_ne.mpr h
    rw [if_neg h, if_neg h, hne]
    exact Option.or_none

variable {e : Evaluator} {answers : Value} {key : Frozen} {found : List String} {room : Nat}

/-- One request takes up at most one place. -/
theorem Roomy.visible (hr : e.Roomy (room + 1)) (h : IsAnswers answers) :
    (e.visible answers).1.Roomy room := by
  have hone : e.Roomy 1 := hr.mono (by omega)
  -- The capacity stays and the entries grow by one at most.
  have hlength : (e.visible answers).1.cache.length ≤ e.cache.length + 1 := by
    rw [visible_of_isAnswers e h]
    split
    · exact Nat.le_succ _
    · split
      · exact length_cache_refresh e _ _
      · split
        · exact Nat.le_succ _
        · rw [hone.cache_remember, List.length_append, List.length_singleton]
  obtain ⟨n, hn, hroom⟩ := hr
  exact ⟨n, (capacity_visible e h).trans hn, by omega⟩

/-- With room in memory, a result that is there stays there. -/
theorem lookup_visible (hr : e.Roomy 1) (h : IsAnswers answers)
    (hkey : e.cache.lookup key = some found) :
    (e.visible answers).1.cache.lookup key = some found := by
  -- Requests without a key, with a known key, and with a new one, for which there is room.
  rw [visible_of_isAnswers e h]
  split
  · exact hkey
  · next key' _ =>
    split
    · next found' hfound' =>
      rw [lookup_cache_refresh]
      split
      · next heq =>
        rw [← heq, hkey] at hfound'
        exact hfound'.symm
      · exact hkey
    · split
      · exact hkey
      · rw [hr.cache_remember, List.lookup_append, hkey]
        rfl

/-- With room in memory, the result of a call is there after it. -/
theorem lookup_visible_self (hr : e.Roomy 1) (h : IsAnswers answers)
    (hkey : answersKey? answers = some key) (hfound : (e.visible answers).2 = .ok found) :
    (e.visible answers).1.cache.lookup key = some found := by
  rw [visible_of_isAnswers e h, hr.remembers, if_pos rfl, hkey] at hfound ⊢
  dsimp only at hfound ⊢
  split at hfound
  · cases hfound
    rw [lookup_cache_refresh, if_pos rfl]
  · next hnone =>
    split at hfound
    · cases hfound
    · cases hfound
      rw [hr.cache_remember, List.lookup_append, hnone]
      simp

/-- What is in memory is what a call answers. -/
theorem visible_of_lookup (hr : e.Roomy 1) (h : IsAnswers answers)
    (hkey : answersKey? answers = some key) (hlookup : e.cache.lookup key = some found) :
    (e.visible answers).2 = .ok found := by
  rw [visible_of_isAnswers e h, hr.remembers, if_pos rfl, hkey]
  dsimp only
  rw [hlookup]

/-- The evaluator after several calls. -/
def after (e : Evaluator) : List Value → Evaluator
  | [] => e
  | answers :: rest => (e.visible answers).1.after rest

theorem fields_after {e : Evaluator} {history : List Value} (h : ∀ a ∈ history, IsAnswers a) :
    (e.after history).fields = e.fields := by
  induction history generalizing e with
  | nil => rfl
  | cons a rest ih =>
    obtain ⟨ha, hrest⟩ := List.forall_mem_cons.mp h
    exact (ih hrest).trans (e.fields_visible ha)

/-- Through any calls what is in memory remains in order. -/
theorem Recalls.after {e : Evaluator} {past history : List Value} (he : e.Recalls past)
    (h : ∀ a ∈ history, IsAnswers a) : (e.after history).Recalls (history ++ past) := by
  induction history generalizing e past with
  | nil => exact he
  | cons a rest ih =>
    obtain ⟨ha, hrest⟩ := List.forall_mem_cons.mp h
    refine (ih (he.cache_visible ha) hrest).mono fun b hb => ?_
    rw [List.cons_append, List.mem_cons, List.mem_append]
    rcases List.mem_append.mp hb with hb | hb
    · exact Or.inr (Or.inl hb)
    · exact (List.mem_cons.mp hb).imp_right Or.inr

theorem Roomy.after {e : Evaluator} {history : List Value} (hr : e.Roomy (history.length + room))
    (h : ∀ a ∈ history, IsAnswers a) : (e.after history).Roomy room := by
  induction history generalizing e with
  | nil => rwa [List.length_nil, Nat.zero_add] at hr
  | cons a rest ih =>
    rw [List.length_cons, Nat.add_right_comm] at hr
    exact ih (hr.visible (h a List.mem_cons_self)) fun b hb => h b (List.mem_cons_of_mem _ hb)

theorem lookup_after {e : Evaluator} {history : List Value} (hr : e.Roomy history.length)
    (h : ∀ a ∈ history, IsAnswers a) (hkey : e.cache.lookup key = some found) :
    (e.after history).cache.lookup key = some found := by
  induction history generalizing e with
  | nil => exact hkey
  | cons a rest ih =>
    have ha := h a List.mem_cons_self
    rw [List.length_cons] at hr
    have hone : e.Roomy 1 := hr.mono (by omega)
    exact ih (hr.visible ha) (fun b hb => h b (List.mem_cons_of_mem _ hb))
      (lookup_visible hone ha hkey)

theorem visibleSets_append (e : Evaluator) (history rest : List Value) :
    e.visibleSets (history ++ rest) =
      e.visibleSets history ++ (e.after history).visibleSets rest := by
  induction history generalizing e with
  | nil => rfl
  | cons a history ih =>
    rw [List.cons_append, visibleSets, visibleSets, ih]
    rfl

theorem length_visibleSets (e : Evaluator) (history : List Value) :
    (e.visibleSets history).length = history.length := by
  induction history generalizing e with
  | nil => rfl
  | cons a history ih => rw [visibleSets, List.length_cons, List.length_cons, ih]

/-- With room in memory, a call answers what an earlier one answered for the same key. -/
theorem visible_after_of_key_eq {e : Evaluator} {a b : Value} {mid : List Value}
    (hr : e.Roomy (mid.length + 1 + 1)) (ha : IsAnswers a) (hmid : ∀ c ∈ mid, IsAnswers c)
    (hb : IsAnswers b) (hkeys : answersKey? a = answersKey? b) (hsome : (answersKey? b).isSome)
    (hfound : (e.visible a).2 = .ok found) :
    (((e.visible a).1.after mid).visible b).2 = .ok found := by
  obtain ⟨key, hkey⟩ := Option.isSome_iff_exists.mp hsome
  -- Room for the requests in between and for the last one.
  have hroom : (e.visible a).1.Roomy (mid.length + 1) := hr.visible ha
  -- The result stands under the common key at once, and it stays there in between.
  have hthere : (e.visible a).1.cache.lookup key = some found :=
    lookup_visible_self (hr.mono (by omega)) ha (hkeys.trans hkey) hfound
  have hstays : ((e.visible a).1.after mid).cache.lookup key = some found :=
    lookup_after (hroom.mono (by omega)) hmid hthere
  exact visible_of_lookup (hroom.after hmid) hb hkey hstays

/-- Where calls answer what a function says, so does each of them, and so do the calls after it. -/
theorem visible_of_visibleSets_eq_map {e : Evaluator} {g : Value → Outcome (Finset String)}
    {before rest : List Value} {a : Value}
    (h : e.visibleSets (before ++ a :: rest) = (before ++ a :: rest).map g) :
    ((e.after before).visible a).2.map List.toFinset = g a ∧
      ((e.after before).visible a).1.visibleSets rest = rest.map g := by
  rw [visibleSets_append, List.map_append] at h
  obtain ⟨_, h⟩ := List.append_inj h (by rw [length_visibleSets, List.length_map])
  rw [visibleSets, List.map_cons] at h
  exact List.cons.inj h

/-- With room in memory, calls that answer what is fresh confuse no answers with earlier ones. -/
theorem not_confuses_of_visibleSets_eq {fields : List Field} {history : List Value}
    (hhistory : ∀ a ∈ history, IsAnswers a)
    (h : (new fields (.int history.length)).visibleSets history = history.map (freshSet fields))
    {a b : Value} (hsub : [a, b].Sublist history) : ¬Confuses fields a b := by
  rintro ⟨hkeys, hsome, ids, hids, hne⟩
  obtain ⟨before, mid, rest, rfl⟩ := exists_split_of_pair_sublist hsub
  simp only [List.forall_mem_append, List.forall_mem_cons] at hhistory
  obtain ⟨hbefore, ha, hmid, hb, _⟩ := hhistory
  set start := new fields (.int (before ++ a :: (mid ++ b :: rest)).length) with hstart
  have hroom : start.Roomy (before.length + (mid.length + 1 + 1)) := by
    refine ⟨_, rfl, ?_⟩
    simp only [hstart, new, List.length_nil, List.length_append, List.length_cons]
    omega
  obtain ⟨hresultA, h⟩ := visible_of_visibleSets_eq_map h
  obtain ⟨hresultB, _⟩ := visible_of_visibleSets_eq_map h
  rw [hids] at hresultA
  -- The call for `a` answers, so it is in memory when `b` is asked for, which has the same key.
  cases hfound : ((start.after before).visible a).2 with
  | error f =>
    rw [hfound] at hresultA
    cases hresultA
  | ok found =>
    have hagain := visible_after_of_key_eq (hroom.after hbefore) ha hmid hb hkeys hsome hfound
    rw [hfound] at hresultA
    rw [hagain] at hresultB
    exact hne (hresultB.symm.trans hresultA)

/-- Calls answer what is fresh, whatever the capacity, iff no answers are confused with earlier
ones. -/
theorem visibleSets_eq_iff {fields : List Field} {history : List Value}
    (hhistory : ∀ a ∈ history, IsAnswers a) :
    (∀ capacity, (new fields capacity).visibleSets history = history.map (freshSet fields)) ↔
      ∀ a b, [a, b].Sublist history → ¬Confuses fields a b := by
  constructor
  · intro h a b hsub
    exact not_confuses_of_visibleSets_eq hhistory (h _) hsub
  · intro h capacity
    -- A new evaluator remembers nothing.
    have hnew : (new fields capacity).Recalls [] := by
      intro key found hm
      cases hm
    exact visibleSets_eq_of_not_confuses hnew (by simp) hhistory (by simp) h

/-- Answers that are confused are told apart by a condition that looks for a part of a text. -/
theorem Confuses.exists_tellsApart {fields : List Field} {a b : Value} (h : Confuses fields a b)
    (ha : IsAnswers a) (hb : IsAnswers b) :
    ∃ f ∈ fields, ∃ c ∈ f.conditionList, c.TellsApart (fields.map (·.id)) f.id a b := by
  obtain ⟨hkeys, hsome, ids, hids, hne⟩ := h
  by_contra hno
  simp only [not_exists, not_and] at hno
  rw [freshSet_of_isAnswers fields ha, visibleIn_congr ha hb hkeys hsome hno,
    ← freshSet_of_isAnswers fields hb] at hids
  exact hne hids

/-- Calls one after the other answer what is fresh, whatever the capacity, iff no answers are
confused with earlier ones; and answers are confused only where a condition tells them apart by the
text of an object.  This is about answers of any depth, none of which is too deep to be frozen. -/
theorem transparent_iff {fields : List Field} {history : List Value}
    (hhistory : ∀ a ∈ history, IsAnswers a) :
    ((∀ capacity, (new fields capacity).visibleSets history = history.map (freshSet fields)) ↔
        ∀ a b, [a, b].Sublist history → ¬Confuses fields a b) ∧
      ∀ a b, IsAnswers a → IsAnswers b → Confuses fields a b →
        ∃ f ∈ fields, ∃ c ∈ f.conditionList, c.TellsApart (fields.map (·.id)) f.id a b :=
  ⟨visibleSets_eq_iff hhistory, fun _ _ ha hb h => h.exists_tellsApart ha hb⟩

/-- A grid, and a text that is asked for when the text of the answer to the grid has a part. -/
def gridForm (part : String) : List Field :=
  [⟨"grid", .matrix, "Grid", false, none, none, none, none, none, none⟩,
    ⟨"note", .text, "Note", false, none, none, none, none,
      some [⟨"grid", .contains, .str part⟩], none⟩]

/-- Answers to the grid with two rows. -/
def gridAnswers (rows : List (String × String)) : Value :=
  .dict [("grid", .dict (rows.map fun r => (r.1, .str r.2)))]

theorem isAnswers_gridAnswers (rows : List (String × String)) : IsAnswers (gridAnswers rows) :=
  .dict _ (List.nodup_singleton _)

theorem answersKey?_gridAnswers (r s : String × String) :
    answersKey? (gridAnswers [r, s]) = some (.dict [("grid", .dict (if r.1 ≤ s.1
      then [(r.1, .str r.2), (s.1, .str s.2)] else [(s.1, .str s.2), (r.1, .str r.2)]))]) := by
  show some (Frozen.dict (Frozen.sortMembers [("grid", .dict
    (Frozen.sortMembers [(r.1, .str r.2), (s.1, .str s.2)]))])).key = _
  rw [Frozen.sortMembers_singleton, Frozen.sortMembers_pair]
  split <;> rfl

/-- The same two rows in another order: the note is no longer asked for, but an evaluator that has
seen the first answers goes on asking for it. -/
theorem visibleSets_ne_fresh :
    let form := gridForm "x\", \"s"
    let first := gridAnswers [("r", "x"), ("s", "y")]
    let second := gridAnswers [("s", "y"), ("r", "x")]
    (new form (.int 128)).visibleSets [first, second] =
        [.ok {"grid", "note"}, .ok {"grid", "note"}] ∧
      [first, second].map (freshSet form) = [.ok {"grid", "note"}, .ok {"grid"}] := by
  intro form first second
  have hfirst : visibleIn form first = .ok ["grid", "note"] := rfl
  have hsecond : visibleIn form second = .ok ["grid"] := rfl
  -- The two mappings differ in the order of the members only, which the key does not see.
  have hkey : answersKey? first = answersKey? second := by
    show answersKey? (gridAnswers _) = answersKey? (gridAnswers _)
    rw [answersKey?_gridAnswers, answersKey?_gridAnswers]
    rfl
  have hsome : (answersKey? second).isSome := by
    rw [answersKey?_gridAnswers]
    rfl
  -- Two requests fit, so the first result is still there for the second.
  have hroom : (new form (.int 128)).Roomy 2 := ⟨128, rfl, by decide⟩
  have hone : ((new form (.int 128)).visible first).2 = .ok ["grid", "note"] := by
    rw [visible_new form _ (isAnswers_gridAnswers _), hfirst]
  have htwo : (((new form (.int 128)).visible first).1.visible second).2 =
      .ok ["grid", "note"] :=
    @visible_after_of_key_eq _ _ first second [] hroom (isAnswers_gridAnswers _) (by simp)
      (isAnswers_gridAnswers _) hkey hsome hone
  constructor
  · rw [visibleSets, visibleSets, visibleSets, hone, htwo]
    rfl
  · rw [List.map_cons, List.map_cons, List.map_nil,
      freshSet_of_isAnswers _ (isAnswers_gridAnswers _),
      freshSet_of_isAnswers _ (isAnswers_gridAnswers _), hfirst, hsecond]
    rfl

/-- Rows with other answers have other keys, so both calls answer what is fresh. -/
theorem visibleSets_eq_fresh :
    let form := gridForm "x\", \"s"
    let history := [gridAnswers [("r", "x"), ("s", "y")], gridAnswers [("r", "y"), ("s", "x")]]
    (new form (.int 128)).visibleSets history = history.map (freshSet form) := by
  intro form history
  have hhistory : ∀ a ∈ history, IsAnswers a := by simp [history, isAnswers_gridAnswers]
  refine (transparent_iff hhistory).1.mpr (fun a b hsub => ?_) (.int 128)
  rintro ⟨hkeys, _, _⟩
  obtain ⟨rfl, rfl⟩ : a = _ ∧ b = _ := by simpa [history] using hsub.eq_of_length rfl
  rw [answersKey?_gridAnswers, answersKey?_gridAnswers] at hkeys
  exact absurd hkeys (by decide)

end Evaluator
end Questionnaire
