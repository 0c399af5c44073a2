import Questionnaire.Proofs.Outcome
import Mathlib.Data.List.Forall2
import Mathlib.Data.List.Nodup

/-!
# Findings that are gathered

Entries, sub-fields and fields are checked one after the other: each gives a result and some
findings, and the findings are strung together.  `gather` is this loop for any kind of item.  It
succeeds iff it does so on every item (`gather_eq_ok_iff`), so what it gives for one item does not
depend on the others, and what is done to the results of the items can be done afterwards
(`gather_map`).  Lists of related items have related findings (`gather_forall₂`).
-/

namespace Questionnaire

variable {α β γ δ : Type}

/-- Computes with the items of a list one after the other, given their numbers, and strings together
what is found. -/
def gather (f : Nat → α → Outcome (β × List γ)) : Nat → List α → Outcome (List β × List γ)
  | _, [] => .ok ([], [])
  | n, a :: as => do
    let (b, found) ← f n a
    let (bs, others) ← gather f (n + 1) as
    pure (b :: bs, found ++ others)

/-- What comes of the items, as one result. -/
def gathered (rs : List (β × List γ)) : List β × List γ := (rs.map (·.1), rs.flatMap (·.2))

/-- There is one result for each item of a list, which the computation gives for the item. -/
structure Yields (f : Nat → α → Outcome (β × List γ)) (n : Nat) (as : List α)
    (rs : List (β × List γ)) : Prop where
  length_eq : rs.length = as.length
  eq_ok (i : Nat) (a : α) (r : β × List γ) (ha : as[i]? = some a) (hr : rs[i]? = some r) :
    f (n + i) a = .ok r

namespace Yields

variable {f : Nat → α → Outcome (β × List γ)} {n : Nat} {as : List α} {rs : List (β × List γ)}

theorem nil : Yields f n [] [] := ⟨rfl, nofun⟩

/-- Yields of a list are those of its head and of its tail. -/
theorem cons_iff {a : α} {r : β × List γ} :
    Yields f n (a :: as) (r :: rs) ↔ f n a = .ok r ∧ Yields f (n + 1) as rs := by
  constructor
  · intro h
    refine ⟨h.eq_ok 0 a r rfl rfl, Nat.succ.inj h.length_eq, fun i b s hb hs => ?_⟩
    rw [Nat.add_right_comm]
    exact h.eq_ok (i + 1) b s hb hs
  · rintro ⟨hr, hrs⟩
    refine ⟨congrArg (· + 1) hrs.length_eq, fun i b s hb hs => ?_⟩
    cases i with
    | zero =>
      obtain rfl := Option.some.inj hb
      obtain rfl := Option.some.inj hs
      exact hr
    | succ i =>
      have hi := hrs.eq_ok i b s hb hs
      rwa [Nat.add_right_comm] at hi

/-- Each item has its result. -/
theorem exists_of_getElem? (h : Yields f n as rs) {i : Nat} {a : α} (ha : as[i]? = some a) :
    ∃ r, rs[i]? = some r ∧ f (n + i) a = .ok r := by
  have hi : i < rs.length := by
    rw [h.length_eq]
    exact (List.getElem?_eq_some_iff.mp ha).1
  exact ⟨rs[i], List.getElem?_eq_getElem hi, h.eq_ok i a _ ha (List.getElem?_eq_getElem hi)⟩

/-- Each result is that of an item. -/
theorem exists_item (h : Yields f n as rs) {i : Nat} {r : β × List γ} (hr : rs[i]? = some r) :
    ∃ a, as[i]? = some a ∧ f (n + i) a = .ok r := by
  have hi : i < as.length := by
    rw [← h.length_eq]
    exact (List.getElem?_eq_some_iff.mp hr).1
  exact ⟨as[i], List.getElem?_eq_getElem hi, h.eq_ok i _ r (List.getElem?_eq_getElem hi) hr⟩

/-- What each result keeps of its item, all results keep of all items. -/
theorem map_eq (h : Yields f n as rs) {κ : Type} {g : β → κ} {k : α → κ}
    (hk : ∀ n a r, f n a = .ok r → g r.1 = k a) : (gathered rs).1.map g = as.map k := by
  induction as generalizing n rs with
  | nil =>
    obtain rfl := List.length_eq_zero_iff.mp h.length_eq
    rfl
  | cons a as ih =>
    cases rs with
    | nil => cases h.length_eq
    | cons r rs =>
      obtain ⟨hr, hrs⟩ := cons_iff.mp h
      show g r.1 :: (gathered rs).1.map g = _
      rw [ih hrs, hk _ _ _ hr, List.map_cons]

/-- Another item in one place changes the result in this place only. -/
theorem set (h : Yields f n as rs) {i : Nat} {a : α} {r : β × List γ} (hr : f (n + i) a = .ok r) :
    Yields f n (as.set i a) (rs.set i r) := by
  refine ⟨by rw [List.length_set, List.length_set, h.length_eq], fun j b s hb hs => ?_⟩
  rw [List.getElem?_set] at hb hs
  -- Only the position that was set has changed, on both sides.
  by_cases hij : i = j
  · subst hij
    rw [if_pos rfl] at hb hs
    split at hb
    · split at hs
      · obtain rfl := Option.some.inj hb
        obtain rfl := Option.some.inj hs
        exact hr
      · cases hs
    · cases hb
  · rw [if_neg hij] at hb hs
    exact h.eq_ok j b s hb hs

end Yields

/-- What is gathered are the yields, put together. -/
theorem gather_eq_ok_iff {f : Nat → α → Outcome (β × List γ)} {n : Nat} {as : List α}
    {r : List β × List γ} : gather f n as = .ok r ↔ ∃ rs, Yields f n as rs ∧ r = gathered rs := by
  induction as generalizing n r with
  | nil =>
    constructor
    · intro h
      exact ⟨[], .nil, (Except.ok.inj h).symm⟩
    · rintro ⟨rs, hrs, rfl⟩
      obtain rfl := List.length_eq_zero_iff.mp hrs.length_eq
      rfl
  | cons a as ih =>
    constructor
    · intro h
      obtain ⟨first, hfirst, h⟩ := Outcome.bind_eq_ok_iff.mp h
      obtain ⟨rest, hrest, h⟩ := Outcome.bind_eq_ok_iff.mp h
      obtain ⟨rs, hrs, rfl⟩ := ih.mp hrest
      exact ⟨first :: rs, Yields.cons_iff.mpr ⟨hfirst, hrs⟩, (Outcome.pure_eq_ok_iff.mp h).symm⟩
    · rintro ⟨rs, hrs, rfl⟩
      cases rs with
      | nil => cases hrs.length_eq
      | cons first rs =>
        obtain ⟨hfirst, hrs⟩ := Yields.cons_iff.mp hrs
        rw [gather, hfirst, ih.mpr ⟨rs, hrs, rfl⟩]
        rfl

/-- Where the computation succeeds on each item, so does the loop. -/
theorem exists_gather {f : Nat → α → Outcome (β × List γ)} {as : List α}
    (h : ∀ n, ∀ a ∈ as, ∃ r, f n a = .ok r) (n : Nat) : ∃ r, gather f n as = .ok r := by
  induction as generalizing n with
  | nil => exact ⟨_, rfl⟩
  | cons a as ih =>
    obtain ⟨r, hr⟩ := h n a List.mem_cons_self
    obtain ⟨rs, hrs⟩ := ih (fun n b hb => h n b (List.mem_cons_of_mem _ hb)) (n + 1)
    rw [gather, hr, hrs]
    exact ⟨_, rfl⟩

/-- Where it is known which keys the findings in each item have, it is known of all findings. -/
theorem keys_of_gather {κ : Type} {f : Nat → α → Outcome (β × List γ)} {key : γ → κ}
    {keys : Nat → α → List κ} {as : List α}
    (h : ∀ n, ∀ a ∈ as, ∃ b found, f n a = .ok (b, found) ∧ found.map key = keys n a) (n : Nat) :
    ∃ bs found, gather f n as = .ok (bs, found) ∧
      found.map key = (as.zipIdx n).flatMap fun a => keys a.2 a.1 := by
  induction as generalizing n with
  | nil => exact ⟨[], [], rfl, rfl⟩
  | cons a as ih =>
    obtain ⟨b, found, hb, hkeys⟩ := h n a List.mem_cons_self
    obtain ⟨bs, others, hbs, hothers⟩ :=
      ih (fun n b hb => h n b (List.mem_cons_of_mem _ hb)) (n + 1)
    refine ⟨b :: bs, found ++ others, ?_, ?_⟩
    · rw [gather, hb, hbs]
      rfl
    · rw [List.map_append, hkeys, hothers, List.zipIdx_cons, List.flatMap_cons]

/-- Findings with keys that depend on the item alone. -/
theorem keys_of_gather_items {κ : Type} {f : Nat → α → Outcome (β × List γ)} {key : γ → κ}
    {keys : α → List κ} {as : List α}
    (h : ∀ n, ∀ a ∈ as, ∃ b found, f n a = .ok (b, found) ∧ found.map key = keys a) (n : Nat) :
    ∃ bs found, gather f n as = .ok (bs, found) ∧ found.map key = as.flatMap keys := by
  obtain ⟨bs, found, hfound, hkeys⟩ := keys_of_gather h n
  refine ⟨bs, found, hfound, ?_⟩
  rw [hkeys, ← List.flatMap_map, List.zipIdx_map_fst]

/-- Findings with keys that depend on the number of the item alone. -/
theorem keys_of_gather_numbers {κ : Type} {f : Nat → α → Outcome (β × List γ)} {key : γ → κ}
    {keys : Nat → List κ} {as : List α}
    (h : ∀ n, ∀ a ∈ as, ∃ b found, f n a = .ok (b, found) ∧ found.map key = keys n) (n : Nat) :
    ∃ bs found, gather f n as = .ok (bs, found) ∧
      found.map key = (List.range' n as.length).flatMap keys := by
  obtain ⟨bs, found, hfound, hkeys⟩ := keys_of_gather h n
  refine ⟨bs, found, hfound, ?_⟩
  rw [hkeys, ← List.flatMap_map, List.zipIdx_map_snd]

/-- Items that are made from others may be made when their turn comes. -/
theorem gather_of_map {α' : Type} (f : Nat → α' → Outcome (β × List γ)) (g : α → α') (n : Nat)
    (as : List α) : gather f n (as.map g) = gather (fun n a => f n (g a)) n as := by
  induction as generalizing n with
  | nil => rfl
  | cons a as ih => rw [List.map_cons, gather, gather, ih]

/-- What is found is what is found in one of the items. -/
theorem mem_of_gather {f : Nat → α → Outcome (β × List γ)} {n : Nat} {as : List α} {bs : List β}
    {found : List γ} (h : gather f n as = .ok (bs, found)) (c : γ) :
    c ∈ found ↔ ∃ i a r, as[i]? = some a ∧ f (n + i) a = .ok r ∧ c ∈ r.2 := by
  obtain ⟨rs, hrs, heq⟩ := gather_eq_ok_iff.mp h
  obtain ⟨rfl, rfl⟩ := Prod.mk.inj heq
  rw [List.mem_flatMap]
  constructor
  · rintro ⟨r, hr, hc⟩
    obtain ⟨i, hi⟩ := List.mem_iff_getElem?.mp hr
    obtain ⟨a, ha, hok⟩ := hrs.exists_item hi
    exact ⟨i, a, r, ha, hok, hc⟩
  · rintro ⟨i, a, r, ha, hr, hc⟩
    obtain ⟨r', hr', heq⟩ := hrs.exists_of_getElem? ha
    cases hr.symm.trans heq
    exact ⟨r, List.mem_of_getElem? hr', hc⟩

/-- What is found has distinct keys, if it does so in each item and the keys tell the
items apart. -/
theorem nodup_of_gather {κ τ : Type} {f : Nat → α → Outcome (β × List γ)} {n : Nat} {as : List α}
    {bs : List β} {found : List γ} (h : gather f n as = .ok (bs, found)) (key : γ → κ)
    (mark : κ → τ) (marks : Nat → α → τ)
    (hone : ∀ i a r, as[i]? = some a → f (n + i) a = .ok r →
      (r.2.map key).Nodup ∧ ∀ c ∈ r.2, mark (key c) = marks (n + i) a)
    (hinj : ∀ (i j : Nat) a b, as[i]? = some a → as[j]? = some b →
      marks (n + i) a = marks (n + j) b → i = j) :
    (found.map key).Nodup := by
  obtain ⟨rs, hrs, heq⟩ := gather_eq_ok_iff.mp h
  obtain ⟨rfl, rfl⟩ := Prod.mk.inj heq
  rw [List.map_flatMap, List.nodup_flatMap]
  constructor
  · intro r hr
    obtain ⟨i, hi, rfl⟩ := List.mem_iff_getElem.mp hr
    obtain ⟨a, ha, hok⟩ := hrs.exists_item (List.getElem?_eq_getElem hi)
    exact (hone i a _ ha hok).1
  · rw [List.pairwise_iff_getElem]
    intro i j hi hj hij k hki hkj
    obtain ⟨a, ha, hoka⟩ := hrs.exists_item (List.getElem?_eq_getElem hi)
    obtain ⟨b, hb, hokb⟩ := hrs.exists_item (List.getElem?_eq_getElem hj)
    obtain ⟨c, hc, rfl⟩ := List.mem_map.mp hki
    obtain ⟨d, hd, heq⟩ := List.mem_map.mp hkj
    -- Findings of two items with one key would have one mark, which belongs to one item.
    have hmark : marks (n + i) a = marks (n + j) b := by
      rw [← (hone i a _ ha hoka).2 c hc, ← (hone j b _ hb hokb).2 d hd, heq]
    exact absurd (hinj i j a b ha hb hmark) (Nat.ne_of_lt hij)

/-- Findings may be turned into others before they are strung together, or afterwards. -/
theorem gather_map {f : Nat → α → Outcome (β × List γ)} {g : Nat → α → Outcome (β × List δ)}
    {φ : γ → List δ} {as : List α}
    (h : ∀ n, ∀ a ∈ as, g n a = (f n a).map fun r => (r.1, r.2.flatMap φ)) (n : Nat) :
    gather g n as = (gather f n as).map fun r => (r.1, r.2.flatMap φ) := by
  induction as generalizing n with
  | nil => rfl
  | cons a as ih =>
    rw [gather, gather, h n a List.mem_cons_self,
      ih fun n b hb => h n b (List.mem_cons_of_mem _ hb)]
    cases f n a with
    | error e => rfl
    | ok r =>
      cases gather f (n + 1) as with
      | error e => rfl
      | ok r' =>
        show Except.ok (_, _ ++ _) = Except.ok (_, List.flatMap φ (_ ++ _))
        rw [List.flatMap_append]

/-- Where related items have the same result and related findings, so do related lists. -/
theorem gather_forall₂ {α' : Type} {f : Nat → α → Outcome (β × List γ)}
    {g : Nat → α' → Outcome (β × List δ)} {S : α → α' → Prop} {R : γ → δ → Prop}
    {as : List α} {as' : List α'} (hs : List.Forall₂ S as as')
    (h : ∀ n, ∀ a ∈ as, ∀ a', S a a' → ∀ b cs, f n a = .ok (b, cs) →
      ∃ ds, g n a' = .ok (b, ds) ∧ List.Forall₂ R cs ds) {n : Nat} {bs : List β} {cs : List γ}
    (hcs : gather f n as = .ok (bs, cs)) :
    ∃ ds, gather g n as' = .ok (bs, ds) ∧ List.Forall₂ R cs ds := by
  induction hs generalizing n bs cs with
  | nil =>
    cases hcs
    exact ⟨[], rfl, .nil⟩
  | @cons a a' as as' ha _ ih =>
    obtain ⟨⟨b, found⟩, hb, hcs⟩ := Outcome.bind_eq_ok_iff.mp hcs
    obtain ⟨⟨rest, others⟩, hrest, hcs⟩ := Outcome.bind_eq_ok_iff.mp hcs
    cases hcs
    obtain ⟨ds, hds, hfound⟩ := h n a List.mem_cons_self a' ha b found hb
    obtain ⟨es, hes, hothers⟩ := ih (fun n a ha => h n a (List.mem_cons_of_mem _ ha)) hrest
    refine ⟨ds ++ es, ?_, List.rel_append hfound hothers⟩
    rw [gather, hds, hes]
    rfl

end Questionnaire
