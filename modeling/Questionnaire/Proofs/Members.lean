import Mathlib.Data.List.Dedup
import Mathlib.Data.List.Forall2
import Questionnaire.Members

/-!
# Laws of ordered members

`Members.overlay` puts pairs over members one after the other, so of several pairs with one name the
last one counts (`get?_overlay`) and each name remains once (`nodup_names_overlay`).  No pair gets
lost exactly when the names are distinct (`length_ofPairs_eq_iff`), and then pairs are members as
they stand (`ofPairs_of_nodup`).  Members with related values remain so (`Related`).
-/

namespace Questionnaire.Members

variable {α : Type}

/-! ### Looking up -/

theorem get?_cons (m : String × α) (ms : Members α) (name : String) :
    get? (m :: ms) name = if m.1 = name then some m.2 else ms.get? name := by
  unfold get?
  by_cases h : m.1 = name
  · simp [h]
  · simp [h]

theorem get?_append (ms ms' : Members α) (name : String) :
    get? (ms ++ ms') name = (ms.get? name).or (get? ms' name) := by
  induction ms with
  | nil => rfl
  | cons m ms ih =>
    rw [List.cons_append, get?_cons, get?_cons, ih]
    by_cases h : m.1 = name
    · simp [h]
    · simp [h]

theorem names_cons (m : String × α) (ms : Members α) : names (m :: ms) = m.1 :: ms.names := rfl

theorem isSome_get?_iff {ms : Members α} {name : String} :
    (ms.get? name).isSome ↔ name ∈ ms.names := by
  induction ms with
  | nil => simp [get?, names]
  | cons m ms ih =>
    rw [get?_cons]
    by_cases h : m.1 = name
    · simp [h, names]
    · rw [if_neg h, ih]
      simp [names, Ne.symm h]

theorem get?_eq_none_iff {ms : Members α} {name : String} :
    ms.get? name = none ↔ name ∉ ms.names := by
  rw [← isSome_get?_iff, Option.not_isSome_iff_eq_none]

theorem get?_map {β : Type} (g : α → β) (ms : Members α) (name : String) :
    get? (ms.map fun m => (m.1, g m.2)) name = (ms.get? name).map g := by
  induction ms with
  | nil => rfl
  | cons m ms ih =>
    rw [List.map_cons, get?_cons, get?_cons, ih]
    by_cases h : m.1 = name
    · rw [if_pos h, if_pos h, Option.map_some]
    · rw [if_neg h, if_neg h]

theorem names_map {β : Type} (g : α → β) (ms : Members α) :
    names (ms.map fun m => (m.1, g m.2)) = ms.names :=
  List.map_map

/-- The names are the same and what stands under each is related exactly when what each name finds
is related. -/
theorem rel_get?_iff {R : α → α → Prop} {ms ns : Members α} :
    (∀ name, Option.Rel R (ms.get? name) (ns.get? name)) ↔
      (∀ name, name ∈ ms.names ↔ name ∈ ns.names) ∧
        ∀ name a b, ms.get? name = some a → ns.get? name = some b → R a b := by
  rw [← forall_and]
  refine forall_congr' fun name => ?_
  rw [← isSome_get?_iff, ← isSome_get?_iff]
  cases ms.get? name <;> cases ns.get? name <;> simp

/-- Where the names are distinct, every member is found under its name. -/
theorem get?_eq_some_iff_mem {ms : Members α} (hn : ms.names.Nodup) {name : String} {a : α} :
    ms.get? name = some a ↔ (name, a) ∈ ms := by
  induction ms with
  | nil => simp [get?]
  | cons m ms ih =>
    rw [names_cons] at hn
    obtain ⟨hm, hn⟩ := List.nodup_cons.mp hn
    rw [get?_cons, List.mem_cons]
    -- The first member of a name is the only one.
    by_cases h : m.1 = name
    · have hnot : (name, a) ∉ ms := fun hmem => hm (h ▸ List.mem_map.mpr ⟨_, hmem, rfl⟩)
      rw [if_pos h, Option.some.injEq]
      constructor
      · intro ha
        exact Or.inl (Prod.ext h.symm ha.symm)
      · rintro (ha | hmem)
        · rw [← ha]
        · exact absurd hmem hnot
    · have hne : (name, a) ≠ m := by
        rintro rfl
        exact h rfl
      rw [if_neg h, ih hn]
      simp [hne]

/-- Where the names are distinct, the order of the members does not matter. -/
theorem get?_of_perm {ms ns : Members α} (hp : ms.Perm ns) (hn : ms.names.Nodup) (name : String) :
    ms.get? name = ns.get? name := by
  ext a
  rw [get?_eq_some_iff_mem hn, get?_eq_some_iff_mem ((hp.map _).nodup_iff.mp hn), hp.mem_iff]

/-- Where the names are distinct, members are the same up to their order when each name finds the
same. -/
theorem perm_iff_get? {ms ns : Members α} (hm : ms.names.Nodup) (hn : ns.names.Nodup) :
    ms.Perm ns ↔ ∀ name, ms.get? name = ns.get? name := by
  refine ⟨fun h => get?_of_perm h hm, fun h => ?_⟩
  rw [List.perm_ext_iff_of_nodup (List.Nodup.of_map _ hm) (List.Nodup.of_map _ hn)]
  rintro ⟨name, a⟩
  rw [← get?_eq_some_iff_mem hm, ← get?_eq_some_iff_mem hn, h]

/-- Where the names are distinct, a name has one place. -/
theorem eq_of_getElem?_of_nodup {ms : Members α} (hn : ms.names.Nodup) {i j : Nat}
    {m m' : String × α}
    (hm : ms[i]? = some m) (hm' : ms[j]? = some m') (hname : m.1 = m'.1) : i = j := by
  have hi : ms.names[i]? = some m.1 := by rw [names, List.getElem?_map, hm, Option.map_some]
  have hj : ms.names[j]? = some m'.1 := by rw [names, List.getElem?_map, hm', Option.map_some]
  have hbound : i < ms.names.length := (List.getElem?_eq_some_iff.mp hi).1
  exact (List.getElem?_inj hbound hn).mp (hi.trans (hname ▸ hj.symm))

theorem has_iff {ms : Members α} {name : String} : ms.has name = true ↔ name ∈ ms.names := by
  simp [has, names]

theorem get?_filter (ms : Members α) (p : String → Bool) (name : String) :
    get? (ms.filter fun m => p m.1) name = if p name then ms.get? name else none := by
  induction ms with
  | nil => simp [get?]
  | cons m ms ih =>
    rw [List.filter_cons, get?_cons]
    by_cases h : m.1 = name
    · subst h
      by_cases hp : p m.1
      · rw [if_pos hp, get?_cons, if_pos rfl, if_pos hp, if_pos rfl]
      · rw [if_neg hp, ih, if_neg hp, if_neg hp]
    · rw [if_neg h, ← ih]
      by_cases hp : p m.1
      · rw [if_pos hp, get?_cons, if_neg h]
      · rw [if_neg hp]

/-- Members with distinct names are given by their names and what is found under them. -/
theorem ext_of_nodup {ms ns : Members α} (hn : ms.names.Nodup) (hnames : ms.names = ns.names)
    (hget : ∀ name ∈ ms.names, ms.get? name = ns.get? name) : ms = ns := by
  induction ms generalizing ns with
  | nil => exact (List.map_eq_nil_iff.mp hnames.symm).symm
  | cons m ms ih =>
    cases ns with
    | nil => cases hnames
    | cons n ns =>
      -- The heads agree by name and value, and no other member has that name.
      obtain ⟨hname, hnames⟩ : m.1 = n.1 ∧ names ms = names ns := List.cons.inj hnames
      obtain ⟨hm, hn⟩ : m.1 ∉ names ms ∧ (names ms).Nodup := List.nodup_cons.mp hn
      have hhead := hget m.1 List.mem_cons_self
      rw [get?_cons, get?_cons, if_pos rfl, if_pos hname.symm] at hhead
      have htail : ∀ name ∈ names ms, get? ms name = get? ns name := by
        intro name hmem
        have hne : m.1 ≠ name := by
          rintro rfl
          exact hm hmem
        have h := hget name (List.mem_cons_of_mem _ hmem)
        rwa [get?_cons, get?_cons, if_neg hne, if_neg (hname ▸ hne)] at h
      rw [ih hn hnames htail, Prod.ext hname (Option.some.inj hhead)]

/-! ### Putting over -/

theorem overlay_cons (base : Members α) (m : String × α) (top : Members α) :
    base.overlay (m :: top) = (base.put m.1 m.2).overlay top := rfl

/-- Of several pairs with one name the last one counts. -/
theorem get?_overlay (base top : Members α) (name : String) :
    (base.overlay top).get? name = (get? top.reverse name).or (base.get? name) := by
  induction top generalizing base with
  | nil => rfl
  | cons m top ih =>
    rw [overlay_cons, ih, get?_put, List.reverse_cons, get?_append, get?_cons]
    cases get? top.reverse name with
    | some a => rfl
    | none =>
      by_cases h : m.1 = name
      · simp [h]
      · simp [h, get?]

/-- Members with distinct names that are put over others are found first. -/
theorem get?_overlay_of_nodup {top : Members α} (hn : top.names.Nodup) (base : Members α)
    (name : String) : (base.overlay top).get? name = (top.get? name).or (base.get? name) := by
  rw [get?_overlay, get?_of_perm (List.reverse_perm top).symm hn]

/-- In which order two members are put makes no difference to what is found. -/
theorem get?_put_put (ms : Members α) {i j : String} (hij : i ≠ j) (v w : α) (id : String) :
    ((ms.put j w).put i v).get? id = ((ms.put i v).put j w).get? id := by
  simp only [get?_put]
  by_cases hi : i = id
  · rw [if_pos hi, if_neg fun hj => hij (hi.trans hj.symm)]
    exact (if_pos hi).symm
  · rw [if_neg hi, if_neg hi]

theorem mem_names_overlay {base top : Members α} {name : String} :
    name ∈ (base.overlay top).names ↔ name ∈ base.names ∨ name ∈ top.names := by
  rw [← isSome_get?_iff, get?_overlay, Option.isSome_or, Bool.or_eq_true, isSome_get?_iff,
    isSome_get?_iff, or_comm]
  simp [names]

theorem nodup_names_put {ms : Members α} (h : ms.names.Nodup) (name : String) (a : α) :
    (ms.put name a).names.Nodup := by
  rw [names_put]
  split
  · exact h
  · next hm =>
    rw [List.nodup_append]
    refine ⟨h, List.nodup_singleton name, fun x hx y hy => ?_⟩
    obtain rfl := List.mem_singleton.mp hy
    rintro rfl
    exact hm hx

theorem nodup_names_overlay {base : Members α} (h : base.names.Nodup) (top : Members α) :
    (base.overlay top).names.Nodup := by
  induction top generalizing base with
  | nil => exact h
  | cons m top ih => exact ih (nodup_names_put h m.1 m.2)

/-- What is put over members comes after them, as far as it is new. -/
theorem prefix_names_overlay (base top : Members α) : base.names <+: (base.overlay top).names := by
  induction top generalizing base with
  | nil => exact List.prefix_rfl
  | cons m top ih =>
    refine List.IsPrefix.trans ?_ (ih (base.put m.1 m.2))
    rw [names_put]
    split
    · exact List.prefix_rfl
    · exact List.prefix_append _ _

/-- Where nothing that is put over members is new, the names remain. -/
theorem names_overlay_of_subset {base top : Members α} (h : names top ⊆ base.names) :
    (base.overlay top).names = base.names := by
  induction top generalizing base with
  | nil => rfl
  | cons m top ih =>
    obtain ⟨hm, htop⟩ := List.cons_subset.mp h
    have hnames : (base.put m.1 m.2).names = base.names := by rw [names_put, if_pos hm]
    rw [overlay_cons, ih (hnames ▸ htop), hnames]

/-! ### Members from pairs -/

theorem get?_ofPairs (pairs : List (String × α)) (name : String) :
    (ofPairs pairs).get? name = get? pairs.reverse name := by
  unfold ofPairs
  rw [get?_overlay]
  exact Option.or_none

theorem mem_names_ofPairs {pairs : List (String × α)} {name : String} :
    name ∈ (ofPairs pairs).names ↔ name ∈ names pairs := by
  unfold ofPairs
  rw [mem_names_overlay]
  simp [names]

theorem nodup_names_ofPairs (pairs : List (String × α)) : (ofPairs pairs).names.Nodup := by
  have hnil : (names ([] : Members α)).Nodup := List.nodup_nil
  exact nodup_names_overlay hnil pairs

theorem length_ofPairs (pairs : List (String × α)) :
    (ofPairs pairs).length = (names pairs).dedup.length := by
  have hperm : (ofPairs pairs).names.Perm (names pairs).dedup := by
    rw [List.perm_ext_iff_of_nodup (nodup_names_ofPairs pairs) (List.nodup_dedup _)]
    intro name
    rw [mem_names_ofPairs, List.mem_dedup]
  rw [← hperm.length_eq]
  exact (List.length_map _).symm

/-- No pair gets lost exactly when the names are distinct. -/
theorem length_ofPairs_eq_iff {pairs : List (String × α)} :
    (ofPairs pairs).length = pairs.length ↔ (names pairs).Nodup := by
  have hlength : pairs.length = (names pairs).length := (List.length_map _).symm
  rw [length_ofPairs, hlength]
  constructor
  · intro h
    rw [← List.dedup_eq_self]
    exact (List.dedup_sublist _).eq_of_length h
  · intro h
    rw [h.dedup]

theorem put_of_not_mem {ms : Members α} {name : String} (h : name ∉ ms.names) (a : α) :
    ms.put name a = ms ++ [(name, a)] := by
  induction ms with
  | nil => rfl
  | cons m ms ih =>
    rw [names_cons, List.mem_cons, not_or] at h
    rw [put, if_neg (Ne.symm h.1), ih h.2, List.cons_append]

theorem overlay_of_nodup {base top : Members α} (h : (names (base ++ top)).Nodup) :
    base.overlay top = base ++ top := by
  induction top generalizing base with
  | nil => exact (List.append_nil base).symm
  | cons m top ih =>
    have hm : m.1 ∉ base.names := by
      rw [names, List.map_append, List.map_cons] at h
      intro hmem
      exact (List.nodup_append.mp h).2.2 _ hmem _ List.mem_cons_self rfl
    have happend : base ++ m :: top = base ++ [(m.1, m.2)] ++ top := by simp
    rw [overlay_cons, put_of_not_mem hm, ih (happend ▸ h), happend]

theorem mem_of_mem_put {ms : Members α} {name : String} {a : α} {m : String × α}
    (h : m ∈ ms.put name a) : m = (name, a) ∨ m ∈ ms := by
  induction ms with
  | nil => exact Or.inl (List.mem_singleton.mp h)
  | cons n ms ih =>
    rw [put] at h
    by_cases hn : n.1 = name
    · rw [if_pos hn] at h
      rcases List.mem_cons.mp h with h | h
      · exact Or.inl (h.trans (by rw [hn]))
      · exact Or.inr (List.mem_cons_of_mem _ h)
    · rw [if_neg hn] at h
      rcases List.mem_cons.mp h with h | h
      · exact Or.inr (h ▸ List.mem_cons_self)
      · exact (ih h).imp_right (List.mem_cons_of_mem _)

theorem mem_of_mem_overlay {base top : Members α} {m : String × α} (h : m ∈ base.overlay top) :
    m ∈ base ∨ m ∈ top := by
  induction top generalizing base with
  | nil => exact Or.inl h
  | cons n top ih =>
    rcases ih h with h | h
    · rcases mem_of_mem_put h with h | h
      · exact Or.inr (h ▸ List.mem_cons_self)
      · exact Or.inl h
    · exact Or.inr (List.mem_cons_of_mem _ h)

/-- Members from pairs are some of the pairs. -/
theorem mem_of_mem_ofPairs {pairs : List (String × α)} {m : String × α} (h : m ∈ ofPairs pairs) :
    m ∈ pairs :=
  (mem_of_mem_overlay h).resolve_left List.not_mem_nil

/-- Pairs with distinct names are members as they stand. -/
theorem ofPairs_of_nodup {pairs : List (String × α)} (h : (names pairs).Nodup) :
    ofPairs pairs = pairs :=
  @overlay_of_nodup α [] pairs h

/-! ### Members that may be absent -/

/-- The members that are there, among some that may be absent. -/
def present (parts : Members (Option α)) : Members α :=
  parts.filterMap fun p => p.2.map (Prod.mk p.1)

theorem present_append (ps qs : Members (Option α)) :
    present (ps ++ qs) = present ps ++ present qs := List.filterMap_append

theorem names_present_sublist (parts : Members (Option α)) :
    (present parts).names.Sublist parts.names := by
  induction parts with
  | nil => exact List.Sublist.slnil
  | cons p parts ih =>
    obtain ⟨name, o⟩ := p
    cases o with
    | none => exact ih.cons name
    | some a => exact ih.cons_cons name

/-- Of members with distinct names the one that is looked for is found if it is there. -/
theorem get?_present {parts : Members (Option α)} (hn : parts.names.Nodup) (name : String) :
    (present parts).get? name = (parts.get? name).join := by
  induction parts with
  | nil => rfl
  | cons p parts ih =>
    obtain ⟨other, o⟩ := p
    have hother : other ∉ names parts := (List.nodup_cons.mp hn).1
    have ih := ih (List.nodup_cons.mp hn).2
    rw [get?_cons]
    -- A part that is absent leaves no member, and no other part has its name.
    cases o with
    | none =>
      show (present parts).get? name = _
      rw [ih]
      by_cases h : other = name
      · rw [if_pos h, get?_eq_none_iff.mpr (h ▸ hother)]
        rfl
      · rw [if_neg h]
    | some a =>
      show get? ((other, a) :: present parts) name = _
      rw [get?_cons, ih]
      by_cases h : other = name
      · rw [if_pos h, if_pos h]
        rfl
      · rw [if_neg h, if_neg h]

theorem mem_of_mem_present {parts : Members (Option α)} {m : String × α} (h : m ∈ present parts) :
    (m.1, some m.2) ∈ parts := by
  obtain ⟨p, hp, hm⟩ := List.mem_filterMap.mp h
  obtain ⟨a, ha, rfl⟩ := Option.map_eq_some_iff.mp hm
  rwa [← ha]

/-- Where the names are the same and distinct, what is there says what may be there. -/
theorem present_inj {ps qs : Members (Option α)} (hnames : ps.names = qs.names)
    (hn : ps.names.Nodup) (h : present ps = present qs) : ps = qs := by
  refine ext_of_nodup hn hnames fun name hname => ?_
  obtain ⟨a, ha⟩ := Option.isSome_iff_exists.mp (isSome_get?_iff.mpr hname)
  obtain ⟨b, hb⟩ := Option.isSome_iff_exists.mp (isSome_get?_iff.mpr (hnames ▸ hname))
  have hjoin : (ps.get? name).join = (qs.get? name).join := by
    rw [← get?_present hn, ← get?_present (hnames ▸ hn), h]
  rw [ha, hb] at hjoin ⊢
  exact congrArg some hjoin

/-! ### Members with related values -/

/-- The members have the same names in the same order, and their values are related. -/
inductive Related (R : α → α → Prop) : Members α → Members α → Prop
  | nil : Related R [] []
  | cons {name : String} {a b : α} {ms ns : Members α} (hab : R a b) (h : Related R ms ns) :
    Related R ((name, a) :: ms) ((name, b) :: ns)

namespace Related

variable {R : α → α → Prop} {ms ns : Members α} (h : Related R ms ns)
include h

theorem forall₂ : List.Forall₂ (fun m n => n.1 = m.1 ∧ R m.2 n.2) ms ns := by
  induction h with
  | nil => exact .nil
  | cons hab _ ih => exact .cons ⟨rfl, hab⟩ ih

theorem put {a b : α} (hab : R a b) (name : String) :
    Related R (ms.put name a) (ns.put name b) := by
  induction h with
  | nil => exact .cons hab .nil
  | @cons other _ _ ms ns hcd hrest ih =>
    unfold Members.put
    by_cases hname : other = name
    · rw [if_pos hname, if_pos hname]
      exact .cons hab hrest
    · rw [if_neg hname, if_neg hname]
      exact .cons hcd ih

theorem ofPairs : Related R (Members.ofPairs ms) (Members.ofPairs ns) := by
  have hoverlay : ∀ base base', Related R base base' →
      Related R (overlay base ms) (overlay base' ns) := by
    induction h with
    | nil => exact fun _ _ hbase => hbase
    | cons hab _ ih => exact fun _ _ hbase => ih _ _ (hbase.put hab _)
  exact hoverlay [] [] .nil

theorem filter (p : String → Bool) :
    Related R (ms.filter fun m => p m.1) (ns.filter fun n => p n.1) := by
  induction h with
  | nil => exact .nil
  | @cons name _ _ _ _ hab _ ih =>
    rw [List.filter_cons, List.filter_cons]
    cases p name with
    | false => exact ih
    | true => exact .cons hab ih

end Related

end Questionnaire.Members
