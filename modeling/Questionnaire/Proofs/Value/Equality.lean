import Questionnaire.Proofs.Number.Points
import Questionnaire.Proofs.Value.Json
import Questionnaire.Proofs.Visibility.Key

/-!
# Equality of JSON data

`EqualBy leaf` is equality of structure: arrays item by item, objects by their names, and whatever the
relation `leaf` says of anything else.  Two such equalities matter.  `StrictlyEqual` tells truth values
from numbers, `LooselyEqual` counts them as zero and one.

Items of containers are compared loosely (`same_iff_looselyEqual`).  What is loosely equal is strictly
equal unless a truth value faces a number somewhere in it (`strictlyEqual_iff`).
-/

namespace Questionnaire.Value

variable {a b x y : Value} {xs ys : List Value} {ms ns : Members Value}

/-! ### Equality of structure -/

/-- Two values have the same structure, and their leaves are related. -/
inductive EqualBy (leaf : Value → Value → Prop) : Value → Value → Prop
  | leaf {a b : Value} (h : leaf a b) : EqualBy leaf a b
  | list {xs ys : List Value} (length : xs.length = ys.length)
      (h : ∀ p ∈ xs.zip ys, EqualBy leaf p.1 p.2) : EqualBy leaf (.list xs) (.list ys)
  | dict {ms ns : Members Value} (names : ∀ name, name ∈ ms.names ↔ name ∈ ns.names)
      (h : ∀ name x y, ms.get? name = some x → ns.get? name = some y → EqualBy leaf x y) :
      EqualBy leaf (.dict ms) (.dict ns)

/-- The two values are the same leaf, a number being told by its exact value. -/
inductive SameLeaf : Value → Value → Prop
  | null : SameLeaf .null .null
  | bool (b : Bool) : SameLeaf (.bool b) (.bool b)
  | number {a b : Value} {m n : Number} (ha : a.number? = some m) (hb : b.number? = some n)
      (h : m.eq n = true) : SameLeaf a b
  | str (s : String) : SameLeaf (.str s) (.str s)

/-- The value, with a truth value counted as zero or one. -/
def counted : Value → Value
  | .bool b => .int (if b then 1 else 0)
  | v => v

/-- Equality of structure and of leaves, where a truth value is no number. -/
def StrictlyEqual (a b : Value) : Prop := EqualBy SameLeaf a b

/-- Equality of structure and of leaves, where a truth value counts as zero or one. -/
def LooselyEqual (a b : Value) : Prop := EqualBy (fun a b => SameLeaf a.counted b.counted) a b

/-- The values `x` and `y` stand at the same place of two values. -/
inductive Facing (x y : Value) : Value → Value → Prop
  | here : Facing x y x y
  | item {xs ys : List Value} {p : Value × Value} (hp : p ∈ xs.zip ys) (h : Facing x y p.1 p.2) :
      Facing x y (.list xs) (.list ys)
  | member {ms ns : Members Value} {name : String} {v w : Value} (hv : ms.get? name = some v)
      (hw : ns.get? name = some w) (h : Facing x y v w) : Facing x y (.dict ms) (.dict ns)

/-- Truth values face truth values only. -/
def KindsAgree (a b : Value) : Prop := ∀ x y, Facing x y a b → x.isTruth = y.isTruth

/-! ### Equality by structure -/

section EqualBy

variable {leaf : Value → Value → Prop}

theorem equalBy_list_iff (hleaf : ∀ b, ¬leaf (.list xs) b) : EqualBy leaf (.list xs) b ↔
    ∃ ys, b = .list ys ∧ xs.length = ys.length ∧ ∀ p ∈ xs.zip ys, EqualBy leaf p.1 p.2 := by
  constructor
  · rintro (h | ⟨length, h⟩ | _)
    · exact absurd h (hleaf _)
    · exact ⟨_, rfl, length, h⟩
  · rintro ⟨ys, rfl, length, h⟩
    exact .list length h

theorem equalBy_dict_iff (hleaf : ∀ b, ¬leaf (.dict ms) b) : EqualBy leaf (.dict ms) b ↔
    ∃ ns : Members Value, b = .dict ns ∧ (∀ name, name ∈ ms.names ↔ name ∈ ns.names) ∧
      ∀ name x y, ms.get? name = some x → ns.get? name = some y → EqualBy leaf x y := by
  constructor
  · rintro (h | _ | ⟨names, h⟩)
    · exact absurd h (hleaf _)
    · exact ⟨_, rfl, names, h⟩
  · rintro ⟨ns, rfl, names, h⟩
    exact .dict names h

theorem equalBy_iff_leaf (hlist : ∀ xs, a ≠ .list xs) (hdict : ∀ ms, a ≠ .dict ms) :
    EqualBy leaf a b ↔ leaf a b := by
  constructor
  · rintro (h | _ | _)
    · exact h
    · exact absurd rfl (hlist _)
    · exact absurd rfl (hdict _)
  · exact fun h => .leaf h

end EqualBy

/-! ### Leaves -/

theorem isTruth_of_number? {n : Number} (h : a.number? = some n) : a.isTruth = false := by
  cases a with
  | bool => cases h
  | _ => rfl

theorem counted_of_not_isTruth (h : a.isTruth = false) : a.counted = a := by
  cases a with
  | bool => cases h
  | _ => rfl

theorem isTruth_eq_true_iff : a.isTruth = true ↔ ∃ t, a = .bool t := by
  cases a <;> simp [isTruth]

theorem sameLeaf_iff : SameLeaf a b ↔
    (a = .null ∧ b = .null) ∨ (∃ t, a = .bool t ∧ b = .bool t) ∨ (∃ s, a = .str s ∧ b = .str s) ∨
      ∃ m n, a.number? = some m ∧ b.number? = some n ∧ m.eq n = true := by
  constructor
  · rintro (_ | t | ⟨hm, hn, h⟩ | s)
    · exact .inl ⟨rfl, rfl⟩
    · exact .inr (.inl ⟨t, rfl, rfl⟩)
    · exact .inr (.inr (.inr ⟨_, _, hm, hn, h⟩))
    · exact .inr (.inr (.inl ⟨s, rfl, rfl⟩))
  · rintro (⟨rfl, rfl⟩ | ⟨t, rfl, rfl⟩ | ⟨s, rfl, rfl⟩ | ⟨m, n, hm, hn, h⟩)
    · exact .null
    · exact .bool t
    · exact .str s
    · exact .number hm hn h

theorem not_sameLeaf_list : ¬SameLeaf (.list xs) b := by
  rintro (_ | _ | ⟨ha, _, _⟩ | _)
  cases ha

theorem not_sameLeaf_dict : ¬SameLeaf (.dict ms) b := by
  rintro (_ | _ | ⟨ha, _, _⟩ | _)
  cases ha

namespace SameLeaf

/-- Nothing stands inside of a leaf. -/
theorem eq_of_facing (h : SameLeaf a b) (hxy : Facing x y a b) : x = a ∧ y = b := by
  cases hxy with
  | here => exact ⟨rfl, rfl⟩
  | item => exact absurd h not_sameLeaf_list
  | member => exact absurd h not_sameLeaf_dict

theorem isTruth_eq (h : SameLeaf a b) : a.isTruth = b.isTruth := by
  cases h with
  | null | bool | str => rfl
  | number ha hb => rw [isTruth_of_number? ha, isTruth_of_number? hb]

theorem counted (h : SameLeaf a b) : SameLeaf a.counted b.counted := by
  cases h with
  | null => exact .null
  | bool b => exact .number rfl rfl (Number.int_eq_int_iff.mpr rfl)
  | str s => exact .str s
  | number ha hb h =>
    rw [counted_of_not_isTruth (isTruth_of_number? ha),
      counted_of_not_isTruth (isTruth_of_number? hb)]
    exact .number ha hb h

/-- Leaves of one kind are the same if they count as the same. -/
theorem of_counted (h : SameLeaf a.counted b.counted) (hkind : a.isTruth = b.isTruth) :
    SameLeaf a b := by
  cases ha : a.isTruth with
  | false => rwa [counted_of_not_isTruth ha, counted_of_not_isTruth (hkind ▸ ha)] at h
  | true =>
    obtain ⟨s, rfl⟩ := isTruth_eq_true_iff.mp ha
    obtain ⟨t, rfl⟩ := isTruth_eq_true_iff.mp (hkind ▸ ha)
    obtain _ | _ | ⟨hm, hn, heq⟩ | _ := h
    cases hm
    cases hn
    have hst := Number.int_eq_int_iff.mp heq
    obtain rfl : s = t := by cases s <;> cases t <;> trivial
    exact .bool s

end SameLeaf

/-! ### Strict and loose equality -/

/-- What is loosely equal is strictly equal unless a truth value faces something else. -/
theorem strictlyEqual_iff : StrictlyEqual a b ↔ LooselyEqual a b ∧ KindsAgree a b := by
  constructor
  · intro h
    induction h with
    | leaf h =>
      -- The two leaves face each other and nothing else does.
      refine ⟨.leaf h.counted, fun x y hxy => ?_⟩
      obtain ⟨rfl, rfl⟩ := h.eq_of_facing hxy
      exact h.isTruth_eq
    | list length _ ih =>
      refine ⟨.list length fun p hp => (ih p hp).1, fun x y hxy => ?_⟩
      cases hxy with
      | here => rfl
      | item hp hxy => exact (ih _ hp).2 x y hxy
    | dict names _ ih =>
      refine ⟨.dict names fun name x y hx hy => (ih name x y hx hy).1, fun x y hxy => ?_⟩
      cases hxy with
      | here => rfl
      | member hv hw hxy => exact (ih _ _ _ hv hw).2 x y hxy
  · rintro ⟨h, hkinds⟩
    induction h with
    | leaf h => exact .leaf (h.of_counted (hkinds _ _ .here))
    | list length _ ih =>
      exact .list length fun p hp => ih p hp fun x y hxy => hkinds x y (.item hp hxy)
    | dict names _ ih =>
      exact .dict names fun name v w hv hw =>
        ih name v w hv hw fun x y hxy => hkinds x y (.member hv hw hxy)

/-! ### Loose equality by structure -/

theorem looselyEqual_list_iff : LooselyEqual (.list xs) b ↔
    ∃ ys, b = .list ys ∧ xs.length = ys.length ∧ ∀ p ∈ xs.zip ys, LooselyEqual p.1 p.2 :=
  equalBy_list_iff fun _ => not_sameLeaf_list

theorem looselyEqual_dict_iff : LooselyEqual (.dict ms) b ↔
    ∃ ns : Members Value, b = .dict ns ∧ (∀ name, name ∈ ms.names ↔ name ∈ ns.names) ∧
      ∀ name x y, ms.get? name = some x → ns.get? name = some y → LooselyEqual x y :=
  equalBy_dict_iff fun _ => not_sameLeaf_dict

theorem looselyEqual_iff_sameLeaf (hlist : ∀ xs, a ≠ .list xs) (hdict : ∀ ms, a ≠ .dict ms) :
    LooselyEqual a b ↔ SameLeaf a.counted b.counted :=
  equalBy_iff_leaf hlist hdict

/-! ### The equality of items -/

theorem equalLists_iff : equalLists xs ys = true ↔
    xs.length = ys.length ∧ ∀ p ∈ xs.zip ys, same p.1 p.2 = true := by
  induction xs generalizing ys with
  | nil => cases ys <;> simp [equalLists]
  | cons x xs ih =>
    cases ys with
    | nil => simp [equalLists]
    | cons y ys => simp [equalLists, ih, and_left_comm]

/-- Objects whose names are distinct have the same names if one has as many members as the other and
all of its names. -/
theorem names_iff_of_length (hm : ms.names.Nodup) (hlength : ms.length = ns.length)
    (hsub : ms.names ⊆ ns.names) (name : String) : name ∈ ms.names ↔ name ∈ ns.names := by
  have hlength : ns.names.length ≤ ms.names.length := by
    simp only [Members.names, List.length_map, hlength, le_refl]
  exact ((List.subperm_of_subset hm hsub).perm_of_length_le hlength).mem_iff

theorem length_eq_of_names (hm : ms.names.Nodup) (hn : ns.names.Nodup)
    (h : ∀ name, name ∈ ms.names ↔ name ∈ ns.names) : ms.length = ns.length := by
  have hperm := ((List.perm_ext_iff_of_nodup hm hn).mpr h).length_eq
  simpa only [Members.names, List.length_map] using hperm

/-- All members are among the others when each name is and its values are the same. -/
theorem allMembersIn_iff (hm : ms.names.Nodup) : allMembersIn ms ns = true ↔
    ms.names ⊆ ns.names ∧
      ∀ name x y, ms.get? name = some x → ns.get? name = some y → same x y = true := by
  rw [allMembersIn_eq_all, List.all_eq_true]
  constructor
  · intro h
    constructor
    · intro name hname
      obtain ⟨m, hmem, rfl⟩ := List.mem_map.mp hname
      have hany := h m hmem
      rw [← Members.isSome_get?_iff]
      cases hget : Members.get? ns m.1 with
      | none =>
        rw [hget] at hany
        cases hany
      | some y => rfl
    · intro name x y hx hy
      have := h (name, x) ((Members.get?_eq_some_iff_mem hm).mp hx)
      rwa [hy, Option.any_some] at this
  · rintro ⟨hsub, h⟩ ⟨name, x⟩ hmem
    obtain ⟨y, hy⟩ := Option.isSome_iff_exists.mp
      (Members.isSome_get?_iff.mpr (hsub (List.mem_map_of_mem hmem)))
    rw [hy, Option.any_some]
    exact h name x y ((Members.get?_eq_some_iff_mem hm).mpr hmem) hy

theorem equalScalars_iff {N : Number → Prop} (ha : a.IsJson N) (hb : b.IsJson N) :
    equalScalars a b = true ↔ SameLeaf a.counted b.counted := by
  rw [sameLeaf_iff]
  cases ha <;> cases hb <;> simp [equalScalars, scalarPoint?, Value.counted, number?, Number.eq,
    Number.point?]
  exact eq_comm

/-- Without items or members, and with a number for every float, there is one equality. -/
theorem same_eq_equalScalars (ha : a.IsJson Number.Finite) (hlist : ∀ xs, a ≠ .list xs)
    (hdict : ∀ ms, a ≠ .dict ms) : same a b = equalScalars a b := by
  cases ha with
  | null | bool | int | str => cases b <;> simp [same]
  | @float z hz =>
    cases z with
    | nan => exact absurd (Number.finite_float.mp hz) Bool.false_ne_true
    | finite | infinite => cases b <;> simp [same]
  | @list xs => exact absurd rfl (hlist xs)
  | @dict ms => exact absurd rfl (hdict ms)

theorem same_iff_of_leaf (ha : a.IsJson Number.Finite) (hb : b.IsJson Number.Finite)
    (hlist : ∀ xs, a ≠ .list xs) (hdict : ∀ ms, a ≠ .dict ms) :
    same a b = true ↔ LooselyEqual a b := by
  rw [same_eq_equalScalars ha hlist hdict, equalScalars_iff ha hb,
    looselyEqual_iff_sameLeaf hlist hdict]

/-- Items of containers are compared loosely. -/
theorem same_iff_looselyEqual (ha : a.IsJson Number.Finite) (hb : b.IsJson Number.Finite) :
    same a b = true ↔ LooselyEqual a b := by
  induction ha generalizing b with
  | @list xs hxs ih =>
    rw [same_list, looselyEqual_list_iff]
    cases hb with
    | @list ys hys =>
      simp only [equalLists_iff, Value.list.injEq, exists_eq_left']
      refine and_congr_right fun _ => forall₂_congr fun p hp => ?_
      exact ih p.1 (List.of_mem_zip hp).1 (hys p.2 (List.of_mem_zip hp).2)
    | _ => simp
  | @dict ms nodup hms ih =>
    rw [same_dict, looselyEqual_dict_iff]
    cases hb with
    | @dict ns nodup' hns =>
      have hmembers : (∀ name x y, Members.get? ms name = some x → Members.get? ns name = some y →
          same x y = true) ↔ ∀ name x y, Members.get? ms name = some x →
          Members.get? ns name = some y → LooselyEqual x y := by
        refine forall₃_congr fun name x y => forall₂_congr fun hx hy => ?_
        exact ih (name, x) ((Members.get?_eq_some_iff_mem nodup).mp hx)
          (hns (name, y) ((Members.get?_eq_some_iff_mem nodup').mp hy))
      simp only [Bool.and_eq_true, decide_eq_true_eq, allMembersIn_iff nodup, hmembers,
        Value.dict.injEq, exists_eq_left']
      constructor
      · rintro ⟨hlength, hsub, h⟩
        exact ⟨names_iff_of_length nodup hlength hsub, h⟩
      · rintro ⟨hnames, h⟩
        exact ⟨length_eq_of_names nodup nodup' hnames, fun name hname => (hnames name).mp hname, h⟩
    | _ => simp
  -- There is no recursion into anything else.
  | null => exact same_iff_of_leaf .null hb (by simp) (by simp)
  | bool t => exact same_iff_of_leaf (.bool t) hb (by simp) (by simp)
  | int h => exact same_iff_of_leaf (.int h) hb (by simp) (by simp)
  | float h => exact same_iff_of_leaf (.float h) hb (by simp) (by simp)
  | str s => exact same_iff_of_leaf (.str s) hb (by simp) (by simp)

/-- Outside of containers there is one equality of JSON data too. -/
theorem equal_eq_same (ha : a.IsJson Number.Finite) : equal a b = same a b := by
  cases ha with
  | list => exact equal_list _ b
  | dict => exact equal_dict _ b
  | null | bool | int | str => cases b <;> simp [equal, same]
  | @float z hz =>
    cases z with
    | nan => exact absurd (Number.finite_float.mp hz) Bool.false_ne_true
    | finite | infinite => cases b <;> simp [equal, same]

end Questionnaire.Value
