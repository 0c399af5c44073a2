import Mathlib.Data.List.Perm.Basic
import Questionnaire.Proofs.Outcome
import Questionnaire.Proofs.Value.Within
import Questionnaire.Visibility.Comparison
import Questionnaire.Visibility.Frozen

/-!
# What the key of an answer keeps

`Frozen.thaw` turns frozen data back into a value, so that `Frozen.normal` is the one value that
stands for all values with the same key: the members of its objects are sorted, and its zeros are
positive.

What can be frozen is plain throughout, and anything else is refused as data of a wrong kind
(`Value.requires_freeze`).

No operator can tell a value from its normal form, with one exception (`holds_normal`): `contains`
and `notContains` look at the JSON text of an object, in which the order of the members and the sign
of zero show.
-/

namespace Questionnaire

/-! ### Thawing -/

namespace Frozen

mutual

/-- Frozen data as a value. -/
def thaw : Frozen → Value
  | .null => .null
  | .bool b => .bool b
  | .int n => .int n
  | .float x => .float x
  | .str s => .str s
  | .list fs => .list (thawItems fs)
  | .dict ms => .dict (thawMembers ms)

/-- Frozen items as values. -/
def thawItems : List Frozen → List Value
  | [] => []
  | f :: fs => f.thaw :: thawItems fs

/-- Frozen members as members. -/
def thawMembers : List (String × Frozen) → List (String × Value)
  | [] => []
  | (name, f) :: ms => (name, f.thaw) :: thawMembers ms

end

/-- The value that stands for all values with the key of some frozen data. -/
def normal (f : Frozen) : Value := f.key.thaw

theorem thawItems_keyList (fs : List Frozen) : thawItems (keyList fs) = fs.map normal := by
  induction fs with
  | nil => rfl
  | cons f fs ih => rw [keyList, thawItems, List.map_cons, ih, normal]

theorem thawMembers_keyMembers (ms : List (String × Frozen)) :
    thawMembers (keyMembers ms) = ms.map fun m => (m.1, m.2.normal) := by
  induction ms with
  | nil => rfl
  | cons m ms ih => rw [keyMembers, thawMembers, List.map_cons, ih, normal]

theorem normal_list (fs : List Frozen) : (Frozen.list fs).normal = .list (fs.map normal) := by
  rw [normal, key, thaw, thawItems_keyList]

theorem normal_dict (ms : List (String × Frozen)) :
    (Frozen.dict ms).normal = .dict (ms.map fun m => (m.1, m.2.normal)) := by
  rw [normal, key, thaw, thawMembers_keyMembers]

theorem sortMembers_perm (ms : List (String × Frozen)) : (sortMembers ms).Perm ms :=
  List.mergeSort_perm ms _

theorem sortMembers_singleton (m : String × Frozen) : sortMembers [m] = [m] :=
  List.mergeSort_singleton m

theorem sortMembers_pair (m n : String × Frozen) :
    sortMembers [m, n] = if m.1 ≤ n.1 then [m, n] else [n, m] := by
  unfold sortMembers
  rw [List.mergeSort]
  simp [List.MergeSort.Internal.splitInTwo, List.merge]

end Frozen

namespace Value

/-! ### Freezing part by part -/

theorem freezeItems_cons_eq_ok_iff {v : Value} {vs : List Value} {fs : List Frozen} :
    freezeItems (v :: vs) = .ok fs ↔
      ∃ f rest, v.freeze = .ok f ∧ freezeItems vs = .ok rest ∧ fs = f :: rest := by
  rw [freezeItems, Outcome.bind_eq_ok_iff]
  simp only [Outcome.bind_eq_ok_iff, Outcome.pure_eq_ok_iff]
  constructor
  · rintro ⟨f, hf, rest, hrest, rfl⟩
    exact ⟨f, rest, hf, hrest, rfl⟩
  · rintro ⟨f, rest, hf, hrest, rfl⟩
    exact ⟨f, hf, rest, hrest, rfl⟩

theorem freezeMembers_cons_eq_ok_iff {m : String × Value} {ms : List (String × Value)}
    {fs : List (String × Frozen)} :
    freezeMembers (m :: ms) = .ok fs ↔
      ∃ f rest, m.2.freeze = .ok f ∧ freezeMembers ms = .ok rest ∧ fs = (m.1, f) :: rest := by
  rw [freezeMembers, Outcome.bind_eq_ok_iff]
  simp only [Outcome.bind_eq_ok_iff, Outcome.pure_eq_ok_iff]
  constructor
  · rintro ⟨f, hf, rest, hrest, rfl⟩
    exact ⟨f, rest, hf, hrest, rfl⟩
  · rintro ⟨f, rest, hf, hrest, rfl⟩
    exact ⟨f, hf, rest, hrest, rfl⟩

theorem freeze_list_eq_ok_iff {vs : List Value} {f : Frozen} :
    (Value.list vs).freeze = .ok f ↔ ∃ fs, freezeItems vs = .ok fs ∧ f = .list fs := by
  rw [freeze, Outcome.bind_eq_ok_iff]
  simp only [Outcome.pure_eq_ok_iff]
  exact exists_congr fun _ => and_congr_right fun _ => eq_comm

theorem freeze_dict_eq_ok_iff {ms : List (String × Value)} {f : Frozen} :
    (Value.dict ms).freeze = .ok f ↔
      ∃ fs, freezeMembers ms = .ok fs ∧ f = .dict (Frozen.sortMembers fs) := by
  rw [freeze, Outcome.bind_eq_ok_iff]
  simp only [Outcome.pure_eq_ok_iff]
  exact exists_congr fun _ => and_congr_right fun _ => eq_comm

/-- Items are frozen one by one. -/
theorem forall₂_freezeItems {vs : List Value} {fs : List Frozen} (h : freezeItems vs = .ok fs) :
    List.Forall₂ (fun v f => v.freeze = .ok f) vs fs := by
  induction vs generalizing fs with
  | nil =>
    cases h
    exact .nil
  | cons v vs ih =>
    obtain ⟨f, rest, hf, hrest, rfl⟩ := freezeItems_cons_eq_ok_iff.mp h
    exact .cons hf (ih hrest)

theorem length_freezeItems {vs : List Value} {fs : List Frozen} (h : freezeItems vs = .ok fs) :
    fs.length = vs.length :=
  (forall₂_freezeItems h).length_eq.symm

theorem length_freezeMembers {ms : List (String × Value)} {fs : List (String × Frozen)}
    (h : freezeMembers ms = .ok fs) : fs.length = ms.length := by
  induction ms generalizing fs with
  | nil =>
    cases h
    rfl
  | cons m ms ih =>
    obtain ⟨f, rest, _, hrest, rfl⟩ := freezeMembers_cons_eq_ok_iff.mp h
    rw [List.length_cons, List.length_cons, ih hrest]

/-! ### What can be frozen -/

mutual

/-- A value can be frozen exactly when it is plain throughout. -/
theorem requires_freeze : ∀ v : Value, v.freeze.Requires v.PlainThroughout
  | .null | .bool _ | .int _ | .float _ | .str _ => .of_ok _ fun _ hw => by cases hw; trivial
  | .list vs => by
    rw [freeze]
    exact ((requires_freezeItems vs).map _).congr plainThroughout_list_iff.symm
  | .dict ms => by
    rw [freeze]
    exact ((requires_freezeMembers ms).map _).congr plainThroughout_dict_iff.symm
  | .missing | .tuple _ | .set _ | .bytes _ | .date _ | .file _ | .record _ _ =>
    .of_misuse rfl fun h => h _ .self

theorem requires_freezeItems : ∀ vs : List Value,
    (freezeItems vs).Requires (∀ v ∈ vs, v.PlainThroughout)
  | [] => .of_ok _ (List.forall_mem_nil _)
  | v :: vs => by
    rw [freezeItems, List.forall_mem_cons]
    exact (requires_freeze v).bind fun f => (requires_freezeItems vs).map (f :: ·)

theorem requires_freezeMembers : ∀ ms : List (String × Value),
    (freezeMembers ms).Requires (∀ m ∈ ms, m.2.PlainThroughout)
  | [] => .of_ok _ (List.forall_mem_nil _)
  | (name, v) :: ms => by
    rw [freezeMembers, List.forall_mem_cons]
    exact (requires_freeze v).bind fun f => (requires_freezeMembers ms).map ((name, f) :: ·)

end

end Value

/-! ### Numbers -/

/-- A finite float is its own normal form, or a zero. -/
theorem Frozen.normal_finite (neg : Bool) (m : Magnitude) :
    (Frozen.float (.finite neg m)).normal = .float (.finite neg m) ∨
      (Frozen.float (.finite neg m)).normal = .float .zero ∧
        (Binary64.finite neg m).point? = Binary64.zero.point? := by
  unfold normal key
  -- Only a zero is changed: it loses its sign.
  by_cases h : m.mant = 0
  · have hunits : m.units = 0 := by
      unfold Magnitude.units
      rw [h, Nat.zero_shiftLeft]
    have hpoint : (Binary64.finite neg m).point? =
        some (.finite (if neg then -(m.units : Int) else m.units)) := rfl
    right
    rw [if_pos h, hpoint, hunits]
    refine ⟨rfl, ?_⟩
    cases neg <;> rfl
  · left
    rw [if_neg h]
    rfl

/-! ### Equality -/

namespace Value

theorem equalScalars_float {x y : Binary64} (h : y.point? = x.point?) (t : Value) :
    equalScalars (.float y) t = equalScalars (.float x) t := by
  cases t <;> simp [equalScalars, scalarPoint?, h]

theorem same_finite (neg : Bool) (m : Magnitude) (t : Value) :
    same (.float (.finite neg m)) t = equalScalars (.float (.finite neg m)) t := by
  cases t <;> simp [same]

theorem same_list (vs : List Value) (t : Value) :
    same (.list vs) t = match t with
      | .list ts => equalLists vs ts
      | _ => false := by
  cases t <;> simp [same, equalScalars, scalarPoint?]

theorem same_dict (ms : List (String × Value)) (t : Value) :
    same (.dict ms) t = match t with
      | .dict ns => ms.length = ns.length && allMembersIn ms ns
      | _ => false := by
  cases t <;> simp [same, equalScalars, scalarPoint?]

theorem equal_list (vs : List Value) (t : Value) : equal (.list vs) t = same (.list vs) t := by
  cases t <;> simp [equal, same]

theorem equal_dict (ms : List (String × Value)) (t : Value) :
    equal (.dict ms) t = same (.dict ms) t := by
  cases t <;> simp [equal, same]

theorem equal_float (x : Binary64) (t : Value) :
    equal (.float x) t = equalScalars (.float x) t := by
  cases t <;> simp [equal]

theorem allMembersIn_eq_all (ms ns : List (String × Value)) :
    allMembersIn ms ns = ms.all fun m => (Members.get? ns m.1).any (same m.2) := by
  induction ms with
  | nil => simp [allMembersIn]
  | cons m ms ih =>
    rw [allMembersIn, List.all_cons, ih]
    cases Members.get? ns m.1 <;> rfl

mutual

/-- A value and its normal form are the same as the same items. -/
theorem same_normal : ∀ (v : Value) {f : Frozen}, v.freeze = .ok f →
    ∀ t, same f.normal t = same v t
  | .null, _, h, t => by cases h; rfl
  | .bool _, _, h, t => by cases h; rfl
  | .int _, _, h, t => by cases h; rfl
  | .str _, _, h, t => by cases h; rfl
  | .float (.infinite _), _, h, t => by cases h; rfl
  | .float (.nan _), _, h, t => by cases h; rfl
  | .float (.finite neg m), _, h, t => by
    cases h
    rcases Frozen.normal_finite neg m with hf | ⟨hf, hpoint⟩
    · rw [hf]
    · rw [hf, Binary64.zero, same_finite, same_finite]
      exact equalScalars_float hpoint.symm t
  | .list vs, _, h, t => by
    obtain ⟨fs, hfs, rfl⟩ := freeze_list_eq_ok_iff.mp h
    rw [Frozen.normal_list, same_list, same_list]
    cases t with
    | list ts => exact equalLists_normal vs hfs ts
    | _ => rfl
  | .dict ms, _, h, t => by
    obtain ⟨fs, hfs, rfl⟩ := freeze_dict_eq_ok_iff.mp h
    rw [Frozen.normal_dict, same_dict, same_dict]
    cases t with
    | dict ns =>
      -- Membership does not depend on the order, which is all that sorting changes.
      show (decide (_ = ns.length) && allMembersIn _ ns) =
        (decide (_ = ns.length) && allMembersIn ms ns)
      have hperm := (Frozen.sortMembers_perm fs).map fun m => (m.1, m.2.normal)
      rw [hperm.length_eq, List.length_map, length_freezeMembers hfs, allMembersIn_eq_all,
        allMembersIn_eq_all, hperm.all_eq, all_normal ms hfs]
    | _ => rfl

/-- Items and their normal forms are the same as the same items, one by one. -/
theorem equalLists_normal : ∀ (vs : List Value) {fs : List Frozen}, freezeItems vs = .ok fs →
    ∀ ts, equalLists (fs.map Frozen.normal) ts = equalLists vs ts
  | [], _, h, ts => by cases h; rfl
  | v :: vs, _, h, ts => by
    obtain ⟨f, rest, hf, hrest, rfl⟩ := freezeItems_cons_eq_ok_iff.mp h
    cases ts with
    | nil => simp [equalLists]
    | cons t ts =>
      rw [List.map_cons, equalLists, equalLists, same_normal v hf, equalLists_normal vs hrest]

/-- Members and their normal forms occur in the same objects. -/
theorem all_normal : ∀ (ms : List (String × Value)) {fs : List (String × Frozen)},
    freezeMembers ms = .ok fs → ∀ ns : List (String × Value),
    ((fs.map fun m => (m.1, m.2.normal)).all fun m => (Members.get? ns m.1).any (same m.2)) =
      ms.all fun m => (Members.get? ns m.1).any (same m.2)
  | [], _, h, ns => by cases h; rfl
  | m :: ms, _, h, ns => by
    obtain ⟨f, rest, hf, hrest, rfl⟩ := freezeMembers_cons_eq_ok_iff.mp h
    rw [List.map_cons, List.all_cons, List.all_cons, all_normal ms hrest,
      funext (same_normal m.2 hf)]

end

/-- A normal form is equal to what the value itself is equal to. -/
theorem equal_normal {v : Value} {f : Frozen} (h : v.freeze = .ok f) (t : Value) :
    equal f.normal t = equal v t := by
  cases v with
  | null | bool | int | str => cases h; rfl
  | float x =>
    cases h
    cases x with
    | infinite | nan => rfl
    | finite neg m =>
      rcases Frozen.normal_finite neg m with hf | ⟨hf, hpoint⟩
      · rw [hf]
      · rw [hf, equal_float, equal_float]
        exact equalScalars_float hpoint.symm t
  | list vs =>
    have hsame := same_normal (.list vs) h t
    obtain ⟨fs, _, rfl⟩ := freeze_list_eq_ok_iff.mp h
    rw [Frozen.normal_list] at hsame ⊢
    rw [equal_list, equal_list, hsame]
  | dict ms =>
    have hsame := same_normal (.dict ms) h t
    obtain ⟨fs, _, rfl⟩ := freeze_dict_eq_ok_iff.mp h
    rw [Frozen.normal_dict] at hsame ⊢
    rw [equal_dict, equal_dict, hsame]
  | missing | tuple | set | bytes | date | file | record => cases h

/-- A normal form is a truth value exactly where the value is. -/
theorem isTruth_normal {v : Value} {f : Frozen} (h : v.freeze = .ok f) :
    f.normal.isTruth = v.isTruth := by
  cases v with
  | null | bool | int | str => cases h; rfl
  | float x =>
    cases h
    cases x <;> rfl
  | list vs =>
    obtain ⟨fs, _, rfl⟩ := freeze_list_eq_ok_iff.mp h
    rfl
  | dict ms =>
    obtain ⟨fs, _, rfl⟩ := freeze_dict_eq_ok_iff.mp h
    rfl
  | missing | tuple | set | bytes | date | file | record => cases h

end Value

/-! ### Operators -/

namespace Operator

open Value

/-- Whether an operator looks for a part of a text. -/
def looksInText : Operator → Bool
  | .contains | .notContains => true
  | _ => false

theorem equalTo_normal {v : Value} {f : Frozen} (h : v.freeze = .ok f) (t : Value) :
    equalTo f.normal t = equalTo v t := by
  unfold equalTo
  rw [equal_normal h, isTruth_normal h]

theorem any_equalTo_normal {vs : List Value} {fs : List Frozen} (h : freezeItems vs = .ok fs)
    (t : Value) :
    ((fs.map Frozen.normal).any fun v => equalTo v t) = vs.any fun v => equalTo v t := by
  induction vs generalizing fs with
  | nil =>
    cases h
    rfl
  | cons v vs ih =>
    obtain ⟨f, rest, hf, hrest, rfl⟩ := freezeItems_cons_eq_ok_iff.mp h
    rw [List.map_cons, List.any_cons, List.any_cons, equalTo_normal hf, ih hrest]

theorem asText_float {x y : Binary64} (hx : x.point? = y.point?) (hy : y.toInt?.isSome) :
    (Value.float x).asText = (Value.float y).asText := by
  have hint : x.toInt? = y.toInt? := by
    unfold Binary64.toInt?
    rw [hx]
  obtain ⟨n, hn⟩ := Option.isSome_iff_exists.mp hy
  have htext (z : Binary64) (hz : z.toInt? = some n) : (Value.float z).asText = showInt n := by
    unfold asText
    simp only [hz]
  rw [htext x (hint.trans hn), htext y hn]

/-- Whether a value contains another is told by its normal form, unless it is an object. -/
theorem containedIn_normal {v : Value} {f : Frozen} (h : v.freeze = .ok f)
    (hd : ∀ ms, v ≠ .dict ms) (t : Value) : containedIn f.normal t = containedIn v t := by
  cases v with
  | null | bool | int | str => cases h; rfl
  | float x =>
    cases h
    cases x with
    | infinite | nan => rfl
    | finite neg m =>
      rcases Frozen.normal_finite neg m with hf | ⟨hf, hpoint⟩
      · rw [hf]
      · -- Zero is written without a sign when it is read as a text by itself.
        rw [hf]
        show Text.hasPart t.asText.toList (Value.float .zero).asText.toList =
          Text.hasPart t.asText.toList (Value.float (.finite neg m)).asText.toList
        rw [asText_float hpoint (by decide)]
  | list vs =>
    obtain ⟨fs, hfs, rfl⟩ := freeze_list_eq_ok_iff.mp h
    rw [Frozen.normal_list]
    exact any_equalTo_normal hfs t
  | dict ms => exact absurd rfl (hd ms)
  | missing | tuple | set | bytes | date | file | record => cases h

/-- A normal form is empty exactly where the value is. -/
theorem isEmptyAnswer_normal {v : Value} {f : Frozen} (h : v.freeze = .ok f) :
    isEmptyAnswer f.normal = isEmptyAnswer v := by
  cases v with
  | null | bool | int | str => cases h; rfl
  | float x =>
    cases h
    cases x <;> rfl
  | list vs =>
    obtain ⟨fs, hfs, rfl⟩ := freeze_list_eq_ok_iff.mp h
    rw [Frozen.normal_list]
    have hlength := length_freezeItems hfs
    show (fs.map Frozen.normal).isEmpty = vs.isEmpty
    cases vs <;> cases fs <;> simp_all
  | dict ms =>
    obtain ⟨fs, _, rfl⟩ := freeze_dict_eq_ok_iff.mp h
    rfl
  | missing | tuple | set | bytes | date | file | record => cases h

/-- A value and its normal form are no floats for the same reason, or floats at one place. -/
theorem asFloat_normal {v : Value} {f : Frozen} (h : v.freeze = .ok f) :
    f.normal.asFloat = v.asFloat ∨
      ∃ x y, f.normal.asFloat = .ok x ∧ v.asFloat = .ok y ∧ x.point? = y.point? := by
  cases v with
  | null | bool | int | str => cases h; exact Or.inl rfl
  | float x =>
    cases h
    cases x with
    | infinite | nan => exact Or.inl rfl
    | finite neg m =>
      rcases Frozen.normal_finite neg m with hf | ⟨hf, hpoint⟩
      · rw [hf]
        exact Or.inl rfl
      · rw [hf]
        exact Or.inr ⟨_, _, rfl, rfl, hpoint.symm⟩
  | list vs =>
    obtain ⟨fs, _, rfl⟩ := freeze_list_eq_ok_iff.mp h
    exact Or.inl rfl
  | dict ms =>
    obtain ⟨fs, _, rfl⟩ := freeze_dict_eq_ok_iff.mp h
    exact Or.inl rfl
  | missing | tuple | set | bytes | date | file | record => cases h

/-- No operator tells a value from its normal form, but for those that look at the text of an
object. -/
theorem holds_normal (o : Operator) {v : Value} {f : Frozen} (h : v.freeze = .ok f)
    (hd : o.looksInText → ∀ ms, v ≠ .dict ms) (t : Value) : o.holds f.normal t = o.holds v t := by
  -- Both orders see a float only by its place on the line, which its normal form keeps.
  have horder (p : Binary64 → Binary64 → Bool)
      (hp : ∀ {x x' y : Binary64}, x.point? = x'.point? → p x y = p x' y) :
      (do let x ← f.normal.asFloat
          let y ← t.asFloat
          pure (p x y) : Outcome Bool) =
        (do let x ← v.asFloat
            let y ← t.asFloat
            pure (p x y)) := by
    rcases asFloat_normal h with hf | ⟨x, y, hx, hy, hpoint⟩
    · rw [hf]
    · rw [hx, hy]
      show (do let z ← t.asFloat; pure (p x z) : Outcome Bool) =
        (do let z ← t.asFloat; pure (p y z))
      simp only [hp hpoint]
  cases o with
  | equals => exact congrArg Except.ok (equalTo_normal h t)
  | notEquals => exact congrArg (fun b => Except.ok !b) (equalTo_normal h t)
  | contains => exact congrArg Except.ok (containedIn_normal h (hd rfl) t)
  | notContains => exact congrArg (fun b => Except.ok !b) (containedIn_normal h (hd rfl) t)
  | greaterThan =>
    refine horder (fun x y => y.lt x) fun hpoint => ?_
    unfold Binary64.lt
    rw [hpoint]
  | lessThan =>
    refine horder (fun x y => x.lt y) fun hpoint => ?_
    unfold Binary64.lt
    rw [hpoint]
  | isEmpty => exact congrArg Except.ok (isEmptyAnswer_normal h)
  | isNotEmpty => exact congrArg (fun b => Except.ok !b) (isEmptyAnswer_normal h)

end Operator
end Questionnaire
