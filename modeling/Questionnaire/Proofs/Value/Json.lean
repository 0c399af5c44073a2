import Questionnaire.Form.Export
import Questionnaire.Proofs.Members

/-!
# JSON data

Of all values, JSON has `null`, truth values, numbers, texts, arrays, and objects whose names are
distinct.  `Value.IsJson` says that a value is such data, with a property that all of its numbers
have.

`Value.portable` keeps of JSON data everything but the infinities and what is not a number, for which
it has `null` (`Value.IsJson.portable_eq_self_iff`).
-/

namespace Questionnaire

/-! ### Numbers -/

namespace Number

/-- Any number at all. -/
def Any (_ : Number) : Prop := True

/-- Whole, or a float with a finite value. -/
def Finite (n : Number) : Prop := ∀ x, n = .float x → x.isFinite = true

theorem finite_int (n : Int) : (Number.int n).Finite := by
  intro x h
  cases h

theorem finite_float {x : Binary64} : (Number.float x).Finite ↔ x.isFinite = true := by
  simp [Finite]

end Number

namespace Value

/-- Data that a JSON text can hold, whose numbers have a property. -/
inductive IsJson (N : Number → Prop) : Value → Prop
  | null : IsJson N .null
  | bool (b : Bool) : IsJson N (.bool b)
  | int {n : Int} (h : N (.int n)) : IsJson N (.int n)
  | float {x : Binary64} (h : N (.float x)) : IsJson N (.float x)
  | str (s : String) : IsJson N (.str s)
  | list {vs : List Value} (h : ∀ v ∈ vs, IsJson N v) : IsJson N (.list vs)
  | dict {ms : Members Value} (nodup : ms.names.Nodup) (h : ∀ m ∈ ms, IsJson N m.2) :
      IsJson N (.dict ms)

namespace IsJson

variable {N : Number → Prop} {v : Value}

/-! ### Building and taking apart -/

theorem number {n : Number} (h : N n) : n.toValue.IsJson N := by
  cases n with
  | int n => exact .int h
  | float x => exact .float h

theorem texts (ss : List String) : (Value.texts ss).IsJson N := by
  refine .list fun v hv => ?_
  obtain ⟨s, _, rfl⟩ := List.mem_map.mp hv
  exact .str s

theorem member {ms : Members Value} (h : (Value.dict ms).IsJson N) : ∀ m ∈ ms, m.2.IsJson N := by
  cases h with
  | dict _ h => exact h

theorem names_nodup {ms : Members Value} (h : (Value.dict ms).IsJson N) : ms.names.Nodup := by
  cases h with
  | dict nodup _ => exact nodup

theorem get? {ms : Members Value} (h : (Value.dict ms).IsJson N) {name : String}
    (hv : ms.get? name = some v) : v.IsJson N :=
  h.member _ ((Members.get?_eq_some_iff_mem h.names_nodup).mp hv)

theorem overlay {base top : Members Value} (hbase : (Value.dict base).IsJson N)
    (htop : ∀ m ∈ top, m.2.IsJson N) : (Value.dict (Members.overlay base top)).IsJson N := by
  refine .dict (Members.nodup_names_overlay hbase.names_nodup top) fun m hm => ?_
  rcases Members.mem_of_mem_overlay hm with hm | hm
  · exact hbase.member m hm
  · exact htop m hm

theorem put {ms : Members Value} (h : (Value.dict ms).IsJson N) (name : String)
    (hv : v.IsJson N) : (Value.dict (Members.put name v ms)).IsJson N :=
  @overlay N ms [(name, v)] h fun m hm => by rwa [List.mem_singleton.mp hm]

theorem mono {M : Number → Prop} (h : v.IsJson N) (hM : ∀ n, N n → M n) : v.IsJson M := by
  induction h with
  | null => exact .null
  | bool b => exact .bool b
  | int h => exact .int (hM _ h)
  | float h => exact .float (hM _ h)
  | str s => exact .str s
  | list _ ih => exact .list ih
  | dict nodup _ ih => exact .dict nodup ih

end IsJson

/-! ### Portable data -/

theorem portableItems_eq (vs : List Value) : portableItems vs = vs.map portable := by
  induction vs with
  | nil => rfl
  | cons v vs ih => rw [portableItems, ih, List.map_cons]

theorem portableMembers_eq (ms : List (String × Value)) :
    portableMembers ms = ms.map fun m => (m.1, m.2.portable) := by
  induction ms with
  | nil => rfl
  | cons m ms ih => rw [portableMembers, ih, List.map_cons]

theorem portable_float (x : Binary64) :
    (Value.float x).portable = if x.isFinite then .float x else .null := rfl

theorem portable_list (vs : List Value) : (Value.list vs).portable = .list (vs.map portable) :=
  congrArg Value.list (portableItems_eq vs)

theorem portable_dict (ms : Members Value) :
    (Value.dict ms).portable = .dict (ms.map fun m => (m.1, m.2.portable)) :=
  congrArg Value.dict (portableMembers_eq ms)

namespace IsJson

variable {N : Number → Prop} {v : Value}

/-- Portable data has finite numbers only. -/
theorem portable (h : v.IsJson N) : v.portable.IsJson fun n => N n ∧ n.Finite := by
  induction h with
  | null => exact .null
  | bool b => exact .bool b
  | int h => exact .int ⟨h, Number.finite_int _⟩
  -- Only a float can change, and what is not finite becomes null.
  | @float x h =>
    rw [portable_float]
    by_cases hx : x.isFinite = true
    · rw [if_pos hx]
      exact .float ⟨h, Number.finite_float.mpr hx⟩
    · rw [if_neg hx]
      exact .null
  | str s => exact .str s
  | list _ ih =>
    rw [portable_list]
    refine .list fun w hw => ?_
    obtain ⟨v, hv, rfl⟩ := List.mem_map.mp hw
    exact ih v hv
  | @dict ms nodup _ ih =>
    rw [portable_dict]
    refine .dict ?_ fun w hw => ?_
    · rw [Members.names, List.map_map]
      exact nodup
    · obtain ⟨m, hm, rfl⟩ := List.mem_map.mp hw
      exact ih m hm

/-- Data whose numbers are finite is portable as it stands. -/
theorem portable_of_finite (h : v.IsJson Number.Finite) : v.portable = v := by
  induction h with
  | null => rfl
  | bool b => rfl
  | int h => rfl
  | @float x h =>
    rw [portable_float, if_pos (Number.finite_float.mp h)]
  | str s => rfl
  | @list vs _ ih =>
    rw [portable_list, List.map_congr_left ih, List.map_id']
  | @dict ms _ _ ih =>
    have hmembers : ms.map (fun m => (m.1, m.2.portable)) = ms.map fun m => (m.1, m.2) :=
      List.map_congr_left fun m hm => by rw [ih m hm]
    rw [portable_dict, hmembers]
    exact congrArg Value.dict (List.map_id' ms)

/-- Portable data is JSON data with finite numbers. -/
theorem portable_eq_self_iff (h : v.IsJson N) : v.portable = v ↔ v.IsJson Number.Finite := by
  constructor
  · intro heq
    rw [← heq]
    exact h.portable.mono fun _ hn => hn.2
  · exact portable_of_finite

theorem portable_portable (h : v.IsJson N) : v.portable.portable = v.portable :=
  portable_of_finite (h.portable.mono fun _ hn => hn.2)

/-- Only `null` itself and a number that is not finite become `null`. -/
theorem portable_eq_null_iff (h : v.IsJson N) :
    v.portable = .null ↔ v = .null ∨ ∃ n : Number, v = n.toValue ∧ ¬n.Finite := by
  constructor
  · intro hnull
    cases h with
    | null => exact Or.inl rfl
    -- Null stays null, and of the other values only a float that is not finite becomes null.
    | @float x h =>
      refine Or.inr ⟨.float x, rfl, fun hfinite => ?_⟩
      rw [portable_float, if_pos (Number.finite_float.mp hfinite)] at hnull
      cases hnull
    | _ => simp [Value.portable] at hnull
  · rintro (rfl | ⟨n, rfl, hn⟩)
    · rfl
    · cases n with
      | int n => exact absurd (Number.finite_int n) hn
      | float x =>
        rw [Number.toValue, portable_float, if_neg fun hx => hn (Number.finite_float.mpr hx)]

end IsJson
end Value
end Questionnaire
