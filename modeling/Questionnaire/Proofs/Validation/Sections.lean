import Questionnaire.Proofs.Validation.Objections

/-!
# Sections and their sub-fields

A rule that is applied at a path has the failures that it has by itself, with the path in the place
of the field (`Rule.apply_eq_rerooted`).  So a section goes through its entries one by one, and in
each of them checks what its sub-fields would check by themselves (`Rule.PartsOf`):
`Rule.apply_section`.
-/

namespace Questionnaire

/-! ### Failures elsewhere -/

/-- The failure with a path in the place of the field that its own path begins with. -/
def Failure.rerooted (field path : String) (f : Failure) : Failure :=
  { f with fieldId := path ++ String.ofList (f.fieldId.toList.drop field.length) }

/-- What remains of the path goes on after the new one. -/
theorem Failure.rerooted_append (field path rest type message : String)
    (expected received : Value) :
    (⟨field ++ rest, type, message, expected, received⟩ : Failure).rerooted field path =
      ⟨path ++ rest, type, message, expected, received⟩ := by
  have hrest : String.ofList ((field ++ rest).toList.drop field.length) = rest := by
    rw [String.toList_append, ← String.length_toList, List.drop_left, String.ofList_toList]
  unfold rerooted
  rw [hrest]

theorem RuleHead.failures_rerooted (h : RuleHead) (field path rest : String)
    (breaches : List Breach) (received : Value) :
    (h.failures (field ++ rest) breaches received).map (·.rerooted field path) =
      h.failures (path ++ rest) breaches received := by
  unfold failures
  dsimp only
  split
  · rfl
  · split
    · rw [List.map_map]
      exact List.map_congr_left fun b _ => Failure.rerooted_append ..
    · rw [List.map_singleton, Failure.rerooted_append]
  · rw [List.map_map]
    exact List.map_congr_left fun b _ => Failure.rerooted_append ..

theorem Objection.failures_moved_rerooted (field path : String) (o : Objection) :
    (o.moved field).failures.map (·.rerooted field path) = (o.moved path).failures :=
  RuleHead.failures_rerooted ..

namespace Rule

/-- Applied at a path, a rule has the failures that it has by itself, with the path in the place
of the field. -/
theorem apply_eq_rerooted {path : String} (hpath : path ≠ "") (rule : Rule) (v : Value) :
    rule.apply path v = (rule.apply "" v).map fun r =>
      (r.1, r.2.map (·.rerooted rule.head.fieldId path)) := by
  rw [apply_eq_examine, apply_eq_examine, place_of_ne hpath, show rule.place "" = _ from if_pos rfl]
  cases rule.examine v with
  | error e => rfl
  | ok r =>
    show Except.ok (r.1, _) = Except.ok (r.1, List.map _ (List.flatMap _ _))
    rw [List.map_flatMap]
    simp only [Objection.failures_moved_rerooted]

/-- The paths of failures that a rule has by itself begin with the field. -/
theorem exists_rest_of_apply {rule : Rule} {v w : Value} {failures : List Failure}
    (h : rule.apply "" v = .ok (w, failures)) {f : Failure} (hf : f ∈ failures) :
    ∃ rest, f.fieldId = rule.head.fieldId ++ rest := by
  rw [apply_eq_examine] at h
  obtain ⟨⟨w', os⟩, -, heq⟩ := Outcome.map_eq_ok_iff.mp h
  obtain ⟨-, rfl⟩ := Prod.mk.inj heq
  obtain ⟨o, -, hf⟩ := List.mem_flatMap.mp hf
  exact ⟨_, Objection.fieldId_of_mem_failures hf⟩

/-! ### Entries -/

/-- What the rule of a sub-field makes by itself of its answer in an entry, with the failures at the
path of the entry. -/
def ownPart (path : String) (ms : Members Value) (e : String × Rule) :
    Outcome ((String × Value) × List Failure) :=
  (e.2.apply "" ((ms.get? e.1).getD .missing)).map fun r =>
    ((e.1, r.1), r.2.map (·.rerooted e.2.head.fieldId s!"{path}.{e.1}"))

theorem applyPart_eq_ownPart (path : String) (ms : Members Value) (e : String × Rule) :
    applyPart path ms e = ownPart path ms e := by
  unfold applyPart ownPart
  rw [apply_eq_rerooted (dotted_ne_empty _ _)]
  cases e.2.apply "" ((ms.get? e.1).getD .missing) <;> rfl

/-- What comes of an entry at a path: of an object the members and failures that its sub-fields have
by themselves, and of anything else one failure. -/
inductive PartsOf (rules : List (String × Rule)) (path : String) :
    Value → Value × List Failure → Prop
  | object {ms : Members Value} {parts : List ((String × Value) × List Failure)}
    (hparts : Yields (fun _ => ownPart path ms) 0 rules parts) :
    PartsOf rules path (.dict ms) (.dict (gathered parts).1, (gathered parts).2)
  | other {v : Value} {f : Failure} (hv : ∀ ms, v ≠ .dict ms) (hf : f.fieldId = path) :
    PartsOf rules path v (v, [f])

theorem exists_failures_eq_singleton (h : RuleHead) (path : String) (b : Breach)
    (received : Value) :
    ∃ f : Failure, h.failures path [b] received = [f] ∧ f.fieldId = path := by
  unfold RuleHead.failures
  dsimp only
  split
  · next hnil => cases hnil
  · next heq =>
    cases heq
    split <;> exact ⟨_, rfl, rfl⟩
  · exact ⟨_, rfl, rfl⟩

/-- A cleaned entry has exactly the names of the sub-fields. -/
theorem PartsOf.names_eq {rules : List (String × Rule)} {path : String} {u : Value}
    {cleaned : Members Value} {failures : List Failure}
    (h : PartsOf rules path u (.dict cleaned, failures)) : cleaned.names = Members.names rules := by
  cases h with
  | object hparts =>
    refine hparts.map_eq fun _ e r hr => ?_
    obtain ⟨x, -, rfl⟩ := Outcome.map_eq_ok_iff.mp hr
    rfl
  | other hv => exact absurd rfl (hv cleaned)

/-- An entry is cleaned part by part, or refused as a whole. -/
theorem partsOf_of_applyEntry {h : RuleHead} {entries : List (String × Rule)} {path : String}
    {n : Nat} {u : Value} {r : Value × List Failure}
    (hr : applyEntry h path (fun path ms => applyNamed path entries ms) n u = .ok r) :
    PartsOf entries s!"{path}.{n}" u r := by
  by_cases hu : ∃ ms, u = .dict ms
  · obtain ⟨ms, rfl⟩ := hu
    obtain ⟨⟨cleaned, failures⟩, hnamed, rfl⟩ := Outcome.map_eq_ok_iff.mp hr
    have hparts : (fun _ : Nat => applyPart s!"{path}.{n}" ms) = fun _ =>
      ownPart s!"{path}.{n}" ms :=
      funext fun _ => funext fun e => applyPart_eq_ownPart _ _ e
    replace hnamed : applyNamed s!"{path}.{n}" entries ms = .ok (cleaned, failures) := hnamed
    rw [applyNamed_eq_gather _ _ _ 0, hparts] at hnamed
    obtain ⟨parts, hyields, heq⟩ := gather_eq_ok_iff.mp hnamed
    obtain ⟨rfl, rfl⟩ := Prod.mk.inj heq
    exact .object hyields
  · rw [applyEntry_other _ _ _ _ (not_exists.mp hu)] at hr
    obtain ⟨f, hf, hplace⟩ :=
      exists_failures_eq_singleton h s!"{path}.{n}" (.kind "Invalid entry" "object") u
    rw [hf] at hr
    cases hr
    exact .other (not_exists.mp hu) hplace

/-- Applied to entries, the rule of a section gives one result for each of them, in their order. -/
structure GoesThrough (h : RuleHead) (entries : List (String × Rule)) (path : String) (v : Value)
    (vs : List Value) (outcomes : List (Value × List Failure)) : Prop where
  result : (Rule.repeatable h entries).apply path v =
    .ok (.list (gathered outcomes).1, (gathered outcomes).2)
  length_eq : outcomes.length = vs.length
  parts (n : Nat) (u : Value) (r : Value × List Failure) (hu : vs[n]? = some u)
    (hr : outcomes[n]? = some r) : PartsOf entries s!"{path}.{n}" u r
  names (cleaned : Members Value) (hcleaned : .dict cleaned ∈ (gathered outcomes).1) :
    cleaned.names = Members.names entries

/-- A section with entries goes through them one by one. -/
theorem goesThrough_of_yields {h : RuleHead} {entries : List (String × Rule)} {path : String}
    (hpath : path ≠ "") {v : Value} {vs : List Value} (hv : entryList? v = some vs) (hne : vs ≠ [])
    {outcomes : List (Value × List Failure)}
    (hyields : Yields (applyEntry h path fun path ms => applyNamed path entries ms) 0 vs outcomes) :
    GoesThrough h entries path v vs outcomes := by
  have hparts (n : Nat) (u : Value) (r : Value × List Failure) (hu : vs[n]? = some u)
      (hr : outcomes[n]? = some r) : PartsOf entries s!"{path}.{n}" u r := by
    have hok := hyields.eq_ok n u r hu hr
    rw [Nat.zero_add] at hok
    exact partsOf_of_applyEntry hok
  refine ⟨?_, hyields.length_eq, hparts, fun cleaned hcleaned => ?_⟩
  · have hanswer : v.isUnanswered = false := by
      rw [isUnanswered_of_entryList? hv]
      exact List.isEmpty_eq_false_iff.mpr hne
    rw [apply_repeatable, hanswer, if_neg Bool.false_ne_true, hv, place_of_ne hpath]
    dsimp only
    rw [applyEntries_eq_gather, gather_eq_ok_iff.mpr ⟨outcomes, hyields, rfl⟩]
    rfl
  -- A cleaned mapping comes from an entry, which was a mapping of the same names.
  · obtain ⟨r, hr, heq⟩ := List.mem_map.mp hcleaned
    obtain ⟨n, hn⟩ := List.mem_iff_getElem?.mp hr
    obtain ⟨u, hu, -⟩ := hyields.exists_item hn
    obtain ⟨w, failures⟩ := r
    obtain rfl : w = .dict cleaned := heq
    exact (hparts n u _ hu hn).names_eq

/-- The rules of the sub-fields of a well-made section can be applied to every entry. -/
theorem WellMade.exists_applyEntry {h : RuleHead} {entries : List (String × Rule)}
    (hmade : (Rule.repeatable h entries).WellMade) (path : String) (n : Nat) (u : Value) :
    ∃ r, applyEntry h path (fun path ms => applyNamed path entries ms) n u = .ok r := by
  by_cases hu : ∃ ms, u = .dict ms
  · obtain ⟨ms, rfl⟩ := hu
    cases hmade with
    | repeatable _ all =>
      obtain ⟨r, hr⟩ := applyNamed_of_total (fun e he => (all e he).apply) s!"{path}.{n}" ms
      exact ⟨_, Outcome.map_eq_ok_iff.mpr ⟨r, hr, rfl⟩⟩
    | other _ not_section => exact absurd rfl not_section
  · exact ⟨_, applyEntry_other _ _ _ _ (not_exists.mp hu)⟩

/-- Applied at a path, every rule has the failures that it has by itself, with the path in the place
of the field.  The rule of a section goes through the entries of an answer one by one, and another
entry in one place changes the outcome in this place only. -/
theorem apply_section {path : String} (hpath : path ≠ "") :
    (∀ (rule : Rule) v,
      rule.apply path v = (rule.apply "" v).map (fun r =>
        (r.1, r.2.map (·.rerooted rule.head.fieldId path))) ∧
      ∀ w failures, rule.apply "" v = .ok (w, failures) → ∀ f ∈ failures,
        ∃ rest, f.fieldId = rule.head.fieldId ++ rest) ∧
    ∀ (f : Field) h entries issues, f.compile = .ok (.repeatable h entries, issues) →
      ∀ v vs, entryList? v = some vs → vs ≠ [] →
        ∃ outcomes, GoesThrough h entries path v vs outcomes ∧
        ∀ n u v', entryList? v' = some (vs.set n u) →
          ∃ r, GoesThrough h entries path v' (vs.set n u) (outcomes.set n r) := by
  constructor
  · intro rule v
    exact ⟨apply_eq_rerooted hpath rule v, fun w failures h f hf => exists_rest_of_apply h hf⟩
  · intro f h entries issues hcompile v vs hv hne
    have hentry := (f.wellMade_of_compile hcompile).exists_applyEntry path
    obtain ⟨r, hr⟩ := exists_gather (fun n u _ => hentry n u) 0
    obtain ⟨outcomes, hyields, -⟩ := gather_eq_ok_iff.mp hr
    refine ⟨outcomes, goesThrough_of_yields hpath hv hne hyields, fun n u v' hv' => ?_⟩
    -- The outcomes of the entries that stay fit the changed list as they are.
    obtain ⟨r, hr⟩ := hentry (0 + n) u
    exact ⟨r, goesThrough_of_yields hpath hv' (by simpa using hne) (hyields.set hr)⟩

/-- Of three pets the first has no name, the second is no object, and the third has toys that
are no list. -/
theorem apply_section_pets :
    let pets := [.dict [("name", .str " ")], .int 5, .dict [("name", .str "Rex"), ("toys", .int 3)]]
    ∃ f h entries issues outcomes, f ∈ petForm.fields ∧
      f.compile = .ok (.repeatable h entries, issues) ∧
      GoesThrough h entries "home.pets" (.tuple pets) pets outcomes ∧
      (gathered outcomes).2.map (·.fieldId) =
        ["home.pets.0.name", "home.pets.1", "home.pets.2.toys"] := by
  intro pets
  obtain ⟨f, h, entries, issues, failures, hf, hcompile, happly, hplaces⟩ :
      ∃ f h entries issues r, f ∈ petForm.fields ∧ f.compile = .ok (.repeatable h entries, issues) ∧
        (Rule.repeatable h entries).apply "home.pets" (.tuple pets) = .ok r ∧
        r.2.map (·.fieldId) = ["home.pets.0.name", "home.pets.1", "home.pets.2.toys"] :=
    ⟨_, _, _, _, _, .tail _ (.head _), rfl, rfl, rfl⟩
  have hpath : "home.pets" ≠ "" := by decide
  obtain ⟨outcomes, hthrough, -⟩ :=
    (apply_section hpath).2 f h entries issues hcompile (.tuple pets) pets rfl (by simp [pets])
  cases happly.symm.trans hthrough.result
  exact ⟨f, h, entries, issues, outcomes, hf, hcompile, hthrough, hplaces⟩

end Rule
end Questionnaire
