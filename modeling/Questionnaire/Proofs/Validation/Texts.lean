import Questionnaire.Proofs.Validation.Answers

/-!
# Texts among cleaned answers

The answers to textual fields and to dates are kept as they are given.  So in a valid report each of
them is a text, or for dates a date, or no answer (`Field.TextWellFormed`); the constraints that a text
which is not blank has to meet are those of its type: the bounds of length and the pattern for free
texts, and the form of an address for email addresses.  `Schema.validated_texts` says so of all answers
in a report, at any depth.

Other types have constraints that nothing asks for.  `Schema.not_validated_texts_of_unasked` has an
answer that does not meet those of its field.
-/

namespace Questionnaire

/-! ### What is asked of texts -/

/-- The text has the length and matches the pattern that the constraints of a field ask for; an empty
pattern asks for nothing. -/
structure Field.Meets (f : Field) (t : String) : Prop where
  minLength (n : Int) (h : (f.constraints.getD .unconstrained).minLength = some n) : n ≤ t.length
  maxLength (n : Int) (h : (f.constraints.getD .unconstrained).maxLength = some n) : t.length ≤ n
  pattern (p : String) (h : (f.constraints.getD .unconstrained).pattern = some p) (hp : p ≠ "") :
    ∃ program, Pattern.read p = .ok program ∧ program.matchesAll t = true

theorem matchesPattern_eq_true_iff {p t : String} :
    matchesPattern p t = .ok true ↔
      ∃ program, Pattern.read p = .ok program ∧ program.matchesAll t = true := by
  unfold matchesPattern
  cases Pattern.read p with
  | ok program => simp
  | error fault => simp

/-- The checks of a text that nothing breaks. -/
theorem kept_of_checkString {minLength maxLength : Option Int} {pattern : Option String} {email : Bool}
    {t : String} (h : checkString minLength maxLength pattern email (.str t) = .ok []) :
    (∀ n, minLength = some n → n ≤ t.length) ∧ (∀ n, maxLength = some n → t.length ≤ n) ∧
      (∀ p, pattern = some p → matchesPattern p t = .ok true) ∧
      (email = true → Email.isAddress t = true) := by
  -- With a pattern or without one, the breaches are those of the bounds, the pattern and the address.
  obtain ⟨unmatched, hmatches, hnil⟩ : ∃ unmatched : Bool,
      (∀ p, pattern = some p → matchesPattern p t = .ok !unmatched) ∧
        (minLength.map fun n => Breach.when ((t.length : Int) < n) (.minLength n)).getD [] ++
          (maxLength.map fun n => Breach.when (n < (t.length : Int)) (.maxLength n)).getD [] ++
          Breach.when unmatched (.pattern (pattern.getD "")) ++
          Breach.when (email && !Email.isAddress t) .email = [] := by
    cases pattern with
    | none => exact ⟨false, nofun, Outcome.pure_eq_ok_iff.mp h⟩
    | some p =>
      obtain ⟨unmatched, hunmatched, h⟩ := Outcome.bind_eq_ok_iff.mp h
      obtain ⟨matched, hmatched, rfl⟩ := Outcome.map_eq_ok_iff.mp hunmatched
      refine ⟨!matched, fun q hq => ?_, Outcome.pure_eq_ok_iff.mp h⟩
      rw [← Option.some.inj hq, hmatched, Bool.not_not]
  simp only [List.append_eq_nil_iff, Breach.getD_map_eq_nil_iff, Breach.when_eq_nil_iff] at hnil
  obtain ⟨⟨⟨hmin, hmax⟩, rfl⟩, haddress⟩ := hnil
  refine ⟨fun n hn => ?_, fun n hn => ?_, hmatches, fun hemail => ?_⟩
  · exact not_lt.mp (of_decide_eq_false (hmin n hn))
  · exact not_lt.mp (of_decide_eq_false (hmax n hn))
  · rw [hemail, Bool.true_and] at haddress
    exact Bool.not_eq_eq_eq_not.mp haddress

/-! ### What the rules for texts and dates accept -/

/-- An empty list, tuple or object. -/
def Value.IsEmptyContainer (v : Value) : Prop := v = .list [] ∨ v = .tuple [] ∨ v = .dict []

/-- What counts as no answer is nothing, a blank text, or an empty container. -/
theorem Value.unanswered_cases {v : Value} (h : v.isUnanswered = true) :
    v = .missing ∨ v = .null ∨ (∃ t, v = .str t ∧ Text.strip t = []) ∨ v.IsEmptyContainer := by
  cases v with
  | missing => exact .inl rfl
  | null => exact .inr (.inl rfl)
  | str t => exact .inr (.inr (.inl ⟨t, rfl, List.isEmpty_iff.mp h⟩))
  | list vs => exact .inr (.inr (.inr (.inl (congrArg Value.list (List.isEmpty_iff.mp h)))))
  | tuple vs => exact .inr (.inr (.inr (.inr (.inl (congrArg Value.tuple (List.isEmpty_iff.mp h))))))
  | dict ms => exact .inr (.inr (.inr (.inr (.inr (congrArg Value.dict (List.isEmpty_iff.mp h))))))
  | _ => cases h

namespace Rule

variable {head : RuleHead} {w : Value}

/-- No answer to a text or a date is kept as it is. -/
theorem cleanedEmpty_cases {rule : Rule} (hkind : rule.kind = "string" ∨ rule.kind = "date") {v : Value}
    (hv : v.isUnanswered = true) (hw : rule.cleanedEmpty v = w) :
    w = .null ∨ (∃ t, w = .str t ∧ Text.strip t = []) ∨ w.IsEmptyContainer := by
  -- Such a rule keeps what is empty, except that a missing answer becomes null.
  obtain ⟨hmissing, hkept⟩ : rule.cleanedEmpty .missing = .null ∧
      ∀ v, v ≠ .missing → rule.cleanedEmpty v = v := by
    cases rule with
    | string | date =>
      refine ⟨rfl, fun v hv => ?_⟩
      cases v with
      | missing => exact absurd rfl hv
      | _ => rfl
    | _ => simp [kind] at hkind
  rcases Value.unanswered_cases hv with rfl | rfl | ⟨t, rfl, ht⟩ | hempty
  · exact .inl (hw.symm.trans hmissing)
  · exact .inl (hw.symm.trans (hkept _ (by simp)))
  · exact .inr (.inl ⟨t, hw.symm.trans (hkept _ (by simp)), ht⟩)
  · have hsame : rule.cleanedEmpty v = v := hkept v (by rcases hempty with rfl | rfl | rfl <;> simp)
    rw [← hw, hsame]
    exact .inr (.inr hempty)

theorem Accepts.string {minLength maxLength : Option Int} {pattern : Option String} {email : Bool}
    (h : (Rule.string head minLength maxLength pattern email).Accepts w) :
    (w = .null ∨ (∃ t, w = .str t ∧ Text.strip t = []) ∨ w.IsEmptyContainer) ∨
      ∃ t, w = .str t ∧ checkString minLength maxLength pattern email (.str t) = .ok [] := by
  rcases h.cases (by simp [kind]) (by simp [kind]) with ⟨-, v, hv, hw⟩ | ⟨path, v, hv, h⟩
  · exact .inl (cleanedEmpty_cases (.inl rfl) hv hw)
  · obtain ⟨breaches, hbreaches, hjudged⟩ := Outcome.bind_eq_ok_iff.mp h
    obtain ⟨rfl, rfl⟩ := judged_eq_iff.mp (Outcome.pure_eq_ok_iff.mp hjudged)
    cases v with
    | str t => exact .inr ⟨t, rfl, hbreaches⟩
    | _ => cases hbreaches

theorem Accepts.date (h : (Rule.date head).Accepts w) :
    (w = .null ∨ (∃ t, w = .str t ∧ Text.strip t = []) ∨ w.IsEmptyContainer) ∨
      (∃ t, w = .str t) ∨ ∃ d, w = .date d := by
  rcases h.cases (by simp [kind]) (by simp [kind]) with ⟨-, v, hv, hw⟩ | ⟨path, v, hv, h⟩
  · exact .inl (cleanedEmpty_cases (.inr rfl) hv hw)
  · rw [applyPlain, Except.ok.injEq] at h
    obtain ⟨rfl, hbreach⟩ := judged_eq_iff.mp h
    have hkind : v.isTextOrDate = true :=
      Bool.not_eq_eq_eq_not.mp (Breach.when_eq_nil_iff.mp hbreach)
    cases v with
    | str t => exact .inr (.inl ⟨t, rfl⟩)
    | date d => exact .inr (.inr ⟨d, rfl⟩)
    | _ => cases hkind

end Rule

/-! ### Textual fields and dates -/

/-- Whether the answers to fields of the type are texts. -/
def FieldType.isTextual : FieldType → Bool
  | .text | .textarea | .email | .select | .radio => true
  | _ => false

namespace Field

/-- The answer to a textual field is a text, and the one to a date is a text or a date, if there is one;
empty containers are passed over.  A text that is not blank meets what the type of the field asks for. -/
structure TextWellFormed (f : Field) (w : Value) : Prop where
  text (htype : f.type.isTextual = true) (hw : ¬w.IsEmptyContainer) : w = .null ∨ ∃ t, w = .str t
  date (htype : f.type = .date) (hw : ¬w.IsEmptyContainer) :
    w = .null ∨ (∃ t, w = .str t) ∨ ∃ d, w = .date d
  meets (htype : f.type = .text ∨ f.type = .textarea) (t : String) (hw : w = .str t)
    (ht : Text.strip t ≠ []) : f.Meets t
  address (htype : f.type = .email) (t : String) (hw : w = .str t) (ht : Text.strip t ≠ []) :
    Email.isAddress t = true

/-- A text field without a bad pattern gets a rule with all of its constraints. -/
theorem compile_of_text {f : Field} (htype : f.type = .text ∨ f.type = .textarea)
    (hgood : f.badPattern? = none) :
    let c := f.constraints.getD .unconstrained
    f.compile = .ok (.string f.ruleHead c.minLength c.maxLength f.textPattern? false, []) := by
  intro c
  have hsection : f.type ≠ .repeatable := by rcases htype with htype | htype <;> rw [htype] <;> decide
  have hrule : f.compile = textRule f.id f.ruleHead c := by
    rw [compile_eq_plainRule hsection]
    rcases htype with htype | htype <;> rw [htype] <;> rfl
  rw [hrule, textRule_eq htype, hgood]

/-- What a textual field accepts is accepted by a rule for texts, with the checks that its type asks
for. -/
theorem Accepts.exists_string {f : Field} {w : Value} (h : f.Accepts w)
    (htype : f.type.isTextual = true) (hgood : f.badPattern? = none) :
    ∃ minLength maxLength pattern email,
      (Rule.string f.ruleHead minLength maxLength pattern email).Accepts w ∧
      (f.type = .text ∨ f.type = .textarea →
        minLength = (f.constraints.getD .unconstrained).minLength ∧
        maxLength = (f.constraints.getD .unconstrained).maxLength ∧ pattern = f.textPattern?) ∧
      (f.type = .email → email = true) := by
  obtain ⟨rule, issues, hcompile, haccepts⟩ := h
  by_cases htext : f.type = .text ∨ f.type = .textarea
  · rw [compile_of_text htext hgood] at hcompile
    cases hcompile
    refine ⟨_, _, _, _, haccepts, fun _ => ⟨rfl, rfl, rfl⟩, fun hemail => ?_⟩
    rw [hemail] at htext
    exact absurd htext (by decide)
  · have hsection : f.type ≠ .repeatable := by
      intro hrepeatable
      rw [hrepeatable] at htype
      cases htype
    rw [compile_eq_plainRule hsection] at hcompile
    obtain ⟨id, type, label, required, placeholder, helpText, options, constraints, conditions,
      subFields⟩ := f
    cases type with
    | text => exact absurd (Or.inl rfl) htext
    | textarea => exact absurd (Or.inr rfl) htext
    | email =>
      cases hcompile
      exact ⟨none, none, none, true, haccepts, fun h => absurd h htext, fun _ => rfl⟩
    | select | radio =>
      -- Of these no constraint goes into the rule.
      cases hcompile
      exact ⟨none, none, none, false, haccepts, fun h => absurd h htext, nofun⟩
    | _ => cases htype

/-- What a field without a bad pattern accepts is, for textual fields and dates, well formed. -/
theorem Accepts.textWellFormed {f : Field} {w : Value} (h : f.Accepts w)
    (hgood : f.badPattern? = none) : f.TextWellFormed w := by
  -- A text that is not blank has passed the checks of the rule.
  have hchecked {minLength maxLength : Option Int} {pattern : Option String} {email : Bool}
      (haccepts : (Rule.string f.ruleHead minLength maxLength pattern email).Accepts w) {t : String}
      (hw : w = .str t) (ht : Text.strip t ≠ []) :
      checkString minLength maxLength pattern email (.str t) = .ok [] := by
    subst hw
    rcases haccepts.string with (hnull | ⟨u, hu, hblank⟩ | hempty) | ⟨u, hu, hcheck⟩
    · cases hnull
    · cases hu
      exact absurd hblank ht
    · rcases hempty with hempty | hempty | hempty <;> cases hempty
    · cases hu
      exact hcheck
  refine ⟨fun htype hw => ?_, fun htype hw => ?_, fun htype t hw ht => ?_, fun htype t hw ht => ?_⟩
  · obtain ⟨_, _, _, _, haccepts, -, -⟩ := h.exists_string htype hgood
    rcases haccepts.string with (hnull | ⟨t, ht, -⟩ | hempty) | ⟨t, ht, -⟩
    · exact .inl hnull
    · exact .inr ⟨t, ht⟩
    · exact absurd hempty hw
    · exact .inr ⟨t, ht⟩
  · obtain ⟨rule, issues, hcompile, haccepts⟩ := h
    rw [compile_eq_plainRule (by rw [htype]; decide), htype] at hcompile
    cases hcompile
    rcases haccepts.date with (hnull | ⟨t, ht, -⟩ | hempty) | hkept
    · exact .inl hnull
    · exact .inr (.inl ⟨t, ht⟩)
    · exact absurd hempty hw
    · exact .inr hkept
  · have htextual : f.type.isTextual = true := by rcases htype with htype | htype <;> rw [htype] <;> rfl
    obtain ⟨_, _, _, _, haccepts, hfree, -⟩ := h.exists_string htextual hgood
    obtain ⟨rfl, rfl, rfl⟩ := hfree htype
    obtain ⟨hmin, hmax, hpattern, -⟩ := kept_of_checkString (hchecked haccepts hw ht)
    refine ⟨hmin, hmax, fun p hp hne => ?_⟩
    have htextPattern : f.textPattern? = some p := by
      unfold textPattern?
      rw [if_pos htype, hp, Option.filter_some, if_pos (by simpa using hne)]
    exact matchesPattern_eq_true_iff.mp (hpattern p htextPattern)
  · obtain ⟨_, _, _, _, haccepts, -, hemail⟩ := h.exists_string (by rw [htype]; rfl) hgood
    exact (kept_of_checkString (hchecked haccepts hw ht)).2.2.2 (hemail htype)

end Field

/-! ### Reports -/

namespace Schema

/-- In a valid report the answers to textual fields and to dates that have no bad pattern are well
formed, at any depth; of several fields with one id beside each other, the last one is asked. -/
theorem validated_texts {s : Schema} {c : Contract} {answers : Members Value}
    {visible : Option (List String)} {report : Report} (hc : s.compile = .ok c)
    (h : c.validate answers visible = .ok report) (hvalid : report.isValid = true) :
    ∃ cleaned, report.data = some cleaned ∧
      ∀ f v, Field.IsLastIn f s.fields → cleaned.get? f.id = some v →
        ∀ g w, f.Within v g w → g.badPattern? = none → g.TextWellFormed w := by
  obtain ⟨cleaned, hdata, -, -, haccepts⟩ := accepts_of_validate hc h hvalid
  refine ⟨cleaned, hdata, fun f v hf hv g w hw hgood => ?_⟩
  have haccepted : f.Accepts v := haccepts f v hf hv
  exact (haccepted.of_within hw).textWellFormed hgood

/-- A form of a section of parcels, each with a code that has a length and a pattern, an address that may
be left out, and a date. -/
def parcelForm : Schema where
  title := "Parcels"
  description := ""
  fields := [⟨"parcels", .repeatable, "Parcels", true, none, none, none, none, none,
    some [⟨"code", .text, "Code", true, none, none, none,
        some { Constraints.unconstrained with
          minLength := some 3, maxLength := some 5, pattern := some "a.c" }, none, none⟩,
      ⟨"contact", .email, "Contact", false, none, none, none, none, none, none⟩,
      ⟨"sent", .date, "Sent", false, none, none, none, none, none, none⟩]⟩]
  settings := ⟨true, true, ""⟩

/-- A code has the length and the pattern that its field asks for, a blank address remains blank, and a
date is a date. -/
theorem validated_texts_parcels :
    let parcel : Members Value :=
      [("code", .str "abc"), ("contact", .str " "), ("sent", .date "2024-02-29")]
    let answers : Members Value := [("parcels", .list [.dict parcel])]
    ∃ c report, parcelForm.compile = .ok c ∧ c.validate answers none = .ok report ∧
      report.isValid = true ∧ report.data = some answers ∧
      ∃ f code contact sent, Field.IsLastIn f parcelForm.fields ∧
        f.children = [code, contact, sent] ∧ code.Meets "abc" ∧
        contact.TextWellFormed (.str " ") ∧ sent.TextWellFormed (.date "2024-02-29") := by
  intro parcel answers
  obtain ⟨c, report, hc, hreport, hvalid, hdata⟩ : ∃ c report, parcelForm.compile = .ok c ∧
      c.validate answers none = .ok report ∧ report.isValid = true ∧ report.data = some answers :=
    ⟨_, _, rfl, rfl, rfl, rfl⟩
  obtain ⟨cleaned, hcleaned, hall⟩ := validated_texts hc hreport hvalid
  obtain rfl := Option.some.inj (hdata.symm.trans hcleaned)
  refine ⟨c, report, hc, hreport, hvalid, hdata, _, _, _, _, ⟨[], [], rfl, List.not_mem_nil⟩, rfl,
    ?_, ?_, ?_⟩
  · have hwell := hall _ _ ⟨[], [], rfl, List.not_mem_nil⟩ rfl _ (.str "abc")
      (.entry .self rfl (.head _) ⟨[], [_, _], rfl, by decide⟩ rfl) rfl
    exact hwell.meets (.inl rfl) "abc" rfl (by decide)
  · exact hall _ _ ⟨[], [], rfl, List.not_mem_nil⟩ rfl _ (.str " ")
      (.entry .self rfl (.head _) ⟨[_], [_], rfl, by decide⟩ rfl) rfl
  · exact hall _ _ ⟨[], [], rfl, List.not_mem_nil⟩ rfl _ (.date "2024-02-29")
      (.entry .self rfl (.head _) ⟨[_, _], [], rfl, by decide⟩ rfl) rfl

/-- A form of a size that has a least length though it is chosen from a list, of a note, of a code with
an empty pattern, and of two fields with one id. -/
def unaskedForm : Schema where
  title := "Orders"
  description := ""
  fields := [⟨"size", .select, "Size", false, none, none, none,
      some { Constraints.unconstrained with minLength := some 2 }, none, none⟩,
    ⟨"note", .textarea, "Note", false, none, none, none, none, none, none⟩,
    ⟨"code", .text, "Code", false, none, none, none,
      some { Constraints.unconstrained with pattern := some "" }, none, none⟩,
    ⟨"twin", .text, "Colour", false, none, none, none,
      some { Constraints.unconstrained with minLength := some 5 }, none, none⟩,
    ⟨"twin", .text, "Shade", false, none, none, none, none, none, none⟩]
  settings := ⟨true, true, ""⟩

/-- A chosen text that is too short is kept, as are an empty list that answers a note, a text that an empty
pattern does not match as a whole, and a text that is too short for the first of two fields with one
id. -/
theorem not_validated_texts_of_unasked :
    let answers : Members Value := [("size", .str "S"), ("note", .list []), ("code", .str "x"),
      ("twin", .str "red")]
    ∃ c report, unaskedForm.compile = .ok c ∧ c.validate answers none = .ok report ∧
      report.isValid = true ∧ report.data = some answers ∧
      (∃ size ∈ unaskedForm.fields, size.id = "size" ∧ size.type = .select ∧
        size.badPattern? = none ∧ Text.strip "S" ≠ [] ∧ ¬size.Meets "S") ∧
      (∃ note ∈ unaskedForm.fields, note.id = "note" ∧ note.type = .textarea ∧
        note.badPattern? = none ∧ ¬(Value.list [] = .null ∨ ∃ t, Value.list [] = .str t)) ∧
      (∃ code ∈ unaskedForm.fields, code.id = "code" ∧ code.type = .text ∧
        code.badPattern? = none ∧ code.constraints.bind (·.pattern) = some "" ∧
        ¬∃ program, Pattern.read "" = .ok program ∧ program.matchesAll "x" = true) ∧
      ∃ twin ∈ unaskedForm.fields, twin.id = "twin" ∧ twin.type = .text ∧
        twin.badPattern? = none ∧ ¬twin.Meets "red" := by
  intro answers
  refine ⟨_, _, rfl, rfl, rfl, rfl, ?_, ?_, ?_, ?_⟩
  -- A selection is compiled without a bound on its length.
  · refine ⟨_, .head _, rfl, rfl, rfl, by decide, fun h => ?_⟩
    exact absurd (h.minLength 2 rfl) (by decide)
  -- A list is no text, and an empty one counts as no answer.
  · refine ⟨_, .tail _ (.head _), rfl, rfl, rfl, ?_⟩
    rintro (h | ⟨t, h⟩) <;> cases h
  -- An empty pattern counts as none.
  · refine ⟨_, .tail _ (.tail _ (.head _)), rfl, rfl, rfl, rfl, ?_⟩
    rintro ⟨program, hread, hmatches⟩
    cases hread
    cases hmatches
  -- The rule of the later field of the same identifier is the one in force.
  · refine ⟨_, .tail _ (.tail _ (.tail _ (.head _))), rfl, rfl, rfl, fun h => ?_⟩
    exact absurd (h.minLength 5 rfl) (by decide)

end Schema
end Questionnaire
