import Questionnaire.Proofs.Number.Numeral
import Questionnaire.Proofs.Validation.Verdict

/-!
# Numbers typed as text

A number field takes a text between blanks for the number that it writes.  A sign and digits are taken
for the whole number itself, without rounding, whatever its size: as long as there are at most
`maxDigits` digits, zeros in front included (`Field.readsExactly_iff_and_refuses`).  With more digits the
text is read as the nearest float.

A text that is no decimal numeral fails with the message for what is no number.
-/

namespace Questionnaire

/-- A text is the number that it writes, if that is finite. -/
theorem answerNumber?_str (s : String) : answerNumber? true (.str s) =
    (numberOfNumeral? s).filter fun
      | .int _ => true
      | .float x => x.isFinite := by
  unfold answerNumber?
  rfl

/-! ### Whole numbers as they are typed -/

/-- A sign or none, and digits, between blanks. -/
structure TypedInteger where
  before : List Char
  sign : Option Bool
  digits : List Char
  after : List Char
  before_blank : ∀ c ∈ before, Text.isBlank c = true
  isDigits : IsDigits digits
  digits_ne : digits ≠ []
  after_blank : ∀ c ∈ after, Text.isBlank c = true

namespace TypedInteger

variable (t : TypedInteger)

/-- What is typed. -/
def text : String := .ofList (t.before ++ (signText t.sign ++ t.digits ++ t.after))

/-- The number that is meant. -/
def value : Int := signed (t.sign == some true) (digitsValue t.digits)

theorem strip_text : Text.strip t.text = signText t.sign ++ t.digits := by
  have htrimmed := isTrimmed_whole (fun c hc => (wholeCharacters_plain c hc).1)
    (mem_wholeCharacters t.sign t.isDigits)
  rw [Text.strip, text, String.toList_ofList]
  exact Text.trim_append t.before_blank htrimmed (by simp [t.digits_ne]) t.after_blank

theorem isUnanswered_text : (Value.str t.text).isUnanswered = false := by
  show (Text.strip t.text).isEmpty = false
  rw [t.strip_text, List.isEmpty_eq_false_iff]
  simp [t.digits_ne]

theorem numberOfNumeral?_text : numberOfNumeral? t.text = some
    (if maxDigits < t.digits.length then
      .float (Numeral.toBinary64 ⟨t.sign == some true, digitsValue t.digits, 0⟩)
    else .int t.value) := by
  have hread := Numeral.read?_whole t.sign t.isDigits t.digits_ne .none
  rw [List.append_nil] at hread
  unfold numberOfNumeral?
  dsimp only
  rw [t.strip_text, hread, Integer.read_digits t.sign t.isDigits t.digits_ne]
  by_cases h : maxDigits < t.digits.length
  · rw [if_pos h, if_pos h]
    rfl
  · rw [if_neg h, if_neg h]
    rfl

theorem answerNumber?_text (h : t.digits.length ≤ maxDigits) :
    answerNumber? true (.str t.text) = some (.int t.value) := by
  rw [answerNumber?_str, t.numberOfNumeral?_text, if_neg h.not_gt]
  rfl

/-- Too many digits are not read as a whole number. -/
theorem answerNumber?_text_ne (h : maxDigits < t.digits.length) (n : Int) :
    answerNumber? true (.str t.text) ≠ some (.int n) := by
  rw [answerNumber?_str, t.numberOfNumeral?_text, if_pos h]
  intro hfilter
  obtain ⟨hfloat, -⟩ := Option.filter_eq_some_iff.mp hfilter
  cases hfloat

end TypedInteger

/-! ### Number fields -/

namespace Field

variable {f : Field}

/-- A number typed as text is taken for the number: the same comes out, with the same failures but for
what was received. -/
def ReadsExactly (f : Field) (t : TypedInteger) : Prop :=
  ∃ rule, f.compile = .ok (rule, []) ∧ ∀ path, ∃ failures,
    rule.apply path (.int t.value) = .ok (.int t.value, failures) ∧
    rule.apply path (.str t.text) =
      .ok (.int t.value, failures.map fun e => { e with received := .str t.text })

/-- The reason against what is no number. -/
def notNumber : Breach := .kind "Must be a number" "number"

theorem compile_of_number (h : f.type = .number) :
    f.compile = .ok (.number f.ruleHead true (f.constraints.getD .unconstrained).min
      (f.constraints.getD .unconstrained).max, []) := by
  rw [compile_eq_plainRule (by rw [h]; decide), h]
  rfl

end Field

namespace Rule

variable {head : RuleHead} {minimum maximum : Option Number} {path : String} {v : Value}

theorem apply_number (hv : v.isUnanswered = false) :
    let rule : Rule := .number head true minimum maximum
    rule.apply path v = .ok (match answerNumber? true v with
      | none => rule.judged (rule.place path) v v [.kind "Must be a number" "number"]
      | some n => rule.judged (rule.place path) v n.toValue
        (checkBounds minimum maximum .minimum .maximum n)) := by
  intro rule
  rw [apply_eq (by simp [rule, kind]) (by simp [rule, kind]), if_neg (by simp [hv])]
  rfl

end Rule

namespace Field

variable {f : Field}

/-- Whole numbers are read exactly from texts of not too many digits, and only from those. -/
theorem readsExactly_iff (h : f.type = .number) (t : TypedInteger) :
    f.ReadsExactly t ↔ t.digits.length ≤ maxDigits := by
  have hnumber : answerNumber? true (.int t.value) = some (.int t.value) := rfl
  constructor
  · rintro ⟨rule, hcompile, happly⟩
    rw [compile_of_number h] at hcompile
    cases hcompile
    obtain ⟨failures, -, htext⟩ := happly ""
    rw [Rule.apply_number t.isUnanswered_text] at htext
    by_contra hlong
    have hne := t.answerNumber?_text_ne (not_le.mp hlong) t.value
    split at htext
    · simp [Rule.judged] at htext
    · next n hn =>
      -- What comes out is the number that was read, so it is a whole one.
      cases n with
      | int n =>
        have hcleaned : Value.int n = .int t.value := (Prod.mk.inj (Except.ok.inj htext)).1
        cases hcleaned
        exact hne hn
      | float x => simp [Rule.judged, Number.toValue] at htext
  · intro hlength
    refine ⟨_, compile_of_number h, fun path => ?_⟩
    rw [Rule.apply_number (v := .int t.value) rfl, Rule.apply_number t.isUnanswered_text, hnumber,
      t.answerNumber?_text hlength]
    refine ⟨_, rfl, ?_⟩
    exact congrArg (fun failures => Except.ok (_, failures))
      (RuleHead.failures_received (by simp) (by simp))

theorem refusesText_of_not_isNumeral (h : f.type = .number) {s : String} (hs : Text.strip s ≠ [])
    (hnumeral : ¬IsNumeral (Text.strip s)) : f.RefusesText notNumber s := by
  have hread : Numeral.read? (Text.strip s) = none := by
    rw [← Option.not_isSome_iff_eq_none, Numeral.isSome_read?_iff]
    exact hnumeral
  have hnone : answerNumber? true (.str s) = none := by
    rw [answerNumber?_str, numberOfNumeral?, hread]
    rfl
  refine refusesText_of_judged (compile_of_number h) rfl fun path => ?_
  rw [Rule.apply_number (v := .str s) (by simpa [Value.isUnanswered] using hs), hnone]
  rfl

/-- A number field reads whole numbers exactly from texts of at most `maxDigits` digits and from no
others, and refuses what is no decimal numeral. -/
theorem readsExactly_iff_and_refuses (h : f.type = .number) :
    (∀ t : TypedInteger, f.ReadsExactly t ↔ t.digits.length ≤ maxDigits) ∧
      ∀ s, Text.strip s ≠ [] → ¬IsNumeral (Text.strip s) → f.RefusesText notNumber s :=
  ⟨readsExactly_iff h, fun _ hs hnumeral => refusesText_of_not_isNumeral h hs hnumeral⟩

/-- A field for the age of a person. -/
def ageField : Field :=
  ⟨"age", .number, "Age", true, none, none, none,
    some { Constraints.unconstrained with max := some (.int 120) }, none, none⟩

/-- A number with a sign and zeros in front, between blanks. -/
def paddedAge : TypedInteger :=
  ⟨[' '], some false, ['0', '4', '2'], ['\n'], List.all_eq_true.mp rfl, List.all_eq_true.mp rfl,
    by decide, List.all_eq_true.mp rfl⟩

/-- A padded number is read, and a hexadecimal one is refused. -/
theorem readsExactly_and_refuses_age :
    ageField.type = .number ∧ paddedAge.value = 42 ∧ ageField.ReadsExactly paddedAge ∧
      ageField.RefusesText notNumber "0x2a" := by
  obtain ⟨hreads, hrefuses⟩ := readsExactly_iff_and_refuses (f := ageField) rfl
  refine ⟨rfl, by decide, (hreads paddedAge).mpr (by decide), hrefuses "0x2a" (by decide) ?_⟩
  rw [← Numeral.isSome_read?_iff]
  decide

/-- A number of sixteen digits, with so many zeros in front that there are more digits than are read
as a whole number. -/
def zerosInFront : TypedInteger where
  before := []
  sign := none
  digits := List.replicate 4285 '0' ++ Nat.toDigits 10 9007199254740993
  after := []
  before_blank := nofun
  isDigits := (IsDigits.replicate_zero _).append (IsDigits.toDigits _)
  digits_ne := List.append_ne_nil_of_right_ne_nil _ Nat.toDigits_ne_nil
  after_blank := nofun

/-- The number itself is short, but the text for it is not read exactly. -/
theorem not_readsExactly_of_zeros :
    ageField.type = .number ∧ zerosInFront.value = 9007199254740993 ∧
      (Nat.toDigits 10 9007199254740993).length ≤ maxDigits ∧ ¬ageField.ReadsExactly zerosInFront := by
  have hlength : (Nat.toDigits 10 9007199254740993).length = 16 := by decide +kernel
  have hdigits : zerosInFront.digits =
    List.replicate 4285 '0' ++ Nat.toDigits 10 9007199254740993 := by rw [zerosInFront]
  refine ⟨rfl, ?_, ?_, ?_⟩
  · have hsign : zerosInFront.sign = none := by rw [zerosInFront]
    rw [TypedInteger.value, hdigits, hsign, digitsValue_append, digitsValue_replicate_zero,
      digitsValue_toDigits]
    rfl
  · rw [hlength]
    decide
  · rw [readsExactly_iff rfl, hdigits, List.length_append, List.length_replicate, hlength]
    decide

end Field
end Questionnaire
