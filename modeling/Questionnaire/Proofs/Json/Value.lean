import Questionnaire.Proofs.Json.Number
import Questionnaire.Proofs.Json.Text

/-!
# Reading the text of one value

`ReadsAs` says that the reader takes a value off the front of a text, whatever follows it, as long as this
does not go on with a number.  So it is with the text of a text, with words, and with numbers, if they are
not too long and not NaN.
-/

namespace Questionnaire

namespace Number

/-- A number that its text gives back: a whole number of not too many digits, or a float that is not
NaN. -/
def Readable : Number → Prop
  | .int n => n.natAbs < 10 ^ maxDigits
  | .float x => ∀ mark, x ≠ .nan mark

theorem readable_digit {n : Int} (h : n.natAbs < 10) : (Number.int n).Readable :=
  h.trans_le (Nat.le_self_pow (by decide) 10)

theorem readable_infinite (neg : Bool) : (Number.float (.infinite neg)).Readable := by
  intro mark h
  cases h

theorem readable_zero : (Number.float .zero).Readable := by
  intro mark h
  cases h

end Number

namespace Json

/-! ### Blanks -/

/-- The blanks of JSON. -/
def isBlank (c : Char) : Bool := c = ' ' || c = '\t' || c = '\n' || c = '\r'

/-- Nothing but blanks. -/
def Blanks (cs : List Char) : Prop := ∀ c ∈ cs, isBlank c = true

theorem Blanks.nil : Blanks [] := by
  intro c hc
  cases hc

theorem Blanks.cons {c : Char} {cs : List Char} (hc : isBlank c = true) (hcs : Blanks cs) :
    Blanks (c :: cs) := List.forall_mem_cons.mpr ⟨hc, hcs⟩

theorem skipBlanks_append {blanks rest : List Char} (hblanks : Blanks blanks)
    (hrest : ∀ c, rest.head? = some c → isBlank c = false) (place : Nat) :
    Cursor.skipBlanks ⟨blanks ++ rest, place⟩ = ⟨rest, place + blanks.length⟩ := by
  have htake : (blanks ++ rest).takeWhile isBlank = blanks := by
    rw [List.takeWhile_append_of_pos hblanks]
    cases rest with
    | nil => simp
    | cons c cs => simp [hrest c rfl]
  show Cursor.advance ⟨blanks ++ rest, place⟩ ((blanks ++ rest).takeWhile isBlank).length = _
  rw [htake]
  unfold Cursor.advance
  rw [List.drop_left]

theorem skipBlanks_cons {blanks : List Char} (hblanks : Blanks blanks) {c : Char}
    (hc : isBlank c = false) (rest : List Char) (place : Nat) :
    Cursor.skipBlanks ⟨blanks ++ c :: rest, place⟩ = ⟨c :: rest, place + blanks.length⟩ := by
  refine skipBlanks_append hblanks ?_ place
  rintro d ⟨⟩
  exact hc

theorem endsNumber_nil : EndsNumber [] := nofun

/-- What can follow an item or a member. -/
def EndsItem (c : Char) : Prop := c = ',' ∨ c = ']' ∨ c = '\x7d'

instance : DecidablePred EndsItem := fun c =>
  inferInstanceAs (Decidable (c = ',' ∨ c = ']' ∨ c = '\x7d'))

theorem EndsItem.not_blank {c : Char} (hc : EndsItem c) : isBlank c = false := by
  rcases hc with rfl | rfl | rfl <;> rfl

theorem endsNumber_blanks {blanks : List Char} (hblanks : Blanks blanks) {c : Char}
    (hc : EndsItem c) (rest : List Char) : EndsNumber (blanks ++ c :: rest) := by
  cases blanks with
  | nil =>
    rintro d ⟨⟩
    rcases hc with rfl | rfl | rfl <;> decide
  | cons b blanks =>
    rintro d ⟨⟩
    have hb := hblanks b List.mem_cons_self
    simp only [isBlank, Bool.or_eq_true, decide_eq_true_eq] at hb
    rcases hb with ((rfl | rfl) | rfl) | rfl <;> decide

/-! ### What is read from a text -/

/-- A text that starts neither with a blank nor with what can follow an item. -/
def Opens (text : List Char) : Prop := ∃ c cs, text = c :: cs ∧ isBlank c = false ∧ ¬EndsItem c

theorem Opens.append {text : List Char} (h : Opens text) (rest : List Char) :
    Opens (text ++ rest) := by
  obtain ⟨c, cs, rfl, hc⟩ := h
  exact ⟨c, cs ++ rest, rfl, hc⟩

theorem Opens.not_blank {text : List Char} (h : Opens text) :
    ∀ c, text.head? = some c → isBlank c = false := by
  obtain ⟨c, cs, rfl, hc, -⟩ := h
  rintro d ⟨⟩
  exact hc

/-- A value is read from a text that stands before others. -/
structure ReadsAs (text : List Char) (v : Value) : Prop where
  opens : Opens text
  scan : ∀ (fuel : Nat) (rest : List Char) (place : Nat), text.length < fuel → EndsNumber rest →
    scanValue fuel ⟨text ++ rest, place⟩ = .ok (v, ⟨rest, place + text.length⟩)

/-! ### Texts -/

theorem toList_text (asciiOnly : Bool) (s : String) :
    (text asciiOnly s).toList = '"' :: (s.toList.flatMap (textChar asciiOnly) ++ ['"']) :=
  String.toList_ofList

/-- The characters between the quotes of a text. -/
theorem scanText_toList {asciiOnly : Bool} {s : String} {fuel : Nat}
    (hfuel : (text asciiOnly s).toList.length ≤ fuel) (start : Nat) (rest : List Char) (place : Nat) :
    scanText start fuel [] ⟨s.toList.flatMap (textChar asciiOnly) ++ ['"'] ++ rest, place + 1⟩ =
      .ok (s.toList, ⟨rest, place + (text asciiOnly s).toList.length⟩) := by
  have hlength := length_le_flatMap_textChar asciiOnly s.toList
  rw [toList_text, List.length_cons, List.length_append] at hfuel
  have hscan : scanText start fuel []
      ⟨s.toList.flatMap (textChar asciiOnly) ++ ['"'] ++ rest, place + 1⟩ = .ok (s.toList,
        ⟨rest, place + 1 + (s.toList.flatMap (textChar asciiOnly) ++ ['"']).length⟩) :=
    scanText_flatMap asciiOnly (by omega) (place + 1)
  rw [hscan, toList_text, List.length_cons, Nat.add_right_comm]
  rfl

theorem scanValue_quote (fuel : Nat) (rest : List Char) (place : Nat) :
    scanValue (fuel + 1) ⟨'"' :: rest, place⟩ =
      (scanText place (('"' :: rest).length + 1) [] ⟨rest, place + 1⟩).bind
        fun r => .ok (.str (String.ofList r.1), r.2) := by
  rw [scanValue]
  rfl

theorem readsAs_text (asciiOnly : Bool) (s : String) :
    ReadsAs (text asciiOnly s).toList (.str s) := by
  refine ⟨⟨'"', _, toList_text asciiOnly s, rfl, by decide⟩, ?_⟩
  intro fuel rest place hfuel _
  obtain ⟨fuel, rfl⟩ : ∃ k, fuel = k + 1 := ⟨fuel - 1, by omega⟩
  have hlength : (text asciiOnly s).toList.length ≤
      ((text asciiOnly s).toList ++ rest).length + 1 := by
    rw [List.length_append]
    omega
  have hscan := scanText_toList hlength place rest place
  rw [toList_text, List.cons_append] at hscan ⊢
  rw [scanValue_quote, hscan]
  show Except.ok (Value.str (String.ofList s.toList), _) = _
  rw [String.ofList_toList]

/-! ### Words and numbers -/

theorem readsAs_word (word : String) {v : Value} (h : (word, v) ∈ words) : ReadsAs word.toList v := by
  have hopens : Opens word.toList := by
    simp only [words, List.mem_cons, Prod.mk.injEq, List.not_mem_nil, or_false] at h
    rcases h with ⟨rfl, _⟩ | ⟨rfl, _⟩ | ⟨rfl, _⟩ | ⟨rfl, _⟩ | ⟨rfl, _⟩ | ⟨rfl, _⟩
    all_goals exact ⟨_, _, rfl, rfl, by decide⟩
  refine ⟨hopens, ?_⟩
  intro fuel rest place hfuel _
  obtain ⟨fuel, rfl⟩ : ∃ k, fuel = k + 1 := ⟨fuel - 1, by omega⟩
  simp only [words, List.mem_cons, Prod.mk.injEq, List.not_mem_nil, or_false] at h
  rcases h with ⟨rfl, rfl⟩ | ⟨rfl, rfl⟩ | ⟨rfl, rfl⟩ | ⟨rfl, rfl⟩ | ⟨rfl, rfl⟩ | ⟨rfl, rfl⟩
  all_goals rw [scanValue]; rfl

/-- No word starts like a number. -/
theorem find?_words_eq_none (neg : Bool) {d : Char} (hd : d.isDigit = true) (cs : List Char)
    (place : Nat) :
    words.find? (fun w => Cursor.startsWith ⟨minusText neg ++ d :: cs, place⟩ w.1) = none := by
  -- A word starts with a letter or with a sign before one, and the text with a digit.
  have hne (letter : Char) (hletter : letter.isDigit = false) : letter ≠ d := by
    rintro rfl
    rw [hd] at hletter
    cases hletter
  have hn := hne 'n' rfl
  have ht := hne 't' rfl
  have hf := hne 'f' rfl
  have hN := hne 'N' rfl
  have hI := hne 'I' rfl
  have hminus := hne '-' rfl
  cases neg with
  | true => simp [words, Cursor.startsWith, minusText, hI]
  | false => simp [words, Cursor.startsWith, minusText, hn, ht, hf, hN, hI, hminus]

theorem scanValue_number (fuel : Nat) (neg : Bool) {d : Char} (hd : d.isDigit = true)
    (cs : List Char) (place : Nat) :
    scanValue (fuel + 1) ⟨minusText neg ++ d :: cs, place⟩ =
      scanNumber ⟨minusText neg ++ d :: cs, place⟩ := by
  have hfind := find?_words_eq_none neg hd cs place
  rw [scanValue]
  split
  case h_4 =>
    rw [hfind]
  all_goals
    cases neg with
    | true => simp_all [minusText]
    | false => simp_all [minusText]

/-- A text that starts like a number and is read by the reader of numbers. -/
theorem readsAs_number {text : List Char} {v : Value} (neg : Bool) {d : Char} (cs : List Char)
    (htext : text = minusText neg ++ d :: cs) (hd : d.isDigit = true)
    (hscan : ∀ {rest : List Char}, EndsNumber rest → ∀ place,
      scanNumber ⟨text ++ rest, place⟩ = .ok (v, ⟨rest, place + text.length⟩)) :
    ReadsAs text v := by
  -- The text opens as a value: its first character is a sign or a digit, and neither is blank.
  constructor
  · cases neg with
    | true => exact ⟨'-', d :: cs, htext, rfl, by decide⟩
    | false =>
      refine ⟨d, cs, htext, ?_, ?_⟩
      · by_contra hblank
        simp only [isBlank, Bool.not_eq_false, Bool.or_eq_true, decide_eq_true_eq] at hblank
        rcases hblank with ((rfl | rfl) | rfl) | rfl <;> cases hd
      · rintro (rfl | rfl | rfl) <;> cases hd
  · intro fuel rest place hfuel hrest
    obtain ⟨fuel, rfl⟩ : ∃ k, fuel = k + 1 := ⟨fuel - 1, by omega⟩
    rw [← hscan hrest place, htext, List.append_assoc, List.cons_append,
      scanValue_number fuel neg hd]

theorem readsAs_int {n : Int} (hn : n.natAbs < 10 ^ maxDigits) :
    ReadsAs (Value.showInt n).toList (.int n) := by
  obtain ⟨d, ds, hdigits⟩ := List.exists_cons_of_ne_nil (Nat.toDigits_ne_nil (b := 10) (n := n.natAbs))
  have hd : d.isDigit = true := by
    refine IsDigits.toDigits n.natAbs d ?_
    rw [hdigits]
    exact List.mem_cons_self
  refine readsAs_number (decide (n < 0)) ds ?_ hd fun hrest => scanNumber_int hn hrest
  rw [toList_showInt, hdigits]

/-- A float is read back from its text, except for what is not a number. -/
theorem readsAs_float {x : Binary64} (hx : ∀ mark, x ≠ .nan mark) :
    ReadsAs (FloatLayout.document.write x).toList (.float x) := by
  cases x with
  | nan mark => exact absurd rfl (hx mark)
  | infinite neg =>
    -- Infinities are words of their own.
    cases neg with
    | true => exact readsAs_word "-Infinity" (by simp [words])
    | false => exact readsAs_word "Infinity" (by simp [words])
  | finite neg m =>
    -- A finite number is written as a numeral with a whole part.
    obtain ⟨p, htext, hp, -⟩ := FloatLayout.toBinary64_of_write .document rfl neg m
    obtain ⟨d, ds, hwhole⟩ := List.exists_cons_of_ne_nil hp.whole_ne
    have hd : d.isDigit = true := by
      refine hp.whole_digits d ?_
      rw [hwhole]
      exact List.mem_cons_self
    refine readsAs_number neg (ds ++ (p.fractionText ++ p.exponentText)) ?_ hd
      fun hrest => scanNumber_float neg m hrest
    unfold FloatLayout.write
    rw [String.toList_ofList, htext, NumeralParts.text, hwhole]
    rfl

end Json
end Questionnaire
