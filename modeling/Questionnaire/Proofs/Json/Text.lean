import Questionnaire.Json.Reader
import Questionnaire.Json.Writer
import Mathlib.Algebra.Group.Nat.Defs

/-!
# Reading the text of a text

Every character of a text is written in one of four ways: as it is, by a letter after a backslash, by
one escaped unit of sixteen bits, or by two of them.  `scanText` reads each back as the character
(`scanText_textChar`), and so the characters of a whole text up to its closing quote
(`scanText_flatMap`).
-/

namespace Questionnaire

/-! ### Hexadecimal numbers -/

namespace Text

theorem hexValue?_digitChar : ∀ n < 16, hexValue? (Nat.digitChar n) = some n := by decide

theorem hexNumber?_concat (cs : List Char) (c : Char) :
    hexNumber? (cs ++ [c]) =
      (hexNumber? cs).bind fun n => (hexValue? c).map fun d => n * 16 + d := by
  unfold hexNumber?
  rw [List.foldl_append, List.foldl_cons, List.foldl_nil]
  cases cs.foldl _ (some 0) with
  | none => rfl
  | some n =>
    cases hexValue? c with
    | none => rfl
    | some d => rfl

theorem hexNumber?_toDigits (n : Nat) : hexNumber? (Nat.toDigits 16 n) = some n := by
  induction n using Nat.strongRecOn with
  | ind n ih =>
    by_cases hlt : n < 16
    · rw [Nat.toDigits_of_lt_base hlt, ← List.nil_append [_], hexNumber?_concat,
        hexValue?_digitChar n hlt]
      show some (0 * 16 + n) = some n
      rw [Nat.zero_mul, Nat.zero_add]
    · rw [Nat.toDigits_of_base_le (by decide) (by omega), hexNumber?_concat, ih (n / 16) (by omega),
        hexValue?_digitChar _ (Nat.mod_lt n (by decide))]
      show some (n / 16 * 16 + n % 16) = some n
      rw [Nat.div_add_mod']

theorem hexNumber?_zeros (k : Nat) (cs : List Char) :
    hexNumber? (List.replicate k '0' ++ cs) = hexNumber? cs := by
  induction k with
  | zero => rfl
  | succ k ih =>
    rw [List.replicate_succ, List.cons_append, ← ih]
    rfl

theorem hexNumber?_hexPadded (width n : Nat) : hexNumber? (hexPadded width n) = some n := by
  unfold hexPadded
  rw [hexNumber?_zeros, hexNumber?_toDigits]

theorem length_hexPadded {width n : Nat} (hwidth : 0 < width) (hn : n < 16 ^ width) :
    (hexPadded width n).length = width := by
  have hlength := (Nat.length_toDigits_le_iff (b := 16) (by decide) hwidth).mpr hn
  unfold hexPadded
  rw [List.length_append, List.length_replicate]
  omega

end Text

namespace Json

/-! ### One character -/

variable {start fuel : Nat} {done more : List Char}

theorem scanText_plain {c : Char} (hquote : c ≠ '"') (hbackslash : c ≠ '\\') (hc : 0x20 ≤ c.toNat)
    (place : Nat) :
    scanText start (fuel + 1) done ⟨c :: more, place⟩ =
      scanText start fuel (c :: done) ⟨more, place + 1⟩ := by
  have hcontrol : ¬c.toNat < 0x20 := by omega
  rw [scanText]
  split
  case h_6 heq =>
    obtain ⟨rfl, rfl⟩ := List.cons.inj heq
    rw [if_neg hcontrol]
  all_goals simp_all

theorem scanText_short {letter c : Char} (hletter : shortEscape? letter = some c) (place : Nat) :
    scanText start (fuel + 1) done ⟨'\\' :: letter :: more, place⟩ =
      scanText start fuel (c :: done) ⟨more, place + 2⟩ := by
  have hu : letter ≠ 'u' := by
    rintro rfl
    cases hletter
  rw [scanText]
  split
  case h_6 hletters heq =>
    obtain ⟨rfl, rfl⟩ := List.cons.inj heq
    exact absurd rfl (hletters letter more rfl)
  all_goals simp_all [Cursor.advance]

theorem unit?_append {ds : List Char} (hlength : ds.length = 4) (rest : List Char) :
    unit? (ds ++ rest) = Text.hexNumber? ds := by
  unfold unit?
  rw [if_pos (by rw [List.length_append]; omega), List.take_append_of_le_length (by omega),
    List.take_of_length_le (by omega)]

/-- A unit that is no half of a pair. -/
theorem scanText_unit {ds : List Char} (hlength : ds.length = 4) {n : Nat}
    (hn : Text.hexNumber? ds = some n) (hwhole : ¬(0xd800 ≤ n ∧ n < 0xe000)) (hmore : more ≠ [])
    (place : Nat) :
    scanText start (fuel + 1) done ⟨'\\' :: 'u' :: (ds ++ more), place⟩ =
      scanText start fuel (Char.ofNat n :: done) ⟨more, place + 6⟩ := by
  -- The text goes on behind the four digits, so the escape is complete.
  have hlong : ¬(ds ++ more).length ≤ 4 := by
    have hpos := List.length_pos_iff.mpr hmore
    rw [List.length_append]
    omega
  have hafter : Cursor.advance ⟨'\\' :: 'u' :: (ds ++ more), place⟩ 6 = ⟨more, place + 6⟩ := by
    have hlength : ('\\' :: 'u' :: ds).length = 6 := by
      rw [List.length_cons, List.length_cons, hlength]
    have htext : '\\' :: 'u' :: (ds ++ more) = ('\\' :: 'u' :: ds) ++ more := rfl
    unfold Cursor.advance
    rw [htext, ← hlength, List.drop_left]
  have hchar : unitChar n = Char.ofNat n := if_neg hwhole
  -- The unit is no half of a pair, hence the character itself.
  have hhigh : ¬(0xd800 ≤ n ∧ n < 0xdc00 ∧ 4 < more.length - 2) := by omega
  rw [scanText]
  simp only [hlong, if_false, unit?_append hlength, hn, hafter, hchar]
  split
  · rw [if_neg (by omega)]
  · rfl

/-- Both halves of a pair. -/
theorem scanText_pair {ds es : List Char} (hlength : ds.length = 4) (hlength' : es.length = 4)
    {high low : Nat} (hhigh : Text.hexNumber? ds = some high) (hlow : Text.hexNumber? es = some low)
    (hrange : 0xd800 ≤ high ∧ high < 0xdc00) (hrange' : 0xdc00 ≤ low ∧ low < 0xe000)
    (hmore : more ≠ []) (place : Nat) :
    scanText start (fuel + 1) done ⟨'\\' :: 'u' :: (ds ++ '\\' :: 'u' :: (es ++ more)), place⟩ =
      scanText start fuel (Char.ofNat (0x10000 + (high - 0xd800) * 0x400 + (low - 0xdc00)) :: done)
        ⟨more, place + 12⟩ := by
  have hpos := List.length_pos_iff.mpr hmore
  -- Both halves are there, each with its four digits and with more to come.
  have hlong : ¬(ds ++ '\\' :: 'u' :: (es ++ more)).length ≤ 4 := by
    simp only [List.length_append, List.length_cons]
    omega
  -- The second half follows at once.
  have hdrop : (ds ++ '\\' :: 'u' :: (es ++ more)).drop 4 = '\\' :: 'u' :: (es ++ more) := by
    rw [← hlength, List.drop_left]
  have hlong' : 4 < (es ++ more).length := by
    rw [List.length_append]
    omega
  have hafter : Cursor.advance ⟨'\\' :: 'u' :: (ds ++ '\\' :: 'u' :: (es ++ more)), place⟩ 12 =
      ⟨more, place + 12⟩ := by
    have htext : '\\' :: 'u' :: (ds ++ '\\' :: 'u' :: (es ++ more)) =
        ('\\' :: 'u' :: (ds ++ '\\' :: 'u' :: es)) ++ more := by simp
    have hlength : ('\\' :: 'u' :: (ds ++ '\\' :: 'u' :: es)).length = 12 := by
      simp only [List.length_cons, List.length_append]
      omega
    unfold Cursor.advance
    rw [htext, ← hlength, List.drop_left]
  rw [scanText]
  simp only [hlong, if_false, unit?_append hlength, hhigh, hdrop, hrange, hlong', and_self, if_true,
    unit?_append hlength', hlow, hrange', hafter]

theorem unitEscape_append (n : Nat) (rest : List Char) :
    unitEscape n ++ rest = '\\' :: 'u' :: (Text.hexPadded 4 n ++ rest) := rfl

theorem length_hexPadded_four {n : Nat} (hn : n < 0x10000) : (Text.hexPadded 4 n).length = 4 :=
  Text.length_hexPadded (by decide) hn

theorem length_unitEscape {n : Nat} (hn : n < 0x10000) : (unitEscape n).length = 6 := by
  unfold unitEscape
  rw [List.length_cons, List.length_cons, length_hexPadded_four hn]

/-- The escape of a character is read as the character. -/
theorem scanText_charEscape (c : Char) (hmore : more ≠ []) (place : Nat) :
    scanText start (fuel + 1) done ⟨charEscape c ++ more, place⟩ =
      scanText start fuel (c :: done) ⟨more, place + (charEscape c).length⟩ := by
  have hvalid : c.toNat < 0xd800 ∨ 0xdfff < c.toNat ∧ c.toNat < 0x110000 := c.valid
  have hchar : Char.ofNat c.toNat = c := Char.ofNat_toNat c
  by_cases hshort : c.toNat < 0x10000
  · have hescape : charEscape c = unitEscape c.toNat := if_pos hshort
    rw [hescape, unitEscape_append, length_unitEscape hshort,
      scanText_unit (length_hexPadded_four hshort) (Text.hexNumber?_hexPadded 4 _) (by omega) hmore,
      hchar]
  · -- The character is the number that the two halves share out among themselves.
    obtain ⟨high, hhigh⟩ : ∃ n, n = 0xd800 + (c.toNat - 0x10000) / 0x400 := ⟨_, rfl⟩
    obtain ⟨low, hlow⟩ : ∃ n, n = 0xdc00 + (c.toNat - 0x10000) % 0x400 := ⟨_, rfl⟩
    have hescape : charEscape c = unitEscape high ++ unitEscape low := by
      rw [hhigh, hlow]
      exact if_neg hshort
    have hcode : 0x10000 + (high - 0xd800) * 0x400 + (low - 0xdc00) = c.toNat := by omega
    have hhigh4 : high < 0x10000 := by omega
    have hlow4 : low < 0x10000 := by omega
    rw [hescape, List.append_assoc, unitEscape_append, unitEscape_append, List.length_append,
      length_unitEscape hhigh4, length_unitEscape hlow4,
      scanText_pair (length_hexPadded_four hhigh4) (length_hexPadded_four hlow4)
        (Text.hexNumber?_hexPadded 4 _) (Text.hexNumber?_hexPadded 4 _) (by omega) (by omega) hmore,
      hcode, hchar]

/-- A character of a text is read back. -/
theorem scanText_textChar (asciiOnly : Bool) (c : Char) (hmore : more ≠ []) (place : Nat) :
    scanText start (fuel + 1) done ⟨textChar asciiOnly c ++ more, place⟩ =
      scanText start fuel (c :: done) ⟨more, place + (textChar asciiOnly c).length⟩ := by
  -- Seven characters have a short escape; the others are escaped by their number or stand as they
  -- are.
  have hshort {letter d : Char} (hletter : shortEscape? letter = some d) (hd : d = c) :
      scanText start (fuel + 1) done ⟨['\\', letter] ++ more, place⟩ =
        scanText start fuel (c :: done) ⟨more, place + 2⟩ := by
    rw [← hd]
    exact scanText_short hletter place
  have hofNat : Char.ofNat c.toNat = c := Char.ofNat_toNat c
  unfold textChar
  split
  · exact hshort rfl (Eq.symm ‹_›)
  split
  · exact hshort rfl (Eq.symm ‹_›)
  split
  · exact hshort rfl (Eq.symm ‹_›)
  split
  · exact hshort rfl (Eq.symm ‹_›)
  split
  · exact hshort rfl (Eq.symm ‹_›)
  split
  · rename_i hc
    rw [hc] at hofNat
    exact hshort rfl hofNat
  split
  · rename_i hc
    rw [hc] at hofNat
    exact hshort rfl hofNat
  split
  · exact scanText_charEscape c hmore place
  · exact scanText_plain ‹_› ‹_› (by omega) place

theorem charEscape_ne_nil (c : Char) : charEscape c ≠ [] := by
  by_cases hshort : c.toNat < 0x10000
  · have hescape : charEscape c = unitEscape c.toNat := if_pos hshort
    rw [hescape]
    exact List.cons_ne_nil _ _
  · have hescape : charEscape c = unitEscape (0xd800 + (c.toNat - 0x10000) / 0x400) ++
        unitEscape (0xdc00 + (c.toNat - 0x10000) % 0x400) := if_neg hshort
    rw [hescape]
    exact List.cons_ne_nil _ _

theorem textChar_ne_nil (asciiOnly : Bool) (c : Char) : textChar asciiOnly c ≠ [] := by
  unfold textChar
  iterate 7
    split
    · exact List.cons_ne_nil _ _
  split
  · exact charEscape_ne_nil c
  · exact List.cons_ne_nil _ _

theorem length_le_flatMap_textChar (asciiOnly : Bool) (cs : List Char) :
    cs.length ≤ (cs.flatMap (textChar asciiOnly)).length := by
  induction cs with
  | nil => exact Nat.zero_le 0
  | cons c cs ih =>
    have hc := List.length_pos_iff.mpr (textChar_ne_nil asciiOnly c)
    rw [List.flatMap_cons, List.length_append, List.length_cons]
    omega

/-- The characters of a text are read back up to its closing quote. -/
theorem scanText_flatMap (asciiOnly : Bool) {cs rest : List Char} (hfuel : cs.length < fuel)
    (place : Nat) :
    let text := cs.flatMap (textChar asciiOnly) ++ ['"']
    scanText start fuel done ⟨text ++ rest, place⟩ =
      .ok (done.reverse ++ cs, ⟨rest, place + text.length⟩) := by
  -- By induction on the text: one character is read for each step of the fuel, and one step is left
  -- for the quote.
  induction cs generalizing fuel done place with
  | nil =>
    obtain ⟨fuel, rfl⟩ : ∃ k, fuel = k + 1 := ⟨fuel - 1, by simp at hfuel; omega⟩
    rw [List.append_nil]
    rfl
  | cons c cs ih =>
    obtain ⟨fuel, rfl⟩ : ∃ k, fuel = k + 1 := ⟨fuel - 1, by simp at hfuel; omega⟩
    intro text
    have htext : text ++ rest =
        textChar asciiOnly c ++ (cs.flatMap (textChar asciiOnly) ++ ['"'] ++ rest) := by simp [text]
    have hlength : text.length = (textChar asciiOnly c).length +
        (cs.flatMap (textChar asciiOnly) ++ ['"']).length := by
      simp only [text, List.flatMap_cons, List.length_append]
      omega
    rw [htext, scanText_textChar asciiOnly c (by simp) place, ih (Nat.lt_of_succ_lt_succ hfuel), hlength,
      List.reverse_cons, List.append_assoc, Nat.add_assoc]
    rfl

end Json
end Questionnaire
