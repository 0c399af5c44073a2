import Questionnaire.Number.Numeral
import Questionnaire.Proofs.Number.Digits
import Mathlib.Data.List.TakeDrop
import Mathlib.Data.List.TakeWhile
import Mathlib.Tactic.FinCases
import Mathlib.Tactic.IntervalCases

/-!
# The grammar of numerals

A numeral is a sign or none, digits with a point among them or without, and an exponent or none
(`IsNumeral`).  These are the texts that are read as numerals (`Numeral.isSome_read?_iff`), and each part
is read on its own (`Numeral.read?_whole`, `Numeral.read?_point`).

A sign and a row of digits are also read as a whole number, unless there are too many digits
(`Integer.read_digits`).
-/

namespace Questionnaire

/-! ### Rows of digits in a text -/

/-- What follows a row of digits does not go on with it. -/
def EndsDigits (rest : List Char) : Prop := ∀ c, rest.head? = some c → c.isDigit = false

variable {cs ds fs rest x : List Char}

theorem takeWhile_digits (hds : IsDigits ds) (hrest : EndsDigits rest) :
    (ds ++ rest).takeWhile Char.isDigit = ds := by
  rw [List.takeWhile_append_of_pos hds]
  cases rest with
  | nil => simp
  | cons c cs => simp [hrest c rfl]

theorem span_digits (hds : IsDigits ds) (hrest : EndsDigits rest) :
    (ds ++ rest).span Char.isDigit = (ds, rest) := by
  rw [List.span_eq_takeWhile_dropWhile, takeWhile_digits hds hrest,
    List.dropWhile_append_of_pos hds]
  cases rest with
  | nil => rfl
  | cons c cs => simp [hrest c rfl]

/-- Taking digits off the front leaves the rest. -/
theorem exists_of_span (cs : List Char) : ∃ ds rest, cs.span Char.isDigit = (ds, rest) ∧
    cs = ds ++ rest ∧ IsDigits ds ∧ EndsDigits rest := by
  refine ⟨cs.takeWhile Char.isDigit, cs.dropWhile Char.isDigit,
    List.span_eq_takeWhile_dropWhile _ cs, List.takeWhile_append_dropWhile.symm, fun c hc => ?_, fun c hc => ?_⟩
  · exact List.mem_takeWhile_imp hc
  · have hhead := List.head?_dropWhile_not Char.isDigit cs
    rw [hc] at hhead
    exact hhead

theorem isDigit_ne {c d : Char} (hc : c.isDigit = true) (hd : d.isDigit = false) : c ≠ d := by
  rintro rfl
  exact Bool.false_ne_true (hd.symm.trans hc)

/-! ### Signs -/

/-- A sign as it is written, `true` standing for a minus. -/
def signText : Option Bool → List Char
  | none => []
  | some false => ['+']
  | some true => ['-']

theorem takeSign_signText (sign : Option Bool) (hminus : cs.head? ≠ some '-')
    (hplus : cs.head? ≠ some '+') : takeSign (signText sign ++ cs) = (sign == some true, cs) := by
  rcases sign with _ | _ | _
  · show takeSign cs = (false, cs)
    unfold takeSign
    split
    · exact absurd rfl hminus
    · exact absurd rfl hplus
    · rfl
  · rfl
  · rfl

theorem takeSign_digits (sign : Option Bool) (hds : IsDigits ds) (hne : ds ≠ []) (rest : List Char) :
    takeSign (signText sign ++ (ds ++ rest)) = (sign == some true, ds ++ rest) := by
  obtain ⟨c, cs, rfl⟩ := List.exists_cons_of_ne_nil hne
  have hc := hds c List.mem_cons_self
  exact takeSign_signText sign (fun h => isDigit_ne hc (by decide) (Option.some.inj h))
    fun h => isDigit_ne hc (by decide) (Option.some.inj h)

/-- Taking a sign off the front leaves the rest. -/
theorem exists_signText (cs : List Char) : ∃ sign, cs = signText sign ++ (takeSign cs).2 := by
  unfold takeSign
  split
  · exact ⟨some true, rfl⟩
  · exact ⟨some false, rfl⟩
  · exact ⟨none, rfl⟩

/-! ### Exponents -/

/-- The exponent part of a numeral: nothing, or a letter e with a sign or none and digits. -/
inductive IsExponent : List Char → Prop
  | none : IsExponent []
  | some {e : Char} (he : e = 'e' ∨ e = 'E') (sign : Option Bool) {ds : List Char}
      (digits : IsDigits ds) (ne : ds ≠ []) : IsExponent (e :: (signText sign ++ ds))

namespace Numeral

/-- An exponent is read where one is written. -/
theorem isSome_readExponent?_iff : (readExponent? x).isSome ↔ IsExponent x := by
  constructor
  · intro h
    cases x with
    | nil => exact .none
    | cons e rest =>
      obtain ⟨sign, hrest⟩ := exists_signText rest
      unfold readExponent? at h
      dsimp only at h
      split at h
      · next hdigits =>
        rw [hrest]
        exact .some hdigits.1 sign (List.all_eq_true.mp hdigits.2.2) hdigits.2.1
      · cases h
  · rintro (_ | ⟨he, sign, hds, hne⟩)
    · rfl
    · have hsign := takeSign_digits sign hds hne []
      rw [List.append_nil] at hsign
      unfold readExponent?
      dsimp only
      rw [hsign, if_pos ⟨he, hne, hds.all⟩]
      rfl

end Numeral

theorem IsExponent.head_ne (h : IsExponent x) {c : Char} (hc : x.head? = Option.some c) :
    c.isDigit = false ∧ c ≠ '.' := by
  cases h with
  | none => cases hc
  | some he =>
    cases hc
    rcases he with rfl | rfl <;> decide

theorem IsExponent.endsDigits (h : IsExponent x) : EndsDigits x := fun _ hc => (h.head_ne hc).1

/-! ### Numerals -/

/-- The digits of a numeral: a row of them, or a point with digits on one side of it at least. -/
inductive IsMantissa : List Char → Prop
  | whole {ds : List Char} (digits : IsDigits ds) (ne : ds ≠ []) : IsMantissa ds
  | point {ds fs : List Char} (digits : IsDigits ds) (fraction : IsDigits fs)
      (ne : ds ≠ [] ∨ fs ≠ []) : IsMantissa (ds ++ '.' :: fs)

/-- The text of a decimal numeral. -/
inductive IsNumeral : List Char → Prop
  | parts (sign : Option Bool) {m x : List Char} (mantissa : IsMantissa m) (exponent : IsExponent x) :
      IsNumeral (signText sign ++ (m ++ x))

namespace Numeral

/-- A row of digits is read as such. -/
theorem read?_whole (sign : Option Bool) (hds : IsDigits ds) (hne : ds ≠ []) (hx : IsExponent x) :
    read? (signText sign ++ (ds ++ x)) =
      (readExponent? x).map fun exp => ⟨sign == some true, digitsValue ds, exp⟩ := by
  unfold read?
  rw [takeSign_digits sign hds hne x]
  dsimp only
  rw [span_digits hds hx.endsDigits]
  cases hx with
  | none => simp [hne]
  | some he => rcases he with rfl | rfl <;> simp [hne]

/-- Digits around a point are read as one row. -/
theorem read?_point (sign : Option Bool) (hds : IsDigits ds) (hfs : IsDigits fs)
    (hne : ds ≠ [] ∨ fs ≠ []) (hx : IsExponent x) :
    read? (signText sign ++ (ds ++ '.' :: fs ++ x)) = (readExponent? x).map fun exp =>
      ⟨sign == some true, digitsValue (ds ++ fs), exp - fs.length⟩ := by
  -- The sign is not mistaken for a digit, whether the numeral starts with one or with its point.
  have hsign : takeSign (signText sign ++ (ds ++ '.' :: (fs ++ x))) =
      (sign == some true, ds ++ '.' :: (fs ++ x)) := by
    by_cases hds' : ds = []
    · rw [hds']
      exact takeSign_signText sign (by simp) (by simp)
    · exact takeSign_digits sign hds hds' _
  have hpoint : EndsDigits ('.' :: (fs ++ x)) := by
    rintro c ⟨⟩
    rfl
  rw [List.append_assoc, List.cons_append]
  unfold read?
  rw [hsign]
  dsimp only
  rw [span_digits hds hpoint]
  simp only [span_digits hfs hx.endsDigits]
  exact if_neg fun h => hne.elim (absurd h.1) (absurd h.2)

/-- What is read as a numeral is what the grammar has. -/
theorem isSome_read?_iff : (read? cs).isSome ↔ IsNumeral cs := by
  constructor
  -- The sign, the whole part and what follows it are what the reader takes off in turn.
  · intro h
    obtain ⟨sign, hcs⟩ := exists_signText cs
    obtain ⟨ds, rest, hspan, hbody, hds, -⟩ := exists_of_span (takeSign cs).2
    unfold read? at h
    dsimp only at h
    rw [hspan] at h
    dsimp only at h
    rw [hcs, hbody]
    -- With a point, a fraction and the exponent are left; without one, the exponent.
    split at h
    · next rest =>
      obtain ⟨fs, x, hspan, rfl, hfs, -⟩ := exists_of_span rest
      rw [hspan] at h
      dsimp only at h
      split at h
      · cases h
      · next hne =>
        rw [Option.isSome_map, isSome_readExponent?_iff] at h
        have := IsNumeral.parts sign (.point hds hfs (not_and_or.mp hne)) h
        rwa [List.append_assoc] at this
    · dsimp only at h
      split at h
      · cases h
      · next hne =>
        rw [Option.isSome_map, isSome_readExponent?_iff] at h
        exact .parts sign (.whole hds fun hds => hne ⟨hds, rfl⟩) h
  -- A numeral has one of two mantissas, and each is read.
  · rintro ⟨sign, hm, hx⟩
    cases hm with
    | whole hds hne =>
      rw [read?_whole sign hds hne hx, Option.isSome_map]
      exact isSome_readExponent?_iff.mpr hx
    | point hds hfs hne =>
      rw [read?_point sign hds hfs hne hx, Option.isSome_map]
      exact isSome_readExponent?_iff.mpr hx

end Numeral

/-! ### Trimming -/

namespace Text

variable {p : Char → Bool} {before after : List Char}

/-- The characters of a class do not stand at the ends of a text. -/
def IsTrimmed (p : Char → Bool) (cs : List Char) : Prop :=
  (∀ c, cs.head? = some c → p c = false) ∧ ∀ c, cs.getLast? = some c → p c = false

theorem dropWhile_append_of_head (hbefore : ∀ c ∈ before, p c = true)
    (hcs : ∀ c, cs.head? = some c → p c = false) : (before ++ cs).dropWhile p = cs := by
  rw [List.dropWhile_append_of_pos hbefore]
  cases cs with
  | nil => rfl
  | cons c cs => rw [List.dropWhile_cons_of_neg (by rw [hcs c rfl]; decide)]

/-- Trimming takes off what is around a trimmed text. -/
theorem trim_append (hbefore : ∀ c ∈ before, p c = true) (hcs : IsTrimmed p cs) (hne : cs ≠ [])
    (hafter : ∀ c ∈ after, p c = true) : trim p (before ++ (cs ++ after)) = cs := by
  have hhead : ∀ c, (cs ++ after).head? = some c → p c = false := by
    obtain ⟨c, cs, rfl⟩ := List.exists_cons_of_ne_nil hne
    exact hcs.1
  have hlast : ∀ c, cs.reverse.head? = some c → p c = false := by
    rw [List.head?_reverse]
    exact hcs.2
  unfold trim
  rw [dropWhile_append_of_head hbefore hhead, List.reverse_append,
    dropWhile_append_of_head (fun c hc => hafter c (List.mem_reverse.mp hc)) hlast,
    List.reverse_reverse]

theorem trim_of_isTrimmed (hcs : IsTrimmed p cs) (hne : cs ≠ []) : trim p cs = cs := by
  have h : trim p ([] ++ (cs ++ [])) = cs := trim_append nofun hcs hne nofun
  rwa [List.nil_append, List.append_nil] at h

end Text

/-! ### Whole numbers -/

/-- The characters that a sign and digits consist of. -/
def wholeCharacters : List Char := "+-0123456789".toList

theorem mem_wholeCharacters_of_isDigit {c : Char} (h : c.isDigit = true) : c ∈ wholeCharacters := by
  obtain ⟨hlow, hhigh⟩ := isDigit_iff.mp h
  rw [← Char.ofNat_toNat c]
  generalize c.toNat = n at hlow hhigh
  interval_cases n <;> decide

theorem mem_wholeCharacters (sign : Option Bool) (hds : IsDigits ds) :
    ∀ c ∈ signText sign ++ ds, c ∈ wholeCharacters := by
  intro c hc
  rcases List.mem_append.mp hc with hc | hc
  · rcases sign with _ | _ | _
    · cases hc
    all_goals
      rw [List.mem_singleton.mp hc]
      decide
  · exact mem_wholeCharacters_of_isDigit (hds c hc)

/-- None of these characters is blank, is written differently in ASCII or groups digits. -/
theorem wholeCharacters_plain : ∀ c ∈ wholeCharacters,
    Text.isBlank c = false ∧ asciiDigits [c] = [c] ∧ c ≠ '_' := by
  intro c hc
  fin_cases hc <;> decide

theorem isWhiteSpace_of_isBlank {c : Char} (h : Text.isBlank c = false) :
    Text.isWhiteSpace c = false :=
  (Bool.or_eq_false_iff.mp h).1

theorem isTrimmed_whole {p : Char → Bool} (hp : ∀ c ∈ wholeCharacters, p c = false)
    (h : ∀ c ∈ cs, c ∈ wholeCharacters) : Text.IsTrimmed p cs :=
  ⟨fun c hc => hp c (h c (List.mem_of_head? hc)), fun c hc => hp c (h c (List.mem_of_getLast? hc))⟩

theorem asciiDigits_whole (h : ∀ c ∈ cs, c ∈ wholeCharacters) : asciiDigits cs = cs := by
  induction cs with
  | nil => rfl
  | cons c cs ih =>
    have hc := (wholeCharacters_plain c (h c List.mem_cons_self)).2.1
    have hcs := ih fun d hd => h d (List.mem_cons_of_mem c hd)
    rw [← List.singleton_append, asciiDigits, List.map_append]
    exact congrArg₂ (· ++ ·) hc hcs

theorem ungroup?_of_not_mem (h : '_' ∉ cs) : ungroup? cs = some cs := by
  fun_induction ungroup? cs with
  | case1 => rfl
  | case2 => simp at h
  | case3 => simp at h
  | case4 => simp at h
  | case5 c rest _ _ ih =>
    rw [ih fun hmem => h (List.mem_cons_of_mem c hmem)]
    rfl

theorem groupedDigits?_digits (hds : IsDigits ds) (hne : ds ≠ []) : groupedDigits? ds = some ds := by
  obtain ⟨c, cs, rfl⟩ := List.exists_cons_of_ne_nil hne
  have hungroup : ungroup? (c :: cs) = some (c :: cs) :=
    ungroup?_of_not_mem fun h => by simpa using hds _ h
  unfold groupedDigits?
  rw [hungroup]
  exact if_pos hds.all

/-- A sign and digits are read as a whole number if there are not too many of them. -/
theorem Integer.read_digits (sign : Option Bool) (hds : IsDigits ds) (hne : ds ≠ []) :
    Integer.read (String.ofList (signText sign ++ ds)) =
      if maxDigits < ds.length then .tooLong ds.length
      else .value (signed (sign == some true) (digitsValue ds)) := by
  have hmem := mem_wholeCharacters sign hds
  have htrim := Text.trim_of_isTrimmed (isTrimmed_whole (p := Text.isWhiteSpace)
    (fun c hc => isWhiteSpace_of_isBlank (wholeCharacters_plain c hc).1) hmem) (by simp [hne])
  have hsign := takeSign_digits sign hds hne []
  rw [List.append_nil] at hsign
  unfold Integer.read
  rw [String.toList_ofList, asciiDigits_whole hmem, htrim, hsign]
  dsimp only
  rw [groupedDigits?_digits hds hne]

end Questionnaire
