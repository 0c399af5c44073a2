import Mathlib.Data.List.Chain
import Mathlib.Tactic.FinCases
import Questionnaire.Proofs.Number.Digits
import Questionnaire.Proofs.Pattern.Language
import Questionnaire.Proofs.Text.LetterCase
import Questionnaire.Proofs.Validation.Verdict

/-!
# The grammar of email addresses

An address is a name, an at sign, and a domain of labels with dots after them and a last part of letters
(`Email.IsAddress`).  What counts as a letter is a parameter of the grammar.

The check of email fields accepts the language of this grammar with `Email.Folded` for the letters
(`Email.isAddress_iff`): since case is ignored in all scripts, four letters outside of ASCII pass for the
ASCII letters of which they are case variants.  So a field accepts the addresses over ASCII letters, and
those that have one of the four somewhere (`Field.checksAddress_iff_and_refuses`).
-/

namespace Questionnaire
namespace Email

open Pattern

/-! ### The grammar -/

section Grammar

variable (letter : Char → Prop)

/-- A letter or a digit. -/
def Alphanumeric (c : Char) : Prop := letter c ∨ c.isDigit = true

/-- What a name consists of. -/
def NameChar (c : Char) : Prop := Alphanumeric letter c ∨ c ∈ ['_', '\'', '+', '-', '.']

/-- What a name may end with. -/
def NameEnd (c : Char) : Prop := Alphanumeric letter c ∨ c ∈ ['_', '+', '-']

/-- What a label goes on with. -/
def LabelChar (c : Char) : Prop := Alphanumeric letter c ∨ c = '-'

instance [DecidablePred letter] : DecidablePred (Alphanumeric letter) := fun _ =>
  inferInstanceAs (Decidable (_ ∨ _))

instance [DecidablePred letter] : DecidablePred (NameChar letter) := fun _ =>
  inferInstanceAs (Decidable (_ ∨ _))

instance [DecidablePred letter] : DecidablePred (NameEnd letter) := fun _ =>
  inferInstanceAs (Decidable (_ ∨ _))

instance [DecidablePred letter] : DecidablePred (LabelChar letter) := fun _ =>
  inferInstanceAs (Decidable (_ ∨ _))

/-- A name, in which dots stand between other characters. -/
@[mk_iff]
structure IsName (cs : List Char) : Prop where
  characters : ∀ c ∈ cs, NameChar letter c
  first : cs.head? ≠ some '.'
  dots : ¬['.', '.'] <:+: cs
  last : ∃ c ∈ cs.getLast?, NameEnd letter c

instance [DecidablePred letter] : DecidablePred (IsName letter) := fun cs =>
  haveI : Decidable (∀ c ∈ cs, NameChar letter c) := List.decidableBAll _ cs
  haveI : Decidable (∃ c ∈ cs.getLast?, NameEnd letter c) := Option.decidableExistsMem _
  decidable_of_iff' _ (isName_iff letter cs)

/-- A label of a domain. -/
def IsLabel (cs : List Char) : Prop :=
  ∃ c rest, cs = c :: rest ∧ Alphanumeric letter c ∧ ∀ d ∈ rest, LabelChar letter d

/-- The last part of a domain. -/
def IsTop (cs : List Char) : Prop := 2 ≤ cs.length ∧ ∀ c ∈ cs, letter c

theorem isLabel_cons_iff {c : Char} {rest : List Char} :
    IsLabel letter (c :: rest) ↔ Alphanumeric letter c ∧ ∀ d ∈ rest, LabelChar letter d := by
  simp [IsLabel]

instance [DecidablePred letter] : DecidablePred (IsLabel letter)
  | [] => isFalse nofun
  | _ :: rest =>
    haveI : Decidable (∀ d ∈ rest, LabelChar letter d) := List.decidableBAll _ rest
    decidable_of_iff' _ (isLabel_cons_iff letter)

instance [DecidablePred letter] : DecidablePred (IsTop letter) := fun cs =>
  haveI : Decidable (∀ c ∈ cs, letter c) := List.decidableBAll _ cs
  inferInstanceAs (Decidable (_ ∧ _))

/-- Labels with a dot after each, and the last part of the domain. -/
def domain (labels : List (List Char)) (top : List Char) : List Char :=
  labels.flatMap (· ++ ['.']) ++ top

/-- An email address over some letters. -/
inductive IsAddress : List Char → Prop
  | parts {name : List Char} {labels : List (List Char)} {top : List Char} (hname : IsName letter name)
      (hne : labels ≠ []) (hlabels : ∀ l ∈ labels, IsLabel letter l) (htop : IsTop letter top) :
      IsAddress (name ++ '@' :: domain labels top)

end Grammar

/-! ### Letters -/

/-- Letters of other scripts that are case variants of ASCII letters. -/
def otherLetters : List Char := ['\u0130', '\u0131', '\u017f', '\u212a']

/-- An ASCII letter, or a case variant of one. -/
def Folded (c : Char) : Prop := c.isAlpha = true ∨ c ∈ otherLetters

instance : DecidablePred Folded := fun _ => inferInstanceAs (Decidable (_ ∨ _))

theorem folded_iff {c : Char} : Folded c ↔ c.toNat ∈ Text.foldedLetters := by
  have hother : c ∈ otherLetters ↔ c.toNat ∈ Text.foreignLetters := by
    simp [otherLetters, Text.foreignLetters, ← Char.toNat_inj]
  have hascii : c.isAlpha = true ↔ c.toNat ∈ List.range' 0x41 26 ++ List.range' 0x61 26 := by
    show (decide ('A'.val ≤ c.val ∧ c.val ≤ 'Z'.val) ||
      (decide ('a'.val ≤ c.val) && decide (c.val ≤ 'z'.val))) = true ↔ _
    simp [UInt32.le_iff_toNat_le, List.mem_range'_1]
    omega
  rw [Folded, hother, hascii, Text.foldedLetters]
  exact List.mem_append.symm

/-! ### Sets of characters -/

/-- The modes of the pattern for addresses. -/
def modes : Modes := .ofFlags ['i']

theorem variants_modes (n : Nat) : modes.variants n = Text.caseClass n := rfl

/-- A character without variants is met by itself only. -/
theorem holds_char_iff {c d : Char} (hd : d.toNat ∈ Text.caselessCharacters) :
    (SetItem.char d.toNat).holds modes c.toNat = true ↔ c = d := by
  rw [SetItem.holds, variants_modes, List.contains_iff_mem, Text.mem_caseClass_of_caseless hd,
    Char.toNat_inj]

theorem holds_letters_iff {c : Char} :
    (between 'A' 'Z').holds modes c.toNat = true ↔ Folded c := by
  rw [folded_iff, ← Text.exists_capital_iff, between, SetItem.holds, variants_modes, List.any_eq_true]
  simp only [Bool.and_eq_true, decide_eq_true_eq]
  rfl

theorem holds_digits_iff {c : Char} :
    (between '0' '9').holds modes c.toNat = true ↔ c.isDigit = true := by
  rw [isDigit_iff, between, SetItem.holds, variants_modes, List.any_eq_true]
  simp only [Bool.and_eq_true, decide_eq_true_eq]
  constructor
  · rintro ⟨n, hn, hlow, hhigh⟩
    have hmem : n ∈ Text.caselessCharacters :=
      List.mem_append_left _ (List.mem_range'_1.mpr ⟨hlow, Nat.lt_succ_of_le hhigh⟩)
    rw [(Text.mem_caseClass_of_caseless hmem).mp hn]
    exact ⟨hlow, hhigh⟩
  · rintro ⟨hlow, hhigh⟩
    exact ⟨c.toNat, Text.mem_caseClass_self _, hlow, hhigh⟩

/-- The character is in a set. -/
def Meets (items : List SetItem) (c : Char) : Prop := ∃ i ∈ items, i.holds modes c.toNat = true

theorem meets_cons_iff {i : SetItem} {items : List SetItem} {c : Char} :
    Meets (i :: items) c ↔ i.holds modes c.toNat = true ∨ Meets items c := by
  simp [Meets]

theorem not_meets_nil {c : Char} : ¬Meets [] c := by
  simp [Meets]

theorem holds_exactly_iff {c d : Char} (hd : d.toNat ∈ Text.caselessCharacters) :
    (exactly d).holds modes c.toNat = true ↔ c = d := holds_char_iff hd

theorem meets_localItems {c : Char} : Meets localItems c ↔ NameChar Folded c := by
  simp (disch := decide) only [localItems, meets_cons_iff, not_meets_nil, holds_letters_iff,
    holds_digits_iff, holds_exactly_iff]
  simp [NameChar, Alphanumeric, or_assoc]

theorem meets_localEndItems {c : Char} : Meets localEndItems c ↔ NameEnd Folded c := by
  simp (disch := decide) only [localEndItems, meets_cons_iff, not_meets_nil, holds_letters_iff,
    holds_digits_iff, holds_exactly_iff]
  simp [NameEnd, Alphanumeric, or_assoc]

theorem meets_labelStartItems {c : Char} : Meets labelStartItems c ↔ Alphanumeric Folded c := by
  simp only [labelStartItems, meets_cons_iff, not_meets_nil, holds_letters_iff, holds_digits_iff]
  simp [Alphanumeric]

theorem meets_labelItems {c : Char} : Meets labelItems c ↔ LabelChar Folded c := by
  simp (disch := decide) only [labelItems, meets_cons_iff, not_meets_nil, holds_letters_iff,
    holds_digits_iff, holds_exactly_iff]
  simp [LabelChar, Alphanumeric, or_assoc]

theorem meets_letters {c : Char} : Meets [between 'A' 'Z'] c ↔ Folded c := by
  simp only [meets_cons_iff, not_meets_nil, holds_letters_iff, or_false]

/-! ### The language of the pattern -/

/-- What the pattern has after its look-aheads. -/
def shape : List Node := pattern.nodes.drop 2

theorem single_congr {P Q : Char → Prop} (h : ∀ c, P c ↔ Q c) : single P = single Q :=
  congrArg single (funext fun c => propext (h c))

variable {items : List SetItem} {P : Char → Prop}

theorem oneOf_language (h : ∀ c, Meets items c ↔ P c) :
    (Node.oneOf false items).language ['i'] = single P := by
  refine single_congr fun c => Iff.trans ?_ (h c)
  rw [Bool.bne_false, List.any_eq_true]
  rfl

theorem many_language (min : Nat) (h : ∀ c, Meets items c ↔ P c) :
    (many min items).language ['i'] = rounds min none (single P) := by
  show rounds min none ((Node.oneOf false items).language ['i'] * 1) = _
  rw [oneOf_language h, mul_one]

theorem char_language {d : Char} (hd : d.toNat ∈ Text.caselessCharacters) :
    (Node.char d.toNat).language ['i'] = single (· = d) :=
  single_congr fun _ => holds_char_iff hd

/-- The words of a label with the dot after it. -/
def labelWords : Language Char :=
  single (Alphanumeric Folded) * (rounds 0 none (single (LabelChar Folded)) * single (· = '.'))

theorem shape_language : sequenceLanguage ['i'] shape =
    rounds 0 none (single (NameChar Folded)) * (single (NameEnd Folded) * (single (· = '@') *
      (rounds 1 none labelWords * rounds 2 none (single Folded)))) := by
  show (many 0 localItems).language ['i'] * 1 * ((Node.oneOf false localEndItems).language ['i'] *
    ((Node.char '@'.toNat).language ['i'] *
      (rounds 1 none ((Node.oneOf false labelStartItems).language ['i'] *
        ((many 0 labelItems).language ['i'] * (dot.language ['i'] * 1)) * 1) *
        ((many 2 [between 'A' 'Z']).language ['i'] * 1)))) = _
  rw [many_language 0 fun _ => meets_localItems, many_language 0 fun _ => meets_labelItems,
    many_language 2 fun _ => meets_letters, oneOf_language fun _ => meets_localEndItems,
    oneOf_language fun _ => meets_labelStartItems, char_language (by decide), dot,
    char_language (by decide), mul_one, mul_one, mul_one, mul_one]
  rfl

theorem isRegular_many (min : Nat) (items : List SetItem) : (many min items).IsRegular ['i'] :=
  ⟨rfl, ⟨trivial, trivial⟩, nil_notMem_single_mul _ 1⟩

theorem isRegular_shape : IsRegularSequence ['i'] shape := by
  have hlabel : [] ∉ sequenceLanguage ['i'] [.group (some 2) [] []
      [.oneOf false labelStartItems, many 0 labelItems, dot]] := by
    show [] ∉ single _ * _ * 1
    rw [mul_one]
    exact nil_notMem_single_mul _ _
  exact ⟨⟨isRegular_many 0 _, trivial⟩, trivial, trivial,
    ⟨rfl, ⟨⟨trivial, isRegular_many 0 _, trivial, trivial⟩, trivial⟩, hlabel⟩, isRegular_many 2 _, trivial⟩

/-! ### The words of the language -/

theorem mem_rounds_none {min : Nat} {cs : List Char} :
    cs ∈ rounds min none (single P) ↔ min ≤ cs.length ∧ ∀ c ∈ cs, P c := by
  rw [mem_rounds_single, Allows]
  simp

theorem mem_labelWords {w : List Char} :
    w ∈ labelWords ↔ ∃ l, IsLabel Folded l ∧ w = l ++ ['.'] := by
  constructor
  · rintro ⟨_, ⟨c, hc, rfl⟩, _, ⟨rest, hrest, _, ⟨_, rfl, rfl⟩, rfl⟩, rfl⟩
    exact ⟨c :: rest, ⟨c, rest, rfl, hc, (mem_rounds_none.mp hrest).2⟩, rfl⟩
  · rintro ⟨_, ⟨c, rest, rfl, hc, hrest⟩, rfl⟩
    refine ⟨[c], ⟨c, hc, rfl⟩, rest ++ ['.'], ⟨rest, mem_rounds_none.mpr ⟨Nat.zero_le _, hrest⟩,
      ['.'], ⟨'.', rfl, rfl⟩, rfl⟩, rfl⟩

/-- Labels, each with a dot after it. -/
theorem mem_rounds_labelWords {cs : List Char} : cs ∈ rounds 1 none labelWords ↔
    ∃ labels : List (List Char), labels ≠ [] ∧ (∀ l ∈ labels, IsLabel Folded l) ∧
      cs = labels.flatMap (· ++ ['.']) := by
  rw [mem_rounds]
  -- Each round reads a label and the dot behind it.
  constructor
  · rintro ⟨words, ⟨hne, -⟩, hwords, rfl⟩
    refine ⟨words.map List.dropLast, ?_, fun l hl => ?_, ?_⟩
    · rw [Ne, List.map_eq_nil_iff, ← List.length_eq_zero_iff]
      omega
    · obtain ⟨w, hw, rfl⟩ := List.mem_map.mp hl
      obtain ⟨l, hl, rfl⟩ := mem_labelWords.mp (hwords w hw)
      rwa [List.dropLast_concat]
    · rw [List.flatMap_def, List.map_map]
      have hself : ∀ w ∈ words, ((· ++ ['.']) ∘ List.dropLast) w = w := by
        intro w hw
        obtain ⟨l, -, rfl⟩ := mem_labelWords.mp (hwords w hw)
        rw [Function.comp, List.dropLast_concat]
      rw [List.map_congr_left hself, List.map_id']
  · rintro ⟨labels, hne, hlabels, rfl⟩
    refine ⟨labels.map (· ++ ['.']), ⟨?_, by simp⟩, fun w hw => ?_, List.flatMap_def ..⟩
    · rw [List.length_map]
      exact List.length_pos_iff.mpr hne
    · obtain ⟨l, hl, rfl⟩ := List.mem_map.mp hw
      exact mem_labelWords.mpr ⟨l, hlabels l hl, rfl⟩

/-- A text in the shape of an address: a name whose last character is told apart, and a domain. -/
theorem mem_shape {cs : List Char} : cs ∈ sequenceLanguage ['i'] shape ↔
    ∃ front last labels top, cs = (front ++ [last]) ++ '@' :: domain labels top ∧
      (∀ c ∈ front, NameChar Folded c) ∧ NameEnd Folded last ∧ labels ≠ [] ∧
      (∀ l ∈ labels, IsLabel Folded l) ∧ IsTop Folded top := by
  rw [shape_language]
  constructor
  · rintro ⟨front, hfront, _, ⟨_, ⟨last, hlast, rfl⟩, _, ⟨_, ⟨_, rfl, rfl⟩, _,
      ⟨_, hwords, top, htop, rfl⟩, rfl⟩, rfl⟩, rfl⟩
    obtain ⟨labels, hne, hlabels, rfl⟩ := mem_rounds_labelWords.mp hwords
    refine ⟨front, last, labels, top, ?_, (mem_rounds_none.mp hfront).2, hlast, hne, hlabels,
      mem_rounds_none.mp htop⟩
    simp [domain]
  · rintro ⟨front, last, labels, top, rfl, hfront, hlast, hne, hlabels, htop⟩
    refine ⟨front, mem_rounds_none.mpr ⟨Nat.zero_le _, hfront⟩, _, ⟨[last], ⟨last, hlast, rfl⟩, _,
      ⟨['@'], ⟨'@', rfl, rfl⟩, _, ⟨_, mem_rounds_labelWords.mpr ⟨labels, hne, hlabels, rfl⟩, top,
        mem_rounds_none.mpr htop, rfl⟩, rfl⟩, rfl⟩, ?_⟩
    simp [domain]

/-! ### Looking ahead for dots -/

/-- A dot stands at the start. -/
theorem exists_dot_iff {cs : List Char} :
    (∃ w ∈ sequenceLanguage ['i'] [dot], w <+: cs) ↔ cs.head? = some '.' := by
  have hdot : sequenceLanguage ['i'] [dot] = single (· = '.') := by
    show dot.language ['i'] * 1 = _
    rw [dot, char_language (by decide), mul_one]
  rw [hdot]
  constructor
  · rintro ⟨_, ⟨_, rfl, rfl⟩, t, rfl⟩
    rfl
  · intro h
    obtain ⟨t, rfl⟩ := List.head?_eq_some_iff.mp h
    exact ⟨['.'], ⟨'.', rfl, rfl⟩, t, rfl⟩

theorem any_language : Node.any.language ['i'] = single (· ≠ '\n') := by
  refine single_congr fun c => ?_
  have hbreak : c = '\n' ↔ c.toNat = 0xa := Char.toNat_inj.symm
  simp [hbreak]

/-- Two dots in a row stand in the first line. -/
theorem exists_dots_iff {cs : List Char} :
    (∃ w ∈ sequenceLanguage ['i'] [.repeated .greedy 0 none [.any], dot, dot], w <+: cs) ↔
      ∃ line, '\n' ∉ line ∧ line ++ ['.', '.'] <+: cs := by
  have hlanguage : sequenceLanguage ['i'] [.repeated .greedy 0 none [.any], dot, dot] =
      rounds 0 none (single (· ≠ '\n')) * (single (· = '.') * single (· = '.')) := by
    show rounds 0 none (Node.any.language ['i'] * 1) * (dot.language ['i'] * (dot.language ['i'] * 1)) = _
    rw [any_language, dot, char_language (by decide), mul_one, mul_one]
  rw [hlanguage]
  constructor
  · rintro ⟨_, ⟨line, hline, _, ⟨_, ⟨_, rfl, rfl⟩, _, ⟨_, rfl, rfl⟩, rfl⟩, rfl⟩, hprefix⟩
    exact ⟨line, fun hbreak => (mem_rounds_none.mp hline).2 _ hbreak rfl, hprefix⟩
  · rintro ⟨line, hline, hprefix⟩
    refine ⟨_, ⟨line, mem_rounds_none.mpr ⟨Nat.zero_le _, fun c hc hbreak => hline (hbreak ▸ hc)⟩, _,
      ⟨['.'], ⟨'.', rfl, rfl⟩, ['.'], ⟨'.', rfl, rfl⟩, rfl⟩, rfl⟩, hprefix⟩

/-! ### Dots in an address -/

/-- After a dot comes something else. -/
def DotsApart (cs : List Char) : Prop := cs.IsChain fun a b => a = '.' → b ≠ '.'

theorem dotsApart_iff {cs : List Char} : DotsApart cs ↔ ¬['.', '.'] <:+: cs := by
  rw [DotsApart, List.isChain_iff_forall_rel_of_append_cons_cons]
  constructor
  · rintro h ⟨before, after, rfl⟩
    exact h (List.append_assoc before _ after) rfl rfl
  · rintro h a b before after rfl rfl rfl
    exact h ⟨before, after, List.append_assoc before _ after⟩

theorem DotsApart.of_notMem {cs : List Char} (h : '.' ∉ cs) : DotsApart cs :=
  dotsApart_iff.mpr fun hdots => h (hdots.subset List.mem_cons_self)

section Domain

variable {letter : Char → Prop} {labels : List (List Char)} {top : List Char}

theorem notMem_label {l : List Char} (hl : IsLabel letter l) (hdot : ¬letter '.') : '.' ∉ l := by
  obtain ⟨c, rest, rfl, hc, hrest⟩ := hl
  rw [List.mem_cons, not_or]
  constructor
  · rintro rfl
    exact hc.elim hdot (by decide)
  · intro hmem
    rcases hrest '.' hmem with (h | h) | h
    · exact hdot h
    · exact absurd h (by decide)
    · exact absurd h (by decide)

/-- The labels keep the dots of a domain apart. -/
theorem dotsApart_domain (hdot : ¬letter '.') (hlabels : ∀ l ∈ labels, IsLabel letter l)
    (htop : IsTop letter top) : DotsApart (domain labels top) ∧ (domain labels top).head? ≠ some '.' := by
  induction labels with
  | nil =>
    have htop : '.' ∉ top := fun hmem => hdot (htop.2 '.' hmem)
    exact ⟨.of_notMem htop, fun h => htop (List.mem_of_head? h)⟩
  -- By induction on the labels: each brings a dot with it and holds none itself.
  | cons l labels ih =>
    obtain ⟨hl, hlabels⟩ := List.forall_mem_cons.mp hlabels
    obtain ⟨hchain, hhead⟩ := ih hlabels
    have hnot := notMem_label hl hdot
    have hcons : domain (l :: labels) top = l ++ '.' :: domain labels top := by
      simp [domain]
    rw [hcons]
    constructor
    · -- The dot after the label stands between the end of the label and the head of what follows.
      refine List.isChain_append.mpr ⟨DotsApart.of_notMem hnot, ?_, fun c hc _ _ h => ?_⟩
      · exact List.isChain_cons.mpr ⟨fun c hc _ h => hhead (h ▸ hc), hchain⟩
      · exact absurd (h ▸ List.mem_of_getLast? hc) hnot
    · obtain ⟨c, rest, rfl, -⟩ := hl
      intro h
      exact hnot (List.mem_of_head? h)

end Domain

/-! ### Addresses -/

theorem NameEnd.nameChar {letter : Char → Prop} {c : Char} (h : NameEnd letter c) :
    NameChar letter c := by
  rcases h with h | h
  · exact .inl h
  · refine .inr ?_
    simp only [List.mem_cons, List.not_mem_nil, or_false] at h ⊢
    tauto

theorem not_nameChar_newline : ¬NameChar Folded '\n' := by
  simp [NameChar, Alphanumeric, Folded, otherLetters]

/-- The pattern asks for no dot at the start, no two dots in a row in the first line, and the shape of an
address. -/
theorem isAddress_eq_true_iff {s : String} : isAddress s = true ↔ s.toList.head? ≠ some '.' ∧
    (¬∃ line, '\n' ∉ line ∧ line ++ ['.', '.'] <+: s.toList) ∧
      s.toList ∈ sequenceLanguage ['i'] shape := by
  have hdot : IsRegularSequence ['i'] [dot] := ⟨trivial, trivial⟩
  have hdots : IsRegularSequence ['i'] [.repeated .greedy 0 none [.any], dot, dot] :=
    ⟨⟨rfl, ⟨trivial, trivial⟩, nil_notMem_single_mul _ 1⟩, trivial, trivial, trivial⟩
  show ((Node.look false true [dot]).run pattern.groups ['i'] (.start s.toList) fun q =>
    (Node.look false true [.repeated .greedy 0 none [.any], dot, dot]).run pattern.groups ['i'] q fun q =>
      runSequence pattern.groups ['i'] shape q fun p =>
        if p.after.isEmpty then some p else none).isSome = true ↔ _
  rw [isSome_look_not _ hdot, isSome_look_not _ hdots,
    isSome_runSequence_end _ isRegular_shape, exists_dot_iff, exists_dots_iff]
  rfl

/-- The check of addresses accepts what the grammar has, with case variants for letters. -/
theorem isAddress_iff {s : String} : isAddress s = true ↔ IsAddress Folded s.toList := by
  rw [isAddress_eq_true_iff]
  constructor
  · rintro ⟨hfirst, hdots, hshape⟩
    obtain ⟨front, last, labels, top, hcs, hfront, hlast, hne, hlabels, htop⟩ := mem_shape.mp hshape
    rw [hcs] at hfirst hdots ⊢
    have hname : ∀ c ∈ front ++ [last], NameChar Folded c := by
      intro c hc
      rcases List.mem_append.mp hc with hc | hc
      · exact hfront c hc
      · exact List.mem_singleton.mp hc ▸ hlast.nameChar
    refine .parts ⟨hname, ?_, ?_, last, List.getLast?_concat .., hlast⟩ hne hlabels htop
    · rwa [List.head?_append_of_ne_nil _ (by simp)] at hfirst
    · rintro ⟨before, after, heq⟩
      -- The look-ahead stops at a line break, but there is none in a name.
      refine hdots ⟨before, fun hbreak => not_nameChar_newline (hname _ ?_), ?_⟩
      · rw [← heq, List.append_assoc]
        exact List.mem_append_left _ hbreak
      · rw [← heq, List.append_assoc _ after]
        exact List.prefix_append ..
  · generalize s.toList = cs
    rintro (@⟨name, labels, top, hname, hne, hlabels, htop⟩)
    obtain ⟨last, hlast, hend⟩ := hname.last
    obtain ⟨front, rfl⟩ := List.getLast?_eq_some_iff.mp hlast
    refine ⟨?_, ?_, ?_⟩
    · rw [List.head?_append_of_ne_nil _ (by simp)]
      exact hname.first
    · rintro ⟨line, -, hprefix⟩
      have hdot : ¬Folded '.' := by simp [Folded, otherLetters]
      obtain ⟨hdomain, -⟩ := dotsApart_domain hdot hlabels htop
      -- The name and the domain keep their dots apart, and the at sign is between them.
      have hchain : DotsApart (front ++ [last] ++ '@' :: domain labels top) := by
        refine List.isChain_append.mpr ⟨dotsApart_iff.mpr hname.dots, ?_, fun _ _ c hc _ => ?_⟩
        · exact List.isChain_cons.mpr ⟨fun _ _ h => absurd h (by decide), hdomain⟩
        · obtain rfl := Option.some.inj hc
          decide
      exact dotsApart_iff.mp hchain ((List.suffix_append line ['.', '.']).isInfix.trans hprefix.isInfix)
    · exact mem_shape.mpr ⟨front, last, labels, top, rfl,
        fun c hc => hname.characters c (List.mem_append_left _ hc), hend, hne, hlabels, htop⟩

/-! ### Addresses over ASCII letters -/

section Letters

variable {P Q : Char → Prop} {cs : List Char} {c : Char}

theorem Alphanumeric.imp (h : P c → Q c) : Alphanumeric P c → Alphanumeric Q c :=
  Or.imp_left h

theorem IsName.imp (h : ∀ c ∈ cs, P c → Q c) (hname : IsName P cs) : IsName Q cs where
  characters c hc := (hname.characters c hc).imp_left (.imp (h c hc))
  first := hname.first
  dots := hname.dots
  last := by
    obtain ⟨c, hlast, hend⟩ := hname.last
    exact ⟨c, hlast, hend.imp_left (.imp (h c (List.mem_of_getLast? hlast)))⟩

theorem IsLabel.imp (h : ∀ c ∈ cs, P c → Q c) : IsLabel P cs → IsLabel Q cs := by
  rintro ⟨c, rest, rfl, hc, hrest⟩
  exact ⟨c, rest, rfl, hc.imp (h c List.mem_cons_self), fun d hd =>
    (hrest d hd).imp_left (.imp (h d (List.mem_cons_of_mem _ hd)))⟩

theorem mem_domain_iff {labels : List (List Char)} {top : List Char} :
    c ∈ domain labels top ↔ (∃ l ∈ labels, c ∈ l ∨ c = '.') ∨ c ∈ top := by
  simp [domain]

/-- Only the letters that an address has matter. -/
theorem IsAddress.imp (h : ∀ c ∈ cs, P c → Q c) (hcs : IsAddress P cs) : IsAddress Q cs := by
  obtain @⟨name, labels, top, hname, hne, hlabels, htop⟩ := hcs
  have hdomain : ∀ c ∈ domain labels top, P c → Q c := fun c hc =>
    h c (List.mem_append_right _ (List.mem_cons_of_mem _ hc))
  refine .parts (hname.imp fun c hc => h c (List.mem_append_left _ hc)) hne (fun l hl => ?_)
    ⟨htop.1, fun c hc => hdomain c (mem_domain_iff.mpr (.inr hc)) (htop.2 c hc)⟩
  exact (hlabels l hl).imp fun c hc => hdomain c (mem_domain_iff.mpr (.inl ⟨l, hl, .inl hc⟩))

theorem IsLabel.labelChar (hcs : IsLabel P cs) (hc : c ∈ cs) : LabelChar P c := by
  obtain ⟨d, rest, rfl, hd, hrest⟩ := hcs
  rcases List.mem_cons.mp hc with rfl | hc
  · exact .inl hd
  · exact hrest c hc

/-- What an address consists of: letters, digits and some characters of ASCII. -/
theorem IsAddress.character (hcs : IsAddress P cs) (hc : c ∈ cs) :
    Alphanumeric P c ∨ c ∈ ['_', '\'', '+', '-', '.', '@'] := by
  obtain @⟨name, labels, top, hname, hne, hlabels, htop⟩ := hcs
  rcases List.mem_append.mp hc with hc | hc
  · exact (hname.characters c hc).imp_right fun h => List.mem_append_left ['@'] h
  rcases List.mem_cons.mp hc with rfl | hc
  · exact .inr (by decide)
  rcases mem_domain_iff.mp hc with ⟨l, hl, hc | rfl⟩ | hc
  · rcases (hlabels l hl).labelChar hc with hc | rfl
    · exact .inl hc
    · exact .inr (by decide)
  · exact .inr (by decide)
  · exact .inl (.inl (htop.2 c hc))

/-- An address over ASCII letters is one in which no letter stands for a case variant. -/
theorem isAddress_isAlpha_iff : IsAddress (·.isAlpha = true) cs ↔
    IsAddress Folded cs ∧ ¬∃ c ∈ cs, c ∈ otherLetters := by
  constructor
  · refine fun h => ⟨h.imp fun c _ => .inl, ?_⟩
    rintro ⟨c, hc, hother⟩
    have hascii : ∀ c ∈ otherLetters,
        ¬((c.isAlpha = true ∨ c.isDigit = true) ∨ c ∈ ['_', '\'', '+', '-', '.', '@']) := by
      intro c hc
      fin_cases hc <;> decide
    exact hascii c hother (h.character hc)
  · rintro ⟨h, hnone⟩
    exact h.imp fun c hc hfolded => hfolded.resolve_right fun hother => hnone ⟨c, hc, hother⟩

end Letters

end Email

/-! ### Email fields -/

namespace Field

variable {f : Field} {s : String}

theorem compile_of_email (h : f.type = .email) :
    f.compile = .ok (.string f.ruleHead none none none true, []) := by
  rw [compile_eq_plainRule (by rw [h]; decide), h]
  rfl

/-- The field goes by the grammar of addresses over ASCII letters. -/
def ChecksAddress (f : Field) (s : String) : Prop :=
  f.AcceptsText s ↔ Email.IsAddress (·.isAlpha = true) s.toList

/-- An email field accepts the addresses in which letters may be case variants of ASCII letters, and
refuses all other texts that are not blank. -/
theorem acceptsText_and_refusesText_of_email (h : f.type = .email) (hs : Text.strip s ≠ []) :
    (Email.IsAddress Email.Folded s.toList → f.AcceptsText s) ∧
      (¬Email.IsAddress Email.Folded s.toList → f.RefusesText .email s) := by
  -- Once the text is not blank, the address is all the rule looks at.
  have happly (path : String) :
      let rule : Rule := .string f.ruleHead none none none true
      rule.apply path (.str s) = .ok (rule.judged (rule.place path) (.str s) (.str s)
        (Breach.when (!Email.isAddress s) .email)) := by
    intro rule
    rw [Rule.apply_eq (by simp [rule, Rule.kind]) (by simp [rule, Rule.kind]),
      if_neg (by simpa [Value.isUnanswered] using hs)]
    rfl
  rw [← Email.isAddress_iff]
  constructor
  · intro haddress
    rw [haddress] at happly
    exact acceptsText_of_judged (compile_of_email h) happly
  · intro haddress
    rw [Bool.not_eq_true] at haddress
    rw [haddress] at happly
    exact refusesText_of_judged (compile_of_email h) rfl happly

theorem acceptsText_iff_of_email (h : f.type = .email) (hs : Text.strip s ≠ []) :
    f.AcceptsText s ↔ Email.IsAddress Email.Folded s.toList := by
  obtain ⟨haccepts, hrefuses⟩ := acceptsText_and_refusesText_of_email h hs
  refine ⟨fun haccepted => ?_, haccepts⟩
  by_contra haddress
  exact (hrefuses haddress).not_acceptsText haccepted

/-- An email field checks texts that are not blank by the grammar of addresses, in which letters may be
case variants of ASCII letters; it goes by ASCII letters alone where no such variant stands in an
address. -/
theorem checksAddress_iff_and_refuses (h : f.type = .email) : ∀ s, Text.strip s ≠ [] →
    (f.AcceptsText s ↔ Email.IsAddress Email.Folded s.toList) ∧
      (¬f.AcceptsText s → f.RefusesText .email s) ∧
      (f.ChecksAddress s ↔
        ¬(Email.IsAddress Email.Folded s.toList ∧ ∃ c ∈ s.toList, c ∈ Email.otherLetters)) := by
  intro s hs
  have haccepts := acceptsText_iff_of_email h hs
  refine ⟨haccepts, ?_, ?_⟩
  · rw [haccepts]
    exact (acceptsText_and_refusesText_of_email h hs).2
  · rw [ChecksAddress, haccepts, Email.isAddress_isAlpha_iff, not_and]
    exact ⟨fun h haddress => (h.mp haddress).2, fun h => ⟨fun haddress => ⟨haddress, h haddress⟩, And.left⟩⟩

/-- A field for the address of a person. -/
def mailField : Field := ⟨"mail", .email, "Email", false, none, none, none, none, none, none⟩

/-- An address of which the name and the domain have several parts is accepted, and one with a line
break after it is refused. -/
theorem checksAddress_of_name :
    mailField.type = .email ∧ mailField.AcceptsText "what's.new+x@mail.example.org" ∧
      mailField.ChecksAddress "what's.new+x@mail.example.org" ∧
      mailField.RefusesText .email "a@b.co\n" := by
  have hchecks := checksAddress_iff_and_refuses (f := mailField) rfl
  obtain ⟨haccepts, -, hascii⟩ := hchecks "what's.new+x@mail.example.org" (by decide)
  obtain ⟨hbreak, hrefuses, -⟩ := hchecks "a@b.co\n" (by decide)
  refine ⟨rfl, haccepts.mpr ?_, hascii.mpr fun h => absurd h.2 (by simp [Email.otherLetters]), hrefuses ?_⟩
  · exact @Email.IsAddress.parts _ "what's.new+x".toList ["mail".toList, "example".toList] "org".toList
      (by decide) (by decide) (by decide) (by decide)
  · rw [hbreak]
    intro haddress
    exact absurd (haddress.character (c := '\n') (by decide)) (by decide)

/-- A long s passes for a letter of the last part. -/
theorem not_checksAddress_of_long_s :
    mailField.type = .email ∧ Text.strip "a@b.\u017f\u017f" ≠ [] ∧
      mailField.AcceptsText "a@b.\u017f\u017f" ∧ ¬mailField.ChecksAddress "a@b.\u017f\u017f" := by
  have hblank : Text.strip "a@b.\u017f\u017f" ≠ [] := by decide
  have haddress : Email.IsAddress Email.Folded "a@b.\u017f\u017f".toList :=
    @Email.IsAddress.parts _ ['a'] [['b']] ['\u017f', '\u017f']
      (by decide) (by decide) (by decide) (by decide)
  have haccepted := (acceptsText_iff_of_email (f := mailField) rfl hblank).mpr haddress
  refine ⟨rfl, hblank, haccepted, fun hchecks => ?_⟩
  exact (Email.isAddress_isAlpha_iff.mp (hchecks.mp haccepted)).2 ⟨'\u017f', by decide, by decide⟩

end Field
end Questionnaire
