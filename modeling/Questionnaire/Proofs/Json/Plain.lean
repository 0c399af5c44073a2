import Questionnaire.Proofs.Json.RoundTrip

/-!
# Plain text

A text is plain when its characters are in ASCII and none of them is a carriage return.  Such a text
has one byte for each character, and nothing in it is taken for the end of a line but its line feeds.

JSON text in ASCII style is plain (`Json.plain_write`): characters that are not plain stand in texts
only, where they are escaped.
-/

namespace Questionnaire

/-- ASCII characters without a carriage return. -/
def Plain (cs : List Char) : Prop := ∀ c ∈ cs, c.toNat < 0x80 ∧ c ≠ '\r'

instance (cs : List Char) : Decidable (Plain cs) := List.decidableBAll _ cs

namespace Plain

variable {cs ds : List Char}

theorem nil : Plain [] := List.forall_mem_nil _

theorem cons {c : Char} (hc : c.toNat < 0x80 ∧ c ≠ '\r') (hcs : Plain cs) : Plain (c :: cs) :=
  List.forall_mem_cons.mpr ⟨hc, hcs⟩

theorem append (hcs : Plain cs) (hds : Plain ds) : Plain (cs ++ ds) :=
  List.forall_mem_append.mpr ⟨hcs, hds⟩

theorem flatMap {f : Char → List Char} (h : ∀ c ∈ cs, Plain (f c)) : Plain (cs.flatMap f) := by
  intro d hd
  obtain ⟨c, hc, hd⟩ := List.mem_flatMap.mp hd
  exact h c hc d hd

theorem replicate {c : Char} (hc : c.toNat < 0x80 ∧ c ≠ '\r') (n : Nat) :
    Plain (List.replicate n c) := by
  intro d hd
  rw [List.eq_of_mem_replicate hd]
  exact hc

theorem intercalate {between : List Char} (hbetween : Plain between) {items : List (List Char)}
    (hitems : ∀ item ∈ items, Plain item) : Plain (between.intercalate items) := by
  induction items with
  | nil => exact nil
  | cons item items ih =>
    obtain ⟨hitem, hitems⟩ := List.forall_mem_cons.mp hitems
    cases items with
    | nil =>
      rw [List.intercalate_singleton]
      exact hitem
    | cons next items =>
      rw [List.intercalate_cons_cons]
      exact (hitem.append hbetween).append (ih hitems)

theorem of_digits (h : IsDigits cs) : Plain cs := by
  intro c hc
  have hdigit := h c hc
  refine ⟨?_, ?_⟩
  · simp only [Char.isDigit, ge_iff_le, Bool.and_eq_true, decide_eq_true_eq] at hdigit
    have := UInt32.le_iff_toNat_le.mp hdigit.2
    exact Nat.lt_of_le_of_lt this (by decide)
  · rintro rfl
    cases hdigit

theorem digitChar : ∀ n < 16, (Nat.digitChar n).toNat < 0x80 ∧ Nat.digitChar n ≠ '\r' := by decide

theorem toDigits (n : Nat) : Plain (Nat.toDigits 16 n) := by
  induction n using Nat.strongRecOn with
  | ind n ih =>
    by_cases hlt : n < 16
    · rw [Nat.toDigits_of_lt_base hlt]
      exact cons (digitChar n hlt) nil
    · rw [Nat.toDigits_of_base_le (by decide) (by omega)]
      exact (ih (n / 16) (by omega)).append (cons (digitChar _ (Nat.mod_lt n (by decide))) nil)

end Plain

namespace Json

/-! ### Texts -/

/-- An escaped unit is written in plain characters. -/
theorem plain_unitEscape (n : Nat) : Plain (unitEscape n) := by
  unfold unitEscape Text.hexPadded
  refine .cons (by decide) (.cons (by decide) (.append ?_ (.toDigits n)))
  exact .replicate (by decide) _

/-- An escaped character is written in plain characters. -/
theorem plain_charEscape (c : Char) : Plain (charEscape c) := by
  unfold charEscape
  dsimp only
  split
  · exact plain_unitEscape _
  · exact (plain_unitEscape _).append (plain_unitEscape _)

/-- In ASCII style a character that is not plain is escaped. -/
theorem plain_textChar (c : Char) : Plain (textChar true c) := by
  unfold textChar
  split_ifs with _ _ _ hreturn _ _ _ hrange
  · decide
  · decide
  · decide
  · decide
  · decide
  · decide
  · decide
  · exact plain_charEscape c
  · refine .cons ⟨?_, hreturn⟩ .nil
    have hlt : ¬0x7f ≤ c.toNat := fun h => hrange (Or.inr ⟨rfl, h⟩)
    omega

/-- A text is written in plain characters. -/
theorem plain_text (s : String) : Plain (text true s).toList := by
  rw [toList_text]
  exact .cons (by decide) (.append (.flatMap fun c _ => plain_textChar c) (by decide))

/-! ### Numbers -/

theorem plain_minusText (neg : Bool) : Plain (minusText neg) := by
  cases neg with
  | false => decide
  | true => decide

/-- An integer is written in plain characters. -/
theorem plain_showInt (n : Int) : Plain (Value.showInt n).toList := by
  rw [toList_showInt]
  exact (plain_minusText _).append (.of_digits (.toDigits _))

/-- The parts of a float are written in plain characters. -/
theorem plain_numeral {p : NumeralParts} (hp : p.IsFloat) : Plain p.text := by
  refine (Plain.of_digits hp.whole_digits).append (.append ?_ ?_)
  -- A fraction follows its point, and an exponent its letter and sign.
  · have hfraction := Plain.of_digits hp.fraction_digits
    unfold NumeralParts.fractionText
    split
    · exact .nil
    · rename_i h
      rw [← h]
      exact .cons (by decide) hfraction
  · unfold NumeralParts.exponentText
    split
    · exact .nil
    · rename_i neg ds h
      refine .cons (by decide) (.cons ?_ (.of_digits (hp.exponent_digits neg ds h).1))
      cases neg with
      | false => decide
      | true => decide

/-- A float is written in plain characters. -/
theorem plain_float (x : Binary64) : Plain (FloatLayout.document.write x).toList := by
  cases x with
  | finite neg m =>
    obtain ⟨p, htext, hp, _⟩ := FloatLayout.toBinary64_of_write .document rfl neg m
    unfold FloatLayout.write
    rw [String.toList_ofList, htext]
    exact (plain_minusText neg).append (plain_numeral hp)
  | infinite neg =>
    cases neg with
    | false => decide
    | true => decide
  | nan mark =>
    show Plain "NaN".toList
    decide

/-! ### Values -/

/-- A line break is a line feed and spaces. -/
theorem plain_lineBreak (indent : Option Int) (level : Nat) :
    Plain (lineBreak indent level).toList := by
  cases indent with
  | none => exact .nil
  | some n =>
    have hfeed : Plain "\n".toList := by decide
    have hspaces : Plain (String.ofList (List.replicate (n.toNat * level) ' ')).toList := by
      rw [String.toList_ofList]
      exact .replicate (by decide) _
    unfold lineBreak
    rw [String.toList_append]
    exact hfeed.append hspaces

/-- Brackets around plain items are plain. -/
theorem plain_bracketed (indent : Option Int) (level : Nat) {opening closing : String}
    (hopening : Plain opening.toList) (hclosing : Plain closing.toList) {items : List String}
    (hitems : ∀ item ∈ items, Plain item.toList) :
    Plain (bracketed indent level opening closing items).toList := by
  have hcomma : Plain (if indent.isNone then ", " else ",").toList := by
    cases indent with
    | none =>
      show Plain ", ".toList
      decide
    | some n =>
      show Plain ",".toList
      decide
  unfold bracketed
  split
  · rw [String.toList_append]
    exact hopening.append hclosing
  · simp only [String.toList_append, String.toList_intercalate]
    refine (((hopening.append (plain_lineBreak _ _)).append ?_).append
      (plain_lineBreak _ _)).append hclosing
    exact .intercalate (hcomma.append (plain_lineBreak _ _)) (List.forall_mem_map.mpr hitems)

/-- A value is written in plain characters. -/
theorem plain_writeAt {N : Number → Prop} {v : Value} (hv : v.IsJson N) (indent : Option Int)
    (level : Nat) : Plain (writeAt .ascii indent level v).toList := by
  -- By induction on the value, at every depth of indentation.
  induction hv generalizing level with
  | null =>
    rw [writeAt]
    decide
  | bool b =>
    rw [writeAt]
    cases b with
    | true => decide
    | false => decide
  | int h =>
    rw [writeAt]
    exact plain_showInt _
  | float h =>
    rw [writeAt]
    exact plain_float _
  | str s =>
    rw [writeAt]
    exact plain_text s
  | list _ ih =>
    rw [writeAt, writeItems_eq]
    refine plain_bracketed indent level (by decide) (by decide) ?_
    exact List.forall_mem_map.mpr fun v hv => ih v hv (level + 1)
  | dict _ _ ih =>
    rw [writeAt, writeMembers_eq]
    refine plain_bracketed indent level (by decide) (by decide) ?_
    refine List.forall_mem_map.mpr fun m hm => ?_
    rw [String.toList_append, String.toList_append]
    have hcolon : Plain ": ".toList := by decide
    exact ((plain_text m.1).append hcolon).append (ih m hm (level + 1))

/-- JSON text in ASCII style is plain. -/
theorem plain_write {N : Number → Prop} {v : Value} (hv : v.IsJson N) (indent : Option Int) :
    Plain (write .ascii indent v).toList := plain_writeAt hv indent 0

end Json
end Questionnaire
