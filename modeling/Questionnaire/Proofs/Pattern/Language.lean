import Mathlib.Computability.Language
import Questionnaire.Pattern.Matching

/-!
# The language of a pattern

A part of a pattern without look-around, anchors and back references matches the words of a language,
whatever comes before them (`Node.language`).  Matching tries one way after the other and goes back
when the rest does not match; all in all it finds a match just when some word of the language stands at
the place and the rest matches after it (`Node.spells`, `sequence_spells`).

A negative look-ahead asks that no word of the language stands at the place (`isSome_look_not`).
-/

namespace Questionnaire.Pattern

/-! ### Places after a word -/

/-- The second place comes after the first with a word between them. -/
structure Place.Past (p : Place) (cs : List Char) (q : Place) : Prop where
  after : p.after = cs ++ q.after
  offset : q.offset = p.offset + cs.length

namespace Place.Past

variable {p q r : Place} {cs ds : List Char}

theorem refl (p : Place) : p.Past [] p := ⟨rfl, rfl⟩

theorem trans (h : p.Past cs q) (h' : q.Past ds r) : p.Past (cs ++ ds) r := by
  constructor
  · rw [h.after, h'.after, List.append_assoc]
  · rw [h'.offset, h.offset, List.length_append, Nat.add_assoc]

theorem step {c : Char} {rest : List Char} (h : p.after = c :: rest) :
    p.Past [c] (p.step c rest) := ⟨h, rfl⟩

theorem capture (h : p.Past cs q) (number : Nat) (since : Place) :
    p.Past cs (q.capture number since) := ⟨h.after, h.offset⟩

theorem offset_lt (h : p.Past cs q) (hne : cs ≠ []) : p.offset < q.offset := by
  rw [h.offset]
  exact Nat.lt_add_of_pos_right (List.length_pos_iff.mpr hne)

theorem length_eq (h : p.Past cs q) : p.after.length = cs.length + q.after.length := by
  rw [h.after, List.length_append]

end Place.Past

/-- A matcher finds a match just when a word of a language stands at the place and the rest matches
after it.  What is known of the rest is whether it matches, by the text that is left, and only after
words of the language. -/
def Spells (m : Matcher) (l : Language Char) : Prop :=
  ∀ (p : Place) (rest : Rest) (k : List Char → Prop),
    (∀ cs ∈ l, ∀ q, p.Past cs q → ((rest q).isSome ↔ k q.after)) →
    ((m p rest).isSome ↔ ∃ cs ∈ l, ∃ t, p.after = cs ++ t ∧ k t)

/-! ### Single characters -/

/-- The words of one character with a property. -/
def single (P : Char → Prop) : Language Char := {cs | ∃ c, P c ∧ cs = [c]}

/-- A step is taken on a character that holds. -/
theorem stepIf_eq_some_iff {p q : Place} {holds : Nat → Bool} : p.stepIf holds = some q ↔
    ∃ c rest, p.after = c :: rest ∧ holds c.toNat = true ∧ q = p.step c rest := by
  unfold Place.stepIf
  cases p.after with
  | nil => simp
  | cons c rest =>
    dsimp only
    by_cases hc : holds c.toNat = true
    · rw [if_pos hc]
      constructor
      · rintro ⟨⟩
        exact ⟨c, rest, rfl, hc, rfl⟩
      · rintro ⟨_, _, ⟨⟩, _, rfl⟩
        rfl
    · rw [if_neg hc]
      constructor
      · intro h
        cases h
      · rintro ⟨_, _, ⟨⟩, hd, _⟩
        exact absurd hd hc

/-- Going past one character that meets a condition. -/
theorem stepIf_spells (holds : Nat → Bool) :
    Spells (fun p rest => (p.stepIf holds).bind rest) (single fun c => holds c.toNat = true) := by
  intro p rest k hrest
  show ((p.stepIf holds).bind rest).isSome ↔ _
  constructor
  · intro h
    obtain ⟨r, hr⟩ := Option.isSome_iff_exists.mp h
    obtain ⟨q, hq, hr⟩ := Option.bind_eq_some_iff.mp hr
    obtain ⟨c, cs, hafter, hc, rfl⟩ := stepIf_eq_some_iff.mp hq
    exact ⟨[c], ⟨c, hc, rfl⟩, cs, hafter,
      (hrest [c] ⟨c, hc, rfl⟩ _ (.step hafter)).mp (Option.isSome_iff_exists.mpr ⟨r, hr⟩)⟩
  · rintro ⟨_, ⟨c, hc, rfl⟩, cs, hafter, hk⟩
    rw [stepIf_eq_some_iff.mpr ⟨c, cs, hafter, hc, rfl⟩, Option.bind_some]
    exact (hrest [c] ⟨c, hc, rfl⟩ _ (.step hafter)).mpr hk

theorem nil_notMem_single_mul (P : Char → Prop) (l : Language Char) : [] ∉ single P * l := by
  rw [Language.mem_mul]
  rintro ⟨_, ⟨c, _, rfl⟩, _, _, h⟩
  cases h

/-! ### Sequences and alternatives -/

variable {m m' : Matcher} {l l' : Language Char}

theorem nothing_spells : Spells (fun p rest => rest p) 1 := by
  intro p rest k hrest
  rw [hrest [] Language.nil_mem_one p (.refl p)]
  constructor
  · exact fun hk => ⟨[], Language.nil_mem_one, p.after, rfl, hk⟩
  · rintro ⟨cs, rfl, t, ht, hk⟩
    rwa [ht]

/-- One matcher and then another. -/
theorem Spells.mul (h : Spells m l) (h' : Spells m' l') :
    Spells (fun p rest => m p fun q => m' q rest) (l * l') := by
  intro p rest k hrest
  rw [h p _ fun t => ∃ ds ∈ l', ∃ u, t = ds ++ u ∧ k u]
  · constructor
    · rintro ⟨cs, hcs, _, ht, ds, hds, u, rfl, hk⟩
      exact ⟨cs ++ ds, Language.append_mem_mul hcs hds, u, by rw [ht, List.append_assoc], hk⟩
    · rintro ⟨_, ⟨cs, hcs, ds, hds, rfl⟩, u, hu, hk⟩
      exact ⟨cs, hcs, ds ++ u, by rw [hu]; exact List.append_assoc .., ds, hds, u, rfl, hk⟩
  · -- After a word of the first comes the second, of which the hypothesis on the rest is for the product.
    intro cs hcs q hq
    exact h' q rest k fun ds hds r hr => hrest _ (Language.append_mem_mul hcs hds) r (hq.trans hr)

theorem isSome_orElse_iff {a b : Option Place} : (match a with
    | some q => some q
    | none => b).isSome ↔ a.isSome ∨ b.isSome := by
  cases a <;> simp

/-- One matcher, or else another. -/
theorem Spells.add (h : Spells m l) (h' : Spells m' l') :
    Spells (fun p rest => match m p rest with
      | some q => some q
      | none => m' p rest) (l + l') := by
  intro p rest k hrest
  rw [isSome_orElse_iff, h p rest k fun cs hcs => hrest cs (Or.inl hcs),
    h' p rest k fun cs hcs => hrest cs (Or.inr hcs)]
  constructor
  · rintro (⟨cs, hcs, hk⟩ | ⟨cs, hcs, hk⟩)
    · exact ⟨cs, Or.inl hcs, hk⟩
    · exact ⟨cs, Or.inr hcs, hk⟩
  · rintro ⟨cs, hcs | hcs, hk⟩
    · exact Or.inl ⟨cs, hcs, hk⟩
    · exact Or.inr ⟨cs, hcs, hk⟩

/-! ### Repetitions -/

/-- A count of rounds that a repetition allows in the end. -/
def Allows (min : Nat) (max : Option Nat) (count : Nat) : Prop :=
  min ≤ count ∧ ∀ m, max = some m → count ≤ Nat.max min m

/-- The words of as many words of a language as a repetition allows, one after the other. -/
def rounds (min : Nat) (max : Option Nat) (l : Language Char) : Language Char :=
  {cs | ∃ n, Allows min max n ∧ cs ∈ l ^ n}

theorem mem_rounds {min : Nat} {max : Option Nat} {cs : List Char} : cs ∈ rounds min max l ↔
    ∃ words : List (List Char), Allows min max words.length ∧ (∀ w ∈ words, w ∈ l) ∧
      cs = words.flatten := by
  constructor
  · rintro ⟨n, hn, hcs⟩
    obtain ⟨words, rfl, rfl, hwords⟩ := Language.mem_pow.mp hcs
    exact ⟨words, hn, hwords, rfl⟩
  · rintro ⟨words, hn, hwords, rfl⟩
    exact ⟨words.length, hn, Language.mem_pow.mpr ⟨words, rfl, rfl, hwords⟩⟩

/-- A power of single characters is a word of that length. -/
theorem mem_single_pow {P : Char → Prop} {n : Nat} {cs : List Char} :
    cs ∈ single P ^ n ↔ cs.length = n ∧ ∀ c ∈ cs, P c := by
  induction n generalizing cs with
  | zero =>
    rw [pow_zero, Language.mem_one, List.length_eq_zero_iff]
    constructor
    · rintro rfl
      exact ⟨rfl, nofun⟩
    · exact fun h => h.1
  | succ n ih =>
    rw [pow_succ', Language.mem_mul]
    constructor
    · rintro ⟨_, ⟨c, hc, rfl⟩, ds, hds, rfl⟩
      obtain ⟨rfl, hall⟩ := ih.mp hds
      exact ⟨rfl, List.forall_mem_cons.mpr ⟨hc, hall⟩⟩
    · rintro ⟨hlength, hall⟩
      obtain ⟨c, ds, rfl⟩ := List.exists_cons_of_length_eq_add_one hlength
      obtain ⟨hc, hds⟩ := List.forall_mem_cons.mp hall
      exact ⟨[c], ⟨c, hc, rfl⟩, ds, ih.mpr ⟨Nat.succ.inj hlength, hds⟩, rfl⟩

/-- Rounds of single characters are texts of them. -/
theorem mem_rounds_single {min : Nat} {max : Option Nat} {P : Char → Prop} {cs : List Char} :
    cs ∈ rounds min max (single P) ↔ Allows min max cs.length ∧ ∀ c ∈ cs, P c := by
  constructor
  · rintro ⟨n, hn, hcs⟩
    obtain ⟨rfl, hall⟩ := mem_single_pow.mp hcs
    exact ⟨hn, hall⟩
  · rintro ⟨hn, hall⟩
    exact ⟨cs.length, hn, mem_single_pow.mpr ⟨rfl, hall⟩⟩

section Rounds

variable {min : Nat} {max : Option Nat} {rest : Rest} {k : List Char → Prop}

/-- What is left of a repetition after some rounds: as many more words as are allowed. -/
def Remaining (min : Nat) (max : Option Nat) (l : Language Char) (k : List Char → Prop) (count : Nat)
    (cs : List Char) : Prop :=
  ∃ n, Allows min max (count + n) ∧ ∃ w ∈ l ^ n, ∃ t, cs = w ++ t ∧ k t

/-- Either no more word is there, or one and then what is left after it. -/
theorem remaining_iff {count : Nat} {cs : List Char} : Remaining min max l k count cs ↔
    (Allows min max count ∧ k cs) ∨ ∃ w ∈ l, ∃ t, cs = w ++ t ∧ Remaining min max l k (count + 1) t := by
  constructor
  -- No round is left, or the first of them is taken off.
  · rintro ⟨n, hn, w, hw, t, rfl, hk⟩
    cases n with
    | zero =>
      rw [pow_zero] at hw
      obtain rfl := (Language.mem_one w).mp hw
      exact .inl ⟨hn, hk⟩
    | succ n =>
      rw [pow_succ'] at hw
      obtain ⟨u, hu, v, hv, rfl⟩ := Language.mem_mul.mp hw
      refine .inr ⟨u, hu, v ++ t, List.append_assoc .., n, ?_, v, hv, t, rfl, hk⟩
      rwa [Nat.add_right_comm, Nat.add_assoc]
  · rintro (⟨hn, hk⟩ | ⟨u, hu, _, rfl, n, hn, v, hv, t, rfl, hk⟩)
    · exact ⟨0, hn, [], by rw [pow_zero]; rfl, cs, rfl, hk⟩
    · refine ⟨n + 1, by rwa [Nat.add_right_comm, Nat.add_assoc] at hn, u ++ v, ?_, t,
        (List.append_assoc ..).symm, hk⟩
      rw [pow_succ']
      exact Language.append_mem_mul hu hv

/-- The rest is as expected after all words that may still come. -/
def Expects (min : Nat) (max : Option Nat) (l : Language Char) (k : List Char → Prop) (rest : Rest)
    (count : Nat) (p : Place) : Prop :=
  ∀ n, Allows min max (count + n) → ∀ w ∈ l ^ n, ∀ q, p.Past w q → ((rest q).isSome ↔ k q.after)

theorem Expects.next {count : Nat} {p q : Place} {w : List Char}
    (h : Expects min max l k rest count p) (hw : w ∈ l) (hq : p.Past w q) :
    Expects min max l k rest (count + 1) q := by
  intro n hn v hv r hr
  refine h (n + 1) (by rwa [Nat.add_right_comm, Nat.add_assoc] at hn) (w ++ v) ?_ r (hq.trans hr)
  rw [pow_succ']
  exact Language.append_mem_mul hw hv

theorem Expects.now {count : Nat} {p : Place} (h : Expects min max l k rest count p)
    (hcount : Allows min max count) : (rest p).isSome ↔ k p.after :=
  h 0 hcount [] (by rw [pow_zero]; rfl) p (.refl p)

/-- Rounds of a body that matches no empty word, as long as there is enough fuel for them. -/
theorem isSome_greedily (hbody : Spells m l) (hempty : [] ∉ l) (fuel count : Nat)
    (last : Option Nat) (p : Place) (hfuel : min - count + p.after.length < fuel)
    (hlast : ∀ n, last = some n → n < p.offset) (hcount : ∀ n, max = some n → count ≤ Nat.max min n)
    (hrest : Expects min max l k rest count p) :
    (greedily m min max rest fuel count last p).isSome ↔ Remaining min max l k count p.after := by
  induction fuel generalizing count last p with
  | zero => exact absurd hfuel (Nat.not_lt_zero _)
  | succ fuel ih =>
    rw [remaining_iff]
    -- One round takes at least one character, so the fuel and the last start remain enough.
    have hround (last' : Option Nat) (hlast' : ∀ n, last' = some n → n ≤ p.offset)
        (hnext : ∀ n, max = some n → count + 1 ≤ Nat.max min n) :
        (m p (greedily m min max rest fuel (count + 1) last')).isSome ↔
          ∃ w ∈ l, ∃ t, p.after = w ++ t ∧ Remaining min max l k (count + 1) t := by
      refine hbody p _ (Remaining min max l k (count + 1)) fun w hw q hq => ?_
      have hne : w ≠ [] := by
        rintro rfl
        exact hempty hw
      have hlength := hq.length_eq
      have hpos := List.length_pos_iff.mpr hne
      exact ih (count + 1) last' q (by omega)
        (fun n hn => (hlast' n hn).trans_lt (hq.offset_lt hne)) hnext (hrest.next hw hq)
    by_cases hlt : count < min
    · rw [greedily, if_pos hlt, hround last (fun n hn => (hlast n hn).le)
        fun n _ => hlt.trans_le (Nat.le_max_left min n)]
      exact (or_iff_right fun h => absurd h.1.1 hlt.not_ge).symm
    · have hallows : Allows min max count := ⟨not_lt.mp hlt, hcount⟩
      by_cases hmay : mayRepeat max count = true
      · have hnot : last ≠ some p.offset := fun h => (hlast _ h).false
        have hnext : ∀ n, max = some n → count + 1 ≤ Nat.max min n := by
          rintro n rfl
          exact (of_decide_eq_true hmay : count < n).trans_le (Nat.le_max_right min n)
        rw [greedily, if_neg hlt, if_pos ⟨hmay, hnot⟩]
        refine isSome_orElse_iff.trans ?_
        rw [hround (some p.offset) (fun n hn => (Option.some.inj hn).ge) hnext, hrest.now hallows,
          and_iff_right hallows, or_comm]
      · rw [greedily, if_neg hlt, if_neg fun h => hmay h.1, hrest.now hallows, and_iff_right hallows]
        refine (or_iff_left ?_).symm
        rintro ⟨_, -, _, -, n, hn, -⟩
        cases max with
        | none => exact hmay rfl
        | some bound =>
          have hbound := hn.2 bound rfl
          have hover : ¬count < bound := fun h => hmay (decide_eq_true h)
          have : Nat.max min bound ≤ count := Nat.max_le.mpr ⟨hallows.1, not_lt.mp hover⟩
          omega

end Rounds

/-! ### Nodes -/

mutual

/-- The words that a node matches; nodes that look around have none. -/
def Node.language (flags : Flags) : Node → Language Char
  | .char n => single fun c => (SetItem.char n).holds (.ofFlags flags) c.toNat = true
  | .any => single fun c => (c.toNat ≠ 0xa || flags.contains 's') = true
  | .oneOf negated items =>
    single fun c => (items.any (·.holds (.ofFlags flags) c.toNat) != negated) = true
  | .branch alternatives => branchLanguage flags alternatives
  | .group _ added removed body => sequenceLanguage (flags.change added removed) body
  | .repeated _ min max body => rounds min max (sequenceLanguage flags body)
  | _ => 0

/-- The words that the nodes of a sequence match one after the other. -/
def sequenceLanguage (flags : Flags) : List Node → Language Char
  | [] => 1
  | n :: ns => n.language flags * sequenceLanguage flags ns

/-- The words that one of several alternatives matches. -/
def branchLanguage (flags : Flags) : List (List Node) → Language Char
  | [] => 0
  | a :: as => sequenceLanguage flags a + branchLanguage flags as

end

mutual

/-- The node matches the words of a language: it does not look around, and repeats greedily what
matches no empty word. -/
def Node.IsRegular (flags : Flags) : Node → Prop
  | .char _ | .any | .oneOf .. => True
  | .branch alternatives => IsRegularBranch flags alternatives
  | .group _ added removed body => IsRegularSequence (flags.change added removed) body
  | .repeated greed _ _ body =>
    greed = .greedy ∧ IsRegularSequence flags body ∧ [] ∉ sequenceLanguage flags body
  | _ => False

/-- All nodes of the sequence match the words of a language. -/
def IsRegularSequence (flags : Flags) : List Node → Prop
  | [] => True
  | n :: ns => n.IsRegular flags ∧ IsRegularSequence flags ns

/-- All alternatives match the words of a language. -/
def IsRegularBranch (flags : Flags) : List (List Node) → Prop
  | [] => True
  | a :: as => IsRegularSequence flags a ∧ IsRegularBranch flags as

end

variable (groups : GroupWidths)

mutual

/-- A node finds a match just when one of its words stands at the place and the rest matches after
it. -/
theorem Node.spells (flags : Flags) : ∀ n : Node, n.IsRegular flags →
    Spells (n.run groups flags) (n.language flags)
  | .char n, _ => stepIf_spells _
  | .any, _ => stepIf_spells _
  | .oneOf _ _, _ => stepIf_spells _
  | .branch alternatives, h => branch_spells flags alternatives h
  | .group number added removed body, h => by
    intro p rest k hrest
    refine sequence_spells (flags.change added removed) body h p _ k fun cs hcs q hq => ?_
    -- A capture changes neither the text that is left nor where it starts.
    cases number with
    | none => exact hrest cs hcs q hq
    | some n => exact hrest cs hcs (q.capture n p) (hq.capture n p)
  | .repeated greed min max body, h => by
    obtain ⟨rfl, hbody, hempty⟩ := h
    intro p rest k hrest
    have hround := sequence_spells flags body hbody
    -- The fuel is enough for one round for each character left, and one for each that is asked for.
    show (greedily (runSequence groups flags body) min max rest (min + p.after.length + 2) 0 none
      p).isSome ↔ _
    refine (isSome_greedily hround hempty _ 0 none p (by omega) nofun (fun _ _ => Nat.zero_le _)
      fun n hn w hw q hq => hrest w ⟨n, Nat.zero_add n ▸ hn, hw⟩ q hq).trans ?_
    constructor
    · rintro ⟨n, hn, w, hw, t, ht, hk⟩
      exact ⟨w, ⟨n, Nat.zero_add n ▸ hn, hw⟩, t, ht, hk⟩
    · rintro ⟨w, ⟨n, hn, hw⟩, t, ht, hk⟩
      exact ⟨n, (Nat.zero_add n).symm ▸ hn, w, hw, t, ht, hk⟩

/-- A sequence of nodes finds a match just when one of its words stands at the place and the rest
matches after it. -/
theorem sequence_spells (flags : Flags) : ∀ ns : List Node, IsRegularSequence flags ns →
    Spells (runSequence groups flags ns) (sequenceLanguage flags ns)
  | [], _ => nothing_spells
  | n :: ns, h => (Node.spells flags n h.1).mul (sequence_spells flags ns h.2)

/-- Alternatives find a match just when a word of one of them stands at the place and the rest matches
after it. -/
theorem branch_spells (flags : Flags) : ∀ as : List (List Node), IsRegularBranch flags as →
    Spells (runBranch groups flags as) (branchLanguage flags as)
  | [], _ => by
    intro p rest k _
    constructor
    · intro h
      cases h
    · rintro ⟨cs, hcs, _⟩
      exact absurd hcs (Language.notMem_zero cs)
  | a :: as, h => (sequence_spells flags a h.1).add (branch_spells flags as h.2)

end

/-! ### Looking ahead -/

/-- A negative look-ahead asks that no word of its language stands at the place. -/
theorem isSome_look_not {flags : Flags} {body : List Node} (h : IsRegularSequence flags body)
    (p : Place) (rest : Rest) : ((Node.look false true body).run groups flags p rest).isSome ↔
      (¬∃ cs ∈ sequenceLanguage flags body, cs <+: p.after) ∧ (rest p).isSome := by
  have hbody : (runSequence groups flags body p some).isSome ↔
      ∃ cs ∈ sequenceLanguage flags body, cs <+: p.after := by
    rw [sequence_spells groups flags body h p some (fun _ => True) (by simp)]
    simp only [and_true, List.IsPrefix, eq_comm]
  show (match runSequence groups flags body p some with
    | some _ => none
    | none => rest p).isSome ↔ _
  rw [← hbody]
  cases runSequence groups flags body p some <;> simp

/-- A regular sequence matches the whole of a text just when the text is one of its words. -/
theorem isSome_runSequence_end {flags : Flags} {ns : List Node} (h : IsRegularSequence flags ns)
    (p : Place) : (runSequence groups flags ns p fun q => if q.after.isEmpty then some q else none).isSome ↔
      p.after ∈ sequenceLanguage flags ns := by
  rw [sequence_spells groups flags ns h p _ (· = []) fun _ _ q _ => by cases q.after <;> simp]
  constructor
  · rintro ⟨cs, hcs, _, hafter, rfl⟩
    rwa [hafter, List.append_nil]
  · exact fun hp => ⟨p.after, hp, [], (List.append_nil _).symm, rfl⟩

end Questionnaire.Pattern
