import Questionnaire.Proofs.Session.Coherence

/-!
# Bounds of the entries of a section

A section may have a least and a greatest count of entries.  An entry is refused when the section
has no room for it (`Field.HasRoom`), and one is kept when none can be spared (`Field.HasSpare`); no
other change of entries touches their count (`Session.Holds.run`).

What is refused is what the bounds rule out (`Session.KeepsBounds`) as long as no bound lies
strictly between two counts that follow each other, and the greatest count is not zero
(`Field.ExactBounds`).  For the count before a change is what is compared with a bound, and zero
passes for no bound at all.  `Session.keepsBounds_afterAll_iff` says this of every moment of a run,
and that the count then remains within the bounds unless it was beyond them from the start.
-/

namespace Questionnaire

/-! ### Numbers beside counts -/

namespace Number

/-- The number has a place on the number line. -/
def HasPoint (x : Number) : Prop := x.point?.isSome

/-- The number lies strictly between a count and the next one. -/
def JustAbove (x : Number) (n : Nat) : Prop := (ofNat n).lt x = true ∧ x.lt (ofNat (n + 1)) = true

variable {x : Number} {m n : Nat}

/-- Only a number with a place on the number line is below a count. -/
theorem lt_ofNat_iff : x.lt (ofNat n) = true ↔
    ∃ p, x.point? = some p ∧ p.lt (.ofInt n) = true := by
  show Point.below x.point? (some (.ofInt n)) = true ↔ _
  cases x.point? with
  | none => simp [Point.below]
  | some p => simp [Point.below]

/-- Only a number with a place on the number line is above a count. -/
theorem ofNat_lt_iff : (ofNat n).lt x = true ↔
    ∃ p, x.point? = some p ∧ (Point.ofInt n).lt p = true := by
  show Point.below (some (.ofInt n)) x.point? = true ↔ _
  cases x.point? with
  | none => simp [Point.below]
  | some p => simp [Point.below]

/-- Zero is the number whose place is zero, whatever its spelling. -/
theorem isZero_iff : x.isZero = true ↔ x.point? = some (.ofInt 0) := by
  rw [isZero, Point.same_iff]
  constructor
  · rintro ⟨p, hx, hp⟩
    exact hx.trans hp.symm
  · exact fun h => ⟨_, h, rfl⟩

/-- Counts keep their order when measured in units. -/
theorem units_le (h : m ≤ n) : (m : Int) * Binary64.unit ≤ n * Binary64.unit :=
  Int.mul_le_mul_of_nonneg_right (by exact_mod_cast h) Binary64.unit_pos.le

/-- What is before a count is before every later one. -/
theorem lt_ofNat_of_le (hmn : m ≤ n) (h : x.lt (ofNat m) = true) : x.lt (ofNat n) = true := by
  obtain ⟨p, hp, hlt⟩ := lt_ofNat_iff.mp h
  refine lt_ofNat_iff.mpr ⟨p, hp, ?_⟩
  have hunits := units_le hmn
  cases p with
  | negInfinity => rfl
  | finite u =>
    simp only [Point.ofInt, Point.lt, decide_eq_true_eq] at hlt ⊢
    omega
  | posInfinity => cases hlt

/-- What is after a count is after every earlier one. -/
theorem ofNat_lt_of_le (hmn : m ≤ n) (h : (ofNat n).lt x = true) : (ofNat m).lt x = true := by
  obtain ⟨p, hp, hlt⟩ := ofNat_lt_iff.mp h
  refine ofNat_lt_iff.mpr ⟨p, hp, ?_⟩
  have hunits := units_le hmn
  cases p with
  | negInfinity => cases hlt
  | finite u =>
    simp only [Point.ofInt, Point.lt, decide_eq_true_eq] at hlt ⊢
    omega
  | posInfinity => rfl

/-- What is not after a count is before the next one. -/
theorem lt_ofNat_succ (hx : x.HasPoint) (h : ¬(ofNat n).lt x = true) :
    x.lt (ofNat (n + 1)) = true := by
  obtain ⟨p, hp⟩ := Option.isSome_iff_exists.mp hx
  refine lt_ofNat_iff.mpr ⟨p, hp, ?_⟩
  have hnot : ¬(Point.ofInt n).lt p = true := fun hlt => h (ofNat_lt_iff.mpr ⟨p, hp, hlt⟩)
  cases p with
  | negInfinity => rfl
  | finite u =>
    have hunit := Binary64.unit_pos
    simp only [Point.ofInt, Point.lt, decide_eq_true_eq, Int.natCast_succ, Int.add_mul] at hnot ⊢
    omega
  | posInfinity => exact absurd rfl hnot

/-- What is not before a count is after the one before. -/
theorem ofNat_lt_of_not_lt (hx : x.HasPoint) (h : ¬x.lt (ofNat (n + 1)) = true) :
    (ofNat n).lt x = true := by
  by_contra hnot
  exact h (lt_ofNat_succ hx hnot)

/-- Zero is below every positive count. -/
theorem lt_ofNat_succ_of_isZero (h : x.isZero = true) : x.lt (ofNat (n + 1)) = true := by
  refine lt_ofNat_iff.mpr ⟨_, isZero_iff.mp h, ?_⟩
  have hunits := units_le (Nat.le_add_left 1 n)
  have hunit := Binary64.unit_pos
  simp only [Point.ofInt, Point.lt, decide_eq_true_eq]
  omega

/-- Zero is above no count. -/
theorem not_ofNat_lt_of_isZero (h : x.isZero = true) : ¬(ofNat n).lt x = true := by
  intro hlt
  obtain ⟨p, hp, hlt⟩ := ofNat_lt_iff.mp hlt
  obtain rfl := Option.some.inj ((isZero_iff.mp h).symm.trans hp)
  have hunits := units_le (Nat.zero_le n)
  simp only [Point.ofInt, Point.lt, decide_eq_true_eq] at hlt
  omega

/-- No whole number lies strictly between two counts that follow each other. -/
theorem not_justAbove_int (z : Int) (n : Nat) : ¬(Number.int z).JustAbove n := by
  rintro ⟨hlt, hlt'⟩
  have hn : (n : Int) < z := Point.lt_ofInt_iff.mp hlt
  have hn' : z < (n + 1 : Nat) := Point.lt_ofInt_iff.mp hlt'
  omega

/-- One and a half does. -/
example : (Number.float (.finite false ⟨0x18000000000000, -52, by decide⟩)).JustAbove 1 :=
  ⟨by decide, by decide⟩

/-- An integer is zero as a number when it is zero. -/
theorem isZero_int {z : Int} : (Number.int z).isZero = decide (z = 0) := by
  rw [Bool.eq_iff_iff, isZero_iff, decide_eq_true_iff]
  exact ⟨fun h => Point.ofInt_inj.mp (Option.some.inj h), fun h => h ▸ rfl⟩

end Number

/-! ### Bounds of a section -/

namespace Field

/-- So many entries are more than the greatest count. -/
def Overfull (f : Field) (n : Nat) : Prop :=
  ∃ limit, f.constraints.bind (·.max) = some limit ∧ limit.lt (.ofNat n) = true

/-- So many entries are fewer than the least count. -/
def Underfull (f : Field) (n : Nat) : Prop :=
  ∃ limit, f.constraints.bind (·.min) = some limit ∧ (Number.ofNat n).lt limit = true

/-- A section takes one more entry to so many of them. -/
def HasRoom (f : Field) (n : Nat) : Prop := ∀ limit, f.constraints.bind (·.max) = some limit →
  limit.isZero = true ∨ (Number.ofNat n).lt limit = true

/-- A section lets go of one of so many entries. -/
def HasSpare (f : Field) (n : Nat) : Prop := ∀ limit, f.constraints.bind (·.min) = some limit →
  limit.isZero = true ∨ limit.lt (.ofNat n) = true

/-- One entry is added where there is room, or removed where there is one to spare, or the count
remains. -/
def Counts (f : Field) (n m : Nat) : Prop :=
  m = n ∨ m = n + 1 ∧ f.HasRoom n ∨ m + 1 = n ∧ f.HasSpare n

/-- Around so many entries the bounds can be told from the counts: each is a number and lies
strictly between no two of the counts, and the greatest count is not zero. -/
structure ExactBounds (f : Field) (n : Nat) : Prop where
  max : ∀ limit, f.constraints.bind (·.max) = some limit →
    limit.HasPoint ∧ limit.isZero = false ∧ ¬limit.JustAbove n
  min : 0 < n → ∀ limit, f.constraints.bind (·.min) = some limit →
    limit.HasPoint ∧ ¬limit.JustAbove (n - 1)

variable {f : Field} {m n : Nat}

/-- What holds too many entries holds too many with more of them. -/
theorem Overfull.mono (h : f.Overfull m) (hmn : m ≤ n) : f.Overfull n := by
  obtain ⟨limit, hlimit, hlt⟩ := h
  exact ⟨limit, hlimit, Number.lt_ofNat_of_le hmn hlt⟩

/-- What holds too few entries holds too few with fewer of them. -/
theorem Underfull.anti (h : f.Underfull n) (hmn : m ≤ n) : f.Underfull m := by
  obtain ⟨limit, hlimit, hlt⟩ := h
  exact ⟨limit, hlimit, Number.ofNat_lt_of_le hmn hlt⟩

/-- A section has no room exactly when one more entry is too many, iff its greatest count is
exact. -/
theorem not_hasRoom_iff_overfull_iff : (¬f.HasRoom n ↔ f.Overfull (n + 1)) ↔
    ∀ limit, f.constraints.bind (·.max) = some limit →
      limit.HasPoint ∧ limit.isZero = false ∧ ¬limit.JustAbove n := by
  unfold HasRoom Overfull
  cases f.constraints.bind (·.max) with
  | none => simp
  -- The limit is read in two ways: as no limit where it is zero, and by its place among the counts
  -- elsewhere. A limit strictly between the count and the next one separates the two sides.
  | some limit =>
    simp only [Option.some.injEq, forall_eq', exists_eq_left', not_or]
    by_cases hpoint : limit.HasPoint
    · by_cases hzero : limit.isZero = true
      · simp [hzero, Number.lt_ofNat_succ_of_isZero hzero]
      · by_cases hlt : (Number.ofNat n).lt limit = true
        · simp [hpoint, hzero, hlt, Number.JustAbove]
        · simp [hpoint, hzero, hlt, Number.JustAbove, Number.lt_ofNat_succ hpoint hlt]
    · -- What has no place is not compared with anything.
      have hnone : limit.point? = none := by simpa [Number.HasPoint] using hpoint
      simp [hpoint, Number.isZero, Number.lt, hnone, Point.same, Point.below]

/-- A section can spare none of its entries exactly when one less is too few, iff its least count is
exact. -/
theorem not_hasSpare_iff_underfull_iff : (¬f.HasSpare (n + 1) ↔ f.Underfull n) ↔
    ∀ limit, f.constraints.bind (·.min) = some limit → limit.HasPoint ∧ ¬limit.JustAbove n := by
  unfold HasSpare Underfull
  cases f.constraints.bind (·.min) with
  | none => simp
  | some limit =>
    -- As above, with the count on the other side of the limit.
    simp only [Option.some.injEq, forall_eq', exists_eq_left', not_or]
    by_cases hpoint : limit.HasPoint
    · by_cases hzero : limit.isZero = true
      · simp [hpoint, hzero, Number.JustAbove, Number.not_ofNat_lt_of_isZero hzero]
      · by_cases hlt : limit.lt (.ofNat (n + 1)) = true
        · simp [hpoint, hlt, Number.JustAbove]
        · simp [hpoint, hzero, hlt, Number.JustAbove, Number.ofNat_lt_of_not_lt hpoint hlt]
    · have hnone : limit.point? = none := by simpa [Number.HasPoint] using hpoint
      simp [hpoint, Number.isZero, Number.lt, hnone, Point.same, Point.below]

/-- Under exact bounds a section is refused an entry exactly where one more is too many. -/
theorem ExactBounds.not_hasRoom_iff (h : f.ExactBounds n) : ¬f.HasRoom n ↔ f.Overfull (n + 1) :=
  not_hasRoom_iff_overfull_iff.mpr h.max

/-- Under exact bounds a section is refused a removal exactly where one less is too few. -/
theorem ExactBounds.not_hasSpare_iff (h : f.ExactBounds (n + 1)) :
    ¬f.HasSpare (n + 1) ↔ f.Underfull n :=
  not_hasSpare_iff_underfull_iff.mpr (h.min n.succ_pos)

/-- Whole numbers other than a greatest count of zero can be told from all counts. -/
theorem exactBounds_of_int
    (hmax : ∀ limit, f.constraints.bind (·.max) = some limit → ∃ z ≠ 0, limit = .int z)
    (hmin : ∀ limit, f.constraints.bind (·.min) = some limit → ∃ z, limit = .int z) (n : Nat) :
    f.ExactBounds n := by
  refine ⟨fun limit hlimit => ?_, fun _ limit hlimit => ?_⟩
  · obtain ⟨z, hz, rfl⟩ := hmax limit hlimit
    exact ⟨rfl, by simpa [Number.isZero_int] using hz, Number.not_justAbove_int z n⟩
  · obtain ⟨z, rfl⟩ := hmin limit hlimit
    exact ⟨rfl, Number.not_justAbove_int z _⟩

/-- Where the bounds are exact, a change does not make the entries too many. -/
theorem Counts.le_of_overfull (h : f.Counts n m) (hexact : f.ExactBounds n) (hm : f.Overfull m) :
    m ≤ n := by
  rcases h with rfl | ⟨rfl, hroom⟩ | ⟨rfl, _⟩
  · exact le_rfl
  · exact absurd hroom (hexact.not_hasRoom_iff.mpr hm)
  · exact m.le_succ

/-- Where the bounds are exact, a change does not make the entries too few. -/
theorem Counts.le_of_underfull (h : f.Counts n m) (hexact : f.ExactBounds n)
    (hm : f.Underfull m) : n ≤ m := by
  rcases h with rfl | ⟨rfl, _⟩ | ⟨rfl, hspare⟩
  · exact le_rfl
  · exact n.le_succ
  · exact absurd hspare (hexact.not_hasSpare_iff.mpr hm)

end Field

/-! ### Counts of entries -/

/-- The items of a value are as many as its length says. -/
theorem Value.length_of_iterate {v : Value} {n : Nat} {vs : List Value} (hn : v.length = .ok n)
    (hvs : v.iterate = .ok vs) : vs.length = n := by
  unfold Value.iterate at hvs
  cases hitems : v.iterate? with
  | none =>
    rw [hitems] at hvs
    cases hvs
  | some ws =>
    rw [hitems] at hvs
    cases hvs
    -- A record has items and no length, so it is not among the values with both.
    cases v with
    | record kind ms => cases hn
    | _ =>
      simp only [Value.length, hitems] at hn
      exact Except.ok.inj hn

namespace Session

/-- The answer of a section counts as so many entries. -/
def Holds (s : Session) (f : Field) (n : Nat) : Prop := (s.sectionAnswer f.id).length = .ok n

/-- The field is a repeatable section of the form. -/
structure HasSection (s : Session) (f : Field) : Prop where
  field?_eq : s.schema.field? (.str f.id) = some f
  type_eq : f.type = .repeatable

variable {s : Session} {f g : Field} {m n : Nat}

/-- A section holds one number of entries. -/
theorem Holds.eq (h : s.Holds f m) (h' : s.Holds f n) : m = n := Except.ok.inj (h.symm.trans h')

/-- A list of entries is counted as it is. -/
theorem holds_of_get? {vs : List Value} (h : s.answers.get? f.id = some (.list vs)) :
    s.Holds f vs.length := by
  unfold Holds sectionAnswer answer
  rw [h]
  cases vs with
  | nil => rfl
  | cons v vs => rfl

/-- Only the answer of the section itself counts. -/
theorem Holds.congr {s' : Session} (h : s.Holds f n)
    (hanswer : s'.answers.get? f.id = s.answers.get? f.id) : s'.Holds f n := by
  unfold Holds sectionAnswer answer at h ⊢
  rw [hanswer]
  exact h

/-! ### Sections -/

/-- A section of the schema is found under its identifier. -/
theorem HasSection.requireSection_eq (h : s.HasSection f) :
    s.requireSection (.str f.id) = .ok f := by
  unfold requireSection requireField
  rw [h.field?_eq]
  exact if_pos h.type_eq

/-- What is found as a section is one, asked for by its identifier. -/
theorem hasSection_of_requireSection {id : Value} (h : s.requireSection id = .ok f) :
    id = .str f.id ∧ s.HasSection f := by
  obtain ⟨g, hg, h⟩ := Outcome.bind_eq_ok_iff.mp h
  obtain ⟨_, rfl⟩ := requireField_eq_ok hg
  unfold requireField at hg
  split at h
  · rename_i htype
    obtain rfl := Outcome.pure_eq_ok_iff.mp h
    refine ⟨rfl, ⟨?_, htype⟩⟩
    split at hg
    · rename_i hfield
      rw [hfield, Except.ok.inj hg]
    · exact absurd hg Outcome.refuse_ne_ok
  · exact absurd h Outcome.refuse_ne_ok

/-- A section is determined by its identifier. -/
theorem HasSection.eq (h : s.HasSection f) (h' : s.HasSection g) (hid : g.id = f.id) : g = f :=
  Option.some.inj (h'.field?_eq.symm.trans (hid ▸ h.field?_eq))

/-- A bound is compared with the count. -/
theorem Holds.boundAllows_eq (h : s.Holds f n) (bound : Option Number)
    (allows : Number → Number → Bool) : ∃ b, s.boundAllows f bound allows = .ok b ∧
      (b = true ↔ ∀ limit, bound = some limit →
        limit.isZero = true ∨ allows (.ofNat n) limit = true) := by
  unfold boundAllows
  cases bound with
  | none => exact ⟨true, rfl, by simp⟩
  | some limit =>
    by_cases hzero : limit.isZero = true
    · refine ⟨true, ?_, by simp [hzero]⟩
      simp [Option.filter, hzero]
    · refine ⟨allows (.ofNat n) limit, ?_, by simp [hzero]⟩
      have hn : (s.sectionAnswer f.id).length = .ok n := h
      simp only [Option.filter, hzero, hn]
      rfl

/-- The right to add an entry is the room that is left. -/
theorem HasSection.canAddEntry_eq (hf : s.HasSection f) (h : s.Holds f n) :
    ∃ b, s.canAddEntry (.str f.id) = .ok b ∧ (b = true ↔ f.HasRoom n) := by
  unfold canAddEntry
  rw [hf.requireSection_eq]
  exact h.boundAllows_eq _ fun n limit => n.lt limit

/-- The right to remove an entry is the number that can be spared. -/
theorem HasSection.canRemoveEntry_eq (hf : s.HasSection f) (h : s.Holds f n) :
    ∃ b, s.canRemoveEntry (.str f.id) = .ok b ∧ (b = true ↔ f.HasSpare n) := by
  unfold canRemoveEntry
  rw [hf.requireSection_eq]
  exact h.boundAllows_eq _ fun n limit => limit.lt n

/-! ### Refusals -/

/-- What a settled proposal answers was proposed. -/
theorem settle_eq_ok {α : Type} {s' : Session} {p : Outcome (α × Option (Members Value))} {a : α}
    (h : s.settle p = (.ok a, s')) : ∃ answers?, p = .ok (a, answers?) := by
  rcases p with _ | ⟨b, _ | answers⟩
  · cases h
  · cases h
    exact ⟨none, rfl⟩
  · obtain ⟨_, _, rfl⟩ := Outcome.map_eq_ok_iff.mp (Prod.mk.inj h).1
    exact ⟨some answers, rfl⟩

/-- An addition answers whether the section may take one more entry. -/
theorem canAddEntry_of_proposal {id : Value} {b : Bool} {answers? : Option (Members Value)}
    (h : s.proposal (.addEntry id) = .ok (.value (.bool b), answers?)) :
    s.canAddEntry id = .ok b := by
  -- A command that was allowed places entries and one that was not gives up; both have asked first.
  obtain ⟨_, _, h⟩ := Outcome.bind_eq_ok_iff.mp h
  obtain ⟨free, hfree, h⟩ := Outcome.bind_eq_ok_iff.mp h
  cases free with
  | false =>
    cases h
    exact hfree
  | true =>
    obtain ⟨_, _, h⟩ := Outcome.bind_eq_ok_iff.mp h
    cases h
    exact hfree

/-- A removal answers whether the section may lose an entry. -/
theorem canRemoveEntry_of_proposal {id index : Value} {b : Bool}
    {answers? : Option (Members Value)}
    (h : s.proposal (.removeEntry id index) = .ok (.value (.bool b), answers?)) :
    s.canRemoveEntry id = .ok b := by
  obtain ⟨free, hfree, h⟩ := Outcome.bind_eq_ok_iff.mp h
  cases free with
  | false =>
    cases h
    exact hfree
  | true =>
    obtain ⟨_, _, h⟩ := Outcome.bind_eq_ok_iff.mp h
    obtain ⟨_, _, h⟩ := Outcome.bind_eq_ok_iff.mp h
    obtain ⟨_, _, h⟩ := Outcome.bind_eq_ok_iff.mp h
    cases h
    exact hfree

/-- An entry is refused, and nothing changes, exactly when there is no room for it. -/
theorem HasSection.addEntry_refused_iff (hf : s.HasSection f) (h : s.Holds f n) :
    (run (.addEntry (.str f.id))).run.run s = (.ok (.value (.bool false)), s) ↔ ¬f.HasRoom n := by
  obtain ⟨free, hfree, hroom⟩ := hf.canAddEntry_eq h
  rw [run_run, ← hroom, Bool.not_eq_true]
  constructor
  -- A refusal is an answer, so the command has settled and the right it asked for was denied.
  · intro hrefused
    obtain ⟨_, hp⟩ := settle_eq_ok hrefused
    exact Except.ok.inj (hfree.symm.trans (canAddEntry_of_proposal hp))
  · rintro rfl
    have hp : s.proposal (.addEntry (.str f.id)) = .ok (.value (.bool false), none) := by
      show (s.requireSection _ >>= fun _ => s.canAddEntry _ >>= _) = _
      rw [hf.requireSection_eq, hfree]
      rfl
    rw [hp]
    rfl

/-- An entry is kept, and nothing changes, exactly when none can be spared; which one it is to be is
not looked at then. -/
theorem HasSection.removeEntry_refused_iff (hf : s.HasSection f) (h : s.Holds f n)
    (index : Value) :
    (run (.removeEntry (.str f.id) index)).run.run s = (.ok (.value (.bool false)), s) ↔
      ¬f.HasSpare n := by
  obtain ⟨free, hfree, hspare⟩ := hf.canRemoveEntry_eq h
  rw [run_run, ← hspare, Bool.not_eq_true]
  constructor
  -- As for adding, with the right to remove.
  · intro hrefused
    obtain ⟨_, hp⟩ := settle_eq_ok hrefused
    exact Except.ok.inj (hfree.symm.trans (canRemoveEntry_of_proposal hp))
  · rintro rfl
    have hp : s.proposal (.removeEntry (.str f.id) index) = .ok (.value (.bool false), none) := by
      show (s.canRemoveEntry _ >>= _) = _
      rw [hfree]
      rfl
    rw [hp]
    rfl

/-! ### Changes -/

/-- Entries are added, removed or answered. -/
def Command.EditsEntries : Command → Prop
  | .addEntry _ | .removeEntry _ _ | .setEntryAnswer _ _ _ _ => True
  | _ => False

/-- The entries that a section has are as many as it holds. -/
theorem length_of_entries {id : Value} {vs : List Value} (hf : s.requireSection id = .ok f)
    (h : s.Holds f n) (hvs : s.entries id = .ok vs) : vs.length = n := by
  obtain ⟨g, hg, hvs⟩ := Outcome.bind_eq_ok_iff.mp hvs
  obtain rfl := Except.ok.inj (hf.symm.trans hg)
  exact Value.length_of_iterate h hvs

/-- An index that is resolved lies among the entries. -/
theorem resolveIndex_lt {index : Value} {count k : Nat} {assignment : Bool}
    (h : resolveIndex index count assignment = .ok k) : k < count := by
  -- The range test is the same for an integer and for a Boolean read as one.
  have hresolve {i : Int} (h : (if 0 ≤ i ∧ i < count then .ok i.toNat
      else misuse (.positionOutOfRange assignment) : Outcome Nat) = .ok k) : k < count := by
    split at h
    · cases h
      omega
    · cases h
  cases index with
  | int i =>
    simp only [resolveIndex] at h
    split at h
    · exact hresolve h
    · cases h
  | bool b => exact hresolve h
  | _ => cases h

/-- What a change of entries puts in place is a list of entries for one section, which counts as it
should. -/
theorem counts_of_proposal {command : Command} (hc : command.EditsEntries) {a : Answer}
    {answers : Members Value} (h : s.proposal command = .ok (a, some answers)) :
    ∃ g vs, s.HasSection g ∧ answers = s.answers.put g.id (.list vs) ∧
      ∀ n, s.Holds g n → g.Counts n vs.length := by
  -- Each of the three commands puts one list of entries back, with one more, one less or as many.
  cases command with
  | addEntry id =>
    obtain ⟨g, hg, h⟩ := Outcome.bind_eq_ok_iff.mp h
    obtain ⟨rfl, hsection⟩ := hasSection_of_requireSection hg
    obtain ⟨free, hfree, h⟩ := Outcome.bind_eq_ok_iff.mp h
    cases free with
    | false => cases h
    | true =>
      obtain ⟨vs, hvs, h⟩ := Outcome.bind_eq_ok_iff.mp h
      cases h
      refine ⟨g, _, hsection, rfl, fun n hn => Or.inr (Or.inl ⟨?_, ?_⟩)⟩
      · rw [List.length_append, length_of_entries hg hn hvs]
        rfl
      · obtain ⟨b, hb, hroom⟩ := hsection.canAddEntry_eq hn
        exact hroom.mp (Except.ok.inj (hb.symm.trans hfree))
  | removeEntry id index =>
    obtain ⟨free, hfree, h⟩ := Outcome.bind_eq_ok_iff.mp h
    cases free with
    | false => cases h
    | true =>
      obtain ⟨g, hg, h⟩ := Outcome.bind_eq_ok_iff.mp h
      obtain ⟨rfl, hsection⟩ := hasSection_of_requireSection hg
      obtain ⟨vs, hvs, h⟩ := Outcome.bind_eq_ok_iff.mp h
      obtain ⟨k, hk, h⟩ := Outcome.bind_eq_ok_iff.mp h
      cases h
      refine ⟨g, _, hsection, rfl, fun n hn => Or.inr (Or.inr ⟨?_, ?_⟩)⟩
      · have hlt := resolveIndex_lt hk
        rw [List.length_eraseIdx_of_lt hlt, ← length_of_entries hg hn hvs]
        omega
      · obtain ⟨b, hb, hspare⟩ := hsection.canRemoveEntry_eq hn
        exact hspare.mp (Except.ok.inj (hb.symm.trans hfree))
  | setEntryAnswer id index sub v =>
    obtain ⟨g, hg, h⟩ := Outcome.bind_eq_ok_iff.mp h
    obtain ⟨rfl, hsection⟩ := hasSection_of_requireSection hg
    cases hchild : g.child? sub with
    | none =>
      rw [hchild] at h
      exact absurd h Outcome.refuse_ne_ok
    | some child =>
      rw [hchild] at h
      obtain ⟨vs, hvs, h⟩ := Outcome.bind_eq_ok_iff.mp h
      obtain ⟨k, _, h⟩ := Outcome.bind_eq_ok_iff.mp h
      obtain ⟨entry, _, h⟩ := Outcome.bind_eq_ok_iff.mp h
      cases h
      refine ⟨g, _, hsection, rfl, fun n hn => Or.inl ?_⟩
      rw [List.length_set, length_of_entries hg hn hvs]
  | _ => exact hc.elim

/-- After a command the answers are those before or those that it proposes, also when the look at
them fails. -/
theorem answers_run (command : Command) (s : Session) :
    ((run command).run.run s).2.answers = s.answers ∨
      ∃ a, s.proposal command = .ok (a, some ((run command).run.run s).2.answers) := by
  rw [run_run]
  rcases s.proposal command with _ | ⟨a, _ | answers⟩
  · exact Or.inl rfl
  · exact Or.inl rfl
  · exact Or.inr ⟨a, rfl⟩

/-- A change of entries counts as it should in every section. -/
theorem Holds.run (hf : s.HasSection f) (h : s.Holds f n) {command : Command}
    (hc : command.EditsEntries) :
    ∃ m, Holds ((run command).run.run s).2 f m ∧ f.Counts n m := by
  rcases answers_run command s with hanswers | ⟨a, hp⟩
  · exact ⟨n, h.congr (by rw [hanswers]), Or.inl rfl⟩
  · obtain ⟨g, vs, hg, hanswers, hcounts⟩ := counts_of_proposal hc hp
    by_cases hid : g.id = f.id
    · obtain rfl := hf.eq hg hid
      refine ⟨vs.length, holds_of_get? ?_, hcounts n h⟩
      rw [hanswers, Members.get?_put, if_pos rfl]
    · refine ⟨n, h.congr ?_, Or.inl rfl⟩
      rw [hanswers, Members.get?_put, if_neg hid]

/-- No command takes a section out of the schema. -/
theorem HasSection.run (hf : s.HasSection f) (command : Command) :
    HasSection ((run command).run.run s).2 f :=
  ⟨by rw [(keepsForm_run command s).1]; exact hf.field?_eq, hf.type_eq⟩

/-! ### Keeping to the bounds -/

/-- Around so many entries the section keeps to its bounds: one more is refused, and nothing
changes, exactly when they would be too many, and the removal of one that is there exactly when they
would be too few; and no change puts the section beyond its bounds. -/
structure KeepsBounds (s : Session) (f : Field) (n : Nat) : Prop where
  add : (run (.addEntry (.str f.id))).run.run s = (.ok (.value (.bool false)), s) ↔
    f.Overfull (n + 1)
  remove (i : Int) (hfirst : -n ≤ i) (hlast : i < n) :
    (run (.removeEntry (.str f.id) (.int i))).run.run s = (.ok (.value (.bool false)), s) ↔
      f.Underfull (n - 1)
  not_overfull (command : Command) (hc : command.EditsEntries) (m : Nat)
    (hm : Holds ((run command).run.run s).2 f m) : f.Overfull m → m ≤ n
  not_underfull (command : Command) (hc : command.EditsEntries) (m : Nat)
    (hm : Holds ((run command).run.run s).2 f m) : f.Underfull m → n ≤ m

/-- A section keeps to its bounds exactly where they can be told from the counts. -/
theorem HasSection.keepsBounds_iff (hf : s.HasSection f) (h : s.Holds f n) :
    s.KeepsBounds f n ↔ f.ExactBounds n := by
  constructor
  -- The two refusals say what the bounds must be.
  · intro hkeeps
    refine ⟨Field.not_hasRoom_iff_overfull_iff.mp ?_, fun hn => ?_⟩
    · exact (hf.addEntry_refused_iff h).symm.trans hkeeps.add
    · obtain ⟨k, rfl⟩ := Nat.exists_eq_succ_of_ne_zero hn.ne'
      refine Field.not_hasSpare_iff_underfull_iff.mp ?_
      exact (hf.removeEntry_refused_iff h _).symm.trans (hkeeps.remove 0 (by omega) (by omega))
  -- Exact bounds give the refusals, and every edit then leaves a count that it was allowed to
  -- leave.
  · intro hexact
    refine ⟨(hf.addEntry_refused_iff h).trans hexact.not_hasRoom_iff, fun i hfirst hlast => ?_,
      fun command hc m hm => ?_, fun command hc m hm => ?_⟩
    · obtain ⟨k, rfl⟩ := Nat.exists_eq_succ_of_ne_zero (show n ≠ 0 by omega)
      exact (hf.removeEntry_refused_iff h _).trans hexact.not_hasSpare_iff
    · obtain ⟨m', hm', hcounts⟩ := h.run hf hc
      obtain rfl := hm.eq hm'
      exact hcounts.le_of_overfull hexact
    · obtain ⟨m', hm', hcounts⟩ := h.run hf hc
      obtain rfl := hm.eq hm'
      exact hcounts.le_of_underfull hexact

/-- After a run of changes of entries the section is there and its entries are counted; if the
bounds are exact, they are beyond them only as far as they were before. -/
theorem HasSection.afterAll (c : Config) (hf : s.HasSection f) (h : s.Holds f n)
    {commands : List Command} (hc : ∀ command ∈ commands, command.EditsEntries) :
    let t := s.afterAll c (commands.map .command)
    t.HasSection f ∧ ∃ m, t.Holds f m ∧ ((∀ k, f.ExactBounds k) →
      (f.Overfull m → m ≤ n) ∧ (f.Underfull m → n ≤ m)) := by
  induction commands generalizing s n with
  | nil => exact ⟨hf, n, h, fun _ => ⟨fun _ => le_rfl, fun _ => le_rfl⟩⟩
  | cons command commands ih =>
    rw [List.forall_mem_cons] at hc
    obtain ⟨k, hk, hcounts⟩ := h.run hf hc.1
    obtain ⟨hfinal, m, hm, hbounds⟩ := ih (hf.run command) hk hc.2
    refine ⟨hfinal, m, hm, fun hexact => ⟨fun hover => ?_, fun hunder => ?_⟩⟩
    -- What is too many at the end was too many after the first change already.
    · have hmk := (hbounds hexact).1 hover
      exact hmk.trans (hcounts.le_of_overfull (hexact n) (hover.mono hmk))
    · have hkm := (hbounds hexact).2 hunder
      exact (hcounts.le_of_underfull (hexact n) (hunder.anti hkm)).trans hkm

/-- At the end of any run of changes of entries the section keeps to its bounds exactly when they
can be told from the counts there.  If they can be told from all counts, the entries are too many
only if there were at least so many from the start, and too few only if there were at most so
many. -/
theorem keepsBounds_afterAll_iff (c : Config) (hf : s.HasSection f) (h : s.Holds f n)
    {commands : List Command} (hc : ∀ command ∈ commands, command.EditsEntries) :
    let t := s.afterAll c (commands.map .command)
    ∃ m, t.Holds f m ∧ (t.KeepsBounds f m ↔ f.ExactBounds m) ∧
      ((∀ k, f.ExactBounds k) → (f.Overfull m → m ≤ n) ∧ (f.Underfull m → n ≤ m)) := by
  intro t
  obtain ⟨hft, m, hm, hbounds⟩ := hf.afterAll c h hc
  exact ⟨m, hm, hft.keepsBounds_iff hm, hbounds⟩

/-- A section of the names of pets, with bounds for their count. -/
def petsSection (min max : Option Number) : Field :=
  ⟨"pets", .repeatable, "Pets", false, none, none, none,
    some { Constraints.unconstrained with min, max }, none,
    some [⟨"name", .text, "Name", false, none, none, none, none, none, none⟩]⟩

/-- A form of such a section. -/
def petsForm (min max : Option Number) : Schema :=
  ⟨"Pets", "", [petsSection min max], ⟨true, true, ""⟩⟩

/-- A section of one to two pets keeps to its bounds after two additions and a removal. -/
theorem keepsBounds_afterAll_pets :
    let c : Config := { Config.standard with cacheSize := .int 0 }
    let f := petsSection (some (.int 1)) (some (.int 2))
    let add := Command.addEntry (.str "pets")
    let remove := Command.removeEntry (.str "pets") (.int 0)
    let commands := [add, add, remove]
    ∃ s, Session.new c (petsForm (some (.int 1)) (some (.int 2))) .null = .ok s ∧
      s.HasSection f ∧ s.Holds f 0 ∧ (∀ command ∈ commands, command.EditsEntries) ∧
      (s.afterAll c (commands.map .command)).Holds f 1 ∧
      (s.afterAll c (commands.map .command)).KeepsBounds f 1 := by
  intro c f add remove commands
  have hc : ∀ command ∈ commands, command.EditsEntries := by
    simp [commands, add, remove, Command.EditsEntries]
  -- Integer bounds other than zero are exact.
  have hexact : f.ExactBounds 1 := by
    refine Field.exactBounds_of_int (fun limit h => ⟨2, by decide, ?_⟩) (fun limit h => ⟨1, ?_⟩) 1
    · exact (Option.some.inj h).symm
    · exact (Option.some.inj h).symm
  obtain ⟨s, hs, hf, h, hm⟩ : ∃ s,
      Session.new c (petsForm (some (.int 1)) (some (.int 2))) .null = .ok s ∧ s.HasSection f ∧
      s.Holds f 0 ∧ (s.afterAll c (commands.map .command)).Holds f 1 :=
    ⟨_, rfl, ⟨rfl, rfl⟩, rfl, rfl⟩
  obtain ⟨m, hm', hkeeps, _⟩ := keepsBounds_afterAll_iff c hf h hc
  obtain rfl := hm.eq hm'
  exact ⟨s, hs, hf, h, hc, hm, hkeeps.mpr hexact⟩

/-- Zero is no bound: a section of at most no pets takes one. -/
theorem not_keepsBounds_zero :
    let c : Config := { Config.standard with cacheSize := .int 0 }
    let f := petsSection none (some (.int 0))
    ∃ s, Session.new c (petsForm none (some (.int 0))) .null = .ok s ∧
      s.HasSection f ∧ s.Holds f 0 ∧ ¬s.KeepsBounds f 0 ∧
      (s.after c (.command (.addEntry (.str "pets")))).Holds f 1 ∧ f.Overfull 1 := by
  intro c f
  obtain ⟨s, hs, hf, h, hm⟩ : ∃ s,
      Session.new c (petsForm none (some (.int 0))) .null = .ok s ∧
      s.HasSection f ∧ s.Holds f 0 ∧
      (s.after c (.command (.addEntry (.str "pets")))).Holds f 1 :=
    ⟨_, rfl, ⟨rfl, rfl⟩, rfl, rfl⟩
  have hover : f.Overfull 1 := ⟨.int 0, rfl, by decide⟩
  -- The section holds one entry, which is one too many, after an edit that found none too many.
  refine ⟨s, hs, hf, h, fun hkeeps => ?_, hm, hover⟩
  have hle := hkeeps.not_overfull (.addEntry (.str "pets")) trivial 1 hm hover
  omega

end Session
end Questionnaire
