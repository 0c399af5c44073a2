import Mathlib.Data.List.Sort
import Questionnaire.Proofs.Value.Equality
import Questionnaire.Proofs.Visibility.Answers

/-!
# What frozen data tells apart

Two JSON values whose numbers all have a place have equal frozen forms exactly when they are
equal with equal kinds at every place (`Value.EqualInKind`): items are compared in order, members by
name in any order.  The way there is the key.  Frozen forms are equal when their keys are the same
(`Frozen.same_toValue_iff_key`), a key forgets nothing of a number but the sign of zero
(`Frozen.key_float_eq_iff`), and sorted members forget nothing but their order
(`Frozen.sortMembers_eq_iff`).

What can be frozen at all is plain at every place, and anything else is refused as data of a wrong
kind (`Datum.requires_freeze`).
-/

namespace Questionnaire

/-- The number has a place on the number line. -/
def Number.Placed (n : Number) : Prop := n.point?.isSome = true

namespace Value

/-- The values are equal, and of one kind at every place. -/
def EqualInKind (a b : Value) : Prop :=
  EqualBy (fun a b => a.kind = b.kind ∧ SameLeaf a b) a b

end Value

namespace Datum

/-- Data stands in other data, at any depth. -/
inductive Within : Datum → Datum → Prop
  | self (d : Datum) : Within d d
  | value {v w : Value} (h : v.Within w) : Within (.value v) (.value w)
  | item {x d : Datum} {ds : List Datum} (hd : d ∈ ds) (h : Within x d) : Within x (.list ds)
  | entry {x : Datum} {e : Value × Datum} {es : List (Value × Datum)} (he : e ∈ es)
      (h : Within x e.2) : Within x (.object es)

/-- The datum is a leaf of JSON data, an array, or an object whose names are texts. -/
def IsPlain : Datum → Prop
  | .value v => v.IsPlain
  | .list _ => True
  | .object es => ∀ e ∈ es, ∃ name, e.1 = .str name
  | .other _ => False

/-- The datum is plain, and so is everything in it. -/
def PlainThroughout (d : Datum) : Prop := ∀ x : Datum, x.Within d → x.IsPlain

end Datum

/-! ### Equality of frozen data -/

namespace Value

theorem same_str {s t : String} : same (.str s) (.str t) = true ↔ s = t := by
  simp [same, equalScalars]

theorem same_pair {a b c d : Value} : same (.tuple [a, b]) (.tuple [c, d]) = true ↔
    same a c = true ∧ same b d = true := by
  simp [same, equalLists]

theorem same_float_iff {x y : Binary64} : same (.float x) (.float y) = true ↔
    x = y ∧ x.isNaN = true ∨ ∃ p, x.point? = some p ∧ y.point? = some p := by
  rw [← Point.same_iff]
  cases x <;> cases y <;>
    simp [same, equalScalars, scalarPoint?, Binary64.isNaN, Binary64.point?_nan,
      Point.same_none]

end Value

namespace Frozen

variable {f g : Frozen}

/-- Frozen data as a value, without its kind. -/
def content : Frozen → Value
  | .null => .null
  | .bool b => .bool b
  | .int n => .int n
  | .float x => .float x
  | .str s => .str s
  | .list fs => .tuple (toValues fs)
  | .dict ms => .tuple (toPairs ms)

theorem toValue_eq (f : Frozen) : f.toValue = .tuple [.str f.kind, f.content] := by
  cases f <;> rfl

theorem kind_key (f : Frozen) : f.key.kind = f.kind := by
  cases f with
  | float x => cases x <;> rfl
  | _ => rfl

theorem kind_eq_of_key (h : f.key = g.key) : f.kind = g.kind := by
  rw [← kind_key f, h, kind_key]

theorem same_toValue_iff : Value.same f.toValue g.toValue = true ↔
    f.kind = g.kind ∧ Value.same f.content g.content = true := by
  rw [toValue_eq, toValue_eq, Value.same_pair, Value.same_str]

/-- Floats have one key exactly when they are the same items. -/
theorem key_float_eq_iff {x y : Binary64} :
    (Frozen.float x).key = (Frozen.float y).key ↔ Value.same (.float x) (.float y) = true := by
  constructor
  · -- One key makes one normal form, and a float is the same item as its normal form.
    intro h
    have hnormal : (Frozen.float x).normal = (Frozen.float y).normal := congrArg thaw h
    rw [← Value.same_normal (.float x) rfl, hnormal, Value.same_normal (.float y) rfl,
      Value.same_float_iff]
    cases hy : y.point? with
    | some p => exact .inr ⟨p, rfl, rfl⟩
    | none =>
      cases y with
      | nan mark => exact .inl ⟨rfl, rfl⟩
      | infinite neg => cases neg <;> cases hy
      | finite => cases hy
  · rw [Value.same_float_iff]
    rintro (⟨rfl, -⟩ | ⟨p, hx, hy⟩)
    · rfl
    · obtain rfl | ⟨neg, neg', rfl, rfl⟩ := Binary64.eq_or_zero_of_point? hx hy
      · rfl
      · rfl

mutual

/-- Frozen data is the same exactly when its keys are. -/
theorem same_toValue_iff_key (f g : Frozen) :
    Value.same f.toValue g.toValue = true ↔ f.key = g.key := by
  by_cases hkind : f.kind = g.kind
  · rw [same_toValue_iff, and_iff_right hkind]
    cases f <;> cases g
    case float.float x y => exact key_float_eq_iff.symm
    case list.list fs gs => simp [content, key, Value.same, equalLists_toValues_iff fs gs]
    case dict.dict ms ns => simp [content, key, Value.same, equalLists_toPairs_iff ms ns]
    case str.str s t => simp [content, key, Value.same_str]
    case bool.bool b c =>
      cases b <;> cases c <;>
        simp [content, key, Value.same, Value.equalScalars, Value.scalarPoint?, Point.same,
          Point.ofInt_inj]
    case int.int m n =>
      simp [content, key, Value.same, Value.equalScalars, Value.scalarPoint?, Point.same,
        Point.ofInt_inj]
    case null.null => simp [content, key, Value.same, Value.equalScalars]
    -- All others are of different kinds.
    all_goals simp [kind] at hkind
  · exact iff_of_false (fun h => hkind (same_toValue_iff.mp h).1) fun h => hkind (kind_eq_of_key h)

theorem equalLists_toValues_iff : ∀ fs gs : List Frozen,
    Value.equalLists (toValues fs) (toValues gs) = true ↔ keyList fs = keyList gs
  | [], [] | [], _ :: _ | _ :: _, [] => by simp [toValues, keyList, Value.equalLists]
  | f :: fs, g :: gs => by
    simp [toValues, keyList, Value.equalLists, same_toValue_iff_key f g,
      equalLists_toValues_iff fs gs]

theorem equalLists_toPairs_iff : ∀ ms ns : List (String × Frozen),
    Value.equalLists (toPairs ms) (toPairs ns) = true ↔ keyMembers ms = keyMembers ns
  | [], [] | [], _ :: _ | _ :: _, [] => by simp [toPairs, keyMembers, Value.equalLists]
  | (_, f) :: ms, (_, g) :: ns => by
    simp [toPairs, keyMembers, Value.equalLists, Value.same_pair, Value.same_str,
      same_toValue_iff_key f g,
      equalLists_toPairs_iff ms ns]

end

theorem equal_toValue_iff : f.toValue.equal g.toValue = true ↔ f.key = g.key := by
  rw [← same_toValue_iff_key, toValue_eq, toValue_eq, Value.equal, Value.same]

/-! ### Sorted members -/

theorem keyList_eq_map (fs : List Frozen) : keyList fs = fs.map key := by
  induction fs with
  | nil => rfl
  | cons f fs ih => rw [keyList, ih, List.map_cons]

theorem keyMembers_eq_map (ms : Members Frozen) :
    keyMembers ms = ms.map fun m => (m.1, m.2.key) := by
  induction ms with
  | nil => rfl
  | cons m ms ih => rw [keyMembers, ih, List.map_cons]

theorem keyMembers_sortMembers (ms : Members Frozen) :
    keyMembers (sortMembers ms) = sortMembers (keyMembers ms) := by
  rw [keyMembers_eq_map, keyMembers_eq_map]
  exact List.map_mergeSort fun _ _ _ _ => rfl

theorem pairwise_sortMembers (ms : Members Frozen) :
    (sortMembers ms).Pairwise fun m n => m.1 ≤ n.1 := by
  have htrans (a b c : String × Frozen) (hab : decide (a.1 ≤ b.1) = true)
      (hbc : decide (b.1 ≤ c.1) = true) : decide (a.1 ≤ c.1) = true :=
    decide_eq_true (String.le_trans (of_decide_eq_true hab) (of_decide_eq_true hbc))
  have htotal (a b : String × Frozen) : (decide (a.1 ≤ b.1) || decide (b.1 ≤ a.1)) = true := by
    simpa using String.le_total a.1 b.1
  exact (List.pairwise_mergeSort htrans htotal ms).imp of_decide_eq_true

/-- Sorting forgets nothing but the order in which members with distinct names came. -/
theorem sortMembers_eq_iff {ms ns : Members Frozen} (hm : ms.names.Nodup) :
    sortMembers ms = sortMembers ns ↔ ms.Perm ns := by
  constructor
  · intro h
    exact (sortMembers_perm ms).symm.trans (h ▸ sortMembers_perm ns)
  · intro h
    refine List.Perm.eq_of_pairwise (fun a b ha hb hab hba => ?_) (pairwise_sortMembers ms)
      (pairwise_sortMembers ns) ((sortMembers_perm ms).trans (h.trans (sortMembers_perm ns).symm))
    -- There is only one member of a name.
    have ha : a ∈ ms := (sortMembers_perm ms).mem_iff.mp ha
    have hb : b ∈ ms := h.mem_iff.mpr ((sortMembers_perm ns).mem_iff.mp hb)
    exact List.inj_on_of_nodup_map hm ha hb (String.le_antisymm hab hba)

/-- Sorted members with distinct names have one key when each name finds data with one key. -/
theorem keyMembers_sortMembers_eq_iff {ms ns : Members Frozen} (hm : ms.names.Nodup)
    (hn : ns.names.Nodup) : keyMembers (sortMembers ms) = keyMembers (sortMembers ns) ↔
      ∀ name, (ms.get? name).map key = (ns.get? name).map key := by
  have hm' : (Members.names (keyMembers ms)).Nodup := by
    rwa [keyMembers_eq_map, Members.names_map]
  have hn' : (Members.names (keyMembers ns)).Nodup := by
    rwa [keyMembers_eq_map, Members.names_map]
  rw [keyMembers_sortMembers, keyMembers_sortMembers, sortMembers_eq_iff hm',
    Members.perm_iff_get? hm' hn']
  simp only [keyMembers_eq_map, Members.get?_map]

end Frozen

/-! ### Keys of values -/

namespace Value

variable {a b : Value} {f g : Frozen}

theorem kind_of_freeze (h : a.freeze = .ok f) : f.kind = a.kind := by
  cases a with
  | null | bool | int | float | str => cases h; rfl
  | list =>
    obtain ⟨_, -, rfl⟩ := freeze_list_eq_ok_iff.mp h
    rfl
  | dict =>
    obtain ⟨_, -, rfl⟩ := freeze_dict_eq_ok_iff.mp h
    rfl
  | missing | tuple | set | bytes | date | file | record => cases h

theorem EqualInKind.kind_eq (h : EqualInKind a b) : a.kind = b.kind := by
  cases h with
  | leaf h => exact h.1
  | list | dict => rfl

/-- Neither the keys nor the values agree across kinds, so only one kind is left to look at. -/
theorem key_eq_iff_of_kind (hf : a.freeze = .ok f) (hg : b.freeze = .ok g)
    (h : a.kind = b.kind → (f.key = g.key ↔ EqualInKind a b)) :
    f.key = g.key ↔ EqualInKind a b := by
  refine ⟨fun hkey => (h ?_).mp hkey, fun heq => (h heq.kind_eq).mpr heq⟩
  rw [← kind_of_freeze hf, ← kind_of_freeze hg, Frozen.kind_eq_of_key hkey]

/-- Items have one key each exactly when they are related one by one. -/
theorem map_key_eq_iff {R : Value → Value → Prop} {xs ys : List Value} {fs gs : List Frozen}
    (hfs : List.Forall₂ (fun v f => v.freeze = .ok f) xs fs)
    (hgs : List.Forall₂ (fun v f => v.freeze = .ok f) ys gs)
    (h : ∀ x ∈ xs, ∀ y ∈ ys, ∀ f g, x.freeze = .ok f → y.freeze = .ok g →
      (f.key = g.key ↔ R x y)) :
    fs.map Frozen.key = gs.map Frozen.key ↔
      xs.length = ys.length ∧ ∀ p ∈ xs.zip ys, R p.1 p.2 := by
  induction hfs generalizing ys gs with
  | nil => cases hgs <;> simp
  | @cons x f xs fs hf hfs ih =>
    cases hgs with
    | nil => simp
    | @cons y g ys gs hg hgs =>
      have hhead := h x List.mem_cons_self y List.mem_cons_self f g hf hg
      have htail := ih hgs fun x hx y hy =>
        h x (List.mem_cons_of_mem _ hx) y (List.mem_cons_of_mem _ hy)
      -- Both sides split into what holds of the heads and what holds of the tails.
      rw [List.map_cons, List.map_cons, List.cons.injEq, hhead, htail]
      simp [and_left_comm]

/-- What is found is there on both sides with one key exactly when it is related. -/
theorem map_key_eq_iff_rel {R : Value → Value → Prop} {a? b? : Option Value} {f? g? : Option Frozen}
    (hf : Option.Rel (fun v f => v.freeze = .ok f) a? f?)
    (hg : Option.Rel (fun v f => v.freeze = .ok f) b? g?)
    (h : ∀ a ∈ a?, ∀ b ∈ b?, ∀ f g, a.freeze = .ok f → b.freeze = .ok g →
      (f.key = g.key ↔ R a b)) :
    f?.map Frozen.key = g?.map Frozen.key ↔ Option.Rel R a? b? := by
  cases hf with
  | none => cases hg <;> simp
  | @some a f hf =>
    cases hg with
    | none => simp
    | @some b g hg => simp [h a rfl b rfl f g hf hg]

theorem key_eq_iff_of_leaf (ha : a.IsJson Number.Placed) (hb : b.IsJson Number.Placed)
    (hf : a.freeze = .ok f) (hg : b.freeze = .ok g) (hlist : ∀ xs, a ≠ .list xs)
    (hdict : ∀ ms, a ≠ .dict ms) : f.key = g.key ↔ EqualInKind a b := by
  refine key_eq_iff_of_kind hf hg fun hkind => ?_
  rw [EqualInKind, equalBy_iff_leaf hlist hdict, and_iff_right hkind, sameLeaf_iff]
  cases ha <;> cases hb
  case list.list => exact absurd rfl (hlist _)
  case dict.dict => exact absurd rfl (hdict _)
  case null.null => cases hf; cases hg; simp
  case bool.bool s t => cases hf; cases hg; simpa [Frozen.key, number?] using eq_comm
  case str.str s t => cases hf; cases hg; simpa [Frozen.key, number?] using eq_comm
  case int.int m hm n hn => cases hf; cases hg; simp [Frozen.key, number?, Number.int_eq_int_iff]
  case float.float x hx y hy =>
    cases hf
    cases hg
    have hnan : x.isNaN = false := by
      cases x with
      | nan mark => cases hx
      | _ => rfl
    rw [Frozen.key_float_eq_iff, same_float_iff]
    simp [hnan, number?, Number.eq_iff, Number.point?]
  -- All others are of different kinds.
  all_goals simp [kind] at hkind

/-- The keys of two values are the same exactly when the values are equal with equal kinds. -/
theorem key_eq_iff (ha : a.IsJson Number.Placed) (hb : b.IsJson Number.Placed)
    (hf : a.freeze = .ok f) (hg : b.freeze = .ok g) : f.key = g.key ↔ EqualInKind a b := by
  induction ha generalizing b f g with
  | @list xs hxs ih =>
    refine key_eq_iff_of_kind hf hg fun hkind => ?_
    cases hb with
    | @list ys hys =>
      obtain ⟨fs, hfs, rfl⟩ := freeze_list_eq_ok_iff.mp hf
      obtain ⟨gs, hgs, rfl⟩ := freeze_list_eq_ok_iff.mp hg
      rw [Frozen.key, Frozen.key, Frozen.list.injEq, Frozen.keyList_eq_map, Frozen.keyList_eq_map,
        EqualInKind, equalBy_list_iff fun _ h => not_sameLeaf_list h.2]
      simp only [Value.list.injEq, exists_eq_left']
      exact map_key_eq_iff (forall₂_freezeItems hfs) (forall₂_freezeItems hgs)
        fun x hx y hy f g hf hg => ih x hx (hys y hy) hf hg
    | _ => simp [kind] at hkind
  | @dict ms nodup hms ih =>
    refine key_eq_iff_of_kind hf hg fun hkind => ?_
    cases hb with
    | @dict ns nodup' hns =>
      obtain ⟨fs, hfs, rfl⟩ := freeze_dict_eq_ok_iff.mp hf
      obtain ⟨gs, hgs, rfl⟩ := freeze_dict_eq_ok_iff.mp hg
      rw [Frozen.key, Frozen.key, Frozen.dict.injEq,
        Frozen.keyMembers_sortMembers_eq_iff (names_freezeMembers hfs ▸ nodup)
          (names_freezeMembers hgs ▸ nodup'),
        EqualInKind, equalBy_dict_iff fun _ h => not_sameLeaf_dict h.2]
      simp only [Value.dict.injEq, exists_eq_left']
      -- Both sides now say what each name finds, so the order of the members is out of play.
      rw [← Members.rel_get?_iff]
      refine forall_congr' fun name => ?_
      refine map_key_eq_iff_rel (rel_freezeMembers hfs name) (rel_freezeMembers hgs name)
        fun x hx y hy f g hf hg => ih (name, x) ?_ (hns (name, y) ?_) hf hg
      · exact (Members.get?_eq_some_iff_mem nodup).mp hx
      · exact (Members.get?_eq_some_iff_mem nodup').mp hy
    | _ => simp [kind] at hkind
  -- There is no recursion into anything else.
  | null => exact key_eq_iff_of_leaf .null hb hf hg (by simp) (by simp)
  | bool t => exact key_eq_iff_of_leaf (.bool t) hb hf hg (by simp) (by simp)
  | int h => exact key_eq_iff_of_leaf (.int h) hb hf hg (by simp) (by simp)
  | float h => exact key_eq_iff_of_leaf (.float h) hb hf hg (by simp) (by simp)
  | str s => exact key_eq_iff_of_leaf (.str s) hb hf hg (by simp) (by simp)

end Value

/-! ### What can be frozen -/

namespace Datum

variable {ds : List Datum} {es : List (Value × Datum)}

theorem plainThroughout_value_iff {v : Value} :
    (Datum.value v).PlainThroughout ↔ v.PlainThroughout := by
  constructor
  · exact fun h w hw => h (.value w) (.value hw)
  · rintro h _ (_ | hw)
    · exact h v .self
    · exact h _ hw

theorem plainThroughout_list_iff :
    (Datum.list ds).PlainThroughout ↔ ∀ d ∈ ds, d.PlainThroughout := by
  constructor
  · exact fun h d hd x hx => h x (.item hd hx)
  · rintro h _ (_ | _ | ⟨hd, hx⟩)
    · trivial
    · exact h _ hd _ hx

theorem plainThroughout_object_iff : (Datum.object es).PlainThroughout ↔
    (∀ e ∈ es, ∃ name, e.1 = .str name) ∧ ∀ e ∈ es, e.2.PlainThroughout := by
  constructor
  · exact fun h => ⟨h _ (.self _), fun e he x hx => h x (.entry he hx)⟩
  · rintro ⟨hnames, h⟩ _ (_ | _ | _ | ⟨he, hx⟩)
    · exact hnames
    · exact h _ he _ hx

theorem hasTextNames_iff :
    hasTextNames es = true ↔ ∀ e ∈ es, ∃ name, e.1 = .str name := by
  rw [hasTextNames, List.all_eq_true]
  refine forall₂_congr fun e _ => ?_
  cases e.1 <;> simp [Value.text?]

mutual

/-- A datum can be frozen exactly when it is plain throughout. -/
theorem requires_freeze : ∀ d : Datum, d.freeze.Requires d.PlainThroughout
  | .value v => by
    rw [freeze]
    exact (Value.requires_freeze v).congr plainThroughout_value_iff.symm
  | .list ds => by
    rw [freeze]
    exact ((requires_freezeItems ds).map _).congr plainThroughout_list_iff.symm
  | .object es => by
    rw [freeze]
    refine .congr plainThroughout_object_iff.symm ?_
    by_cases hnames : hasTextNames es = true
    · rw [if_pos hnames]
      exact ((requires_freezeEntries es).map _).congr
        (and_iff_right (hasTextNames_iff.mp hnames)).symm
    · rw [if_neg hnames]
      exact .of_misuse rfl fun h => hnames (hasTextNames_iff.mpr h.1)
  | .other _ => .of_misuse rfl fun h => h _ (.self _)

theorem requires_freezeItems : ∀ ds : List Datum,
    (freezeItems ds).Requires (∀ d ∈ ds, d.PlainThroughout)
  | [] => .of_ok _ (List.forall_mem_nil _)
  | d :: ds => by
    rw [freezeItems, List.forall_mem_cons]
    exact (requires_freeze d).bind fun f => (requires_freezeItems ds).map (f :: ·)

theorem requires_freezeEntries : ∀ es : List (Value × Datum),
    (freezeEntries es).Requires (∀ e ∈ es, e.2.PlainThroughout)
  | [] => .of_ok _ (List.forall_mem_nil _)
  | (name, d) :: es => by
    rw [freezeEntries, List.forall_mem_cons]
    exact (requires_freeze d).bind fun f => (requires_freezeEntries es).map ((name, f) :: ·)

end

end Datum

namespace Value

variable {a : Value} {ms ns : Members Value}

theorem IsJson.plainThroughout {N : Number → Prop} (h : a.IsJson N) : a.PlainThroughout := by
  induction h with
  | list _ ih => exact plainThroughout_list_iff.mpr ih
  | dict _ _ ih => exact plainThroughout_dict_iff.mpr ih
  | null | bool | int | float | str =>
    intro w hw
    cases hw
    trivial

theorem IsJson.exists_freeze {N : Number → Prop} (h : a.IsJson N) : ∃ f, a.freeze = .ok f :=
  (requires_freeze a).exists_ok_iff.mpr h.plainThroughout

theorem EqualInKind.refl (h : a.IsJson Number.Placed) : a.EqualInKind a := by
  obtain ⟨f, hf⟩ := h.exists_freeze
  exact (key_eq_iff h h hf hf).mp rfl

/-- The order in which members came does not matter. -/
theorem equalInKind_of_perm (h : (Value.dict ms).IsJson Number.Placed) (hperm : ms.Perm ns) :
    (Value.dict ms).EqualInKind (.dict ns) := by
  refine .dict (fun name => (hperm.map _).mem_iff) fun name x y hx hy => ?_
  have hxy : x = y := by
    rw [Members.get?_of_perm hperm h.names_nodup, hy] at hx
    exact (Option.some.inj hx).symm
  exact hxy ▸ EqualInKind.refl (h.get? hx)

end Value

/-! ### Frozen values -/

/-- Two JSON values whose numbers all have a place on the number line are frozen, and have equal
frozen forms exactly when they are equal with equal kinds at every place.  Any datum is refused as
one of a wrong kind exactly when something in it is not plain, and is frozen otherwise, however deep it
is. -/
theorem freeze_faithful {a b : Value} (ha : a.IsJson Number.Placed) (hb : b.IsJson Number.Placed)
    (d : Datum) :
    (∃ f g, a.freeze = .ok f ∧ b.freeze = .ok g ∧
      (f.toValue.equal g.toValue = true ↔ a.EqualInKind b)) ∧
    ((∃ m : Misuse, d.freeze = misuse m ∧ m.family = .type) ↔
      ∃ x : Datum, x.Within d ∧ ¬x.IsPlain) ∧
    ((∃ f, d.freeze = .ok f) ↔ ∀ x : Datum, x.Within d → x.IsPlain) := by
  refine ⟨?_, ?_, d.requires_freeze.exists_ok_iff⟩
  · obtain ⟨f, hf⟩ := ha.exists_freeze
    obtain ⟨g, hg⟩ := hb.exists_freeze
    refine ⟨f, g, hf, hg, ?_⟩
    rw [Frozen.equal_toValue_iff, Value.key_eq_iff ha hb hf hg]
  · rw [d.requires_freeze.exists_misuse_iff, Datum.PlainThroughout]
    simp only [not_forall, exists_prop]

/-- Answers in one order and in the other have equal frozen forms, while a number and a truth value
that count the same have not.  A number cannot be a name. -/
theorem freeze_reordered :
    (∃ f g, (Value.dict [("age", .int 1), ("name", .str "A")]).freeze = .ok f ∧
      (Value.dict [("name", .str "A"), ("age", .int 1)]).freeze = .ok g ∧
      f.toValue.equal g.toValue = true) ∧
    (∃ f g, (Value.list [.int 1]).freeze = .ok f ∧ (Value.list [.bool true]).freeze = .ok g ∧
      f.toValue.equal g.toValue = false) ∧
    ∃ m : Misuse, (Datum.list [.object [(.int 1, .value .null)]]).freeze = misuse m ∧
      m.family = .type := by
  have hage : (Value.int 1).IsJson Number.Placed := .int rfl
  have hname : (Value.str "A").IsJson Number.Placed := .str "A"
  have hyes : (Value.bool true).IsJson Number.Placed := .bool true
  have hfirst : (Value.dict [("age", .int 1), ("name", .str "A")]).IsJson Number.Placed :=
    .dict (by decide) (by simp [hage, hname])
  have hsecond : (Value.dict [("name", .str "A"), ("age", .int 1)]).IsJson Number.Placed :=
    .dict (by decide) (by simp [hage, hname])
  obtain ⟨⟨f, g, hf, hg, hequal⟩, hrefused, -⟩ :=
    freeze_faithful hfirst hsecond (.list [.object [(.int 1, .value .null)]])
  obtain ⟨⟨f', g', hf', hg', hequal'⟩, -⟩ :=
    freeze_faithful (.list (List.forall_mem_singleton.mpr hage))
      (.list (List.forall_mem_singleton.mpr hyes)) (.value .null)
  refine ⟨⟨f, g, hf, hg, hequal.mpr ?_⟩, ⟨f', g', hf', hg', ?_⟩, hrefused.mpr ?_⟩
  · exact Value.equalInKind_of_perm hfirst (.swap _ _ _)
  · rw [← Bool.not_eq_true, hequal']
    rintro (⟨-, h⟩ | ⟨-, h⟩)
    · exact Value.not_sameLeaf_list h
    · have hkind := Value.EqualInKind.kind_eq (h (.int 1, .bool true) List.mem_cons_self)
      simp [Value.kind] at hkind
  · refine ⟨_, .item List.mem_cons_self (.self _), fun h => ?_⟩
    obtain ⟨_, hname⟩ := h (.int 1, .value .null) List.mem_cons_self
    cases hname

end Questionnaire
