import Questionnaire.Proofs.Json.Value
import Questionnaire.Proofs.Value.Json

/-!
# Reading back what was written

JSON data is read back from its text with any indentation (`read_write`), if its whole numbers are not
too long and no number is NaN.  What is between brackets is read one item after the other; how this goes
for arrays and for objects is said once, for a `Sequence` of items.
-/

namespace Questionnaire.Json

/-! ### What is written between brackets -/

theorem blanks_lineBreak (indent : Option Int) (level : Nat) :
    Blanks (lineBreak indent level).toList := by
  cases indent with
  | none => exact Blanks.nil
  | some n =>
    have hbreak : (lineBreak (some n) level).toList = '\n' :: List.replicate (n.toNat * level) ' ' := by
      unfold lineBreak
      rw [String.toList_append]
      exact congrArg (List.cons '\n') String.toList_ofList
    rw [hbreak]
    refine Blanks.cons rfl fun c hc => ?_
    rw [List.eq_of_mem_replicate hc]
    rfl

/-- Items with commas between them, up to a closing bracket. -/
def itemsText (between after : List Char) (close : Char) (items : List (List Char)) : List Char :=
  (',' :: between).intercalate items ++ (after ++ [close])

section Items

variable {between after : List Char} {close : Char}

theorem itemsText_singleton (item : List Char) :
    itemsText between after close [item] = item ++ (after ++ [close]) := by
  simp [itemsText, List.intercalate]

theorem itemsText_cons_cons (item next : List Char) (items : List (List Char)) :
    itemsText between after close (item :: next :: items) =
      item ++ ',' :: (between ++ itemsText between after close (next :: items)) := by
  simp [itemsText, List.intercalate_cons_cons]

theorem exists_itemsText_cons (between after : List Char) (close : Char) (item : List Char)
    (items : List (List Char)) :
    ∃ more, itemsText between after close (item :: items) = item ++ more := by
  cases items with
  | nil => exact ⟨_, itemsText_singleton item⟩
  | cons next items => exact ⟨_, itemsText_cons_cons item next items⟩

end Items

/-- What is between brackets, unless it is empty, is items with commas and blanks between them. -/
theorem toList_bracketed (indent : Option Int) (level : Nat) {opening closing : String}
    {open' close : Char} (hopening : opening.toList = [open']) (hclosing : closing.toList = [close])
    {items : List String} (hne : items ≠ []) :
    ∃ before between last : List Char, Blanks before ∧ Blanks between ∧ Blanks last ∧
      (bracketed indent level opening closing items).toList =
        open' :: (before ++ itemsText between last close (items.map String.toList)) := by
  have hitems : items.isEmpty = false := by
    cases items with
    | nil => exact absurd rfl hne
    | cons _ _ => rfl
  unfold bracketed itemsText
  rw [hitems]
  refine ⟨(lineBreak indent (level + 1)).toList, (if indent.isNone then [' '] else []) ++
    (lineBreak indent (level + 1)).toList, (lineBreak indent level).toList, blanks_lineBreak _ _, ?_,
    blanks_lineBreak _ _, ?_⟩
  -- On one line a comma is followed by a space, on several by a line break.
  · cases indent with
    | none => exact Blanks.cons rfl Blanks.nil
    | some n => exact blanks_lineBreak _ _
  · cases indent with
    | none => simp [String.toList_intercalate, hopening, hclosing]
    | some n => simp [String.toList_intercalate, hopening, hclosing]

/-! ### What is between brackets -/

/-- The readers of what is between brackets, which take one item after the other. -/
structure Sequence (σ α : Type) where
  first : Char
  last : Char
  /-- The items from the first one on. -/
  scan : Nat → σ → Cursor → Except Failure (σ × Cursor)
  /-- What comes after an item. -/
  after : Nat → σ → Cursor → Except Failure (σ × Cursor)
  empty : σ
  add : σ → α → σ
  finish : σ → σ
  value : σ → Value
  opens_first : Opens [first]
  ends_last : EndsItem last
  after_last : ∀ fuel done rest place,
    after fuel done ⟨last :: rest, place⟩ = .ok (finish done, ⟨rest, place + 1⟩)
  after_comma : ∀ fuel done rest place,
    after fuel done ⟨',' :: rest, place⟩ = scan fuel done (Cursor.skipBlanks ⟨rest, place + 1⟩)
  scan_empty : ∀ fuel rest place,
    scanValue (fuel + 1) ⟨first :: last :: rest, place⟩ =
      .ok (value (finish empty), ⟨rest, place + 2⟩)
  scan_items : ∀ fuel rest place inner, Cursor.skipBlanks ⟨rest, place + 1⟩ = inner →
    Opens inner.rest → scanValue (fuel + 1) ⟨first :: rest, place⟩ =
      (scan fuel empty inner).bind fun r => .ok (value r.1, r.2)

namespace Sequence

variable {σ α : Type} (S : Sequence σ α)

/-- An item is taken from its text, and then comes what follows it. -/
structure Takes (text : List Char) (x : α) : Prop where
  opens : Opens text
  scan : ∀ (fuel : Nat) {blanks : List Char} {c : Char} (rest : List Char) (done : σ) (place : Nat),
    Blanks blanks → EndsItem c → text.length < fuel →
      S.scan (fuel + 1) done ⟨text ++ (blanks ++ c :: rest), place⟩ =
        S.after fuel (S.add done x) ⟨c :: rest, place + text.length + blanks.length⟩

variable {S}

/-- The items up to the last bracket are taken one after the other. -/
theorem scan_itemsText {between last rest : List Char} (hbetween : Blanks between)
    (hlast : Blanks last) {write : α → List Char} {x : α} {xs : List α}
    (h : ∀ y ∈ x :: xs, S.Takes (write y) y) (fuel : Nat) (done : σ) (place : Nat) :
    let text := itemsText between last S.last ((x :: xs).map write)
    text.length < fuel → S.scan fuel done ⟨text ++ rest, place⟩ =
      .ok (S.finish ((x :: xs).foldl S.add done), ⟨rest, place + text.length⟩) := by
  -- An item uses up one unit of fuel and leaves behind at least the comma or the bracket after it, so
  -- there is always more fuel than text.
  induction xs generalizing x fuel done place with
  | nil =>
    intro text hfuel
    obtain ⟨fuel, rfl⟩ : ∃ k, fuel = k + 1 := ⟨fuel - 1, by omega⟩
    have htext : text = write x ++ (last ++ [S.last]) := itemsText_singleton (write x)
    have hlength : text.length = (write x).length + last.length + 1 := by
      rw [htext]
      simp only [List.length_append, List.length_singleton]
      omega
    have hscan := (h x List.mem_cons_self).scan fuel rest done place hlast S.ends_last
      (by omega)
    rw [hlength, htext, List.append_assoc, List.append_assoc, List.singleton_append, hscan,
      S.after_last, Nat.add_assoc, Nat.add_assoc, Nat.add_assoc]
    rfl
  | cons y xs ih =>
    intro text hfuel
    obtain ⟨fuel, rfl⟩ : ∃ k, fuel = k + 1 := ⟨fuel - 1, by omega⟩
    obtain ⟨hx, hxs⟩ := List.forall_mem_cons.mp h
    obtain ⟨more, hmore⟩ : ∃ cs, cs = itemsText between last S.last ((y :: xs).map write) := ⟨_, rfl⟩
    have htext : text = write x ++ ',' :: (between ++ more) := by
      rw [hmore]
      exact itemsText_cons_cons (write x) (write y) (xs.map write)
    have hlength : text.length = (write x).length + 1 + between.length + more.length := by
      rw [htext]
      simp only [List.length_append, List.length_cons]
      omega
    have hopens : Opens (more ++ rest) := by
      obtain ⟨others, hothers⟩ := exists_itemsText_cons between last S.last (write y) (xs.map write)
      rw [hmore, List.map_cons, hothers, List.append_assoc]
      exact (hxs y List.mem_cons_self).opens.append _
    have hscan := hx.scan fuel (between ++ (more ++ rest)) done place Blanks.nil (Or.inl rfl)
      (by omega)
    have hskip := skipBlanks_append hbetween hopens.not_blank (place + (write x).length + 1)
    have hrest := ih hxs fuel (S.add done x) (place + (write x).length + 1 + between.length)
    dsimp only at hrest
    rw [← hmore] at hrest
    have hsplit : text ++ rest = write x ++ ([] ++ ',' :: (between ++ (more ++ rest))) := by
      rw [htext]
      simp
    have hplace : place + text.length =
        place + (write x).length + 1 + between.length + more.length := by omega
    rw [hsplit, hscan, S.after_comma, List.length_nil, Nat.add_zero, hskip, hrest (by omega), hplace]
    rfl

/-- A value is read from its items between brackets. -/
theorem readsAs_bracketed {opening closing : String} (hopening : opening.toList = [S.first])
    (hclosing : closing.toList = [S.last]) {write : α → String} {xs : List α}
    (h : ∀ x ∈ xs, S.Takes (write x).toList x) (indent : Option Int) (level : Nat) :
    ReadsAs (bracketed indent level opening closing (xs.map write)).toList
      (S.value (S.finish (xs.foldl S.add S.empty))) := by
  cases xs with
  | nil =>
    -- Without items the closing bracket follows the opening one, and the scan ends there.
    have htext : (bracketed indent level opening closing []).toList = [S.first] ++ [S.last] := by
      rw [← hopening, ← hclosing]
      exact String.toList_append
    rw [List.map_nil, htext]
    refine ⟨S.opens_first.append _, ?_⟩
    intro fuel rest place hfuel _
    obtain ⟨fuel, rfl⟩ : ∃ k, fuel = k + 1 := ⟨fuel - 1, by omega⟩
    exact S.scan_empty fuel rest place
  | cons x xs =>
    obtain ⟨before, between, last, hbefore, hbetween, hlast, htext⟩ :=
      toList_bracketed indent level hopening hclosing (List.cons_ne_nil (write x) (xs.map write))
    obtain ⟨items, hitems⟩ : ∃ cs, cs =
      itemsText between last S.last ((x :: xs).map (String.toList ∘ write)) := ⟨_, rfl⟩
    -- The items start as the first of them does, so the scan does not see an empty pair of
    -- brackets.
    have hopens : Opens items := by
      obtain ⟨more, hmore⟩ := exists_itemsText_cons between last S.last (write x).toList
        (xs.map (String.toList ∘ write))
      rw [hitems, List.map_cons]
      exact hmore ▸ (h x List.mem_cons_self).opens.append more
    rw [List.map_cons, htext, ← List.map_cons, List.map_map, ← hitems]
    refine ⟨S.opens_first.append (before ++ items), ?_⟩
    intro fuel rest place hfuel _
    obtain ⟨fuel, rfl⟩ : ∃ k, fuel = k + 1 := ⟨fuel - 1, by omega⟩
    rw [List.length_cons, List.length_append] at hfuel
    -- Three steps: over the blanks, over the items up to the closing bracket, and past it.
    have hskip := skipBlanks_append hbefore (hopens.append rest).not_blank (place + 1)
    have hscan : S.scan fuel S.empty ⟨items ++ rest, place + 1 + before.length⟩ =
        .ok (S.finish ((x :: xs).foldl S.add S.empty),
          ⟨rest, place + 1 + before.length + items.length⟩) := by
      have hlength : items.length < fuel := by omega
      rw [hitems] at hlength ⊢
      exact scan_itemsText hbetween hlast h fuel S.empty _ hlength
    have hplace : place + (S.first :: (before ++ items)).length =
        place + 1 + before.length + items.length := by
      rw [List.length_cons, List.length_append]
      omega
    rw [List.cons_append, List.append_assoc, S.scan_items fuel _ place _ hskip (hopens.append rest),
      hscan, hplace]
    rfl

end Sequence

/-! ### Arrays -/

theorem scanValue_bracket (fuel : Nat) (rest : List Char) (place : Nat) :
    scanValue (fuel + 1) ⟨'[' :: rest, place⟩ =
      let inner := Cursor.skipBlanks ⟨rest, place + 1⟩
      match inner.rest with
      | ']' :: rest => .ok (.list [], ⟨rest, inner.place + 1⟩)
      | _ => (scanItems fuel [] inner).bind fun r => .ok (.list r.1, r.2) := by
  rw [scanValue]
  rfl

/-- The readers of an array. -/
def array : Sequence (List Value) Value where
  first := '['
  last := ']'
  scan := scanItems
  after := fun fuel done c =>
    match c.rest with
    | ']' :: rest => .ok (done.reverse, ⟨rest, c.place + 1⟩)
    | ',' :: rest => scanItems fuel done (Cursor.skipBlanks ⟨rest, c.place + 1⟩)
    | _ => fail .comma c.place
  empty := []
  add := fun done v => v :: done
  finish := List.reverse
  value := .list
  opens_first := ⟨'[', [], rfl, rfl, by decide⟩
  ends_last := Or.inr (Or.inl rfl)
  after_last := fun _ _ _ _ => rfl
  after_comma := fun _ _ _ _ => rfl
  scan_empty := fun fuel rest place => scanValue_bracket fuel (']' :: rest) place
  scan_items := by
    rintro fuel rest place inner hskip ⟨c, cs, htext, -, hc⟩
    rw [scanValue_bracket, hskip]
    dsimp only
    rw [htext]
    split
    · simp_all [EndsItem]
    · rfl

theorem scanItems_eq (fuel : Nat) (done : List Value) (c : Cursor) :
    scanItems (fuel + 1) done c =
      (scanValue fuel c).bind fun r => array.after fuel (r.1 :: done) r.2.skipBlanks := by
  rw [scanItems]
  rfl

theorem ReadsAs.takes {text : List Char} {v : Value} (h : ReadsAs text v) : array.Takes text v := by
  refine ⟨h.opens, ?_⟩
  intro fuel blanks c rest done place hblanks hc hfuel
  have hscan := h.scan fuel (blanks ++ c :: rest) place hfuel (endsNumber_blanks hblanks hc rest)
  have hskip := skipBlanks_cons hblanks hc.not_blank rest (place + text.length)
  show scanItems (fuel + 1) done _ = _
  rw [scanItems_eq, hscan, ← hskip]
  rfl

/-! ### Objects -/

theorem scanValue_brace (fuel : Nat) (rest : List Char) (place : Nat) :
    scanValue (fuel + 1) ⟨'\x7b' :: rest, place⟩ =
      let inner := Cursor.skipBlanks ⟨rest, place + 1⟩
      match inner.rest with
      | '\x7d' :: rest => .ok (.dict [], ⟨rest, inner.place + 1⟩)
      | _ => (scanMembers fuel [] inner).bind fun r => .ok (.dict r.1, r.2) := by
  rw [scanValue]
  rfl

/-- The readers of an object. -/
def object : Sequence (Members Value) (String × Value) where
  first := '\x7b'
  last := '\x7d'
  scan := scanMembers
  after := fun fuel done c =>
    match c.rest with
    | '\x7d' :: rest => .ok (done, ⟨rest, c.place + 1⟩)
    | ',' :: rest => scanMembers fuel done (Cursor.skipBlanks ⟨rest, c.place + 1⟩)
    | _ => fail .comma c.place
  empty := []
  add := fun done m => done.put m.1 m.2
  finish := id
  value := .dict
  opens_first := ⟨'\x7b', [], rfl, rfl, by decide⟩
  ends_last := Or.inr (Or.inr rfl)
  after_last := fun _ _ _ _ => rfl
  after_comma := fun _ _ _ _ => rfl
  scan_empty := fun fuel rest place => scanValue_brace fuel ('\x7d' :: rest) place
  scan_items := by
    rintro fuel rest place inner hskip ⟨c, cs, htext, -, hc⟩
    rw [scanValue_brace, hskip]
    dsimp only
    rw [htext]
    split
    · simp_all [EndsItem]
    · rfl

/-- What is read of a member after its name, and what follows it. -/
def scanAfterName (fuel : Nat) (done : Members Value) (name : String) (c : Cursor) :
    Except Failure (Members Value × Cursor) :=
  match c.rest with
  | ':' :: rest => (scanValue fuel (Cursor.skipBlanks ⟨rest, c.place + 1⟩)).bind fun r =>
    object.after fuel (done.put name r.1) r.2.skipBlanks
  | _ => fail .colon c.place

theorem scanMembers_quote (fuel : Nat) (done : Members Value) (rest : List Char) (place : Nat) :
    scanMembers (fuel + 1) done ⟨'"' :: rest, place⟩ =
      (scanText place (('"' :: rest).length + 1) [] ⟨rest, place + 1⟩).bind fun r =>
        scanAfterName fuel done (String.ofList r.1) r.2.skipBlanks := by
  rw [scanMembers]
  rfl

theorem scanMembers_name (fuel : Nat) (done : Members Value) (name : String) (rest : List Char)
    (place : Nat) :
    scanMembers (fuel + 1) done ⟨(text true name).toList ++ rest, place⟩ =
      scanAfterName fuel done name
        (Cursor.skipBlanks ⟨rest, place + (text true name).toList.length⟩) := by
  have hfuel : (text true name).toList.length ≤ ((text true name).toList ++ rest).length + 1 := by
    rw [List.length_append]
    omega
  have hscan := scanText_toList hfuel place rest place
  rw [toList_text, List.cons_append] at hscan ⊢
  rw [scanMembers_quote, hscan]
  show scanAfterName fuel done (String.ofList name.toList) _ = _
  rw [String.ofList_toList]

theorem ReadsAs.takesMember {written : String} {v : Value} (h : ReadsAs written.toList v)
    (name : String) : object.Takes (text true name ++ ": " ++ written).toList (name, v) := by
  obtain ⟨member, hmember⟩ : ∃ cs, cs = (text true name ++ ": " ++ written).toList := ⟨_, rfl⟩
  have htext : member = (text true name).toList ++ ':' :: ' ' :: written.toList := by
    rw [hmember]
    simp
  rw [← hmember]
  refine ⟨htext ▸ (readsAs_text true name).opens.append _, ?_⟩
  intro fuel blanks c rest done place hblanks hc hfuel
  -- The name is read first, then the colon with a blank, and then the value up to `c`.
  obtain ⟨value, hvalue⟩ : ∃ cs, cs = written.toList ++ (blanks ++ c :: rest) := ⟨_, rfl⟩
  obtain ⟨length, hlength⟩ : ∃ n, n = place + (text true name).toList.length := ⟨_, rfl⟩
  have hsplit : member ++ (blanks ++ c :: rest) = (text true name).toList ++ ':' :: ' ' :: value := by
    rw [htext, hvalue]
    simp
  have hplace : place + member.length = length + 2 + written.toList.length := by
    rw [htext, hlength]
    simp only [List.length_append, List.length_cons]
    omega
  have hcolon := skipBlanks_cons Blanks.nil (c := ':') rfl (' ' :: value) length
  have hspace : Cursor.skipBlanks ⟨[' '] ++ value, length + 1⟩ = ⟨value, length + 2⟩ :=
    skipBlanks_append (Blanks.cons rfl Blanks.nil) (hvalue ▸ (h.opens.append _).not_blank) (length + 1)
  have hscan := h.scan fuel (blanks ++ c :: rest) (length + 2) (by omega)
    (endsNumber_blanks hblanks hc rest)
  have hskip := skipBlanks_cons hblanks hc.not_blank rest (length + 2 + written.toList.length)
  rw [List.nil_append] at hcolon
  rw [List.singleton_append] at hspace
  show scanMembers (fuel + 1) done _ = _
  rw [hsplit, scanMembers_name, ← hlength, hcolon, hplace, ← hskip]
  show (scanValue fuel (Cursor.skipBlanks ⟨' ' :: value, length + 1⟩)).bind _ = _
  rw [hspace, hvalue]
  show (scanValue fuel ⟨_, length + 2⟩).bind _ = _
  rw [hscan]
  rfl

/-! ### Values -/

theorem writeItems_eq (style : Style) (indent : Option Int) (level : Nat) (vs : List Value) :
    writeItems style indent level vs = vs.map (writeAt style indent level) := by
  induction vs with
  | nil => rfl
  | cons v vs ih => rw [writeItems, ih, List.map_cons]

theorem writeMembers_eq (style : Style) (indent : Option Int) (level : Nat) (ms : Members Value) :
    writeMembers style indent level ms =
      ms.map fun m => text style.asciiOnly m.1 ++ ": " ++ writeAt style indent level m.2 := by
  induction ms with
  | nil => rfl
  | cons m ms ih => rw [writeMembers, ih, List.map_cons]

/-- JSON data is read from the text that was written for it. -/
theorem readsAs_writeAt {v : Value} (hv : v.IsJson Number.Readable) (indent : Option Int)
    (level : Nat) : ReadsAs (writeAt .ascii indent level v).toList v := by
  induction hv generalizing level with
  | null =>
    rw [writeAt]
    exact readsAs_word _ (by simp [words])
  | bool b =>
    rw [writeAt]
    cases b with
    | true => exact readsAs_word _ (by simp [words])
    | false => exact readsAs_word _ (by simp [words])
  | int h =>
    rw [writeAt]
    exact readsAs_int h
  | float h =>
    rw [writeAt]
    exact readsAs_float h
  | str s =>
    rw [writeAt]
    exact readsAs_text true s
  | @list vs _ ih =>
    have hopening : "[".toList = ['['] := rfl
    have hclosing : "]".toList = [']'] := rfl
    have hread := Sequence.readsAs_bracketed (S := array) hopening hclosing
      (fun v hv => (ih v hv (level + 1)).takes) indent level
    have hvalue : array.value (array.finish (vs.foldl array.add array.empty)) = .list vs := by
      show Value.list (vs.foldl (fun done v => v :: done) []).reverse = _
      rw [List.foldl_flip_cons_eq_append', List.append_nil, List.reverse_reverse]
    rw [writeAt, writeItems_eq, ← hvalue]
    exact hread
  | @dict ms nodup _ ih =>
    have hopening : "\x7b".toList = ['\x7b'] := rfl
    have hclosing : "\x7d".toList = ['\x7d'] := rfl
    have hread := Sequence.readsAs_bracketed (S := object) hopening hclosing
      (fun m hm => (ih m hm (level + 1)).takesMember m.1) indent level
    -- The names are distinct, so every member is put behind those that were read before it.
    have hvalue : object.value (object.finish (ms.foldl object.add object.empty)) = .dict ms :=
      congrArg Value.dict (Members.ofPairs_of_nodup nodup)
    rw [writeAt, writeMembers_eq, ← hvalue]
    exact hread

/-- No value starts with a byte order mark. -/
theorem scanValue_byteOrderMark (fuel : Nat) (rest : List Char) (place : Nat) :
    scanValue (fuel + 1) ⟨'\ufeff' :: rest, place⟩ = fail .value place := by
  rw [scanValue]
  rfl

/-- JSON data is read back from its text, with any indentation or on one line. -/
theorem read_write {v : Value} (hv : v.IsJson Number.Readable) (indent : Option Int) :
    read (write .ascii indent v) = .ok v := by
  obtain ⟨cs, hcs⟩ : ∃ cs, cs = (write .ascii indent v).toList := ⟨_, rfl⟩
  have hread : ReadsAs cs v := by
    rw [hcs]
    exact readsAs_writeAt hv indent 0
  have hstart := skipBlanks_append Blanks.nil hread.opens.not_blank 0
  have hscan := hread.scan (2 * cs.length + 2) [] 0 (by omega) endsNumber_nil
  rw [List.nil_append] at hstart
  rw [List.append_nil] at hscan
  -- A written value never starts with a byte order mark, which only a text file may.
  have hmark : cs.head? ≠ some '\ufeff' := by
    intro hhead
    obtain ⟨rest, hrest⟩ := List.head?_eq_some_iff.mp hhead
    rw [hrest, scanValue_byteOrderMark] at hscan
    cases hscan
  unfold read readChars
  rw [← hcs, if_neg hmark, hstart, List.length_nil, hscan]
  rfl

/-- Some text is read as a value, if its numbers are not too long and not NaN. -/
theorem exists_read {v : Value} (hv : v.IsJson Number.Readable) : ∃ text, read text = .ok v :=
  ⟨_, read_write hv none⟩

end Questionnaire.Json
