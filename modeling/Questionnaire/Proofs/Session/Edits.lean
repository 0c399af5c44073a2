import Questionnaire.Proofs.Session.Bounds

/-!
# Edits of one field

Most commands that change answers do so for one field (`Command.edits?`).  Of the answers such an
edit looks at the one to its field only, and it proposes another one in its place (`newAnswer`), so
the answers to the other fields remain as they are.

Within a section an edit touches one entry.  The index of an entry counts from the start, or when it
is negative from the end; it may reach an entry (`Reaches`), and then this one is answered or removed
and all others remain in their order, or it reaches none, and nothing changes.  `touchesOne` says
this together with what else keeps an edit from being done.
-/

namespace Questionnaire

/-- The integer that a value is when it is used as an index. -/
def Value.index? : Value → Option Int
  | .int i => some i
  | .bool b => some b.toInt
  | _ => none

namespace Session

variable {s t : Session} {f : Field} {id : String}

/-! ### The answer of a field -/

/-- The id of the one field that a command edits. -/
def Command.edits? : Command → Option Value
  | .setAnswer id _ | .addEntry id | .removeEntry id _ | .setEntryAnswer id _ _ _ => some id
  | _ => none

/-- What an edit answers, and the answer that it proposes for its field, if it proposes one. -/
def newAnswer (s : Session) : Command → Outcome (Answer × Option Value)
  | .setAnswer id v => do
    let _ ← s.requireField id
    pure (.value .null, some v)
  | .addEntry id => do
    let f ← s.requireSection id
    if ← s.canAddEntry id then
      let entry := Value.dict (Members.ofPairs (f.children.map fun c => (c.id, .null)))
      pure (.value (.bool true), some (.list ((← s.entries id) ++ [entry])))
    else pure (.value (.bool false), none)
  | .removeEntry id index => do
    if ← s.canRemoveEntry id then
      let entries ← s.entries id
      let n ← resolveIndex index entries.length true
      pure (.value (.bool true), some (.list (entries.eraseIdx n)))
    else pure (.value (.bool false), none)
  | .setEntryAnswer id index sub v => do
    let f ← s.requireSection id
    match f.child? sub with
    | none => refuse (.noChild sub)
    | some c =>
      let entries ← s.entries id
      let n ← resolveIndex index entries.length false
      let entry ← ((entries[n]?).getD .null).toMembers
      pure (.value .null, some (.list (entries.set n (.dict (entry.put c.id v)))))
  | command => (s.proposal command).map fun p => (p.1, none)

/-- The proposal of an edit is an answer to its field. -/
def placing (answers : Members Value) (id : String) (p : Answer × Option Value) :
    Answer × Option (Members Value) :=
  (p.1, p.2.map (answers.put id))

/-- A section is found under its own identifier. -/
theorem id_of_requireSection (h : s.requireSection (.str id) = .ok f) : f.id = id :=
  (Value.str.inj (hasSection_of_requireSection h).1).symm

/-- What an edit proposes is an answer in the place of the one to its field. -/
theorem proposal_eq_map {command : Command} (hc : command.edits? = some (.str id)) :
    s.proposal command = (s.newAnswer command).map (placing s.answers id) := by
  cases command with
  | setAnswer i v =>
    obtain rfl := Option.some.inj hc
    refine Outcome.bind_eq_map_bind fun f hf => ?_
    rw [← Value.str.inj (requireField_eq_ok hf).2]
    rfl
  | addEntry i =>
    obtain rfl := Option.some.inj hc
    refine Outcome.bind_eq_map_bind fun f hf => Outcome.bind_eq_map_bind fun free _ => ?_
    cases free with
    | false => rfl
    | true =>
      refine Outcome.bind_eq_map_bind fun vs _ => ?_
      rw [id_of_requireSection hf]
      rfl
  | removeEntry i index =>
    obtain rfl := Option.some.inj hc
    refine Outcome.bind_eq_map_bind fun free hfree => ?_
    cases free with
    | false => rfl
    | true =>
      -- The section was found when the removal was asked for.
      obtain ⟨f, hf, -⟩ := Outcome.bind_eq_ok_iff.mp hfree
      simp only [if_true, hf]
      show (s.entries (.str id) >>= _) = _
      refine Outcome.bind_eq_map_bind fun vs _ => Outcome.bind_eq_map_bind fun n _ => ?_
      rw [id_of_requireSection hf]
      rfl
  | setEntryAnswer i index sub v =>
    obtain rfl := Option.some.inj hc
    refine Outcome.bind_eq_map_bind fun f hf => ?_
    cases f.child? sub with
    | none => rfl
    | some c =>
      refine Outcome.bind_eq_map_bind fun vs _ => Outcome.bind_eq_map_bind fun n _ =>
        Outcome.bind_eq_map_bind fun entry _ => ?_
      rw [id_of_requireSection hf]
      rfl
  | _ => cases hc

section Edit

variable {command : Command} (hc : command.edits? = some (.str id))
include hc

/-- An edit puts nothing in place, or an answer to its field. -/
theorem newAnswer_of_proposal {a : Answer} {answers? : Option (Members Value)}
    (h : s.proposal command = .ok (a, answers?)) :
    ∃ v?, s.newAnswer command = .ok (a, v?) ∧ answers? = v?.map (s.answers.put id) := by
  rw [proposal_eq_map hc] at h
  obtain ⟨⟨b, v?⟩, hnew, hp⟩ := Outcome.map_eq_ok_iff.mp h
  obtain ⟨rfl, rfl⟩ := Prod.mk.inj hp
  exact ⟨v?, hnew, rfl⟩

/-- An edit leaves the answers to all other fields as they are, also when it fails. -/
theorem get?_run_of_edits? {other : String} (hother : other ≠ id) :
    ((run command).run.run s).2.answers.get? other = s.answers.get? other := by
  rcases answers_run command s with hanswers | ⟨a, hp⟩
  · rw [hanswers]
  · obtain ⟨v?, -, hv⟩ := newAnswer_of_proposal hc hp
    obtain ⟨v, -, hanswers⟩ := Option.map_eq_some_iff.mp hv.symm
    rw [← hanswers, Members.get?_put, if_neg hother.symm]

/-- An edit that fails before anything is in place changes nothing. -/
theorem run_of_newAnswer_error {e : Fault} (h : s.newAnswer command = .error e) :
    (run command).run.run s = (.error e, s) := by
  rw [run_run, proposal_eq_map hc, h]
  rfl

/-- An edit that proposes no answer changes nothing. -/
theorem run_of_newAnswer_none {a : Answer} (h : s.newAnswer command = .ok (a, none)) :
    (run command).run.run s = (.ok a, s) := by
  rw [run_run, proposal_eq_map hc, h]
  rfl

/-- An edit puts the answer that it proposes in place. -/
theorem run_of_newAnswer_some (hd : s.Decides command) {a : Answer} {v : Value}
    (h : s.newAnswer command = .ok (a, some v)) :
    ∃ t, (run command).run.run s = (.ok a, t) ∧ t.answers.get? id = some v := by
  have hp : s.proposal command = .ok (a, some (s.answers.put id v)) := by
    rw [proposal_eq_map hc, h]
    rfl
  -- The look after the new answer gives a set, so the command runs to its answer.
  obtain ⟨found, hfound⟩ := hd a _ hp
  refine ⟨{ s with answers := s.answers.put id v }.looked, ?_, ?_⟩
  · rw [run_run, hp]
    show ({ s with answers := s.answers.put id v }.look.map fun _ => a, _) = _
    rw [hfound]
    rfl
  · show (s.answers.put id v).get? id = some v
    rw [Members.get?_put, if_pos rfl]

end Edit

/-! ### Indices -/

/-- The position that an index means among `n` entries: it counts from the start, or when it is
negative from the end. -/
def position (n : Nat) (i : Int) : Nat := (if 0 ≤ i then i else n + i).toNat

/-- An index reaches one of `n` entries.  One of more than 64 bits reaches none, however many there
are. -/
structure Reaches (n : Nat) (i : Int) : Prop where
  first : -n ≤ i
  last : i < n
  fits : -0x8000000000000000 ≤ i ∧ i < 0x8000000000000000

/-- An index that reaches an entry resolves to a position among them. -/
theorem Reaches.position_lt {n : Nat} {i : Int} (h : Reaches n i) : position n i < n := by
  have hfirst := h.first
  have hlast := h.last
  unfold position
  split <;> omega

/-- Among as many entries as there can be in memory, an index reaches one unless it is too great or
too small. -/
theorem reaches_iff {n : Nat} (hn : n ≤ 0x8000000000000000) {i : Int} :
    Reaches n i ↔ -n ≤ i ∧ i < n := by
  constructor
  · exact fun h => ⟨h.first, h.last⟩
  · exact fun h => ⟨h.1, h.2, by omega, by omega⟩

section Index

variable {index : Value} {i : Int} {n : Nat} (hindex : index.index? = some i)
include hindex

/-- An index that reaches an entry is resolved to its position. -/
theorem resolveIndex_of_reaches (h : Reaches n i) (assignment : Bool) :
    resolveIndex index n assignment = .ok (position n i) := by
  have hfirst := h.first
  have hlast := h.last
  -- Both conventions count a negative index from the end; the bounds make the range test hold.
  have hinside : (if 0 ≤ (if i < 0 then i + n else i) ∧ (if i < 0 then i + n else i) < n then
      .ok (if i < 0 then i + n else i).toNat
    else misuse (.positionOutOfRange assignment) : Outcome Nat) = .ok (position n i) := by
    rw [if_pos (by split <;> omega)]
    unfold position
    congr 2
    split <;> split <;> omega
  cases index with
  | int j =>
    obtain rfl := Option.some.inj hindex
    exact (if_pos h.fits).trans hinside
  | bool b =>
    obtain rfl := Option.some.inj hindex
    cases b <;> exact hinside
  | _ => cases hindex

/-- An index that reaches no entry is an index error. -/
theorem resolveIndex_of_not_reaches (h : ¬Reaches n i) (assignment : Bool) :
    ∃ m : Misuse, m.family = .index ∧ resolveIndex index n assignment = .error (.misuse m) := by
  -- What fits a machine word and still reaches nothing lies outside the range.
  have houtside (hfits : -0x8000000000000000 ≤ i ∧ i < 0x8000000000000000) :
      (if 0 ≤ (if i < 0 then i + n else i) ∧ (if i < 0 then i + n else i) < n then
        .ok (if i < 0 then i + n else i).toNat
      else misuse (.positionOutOfRange assignment) : Outcome Nat) =
        .error (.misuse (.positionOutOfRange assignment)) := by
    refine if_neg fun hin => h ⟨?_, ?_, hfits⟩
    · split at hin <;> omega
    · split at hin <;> omega
  cases index with
  | int j =>
    obtain rfl := Option.some.inj hindex
    by_cases hfits : -0x8000000000000000 ≤ j ∧ j < 0x8000000000000000
    · exact ⟨_, rfl, (if_pos hfits).trans (houtside hfits)⟩
    · exact ⟨_, rfl, if_neg hfits⟩
  | bool b =>
    obtain rfl := Option.some.inj hindex
    cases b <;> exact ⟨_, rfl, houtside (by decide)⟩
  | _ => cases hindex

end Index

/-! ### Entries -/

/-- The section holds these entries, each of which is an object. -/
def HoldsEntries (s : Session) (f : Field) (entries : List (Members Value)) : Prop :=
  s.answers.get? f.id = some (.list (entries.map .dict))

/-- What an edit of an entry at an index comes to. -/
structure TouchesOne (s : Session) (f : Field) (entries : List (Members Value)) (index : Value)
    (i : Int) (sub v : Value) : Prop where
  /-- Of as many entries as there can be in memory one is reached unless the index is beyond them. -/
  reaches (hlength : entries.length ≤ 0x8000000000000000) :
    Reaches entries.length i ↔ -entries.length ≤ i ∧ i < entries.length
  /-- The entry that is reached has the new answer to the sub-field, and is else the same. -/
  answered (h : Reaches entries.length i) {c : Field} (hc : f.child? sub = some c) :
    ∃ before e after e' t, entries = before ++ e :: after ∧
      before.length = position entries.length i ∧
      (run (.setEntryAnswer (.str f.id) index sub v)).run.run s = (.ok (.value .null), t) ∧
      t.HoldsEntries f (before ++ e' :: after) ∧ e'.get? c.id = some v ∧
      (∀ name, name ≠ c.id → e'.get? name = e.get? name) ∧ e.names <+: e'.names
  unreached (h : ¬Reaches entries.length i) (hc : (f.child? sub).isSome) :
    ∃ m : Misuse, m.family = .index ∧
      (run (.setEntryAnswer (.str f.id) index sub v)).run.run s = (.error (.misuse m), s)
  /-- An unknown sub-field is refused, whatever the index. -/
  unknown (hc : f.child? sub = none) :
    (run (.setEntryAnswer (.str f.id) index sub v)).run.run s =
      (.error (.refusal (.noChild sub)), s)
  /-- The entry that is reached is gone, and those after it are one position nearer the start. -/
  removed (hspare : f.HasSpare entries.length) (h : Reaches entries.length i) :
    ∃ before e after t, entries = before ++ e :: after ∧
      before.length = position entries.length i ∧
      (run (.removeEntry (.str f.id) index)).run.run s = (.ok (.value (.bool true)), t) ∧
      t.HoldsEntries f (before ++ after)
  missed (hspare : f.HasSpare entries.length) (h : ¬Reaches entries.length i) :
    ∃ m : Misuse, m.family = .index ∧
      (run (.removeEntry (.str f.id) index)).run.run s = (.error (.misuse m), s)
  /-- An entry that cannot be spared is kept, whatever the index. -/
  kept (hspare : ¬f.HasSpare entries.length) :
    (run (.removeEntry (.str f.id) index)).run.run s = (.ok (.value (.bool false)), s)
  /-- The answers to all other fields are as before, also when an edit fails. -/
  others {other : String} (hother : other ≠ f.id) :
    ((run (.setEntryAnswer (.str f.id) index sub v)).run.run s).2.answers.get? other =
        s.answers.get? other ∧
      ((run (.removeEntry (.str f.id) index)).run.run s).2.answers.get? other =
        s.answers.get? other

section Entries

variable {entries : List (Members Value)} (hf : s.HasSection f) (h : s.HoldsEntries f entries)
include hf h

/-- A section that holds entries lists them. -/
theorem HoldsEntries.entries_eq : s.entries (.str f.id) = .ok (entries.map .dict) := by
  have hanswer : s.sectionAnswer f.id = .list (entries.map .dict) := by
    unfold sectionAnswer answer
    rw [h]
    cases entries <;> rfl
  unfold Session.entries
  rw [hf.requireSection_eq]
  show (s.sectionAnswer f.id).iterate = _
  rw [hanswer]
  rfl

omit hf in
/-- And it holds as many as there are. -/
theorem HoldsEntries.holds : s.Holds f entries.length := by
  have hholds := holds_of_get? h
  rwa [List.length_map] at hholds

variable {index sub v : Value} {c : Field} {n : Nat}

/-- An answer to a sub-field is put into the entry at the position of the index. -/
theorem HoldsEntries.newAnswer_setEntryAnswer (hc : f.child? sub = some c) :
    s.newAnswer (.setEntryAnswer (.str f.id) index sub v) = (do
      let n ← resolveIndex index entries.length false
      let entry ← (((entries.map Value.dict)[n]?).getD .null).toMembers
      pure (.value .null,
        some (.list ((entries.map Value.dict).set n (.dict (entry.put c.id v)))))) := by
  show (s.requireSection _ >>= fun f => _) = _
  rw [hf.requireSection_eq]
  show (match f.child? sub with | none => _ | some c => s.entries _ >>= _) = _
  rw [hc]
  dsimp only
  rw [h.entries_eq hf]
  show (resolveIndex index (entries.map Value.dict).length false >>= _) = _
  rw [List.length_map]

/-- If one can be spared, the entry at the position of the index is removed. -/
theorem HoldsEntries.newAnswer_removeEntry (hspare : f.HasSpare entries.length) :
    s.newAnswer (.removeEntry (.str f.id) index) = (do
      let n ← resolveIndex index entries.length true
      pure (.value (.bool true), some (.list ((entries.map Value.dict).eraseIdx n)))) := by
  obtain ⟨free, hfree, hiff⟩ := hf.canRemoveEntry_eq h.holds
  obtain rfl := hiff.mpr hspare
  show (s.canRemoveEntry _ >>= fun free => _) = _
  rw [hfree]
  show (s.entries (.str f.id) >>= fun vs => resolveIndex index vs.length true >>= _) = _
  rw [h.entries_eq hf]
  show (resolveIndex index (entries.map Value.dict).length true >>= _) = _
  rw [List.length_map]

end Entries

section TouchesOne

variable {entries : List (Members Value)} (hf : s.HasSection f) (h : s.HoldsEntries f entries)
  {index : Value} {i : Int} (hindex : index.index? = some i) {sub v : Value}
include hf h hindex

/-- An answer to a sub-field is put into the entry that the index reaches. -/
theorem HoldsEntries.set_reached (hr : Reaches entries.length i) {c : Field}
    (hc : f.child? sub = some c) (hd : s.Decides (.setEntryAnswer (.str f.id) index sub v)) :
    ∃ before e after t, entries = before ++ e :: after ∧
      before.length = position entries.length i ∧
      (run (.setEntryAnswer (.str f.id) index sub v)).run.run s = (.ok (.value .null), t) ∧
      t.HoldsEntries f (before ++ e.put c.id v :: after) := by
  -- Splitting the entries at the position turns setting one of them into replacing its middle part.
  obtain ⟨before, e, after, hentries, hlength⟩ := exists_split_of_lt hr.position_lt
  have hnew : s.newAnswer (.setEntryAnswer (.str f.id) index sub v) =
      .ok (.value .null, some (.list ((before ++ e.put c.id v :: after).map .dict))) := by
    rw [h.newAnswer_setEntryAnswer hf hc, resolveIndex_of_reaches hindex hr, ← hlength, hentries]
    have hset : ((before ++ e :: after).map Value.dict).set before.length (.dict (e.put c.id v)) =
        (before ++ e.put c.id v :: after).map .dict := by simp
    have hget : ((before ++ e :: after).map Value.dict)[before.length]? = some (.dict e) := by simp
    show ((((before ++ e :: after).map Value.dict)[before.length]?).getD .null).toMembers >>= _ = _
    rw [hget, ← hset]
    rfl
  obtain ⟨t, hrun, ht⟩ := run_of_newAnswer_some rfl hd hnew
  exact ⟨before, e, after, t, hentries, hlength, hrun, ht⟩

/-- The entry that the index reaches is removed. -/
theorem HoldsEntries.remove_reached (hr : Reaches entries.length i)
    (hspare : f.HasSpare entries.length) (hd : s.Decides (.removeEntry (.str f.id) index)) :
    ∃ before e after t, entries = before ++ e :: after ∧
      before.length = position entries.length i ∧
      (run (.removeEntry (.str f.id) index)).run.run s = (.ok (.value (.bool true)), t) ∧
      t.HoldsEntries f (before ++ after) := by
  -- Likewise, removing one of them drops the middle part.
  obtain ⟨before, e, after, hentries, hlength⟩ := exists_split_of_lt hr.position_lt
  have hnew : s.newAnswer (.removeEntry (.str f.id) index) =
      .ok (.value (.bool true), some (.list ((before ++ after).map .dict))) := by
    rw [h.newAnswer_removeEntry hf hspare, resolveIndex_of_reaches hindex hr, ← hlength, hentries]
    have herase : ((before ++ e :: after).map Value.dict).eraseIdx before.length =
        (before ++ after).map .dict := by
      simp [List.eraseIdx_append_of_length_le]
    rw [← herase]
    rfl
  obtain ⟨t, hrun, ht⟩ := run_of_newAnswer_some rfl hd hnew
  exact ⟨before, e, after, t, hentries, hlength, hrun, ht⟩

/-- An edit of an entry touches the one entry that its index reaches, or else nothing. -/
theorem touchesOne (hset : s.Decides (.setEntryAnswer (.str f.id) index sub v))
    (hremove : s.Decides (.removeEntry (.str f.id) index)) :
    s.TouchesOne f entries index i sub v where
  reaches hlength := reaches_iff hlength
  answered hr c hc := by
    -- The entries split where the index points, and the new entry has one answer replaced.
    obtain ⟨before, e, after, t, hentries, hlength, hrun, ht⟩ := h.set_reached hf hindex hr hc hset
    refine ⟨before, e, after, _, t, hentries, hlength, hrun, ht, ?_, fun name hname => ?_,
      Members.prefix_names_overlay e [(c.id, v)]⟩
    · rw [Members.get?_put, if_pos rfl]
    · rw [Members.get?_put, if_neg hname.symm]
  unreached hr hc := by
    obtain ⟨c, hc⟩ := Option.isSome_iff_exists.mp hc
    obtain ⟨m, hm, hresolve⟩ := resolveIndex_of_not_reaches hindex hr false
    refine ⟨m, hm, run_of_newAnswer_error rfl ?_⟩
    rw [h.newAnswer_setEntryAnswer hf hc, hresolve]
    rfl
  unknown hc := by
    refine run_of_newAnswer_error rfl ?_
    show (s.requireSection _ >>= fun f => _) = _
    rw [hf.requireSection_eq]
    show (match f.child? sub with | none => _ | some c => s.entries _ >>= _) = _
    rw [hc]
    rfl
  removed hspare hr := h.remove_reached hf hindex hr hspare hremove
  missed hspare hr := by
    obtain ⟨m, hm, hresolve⟩ := resolveIndex_of_not_reaches hindex hr true
    refine ⟨m, hm, run_of_newAnswer_error rfl ?_⟩
    rw [h.newAnswer_removeEntry hf hspare, hresolve]
    rfl
  kept hspare := (hf.removeEntry_refused_iff h.holds index).mpr hspare
  others hother := ⟨get?_run_of_edits? rfl hother, get?_run_of_edits? rfl hother⟩

end TouchesOne

/-- The last of two pets is renamed, or goes. -/
theorem touchesOne_pets :
    let c : Config := { Config.standard with cacheSize := .int 0 }
    let f := petsSection (some (.int 1)) none
    let pets : List (Members Value) := [[("name", .str "Rex")], [("name", .str "Tom")]]
    let name := Value.str "name"
    let v := Value.str "Ada"
    ∃ s, Session.new c (petsForm (some (.int 1)) none)
        (.dict [("pets", .list (pets.map .dict))]) = .ok s ∧
      s.HasSection f ∧ s.HoldsEntries f pets ∧
      s.Decides (.setEntryAnswer (.str f.id) (.int (-1)) name v) ∧
      s.Decides (.removeEntry (.str f.id) (.int (-1))) ∧ Reaches pets.length (-1) ∧
      f.HasSpare pets.length ∧ (f.child? name).isSome ∧
      s.TouchesOne f pets (.int (-1)) (-1) name v := by
  intro c f pets name v
  obtain ⟨s, hs, hf, h, hset, hremove⟩ : ∃ s, Session.new c (petsForm (some (.int 1)) none)
        (.dict [("pets", .list (pets.map .dict))]) = .ok s ∧
      s.HasSection f ∧ s.HoldsEntries f pets ∧
      s.Decides (.setEntryAnswer (.str f.id) (.int (-1)) name v) ∧
      s.Decides (.removeEntry (.str f.id) (.int (-1))) := by
    refine ⟨_, rfl, ⟨rfl, rfl⟩, rfl, fun a answers _ => ?_, fun a answers _ => ?_⟩
    · cases answers <;> exact ⟨_, rfl⟩
    · cases answers <;> exact ⟨_, rfl⟩
  -- One entry has to stay and there are two.
  have hspare : f.HasSpare pets.length := by
    intro limit hlimit
    obtain rfl := Option.some.inj hlimit
    exact Or.inr (by decide)
  exact ⟨s, hs, hf, h, hset, hremove, (reaches_iff (by decide)).mpr (by decide), hspare, rfl,
    touchesOne hf h rfl hset hremove⟩

end Session
end Questionnaire
