import Questionnaire.CommandLine.Program
import Questionnaire.Proofs.Json.Data
import Questionnaire.Proofs.Json.Plain
import Questionnaire.Proofs.Store.Commit

/-!
# What is loaded from files

A file of answers that is loaded has distinct names (`names_nodup_of_loadValues`), and a form that is
loaded is sound (`sound_of_loadSchema`).  A file that holds the JSON text of some data is loaded as
this data (`loadJson_of_write`): the text is plain, so each byte of the file is one of its characters.
-/

namespace Questionnaire.CommandLine

variable {folder : Folder} {c : Config}

/-! ### Files that are loaded -/

/-- An attempt at an outcome succeeds as the outcome does. -/
theorem Attempt.ofOutcome_eq_ok_iff {α : Type} {o : Outcome α} {a : α} :
    Attempt.ofOutcome o = .ok a ↔ o = .ok a := by
  cases o with
  | error e => exact ⟨nofun, nofun⟩
  | ok b =>
    constructor
    · exact fun h => congrArg Except.ok (Except.ok.inj h)
    · exact fun h => congrArg Except.ok (Except.ok.inj h)

/-- A sequence succeeds when both of its steps do. -/
theorem Attempt.bind_eq_ok_iff {α β : Type} {x : Attempt α} {f : α → Attempt β} {b : β} :
    x >>= f = .ok b ↔ ∃ a, x = .ok a ∧ f a = .ok b := by
  cases x with
  | error e => exact ⟨nofun, fun ⟨_, h, _⟩ => absurd h nofun⟩
  | ok a => exact ⟨fun h => ⟨a, rfl, h⟩, fun ⟨_, ha, h⟩ => (Except.ok.inj ha).symm ▸ h⟩

/-- What is loaded from a file is JSON data. -/
theorem isJson_of_loadJson {path : String} {v : Value} (h : loadJson folder path = .ok v) :
    v.IsJson Number.Any := by
  unfold loadJson at h
  split at h
  · cases h
  · split at h
    · next text _ w hread =>
      obtain rfl := Except.ok.inj h
      exact Json.isJson_of_read hread
    · cases h

/-- Loaded values repeat no name. -/
theorem names_nodup_of_loadValues {path : Option String} {values : Members Value}
    (h : loadValues folder path = .ok values) : values.names.Nodup := by
  obtain ⟨name, _, h⟩ := Attempt.bind_eq_ok_iff.mp h
  obtain ⟨v, hv, h⟩ := Attempt.bind_eq_ok_iff.mp h
  split at h
  · obtain rfl := Except.ok.inj h
    exact (isJson_of_loadJson hv).names_nodup
  · cases h

/-- A loaded schema is sound. -/
theorem sound_of_loadSchema {path : Option String} {schema : Schema}
    (h : loadSchema c folder path = .ok schema) : schema.Sound := by
  obtain ⟨_, _, h⟩ := Attempt.bind_eq_ok_iff.mp h
  obtain ⟨name, _, h⟩ := Attempt.bind_eq_ok_iff.mp h
  obtain ⟨v, _, h⟩ := Attempt.bind_eq_ok_iff.mp h
  obtain ⟨store, hstore, h⟩ := Attempt.bind_eq_ok_iff.mp h
  obtain rfl := Except.ok.inj h
  exact (Store.begun_of_importSchema (Attempt.ofOutcome_eq_ok_iff.mp hstore)).sound

/-! ### Files that are written -/

/-- The bytes of a text of ASCII characters. -/
def asciiBytes (text : String) : List UInt8 := text.toList.map fun c => UInt8.ofNat c.toNat

/-- Bytes below 128 are read as the characters of their numbers. -/
theorem decodeFrom_ascii {cs : List Char} (h : ∀ c ∈ cs, c.toNat < 0x80) (done : List Char)
    (place : Nat) :
    Text.Utf8.decodeFrom done place none (cs.map fun c => UInt8.ofNat c.toNat) =
      .ok (done.reverse ++ cs) := by
  induction cs generalizing done place with
  | nil => rw [List.map_nil, Text.Utf8.decodeFrom, List.append_nil]
  | cons c cs ih =>
    obtain ⟨hc, hcs⟩ := List.forall_mem_cons.mp h
    have hnat : (UInt8.ofNat c.toNat).toNat = c.toNat := by
      rw [UInt8.toNat_ofNat']
      omega
    have hlt : UInt8.ofNat c.toNat < 0x80 := by
      rw [UInt8.lt_iff_toNat_lt, hnat]
      exact hc
    rw [List.map_cons, Text.Utf8.decodeFrom, if_pos hlt, ih hcs, hnat, Char.ofNat_toNat,
      List.reverse_cons, List.append_assoc]
    rfl

/-- Without carriage returns the line ends stay as they are. -/
theorem withLineFeeds_of_no_return {cs : List Char} (h : ∀ c ∈ cs, c ≠ '\r') :
    Text.withLineFeeds cs = cs := by
  induction cs with
  | nil => rfl
  | cons c cs ih =>
    obtain ⟨hc, hcs⟩ := List.forall_mem_cons.mp h
    rw [Text.withLineFeeds, ih hcs]
    · exact fun _ hreturn _ => hc hreturn
    · exact fun hreturn => hc hreturn

/-- A file of plain text is read as this text. -/
theorem Folder.textOf_asciiBytes {text : String} (h : Plain text.toList) :
    Folder.textOf (asciiBytes text) = .ok text := by
  have hdecode : Text.Utf8.decode (asciiBytes text) = .ok text := by
    show (Text.Utf8.decodeFrom [] 0 none (text.toList.map _)).map String.ofList = _
    rw [decodeFrom_ascii (fun c hc => (h c hc).1)]
    exact congrArg Except.ok String.ofList_toList
  unfold Folder.textOf
  rw [hdecode]
  dsimp only
  rw [withLineFeeds_of_no_return fun c hc => (h c hc).2, String.ofList_toList]

/-- A file that holds the JSON text of some data is loaded as this data. -/
theorem loadJson_of_write {path : String} {v : Value} {indent : Option Int}
    (hv : v.IsJson Number.Readable) (hpath : path.toList.contains '\x00' = false)
    (hfile : folder.get? path = some (asciiBytes (Json.write .ascii indent v))) :
    loadJson folder path = .ok v := by
  have hbytes : folder.bytes path = .ok (asciiBytes (Json.write .ascii indent v)) := by
    unfold Folder.bytes
    rw [hpath, if_neg Bool.false_ne_true, hfile]
  have hread : folder.read path = .ok (Json.write .ascii indent v) := by
    show (folder.bytes path >>= Folder.textOf) = _
    rw [hbytes]
    exact Folder.textOf_asciiBytes (Json.plain_write hv indent)
  unfold loadJson
  rw [hread]
  dsimp only
  rw [Json.read_write hv]

end Questionnaire.CommandLine
