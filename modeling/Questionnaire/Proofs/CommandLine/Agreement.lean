import Questionnaire.Proofs.CommandLine.Files
import Questionnaire.Proofs.Session.Answering
import Questionnaire.Proofs.Session.Binding
import Questionnaire.Proofs.Validation.Patterns
import Questionnaire.Proofs.Visibility.Defaults

/-!
# Whether two commands mean the same visible fields

The command `visible` prints the fields that are visible for some answers, and the command `validate`
makes a session with the same answers and reports on the fields that are visible there.  They should
mean the same fields (`Agree`).  But `visible` takes the answers as they are, while a session
completes them with default answers; and a session cannot be made at all if the form has a pattern
with a fault that is no defect.  `agree_iff` says that nothing else sets the commands apart, and
`not_agree_of_default` that the default answers do.
-/

namespace Questionnaire.CommandLine

variable {c : Config} {folder : Folder} {schemaPath valuesPath : Option String}

/-! ### What the commands do -/

/-- What `visible` prints when it finds some fields. -/
def listing (indent : Int) (ids : List String) : Attempt (Nat × String) :=
  (Attempt.ofOutcome (Json.document indent (.texts ids))).map fun text => (0, printed [text])

/-- What `validate` prints about a session: a report on its visible fields. -/
def verdict (indent : Int) (s : Session) : Attempt (Nat × String) := do
  let report ← Attempt.ofOutcome (s.contract.validate s.answers (some s.visible))
  let text ← Attempt.ofOutcome (Json.report indent (report.toValue .attributes))
  pure (if report.isValid then 0 else 1, printed [text])

/-- From two files both commands start, `validate` makes a session and reports on it, and `visible`
prints the fields that are visible in this session. -/
def Agree (c : Config) (folder : Folder) (schemaPath valuesPath : Option String) : Prop :=
  ∃ schema values s, loadSchema c folder schemaPath = .ok schema ∧
    loadValues folder valuesPath = .ok values ∧ Session.new c schema (.dict values) = .ok s ∧
    ∀ indent, perform c folder indent (.validate schemaPath valuesPath) = verdict indent s ∧
      perform c folder indent (.visible schemaPath valuesPath) = listing indent s.visible

/-- Lists of fields that are printed in the same way are the same. -/
theorem listing_inj {ids ids' : List String} (h : listing 0 ids = listing 0 ids') : ids = ids' := by
  have hprinted (text : String) : printed [text] = text ++ "\n" := by
    show "" ++ (text ++ "\n") = _
    rw [String.empty_append]
  -- The texts are the same, and each is read back as the list that it was written for.
  have htexts : printed [Json.write .ascii (some 0) (.texts ids)] =
      printed [Json.write .ascii (some 0) (.texts ids')] :=
    congrArg Prod.snd (Except.ok.inj h)
  rw [hprinted, hprinted] at htexts
  have hwritten := congrArg Json.read ((String.append_left_inj _).mp htexts)
  rw [Json.read_write (Value.IsJson.texts ids), Json.read_write (Value.IsJson.texts ids')] at hwritten
  have hlists : ids.map Value.str = ids'.map Value.str := Value.list.inj (Except.ok.inj hwritten)
  exact List.map_injective_iff.mpr (fun _ _ => Value.str.inj) hlists

section Loaded

variable {schema : Schema} {values : Members Value}
  (hschema : loadSchema c folder schemaPath = .ok schema)
  (hvalues : loadValues folder valuesPath = .ok values)

include hschema hvalues

/-- Asked what is visible, the program lists what the raw values show. -/
theorem perform_visible {capacity : Number} (hcapacity : c.capacity = .ok capacity)
    {shown : List String} (hshown : visibleIn schema.fields (.dict values) = .ok shown)
    (indent : Int) :
    perform c folder indent (.visible schemaPath valuesPath) = listing indent shown := by
  have hanswers : IsAnswers (.dict values) := .dict values (names_nodup_of_loadValues hvalues)
  have hfound : ((Evaluator.new schema.fields capacity).visibleFields (.dict values)).2 =
      .ok shown :=
    Evaluator.visibleFields_new (sound_of_loadSchema hschema).nodup_ids hshown capacity hanswers
  unfold perform
  dsimp only
  rw [hschema, hvalues, hcapacity]
  show (Attempt.ofOutcome ((Evaluator.new schema.fields capacity).visibleFields (.dict values)).2 >>=
    fun ids => Attempt.ofOutcome (Json.document indent (.texts ids)) >>= _) = _
  rw [hfound]
  rfl

/-- Asked to validate, the program gives the verdict of a session over the values. -/
theorem perform_validate {s : Session} (hs : Session.new c schema (.dict values) = .ok s)
    (indent : Int) :
    perform c folder indent (.validate schemaPath valuesPath) = verdict indent s := by
  unfold perform
  dsimp only
  rw [hschema, hvalues]
  show (Attempt.ofOutcome (Session.new c schema (.dict values)) >>= _) = _
  rw [hs]
  rfl

end Loaded

/-! ### The session -/

/-- A session completes the answers in a file. -/
theorem completes_of_initialAnswers {schema : Schema} (h : schema.Sound) {values : Members Value}
    (hn : values.names.Nodup) {full : Members Value}
    (hfull : Session.initialAnswers schema (.dict values) = .ok full) :
    Completes schema.fields values full := by
  have hgiven : Session.givenAtFirst (.dict values) = values := by cases values <;> rfl
  have hreverse (id : String) : Members.get? values.reverse id = values.get? id :=
    (Members.get?_of_perm values.reverse_perm.symm hn id).symm
  intro f hf
  rw [Session.get?_of_initialAnswers h hfull hf, hgiven, hreverse]

/-- Where the schema compiles and the look gives a set, there is a session. -/
theorem exists_session {schema : Schema} {values : Value} {contract : Contract}
    {full : Members Value} {capacity : Number} {kept : List String}
    (hcompile : schema.compile = .ok contract)
    (hfull : Session.initialAnswers schema values = .ok full) (hn : full.names.Nodup)
    (hcapacity : c.capacity = .ok capacity)
    (hkept : visibleIn schema.fields (.dict full) = .ok kept) :
    ∃ s, Session.new c schema values = .ok s ∧ s.visible = kept := by
  have hfound : ((Evaluator.new schema.fields capacity).visible (.dict full)).2 = .ok kept := by
    rw [Evaluator.visible_new _ _ (.dict full hn), hkept]
  refine ⟨⟨schema, contract, .ok ((Evaluator.new schema.fields capacity).visible (.dict full)).1,
    full, kept⟩, ?_, rfl⟩
  unfold Session.new
  rw [hcompile, hfull, hcapacity]
  show (((Evaluator.new schema.fields capacity).visible (.dict full)).2 >>= _) = _
  rw [hfound]
  rfl

/-- From files that can be loaded, with a form whose conditions can be decided for the answers as
they are and as a session completes them, the two commands mean the same visible fields exactly when
no pattern has a fault that is no defect, and no field that is visible in one of the two ways has a
condition that tells a field without answer from one with the default answer. -/
theorem agree_iff {schema : Schema} {values full : Members Value} {capacity : Number}
    {shown kept : List String} (hschema : loadSchema c folder schemaPath = .ok schema)
    (hvalues : loadValues folder valuesPath = .ok values) (hcapacity : c.capacity = .ok capacity)
    (hfull : Session.initialAnswers schema (.dict values) = .ok full)
    (hshown : visibleIn schema.fields (.dict values) = .ok shown)
    (hkept : visibleIn schema.fields (.dict full) = .ok kept) :
    Agree c folder schemaPath valuesPath ↔
      (∀ f ∈ schema.compiledFields, f.patternFault? = none) ∧
      ∀ f ∈ schema.fields, f.id ∈ shown ∨ f.id ∈ kept →
        ∀ k ∈ f.conditionList, ¬k.TellsDefault schema.fields values f.id := by
  have hsound := sound_of_loadSchema hschema
  have hnames : full.names.Nodup := by
    rw [Session.names_of_initialAnswers hsound hfull]
    exact hsound.nodup_ids
  have hcompletes := completes_of_initialAnswers hsound (names_nodup_of_loadValues hvalues) hfull
  -- Both sides come down to the sets shown by the raw values and by the completed ones.
  rw [← visibleIn_completed_iff hsound.nodup_ids hcompletes hshown hkept]
  constructor
  · rintro ⟨schema', values', s, hschema', hvalues', hs, hall⟩
    obtain rfl := Except.ok.inj (hschema.symm.trans hschema')
    obtain rfl := Except.ok.inj (hvalues.symm.trans hvalues')
    obtain ⟨_, hcompile, hanswers, room, _, _, hvisible⟩ := Session.new_eq_ok hs
    obtain rfl := Except.ok.inj (hfull.symm.trans hanswers)
    rw [Evaluator.visible_new _ _ (.dict _ hnames), hkept] at hvisible
    refine ⟨Schema.no_fault_of_compile hcompile, ?_⟩
    have hprinted := perform_visible hschema hvalues hcapacity hshown 0
    rw [(hall 0).2] at hprinted
    -- The printed listing determines the set.
    exact (listing_inj hprinted).symm.trans (Except.ok.inj hvisible).symm
  · rintro ⟨hfault, rfl⟩
    obtain ⟨s, hs, hvisible⟩ :=
      exists_session (Schema.compile_of_no_fault hfault) hfull hnames hcapacity hkept
    refine ⟨schema, values, s, hschema, hvalues, hs, fun indent => ⟨?_, ?_⟩⟩
    · exact perform_validate hschema hvalues hs indent
    · rw [hvisible]
      exact perform_visible hschema hvalues hcapacity hshown indent

/-- A file with a form of a name and a note, which is asked for when the name is not empty. -/
def notesFile : Value :=
  .dict [("title", .str "Notes"), ("fields", .list
    [.dict [("id", .str "name"), ("type", .str "text"), ("label", .str "Name")],
      .dict [("id", .str "note"), ("type", .str "text"), ("label", .str "Note"),
        ("conditions", .list [.dict [("sourceFieldId", .str "name"),
          ("operator", .str "notEquals"), ("value", .str "")]])]])]

/-- The form in this file. -/
def notesForm : Schema where
  title := "Notes"
  description := ""
  fields := [⟨"name", .text, "Name", false, none, none, none, none, none, none⟩,
    ⟨"note", .text, "Note", false, none, none, none, none,
      some [⟨"name", .notEquals, .str ""⟩], none⟩]
  settings := ⟨true, true, "Thank you for your submission!"⟩

/-- The file with this form, and one with answers. -/
def notesFolder (values : Members Value) : Folder :=
  [("schema.json", asciiBytes (Json.write .ascii none notesFile)),
    ("values.json", asciiBytes (Json.write .ascii none (.dict values)))]

/-- The file of the form reads as the form, whatever stands beside it. -/
theorem loadSchema_notesFolder (values : Members Value) :
    loadSchema .standard (notesFolder values) (some "schema.json") = .ok notesForm := by
  -- The file is written by the printer, so it is enough that the printed value can be read back.
  have hjson : notesFile.IsJson Number.Readable := by
    refine .dict (by decide) ?_
    simp only [List.forall_mem_cons]
    refine ⟨.str _, .list ?_, List.forall_mem_nil _⟩
    simp only [List.forall_mem_cons]
    refine ⟨.dict (by decide) ?_, .dict (by decide) ?_, List.forall_mem_nil _⟩
    · simp only [List.forall_mem_cons]
      exact ⟨.str _, .str _, .str _, List.forall_mem_nil _⟩
    · simp only [List.forall_mem_cons]
      refine ⟨.str _, .str _, .str _, .list ?_, List.forall_mem_nil _⟩
      simp only [List.forall_mem_cons]
      refine ⟨.dict (by decide) ?_, List.forall_mem_nil _⟩
      simp only [List.forall_mem_cons]
      exact ⟨.str _, .str _, .str _, List.forall_mem_nil _⟩
  have hfile : (notesFolder values).get? "schema.json" =
      some (asciiBytes (Json.write .ascii none notesFile)) := by
    unfold notesFolder
    rw [Members.get?_cons, if_pos rfl]
  have hload : loadJson (notesFolder values) "schema.json" = .ok notesFile :=
    loadJson_of_write hjson (by decide) hfile
  obtain ⟨store, hstore, hform⟩ : ∃ store, Store.importSchema .standard notesFile = .ok store ∧
      store.schema = notesForm := ⟨_, rfl, rfl⟩
  obtain ⟨first, hfirst⟩ : ∃ store, Store.new .standard none = .ok store := ⟨_, rfl⟩
  unfold loadSchema
  refine Attempt.bind_eq_ok_iff.mpr ⟨first, Attempt.ofOutcome_eq_ok_iff.mpr hfirst, ?_⟩
  refine Attempt.bind_eq_ok_iff.mpr ⟨"schema.json", rfl, ?_⟩
  refine Attempt.bind_eq_ok_iff.mpr ⟨notesFile, hload, ?_⟩
  refine Attempt.bind_eq_ok_iff.mpr ⟨store, Attempt.ofOutcome_eq_ok_iff.mpr hstore, ?_⟩
  exact congrArg Except.ok hform

/-- The file of the values reads as the values. -/
theorem loadValues_notesFolder {values : Members Value}
    (hjson : (Value.dict values).IsJson Number.Readable) :
    loadValues (notesFolder values) (some "values.json") = .ok values := by
  have hfile : (notesFolder values).get? "values.json" =
      some (asciiBytes (Json.write .ascii none (.dict values))) := by
    unfold notesFolder
    rw [Members.get?_cons, if_neg (by decide), Members.get?_cons, if_pos rfl]
  have hload : loadJson (notesFolder values) "values.json" = .ok (.dict values) :=
    loadJson_of_write hjson (by decide) hfile
  unfold loadValues
  refine Attempt.bind_eq_ok_iff.mpr ⟨"values.json", rfl, ?_⟩
  exact Attempt.bind_eq_ok_iff.mpr ⟨.dict values, hload, rfl⟩

/-- With an answer for the name, the commands mean the same fields. -/
theorem agree_of_answer :
    Agree .standard (notesFolder [("name", .str "Ada")]) (some "schema.json")
      (some "values.json") := by
  have hjson : (Value.dict [("name", .str "Ada")]).IsJson Number.Readable :=
    .dict (by decide) (List.forall_mem_singleton.mpr (.str _))
  have hvalues := loadValues_notesFolder hjson
  have hfault : ∀ f ∈ notesForm.compiledFields, f.patternFault? = none := by
    show ∀ f ∈ notesForm.fields, f.patternFault? = none
    unfold notesForm
    simp only [List.forall_mem_cons]
    exact ⟨rfl, rfl, List.forall_mem_nil _⟩
  have hcapacity : Config.standard.capacity = .ok (.int 128) := rfl
  have hfull : Session.initialAnswers notesForm (.dict [("name", .str "Ada")]) =
      .ok [("name", .str "Ada"), ("note", .str "")] := rfl
  have hshown : visibleIn notesForm.fields (.dict [("name", .str "Ada")]) = .ok ["name", "note"] :=
    rfl
  have hkept : visibleIn notesForm.fields (.dict [("name", .str "Ada"), ("note", .str "")]) =
      .ok ["name", "note"] := rfl
  refine (agree_iff (loadSchema_notesFolder _) hvalues hcapacity hfull hshown hkept).mpr
    ⟨hfault, ?_⟩
  intro f hf _ k hk
  rintro ⟨g, _, hsource, _, hnone, _⟩
  -- The one condition looks at the name, which has an answer.
  have hname : k.source = "name" := by
    revert k
    revert f
    unfold notesForm
    simp [Field.conditionList]
  rw [hsource, hname] at hnone
  cases hnone

/-- Without an answer for the name, `visible` prints the note, while the session of `validate` has an
empty name and no visible note. -/
theorem not_agree_of_default :
    (∀ indent, perform .standard (notesFolder []) indent
        (.visible (some "schema.json") (some "values.json")) = listing indent ["name", "note"]) ∧
      (∃ s, Session.new .standard notesForm (.dict []) = .ok s ∧ s.visible = ["name"]) ∧
      ¬Agree .standard (notesFolder []) (some "schema.json") (some "values.json") := by
  have hvalues : loadValues (notesFolder []) (some "values.json") = .ok [] :=
    loadValues_notesFolder (.dict (by decide) (List.forall_mem_nil _))
  have hvisible (indent : Int) : perform .standard (notesFolder []) indent
      (.visible (some "schema.json") (some "values.json")) = listing indent ["name", "note"] :=
    perform_visible (loadSchema_notesFolder _) hvalues rfl rfl indent
  obtain ⟨s, hs, hkept⟩ : ∃ s, Session.new .standard notesForm (.dict []) = .ok s ∧
      s.visible = ["name"] := ⟨_, rfl, rfl⟩
  refine ⟨hvisible, ⟨s, hs, hkept⟩, ?_⟩
  rintro ⟨schema, values, s', hschema, hvalues', hs', hall⟩
  obtain rfl := Except.ok.inj ((loadSchema_notesFolder []).symm.trans hschema)
  obtain rfl := Except.ok.inj (hvalues.symm.trans hvalues')
  obtain rfl := Except.ok.inj (hs.symm.trans hs')
  -- Agreement would make the two listings one.
  have hsame := listing_inj ((hvisible 0).symm.trans (hall 0).2)
  rw [hkept] at hsame
  cases hsame

end Questionnaire.CommandLine
