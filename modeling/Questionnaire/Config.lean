import Questionnaire.Fault
import Questionnaire.Form.Reader
import Questionnaire.Text.LetterCase

/-!
# Configuration

The settings of the program: the texts and flags of new forms, the length of generated ids, the
capacity of evaluators, and the indentation of output.  They come from environment variables, and can
be replaced by values of any kind; a value that is unfit shows where it is used.
-/

namespace Questionnaire

/-- The settings of the program. -/
structure Config where
  title : Value
  description : Value
  confirmationMessage : Value
  showProgressBar : Value
  showPageTitles : Value
  idLength : Value
  cacheSize : Value
  indent : Value
  logLevel : Value
  deriving Inhabited

namespace Config

/-- The settings of an empty environment. -/
def standard : Config where
  title := .str "Untitled Form"
  description := .str "Form description"
  confirmationMessage := .str "Thank you for your submission!"
  showProgressBar := .bool true
  showPageTitles := .bool true
  idLength := .int 9
  cacheSize := .int 128
  indent := .int 2
  logLevel := .str "INFO"

/-- The settings by their members. -/
def members (c : Config) : Members Value :=
  [("default_title", c.title), ("default_description", c.description),
    ("default_confirmation_message", c.confirmationMessage),
    ("default_show_progress_bar", c.showProgressBar),
    ("default_show_page_titles", c.showPageTitles), ("id_length", c.idLength),
    ("visibility_cache_size", c.cacheSize), ("indent_json_output", c.indent),
    ("log_level", c.logLevel)]

/-- The settings as an object. -/
def toValue (c : Config) : Value := .dict c.members

/-- Replaces one setting; an unknown one is passed over. -/
def put (c : Config) (name : String) (v : Value) : Config :=
  match name with
  | "default_title" => { c with title := v }
  | "default_description" => { c with description := v }
  | "default_confirmation_message" => { c with confirmationMessage := v }
  | "default_show_progress_bar" => { c with showProgressBar := v }
  | "default_show_page_titles" => { c with showPageTitles := v }
  | "id_length" => { c with idLength := v }
  | "visibility_cache_size" => { c with cacheSize := v }
  | "indent_json_output" => { c with indent := v }
  | "log_level" => { c with logLevel := v }
  | _ => c

/-- Replaces several settings one after the other. -/
def update (c : Config) (changes : Members Value) : Config :=
  changes.foldl (fun c m => c.put m.1 m.2) c

/-! ### The environment -/

/-- A whole number from a variable. -/
def wholeNumber (env : Members String) (name : String) (default : Value) : Outcome Value :=
  match env.get? name with
  | none => .ok default
  | some text =>
    match Integer.read text with
    | .value n => .ok (.int n)
    | .malformed => misuse (.notInteger text)
    | .tooLong digits => misuse (.integerTooLong digits)

/-- The settings that environment variables give. -/
def ofEnvironment (env : Members String) : Outcome Config := do
  let text := fun name (default : Value) => (((env.get? name).map Value.str).getD default)
  let flag := fun name (default : Value) =>
    ((env.get? name).map fun s => Value.bool (Text.lower s = "true")).getD default
  let c := standard
  let idLength ← wholeNumber env "FORM_BUILDER_ID_LENGTH" c.idLength
  let cacheSize ← wholeNumber env "FORM_BUILDER_VISIBILITY_CACHE_SIZE" c.cacheSize
  let indent ← wholeNumber env "FORM_BUILDER_INDENT_JSON" c.indent
  pure {
    title := text "FORM_BUILDER_DEFAULT_TITLE" c.title
    description := text "FORM_BUILDER_DEFAULT_DESCRIPTION" c.description
    confirmationMessage := text "FORM_BUILDER_CONFIRMATION_MESSAGE" c.confirmationMessage
    showProgressBar := flag "FORM_BUILDER_SHOW_PROGRESS_BAR" c.showProgressBar
    showPageTitles := flag "FORM_BUILDER_SHOW_PAGE_TITLES" c.showPageTitles
    idLength, cacheSize, indent
    logLevel := ((env.get? "FORM_BUILDER_LOG_LEVEL").map fun s => .str (Text.upper s)).getD
      c.logLevel }

/-! ### What the settings mean -/

/-- The presentation settings of new forms. -/
def settings (c : Config) : Reading Settings :=
  Settings.ofMembers [("show_progress_bar", c.showProgressBar),
    ("show_page_titles", c.showPageTitles), ("confirmation_message", c.confirmationMessage)]

/-- A new form without fields. -/
def newSchema (c : Config) : Except Unread Schema := do
  let settings ← c.settings.outcome .settings
  (Schema.ofMembers [("title", c.title), ("description", c.description)] (.read settings)).outcome
    .schema

/-- Reads a schema; one without settings takes those of new forms. -/
def readSchema (c : Config) (v : Value) : Except Unread Schema := Schema.read c.settings v

/-- The capacity of evaluators. -/
def capacity (c : Config) : Outcome Number :=
  match c.cacheSize with
  | .bool b => .ok (.int (if b then 1 else 0))
  | v =>
    match v.number? with
    | some n => .ok n
    | none => misuse (.noOrder "<=" v (.int 0))

/-- The indentation of output. -/
def indentation (c : Config) : Int :=
  match c.indent with
  | .int n => n
  | .bool b => if b then 1 else 0
  | _ => 2

/-- The part of a text that the length of ids asks for: so many characters, or all but so many. -/
def idPart (c : Config) (word : List Char) : Outcome (List Char) :=
  let slice := fun (n : Int) =>
    if 0 ≤ n then word.take n.toNat else word.take (word.length - n.natAbs)
  match c.idLength with
  | .int n => .ok (slice n)
  | .bool b => .ok (slice (if b then 1 else 0))
  | .null => .ok word
  | _ => misuse .notSliceable

end Config
end Questionnaire
