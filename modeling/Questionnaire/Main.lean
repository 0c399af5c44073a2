import Questionnaire.CommandLine.Program

/-!
# The command line

The only part that acts: it reads the environment and the files that are named, and prints.
-/

namespace Questionnaire.CommandLine

/-- The variables that the configuration looks at. -/
def variableNames : List String :=
  ["FORM_BUILDER_DEFAULT_TITLE", "FORM_BUILDER_DEFAULT_DESCRIPTION",
    "FORM_BUILDER_CONFIRMATION_MESSAGE", "FORM_BUILDER_SHOW_PROGRESS_BAR",
    "FORM_BUILDER_SHOW_PAGE_TITLES", "FORM_BUILDER_ID_LENGTH",
    "FORM_BUILDER_VISIBILITY_CACHE_SIZE", "FORM_BUILDER_INDENT_JSON", "FORM_BUILDER_LOG_LEVEL"]

/-- The variables that are set. -/
def environment : IO (Members String) := do
  let settings ← variableNames.mapM fun name => do
    pure ((← IO.getEnv name).map fun value => (name, value))
  pure (settings.filterMap id)

/-- The files among the words on the command line. -/
def folderOf (words : List String) : IO Folder := do
  let files ← words.mapM fun (word : String) => do
    try
      let data ← IO.FS.readBinFile word
      pure (some (word, data.toList))
    catch _ => pure none
  pure (files.filterMap id)

end Questionnaire.CommandLine

open Questionnaire Questionnaire.CommandLine in
/-- Runs the program on the words of the command line. -/
def main (words : List String) : IO UInt32 := do
  match Config.ofEnvironment (← environment) with
  | .error fault =>
    IO.eprintln fault.message
    return 1
  | .ok config =>
    match run config (← folderOf words) words with
    | .help usage =>
      IO.println usage
      return 0
    | .misused program message =>
      IO.eprintln s!"{program}: error: {message}"
      return 2
    | .done code output =>
      IO.print output
      return code.toUInt32
    | .refused complaint =>
      IO.eprintln complaint
      return 2
    | .broken fault =>
      IO.eprintln fault.message
      return 1
