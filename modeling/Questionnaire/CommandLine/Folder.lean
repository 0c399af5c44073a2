import Questionnaire.Text.Quoted
import Questionnaire.Text.Utf8
import Questionnaire.Members

/-!
# Reading files

A `Folder` is the place where the files are, by their names.  A file is read as text in UTF-8, and its
lines may end in any of the usual ways.
-/

namespace Questionnaire.CommandLine

/-- The files of one place by their names. -/
abbrev Folder := Members (List UInt8)

/-- Why a file cannot be read. -/
inductive FileFault where
  | absent (path : String)
  | folder (path : String)
  | notFolder (path : String)
  /-- No file can have this path. -/
  | noPath
  | encoding (problem : Text.Utf8.Problem)
  /-- The system says why. -/
  | other (reason : String)

/-- The words for a fault of a file. -/
def FileFault.message : FileFault → String
  | .absent path => "[Errno 2] No such file or directory: " ++ Text.quoted path
  | .folder path => "[Errno 21] Is a directory: " ++ Text.quoted path
  | .notFolder path => "[Errno 20] Not a directory: " ++ Text.quoted path
  | .noPath => "embedded null byte"
  | .encoding problem => problem.message
  | .other reason => reason

namespace Folder

/-- The text of the bytes of a file. -/
def textOf (bytes : List UInt8) : Except FileFault String :=
  match Text.Utf8.decode bytes with
  | .ok s => .ok (String.ofList (Text.withLineFeeds s.toList))
  | .error problem => .error (.encoding problem)

/-- The bytes of a file.  The path may name the folder itself on the way. -/
def bytes (folder : Folder) (path : String) : Except FileFault (List UInt8) :=
  if path.toList.contains '\x00' then .error .noPath
  else
    match folder.get? path with
    | some bytes => .ok bytes
    | none =>
      match (path.splitOn "/").dropWhile (fun part => part = "." || part = "") with
      | [] => .error (if path = "" then .absent path else .folder path)
      | [name] =>
        match if path.startsWith "/" then none else folder.get? name with
        | some bytes => .ok bytes
        | none => .error (.absent path)
      | name :: _ =>
        .error (if folder.has name && !path.startsWith "/" then .notFolder path else .absent path)

/-- Reads a file. -/
def read (folder : Folder) (path : String) : Except FileFault String := do
  textOf (← folder.bytes path)

end Folder
end Questionnaire.CommandLine
