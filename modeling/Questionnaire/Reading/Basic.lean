import Questionnaire.Value.Basic
import Questionnaire.Number.Numeral

/-!
# Reading records from data

Records are read leniently: a truth value may come as a word, a number as a text, unknown members
are passed over.  What cannot be read is reported in full, every unfit member with its path, so
`Reading` collects the misfits of all members instead of stopping at the first.

`Reading.under` puts a step in front of the paths of what lies below it.
-/

namespace Questionnaire

/-- A step from a value to one of its parts. -/
inductive Step where
  | key (name : String)
  | index (n : Nat)
  deriving DecidableEq

/-- Why a value does not fit the place at which it stands. -/
inductive Misfit where
  /-- A required member is absent. -/
  | absent
  | notText
  | textTooShort
  | notTruth
  | unreadableTruth
  | notInteger
  | unreadableInteger
  | fraction
  | integerTooLarge
  | notFinite
  | notFloat
  | unreadableFloat
  | notMemberOfEnumeration
  | notTuple
  | notList
  | notMapping
  | notRecord
  | notTaggedRecord
  | notLiteral
  | unknownTag
  | absentTag
  deriving DecidableEq

/-- The code of a misfit. -/
def Misfit.code : Misfit → String
  | .absent => "missing"
  | .notText => "string_type"
  | .textTooShort => "string_too_short"
  | .notTruth => "bool_type"
  | .unreadableTruth => "bool_parsing"
  | .notInteger => "int_type"
  | .unreadableInteger => "int_parsing"
  | .fraction => "int_from_float"
  | .integerTooLarge => "int_parsing_size"
  | .notFinite => "finite_number"
  | .notFloat => "float_type"
  | .unreadableFloat => "float_parsing"
  | .notMemberOfEnumeration => "enum"
  | .notTuple => "tuple_type"
  | .notList => "list_type"
  | .notMapping => "dict_type"
  | .notRecord => "model_type"
  | .notTaggedRecord => "model_attributes_type"
  | .notLiteral => "literal_error"
  | .unknownTag => "union_tag_invalid"
  | .absentTag => "union_tag_not_found"

/-- A misfit and the path to it. -/
structure Misplaced where
  path : List Step
  misfit : Misfit
  deriving DecidableEq

/-- What reading gives: a result, or all that does not fit. -/
inductive Reading (α : Type) where
  | read (a : α)
  | refused (misplaced : List Misplaced)

namespace Reading

variable {α β : Type}

/-- Refuses the value at hand. -/
def misfit (m : Misfit) : Reading α := .refused [⟨[], m⟩]

/-- Applies a function to what was read. -/
def map (f : α → β) : Reading α → Reading β
  | .read a => .read (f a)
  | .refused ms => .refused ms

/-- Applies what was read to what is read next, and keeps the misfits of both. -/
def ap (f : Reading (α → β)) (x : Reading α) : Reading β :=
  match f, x with
  | .read f, .read a => .read (f a)
  | .read _, .refused ms => .refused ms
  | .refused ms, .read _ => .refused ms
  | .refused ms, .refused ns => .refused (ms ++ ns)

instance : Functor Reading := ⟨fun f x => x.map f, fun a x => x.map fun _ => a⟩

instance : Applicative Reading where
  pure := .read
  seq f x := f.ap (x ())

/-- Puts a step in front of every path. -/
def under (s : Step) : Reading α → Reading α
  | .read a => .read a
  | .refused ms => .refused (ms.map fun m => { m with path := s :: m.path })

/-- What was read, if anything was. -/
def toOption : Reading α → Option α
  | .read a => some a
  | .refused _ => none

end Reading
end Questionnaire
