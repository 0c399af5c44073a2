import Questionnaire.Config
import Questionnaire.Store.Basic
import Questionnaire.Text.Hex
import Questionnaire.Text.Part

/-!
# Fresh ids

New fields and options get ids that are cut from words of thirty-two hexadecimal digits.  An
`IdSource` is the stream of these words.  `freshId` draws until it meets an id that no field of the
form has or ever had; words that were drawn stay drawn, also when the command that needed them
fails.
-/

namespace Questionnaire

/-- A stream of words: those given in advance, and after them the numbers from one on, written
backwards in hexadecimal. -/
structure IdSource where
  given : List String
  /-- How many words were drawn beyond the given ones. -/
  counted : Nat
  deriving DecidableEq, Inhabited

namespace IdSource

/-- The word of a number: its hexadecimal digits, the lowest one first. -/
def wordOf (n : Nat) : List Char := (Text.hexPadded 32 n).reverse

/-- The next word, and the stream after it. -/
def draw (ids : IdSource) : List Char × IdSource :=
  match ids.given with
  | w :: ws => (w.toList, { ids with given := ws })
  | [] => (wordOf (ids.counted + 1), { ids with counted := ids.counted + 1 })

end IdSource

/-- A computation that may draw words and may fail. -/
abbrev Drawing (α : Type) := ExceptT Fault (StateM IdSource) α

namespace Drawing

/-- A computation that draws no words. -/
def ofOutcome {α : Type} (o : Outcome α) : Drawing α := ExceptT.mk (pure o)

instance : MonadLift (Except Fault) (ExceptT Fault (StateM IdSource)) := ⟨ofOutcome⟩

/-- Draws the next word. -/
def word : Drawing (List Char) := do
  let (w, rest) := (← get).draw
  set rest
  pure w

end Drawing

/-- Whether a value contains a text: as an item, as the name of a member, or as a part of it. -/
def Value.containsText (v : Value) (s : String) : Outcome Bool :=
  match v with
  | .str t => .ok (Text.hasPart s.toList t.toList)
  | .bytes _ => misuse .textInBytes
  | v =>
    match v.iterate? with
    | some vs => .ok (vs.any (·.isText s))
    | none => misuse (.notSearchable v)

/-- Draws words until one of them is free; gives up after `n` of them. -/
def freshIdWithin (c : Config) (issued : List String) (taken : Value) : Nat → Drawing String
  | 0 => throw .noFreeId
  | n + 1 => do
    let id := String.ofList (← c.idPart (← Drawing.word))
    if ← taken.containsText id then freshIdWithin c issued taken n
    else if id ∈ issued then freshIdWithin c issued taken n
    else pure id

/-- An id that no field has or had and that is not among those taken.  Each word that is met in vain
is either given, or else stands for one of the ids that are in use. -/
def freshId (c : Config) (issued : List String) (taken : Value) : Drawing String := do
  let inUse := issued.length + ((taken.iterate?.map (·.length)).getD 0)
  freshIdWithin c issued taken ((← get).given.length + inUse + 1)

end Questionnaire
