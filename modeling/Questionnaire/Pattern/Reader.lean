import Questionnaire.Pattern.Escape
import Questionnaire.Pattern.Group

/-!
# Reading patterns

`Pattern.read` reads a text as a pattern.  The first defect that is met in the order of the text
decides.  What depends on the modes of the whole pattern is checked at its end: a look-behind needs a
body of one width.

Groups are read to any depth; there is no limit to the recursion.
-/

namespace Questionnaire.Pattern

/-! ### Sequences and alternatives -/

mutual

/-- Alternatives up to a closing parenthesis or the end. -/
def alternatives : Nat → Bool → Bool → Bool → Parse (List (List Node))
  | 0, _, _, _ => stop .unbalanced 0
  | fuel + 1, verbose, top, first => do
    let sequence ← items fuel verbose (top && first) []
    if ← accept '|' then
      let verbose ← if top then pure ((← get).flags.contains 'x') else pure verbose
      pure (sequence :: (← alternatives fuel verbose top false))
    else pure [sequence]

/-- The nodes of a sequence, given those before them in reverse. -/
def items : Nat → Bool → Bool → List Node → Parse (List Node)
  | 0, _, _, _ => stop .unbalanced 0
  | fuel + 1, verbose, first, done => do
    match ← peek with
    | none => pure done.reverse
    | some t =>
      if t = ['|'] ∨ t = [')'] then pure done.reverse
      else
        let place ← here
        let _ ← take
        match t with
        | ['\\', c] => do items fuel verbose first ((← escape t c) :: done)
        | [c] =>
          if verbose ∧ isPatternBlank c then items fuel verbose first done
          else if verbose ∧ c = '#' then
            skipLine ((← remaining) + 1)
            items fuel verbose first done
          else match c with
            | '[' => do items fuel verbose first ((← charSet) :: done)
            | '.' => items fuel verbose first (.any :: done)
            | '^' => items fuel verbose first (.anchor .lineStart :: done)
            | '$' => items fuel verbose first (.anchor .lineEnd :: done)
            | '?' => do items fuel verbose first (← repeatLast place 0 (some 1) done)
            | '*' => do items fuel verbose first (← repeatLast place 0 none done)
            | '+' => do items fuel verbose first (← repeatLast place 1 none done)
            | '\x7b' =>
              match ← braceBounds with
              | none => items fuel verbose first (.char c.toNat :: done)
              | some (min, max) => do items fuel verbose first (← repeatLast place min max done)
            | '(' =>
              match ← opening place (first && done.isEmpty) with
              | .nothing => do
                let verbose ← if first && done.isEmpty && !verbose then
                    pure ((← get).flags.contains 'x')
                  else pure verbose
                items fuel verbose first done
              | .reference number => items fuel verbose first (.backref number :: done)
              | .group captured name added removed atomic => do
                let number ← if captured then some <$> openGroup name else pure none
                let inner := (verbose || added.contains 'x') && !removed.contains 'x'
                let body ← group <$> alternatives fuel inner false true
                closing place
                match number with
                | some n => closeGroup n body
                | none => pure ()
                let node := if atomic then .atomic body else .group number added removed body
                items fuel verbose first (node :: done)
              | .look behind negated => do
                let outer := (← get).lookbehind
                if behind then
                  modify fun s => { s with lookbehind := outer.or (some (s.groups.length + 1)) }
                let body ← group <$> alternatives fuel verbose false true
                if behind then modify fun s => { s with lookbehind := outer }
                closing place
                items fuel verbose first (.look behind negated body :: done)
              | .condition => do
                let number ← conditionGroup
                let yes ← items fuel verbose false []
                let no ← if ← accept '|' then items fuel verbose false [] else pure []
                if (← peek) = some ['|'] then stop .tooManyBranches 0
                closing place
                items fuel verbose first (.ifGroup number yes no :: done)
            | _ => items fuel verbose first (.char c.toNat :: done)
        | _ => pure done.reverse

/-- Alternatives as one sequence. -/
def group : List (List Node) → List Node
  | [sequence] => sequence
  | several => [.branch several]

end

/-! ### Whole patterns -/

/-- A pattern that was read: its nodes, and the modes for all of it. -/
structure Program where
  nodes : List Node
  flags : Flags
  groups : GroupWidths
  deriving Inhabited

mutual

/-- Checks what can only be checked when the modes are known. -/
def checkNode (groups : GroupWidths) (flags : Flags) : Node → Except Fault Unit
  | .branch alternatives => checkAlternatives groups flags alternatives
  | .group _ added removed body => checkSequence groups (flags.change added removed) body
  | .atomic body => checkSequence groups flags body
  | .repeated greed _ _ body => do
    if flags.contains 't' then
      throw (.overall (.templateOperator (match greed with
        | .greedy => "MAX_REPEAT"
        | .lazy => "MIN_REPEAT"
        | .possessive => "POSSESSIVE_REPEAT")))
    checkSequence groups flags body
  | .ifGroup _ yes no => do
    checkSequence groups flags yes
    checkSequence groups flags no
  | .look behind _ body => do
    if behind then
      let w := sequenceWidth groups body
      if 0x100000000 ≤ w.least then throw (.overall .lookbehindTooWide)
      if w.least ≠ w.greatest then throw (.overall .lookbehindWidth)
    checkSequence groups flags body
  | _ => pure ()

/-- Checks the nodes of a sequence one after the other. -/
def checkSequence (groups : GroupWidths) (flags : Flags) : List Node → Except Fault Unit
  | [] => pure ()
  | n :: ns => do
    checkNode groups flags n
    checkSequence groups flags ns

/-- Checks alternatives one after the other. -/
def checkAlternatives (groups : GroupWidths) (flags : Flags) : List (List Node) → Except Fault Unit
  | [] => pure ()
  | a :: as => do
    checkSequence groups flags a
    checkAlternatives groups flags as

end

/-- Reads the whole of a pattern. -/
def readWhole (fuel : Nat) : Parse Program := do
  let s ← get
  moveTo s.rest s.place
  let nodes ← group <$> alternatives fuel false true true
  let s ← get
  if s.flags.contains 'a' ∧ s.flags.contains 'u' then throw .scriptFlags
  if s.rest ≠ [] then stop .unbalanced 0
  match s.mentions.find? fun m => s.groups.length < m.1 with
  | some (number, place) => stopAt (.unknownGroup number) place
  | none => pure ⟨nodes, s.flags, s.groups⟩

/-- Reads a text as a pattern. -/
def read (text : String) : Except Fault Program := do
  let cs := text.toList
  let (program, _) ← (readWhole (3 * cs.length + 3)).run ⟨cs, 0, [], [], [], none, []⟩
  checkSequence program.groups program.flags program.nodes
  pure program

end Questionnaire.Pattern
