import Questionnaire.Pattern.Reader
import Questionnaire.Text.Blank
import Questionnaire.Text.Digit
import Questionnaire.Text.LetterCase
import Questionnaire.Text.Word

/-!
# Matching a pattern

`Node.run` tries the ways in which a node matches at a place of a text, in order of preference, and
gives the first of them after which the rest of the pattern matches as well.  The rest is handed in
as a function, so alternatives are tried until one suits what follows.

`Program.matchesAll` asks for a match of the whole of a text.

Ignoring case, a character meets a set if one of the characters that differ from it in case only
does (`Text.caseClass`), whatever its code point.  A condition asks whether a group was met on the way
that is being tried, possessive repetitions included.
-/

namespace Questionnaire.Pattern

/-! ### Characters -/

/-- How a mode decides about characters. -/
structure Modes where
  ignoreCase : Bool
  multiLine : Bool
  dotAll : Bool
  ascii : Bool

/-- The modes that flags turn on. -/
def Modes.ofFlags (flags : Flags) : Modes :=
  ⟨flags.contains 'i', flags.contains 'm', flags.contains 's', flags.contains 'a'⟩

/-- A character of a word. -/
def Modes.isWord (m : Modes) (n : Nat) : Bool :=
  if m.ascii then n = 0x5f || (n < 0x80 && Text.isAlphanumeric n) else Text.isWord n

/-- Membership in a class. -/
def Category.holds (m : Modes) (n : Nat) : Category → Bool
  | .digit => if m.ascii then 0x30 ≤ n && n ≤ 0x39 else Text.isDigit n
  | .space => if m.ascii then n = 0x20 || (0x9 ≤ n && n ≤ 0xd) else Text.isBlank (Char.ofNat n)
  | .word => m.isWord n

/-- The lower case of an ASCII capital. -/
def asciiLowerCode (n : Nat) : Nat := if 0x41 ≤ n ∧ n ≤ 0x5a then n + 0x20 else n

/-- Lower case in the sense of a mode. -/
def Modes.lower (m : Modes) (n : Nat) : Nat :=
  if m.ascii then asciiLowerCode n else Text.simpleLower n

/-- The characters that count as a given one. -/
def Modes.variants (m : Modes) (n : Nat) : List Nat :=
  if !m.ignoreCase then [n]
  else if m.ascii then
    let low := asciiLowerCode n
    if 0x61 ≤ low ∧ low ≤ 0x7a then [low, low - 0x20] else [n]
  else Text.caseClass n

/-- Whether a character meets an item of a set. -/
def SetItem.holds (m : Modes) (n : Nat) : SetItem → Bool
  | .char c => (m.variants n).contains c
  | .range first last => (m.variants n).any fun v => first ≤ v && v ≤ last
  | .category c negated => c.holds m (if m.ignoreCase then m.lower n else n) != negated

/-! ### Places -/

/-- A place in a text, and what the groups have captured on the way to it. -/
structure Place where
  /-- The characters before the place, the nearest first. -/
  before : List Char
  /-- The characters after the place. -/
  after : List Char
  /-- The number of characters before the place. -/
  offset : Nat
  /-- What groups have captured, the latest first. -/
  captured : List (Nat × List Char)

namespace Place

/-- The place before the first character. -/
def start (cs : List Char) : Place := ⟨[], cs, 0, []⟩

/-- Goes past one character. -/
def step (p : Place) (c : Char) (rest : List Char) : Place :=
  { p with before := c :: p.before, after := rest, offset := p.offset + 1 }

/-- Goes past a text that stands at the place, as far as `same` tells. -/
def stepText (same : Char → Char → Bool) (p : Place) : List Char → Option Place
  | [] => some p
  | c :: cs =>
    match p.after with
    | d :: rest => if same c d then stepText same (p.step d rest) cs else none
    | [] => none

/-- Goes back by a number of characters. -/
def back : Nat → Place → Option Place
  | 0, p => some p
  | n + 1, p =>
    match p.before with
    | [] => none
    | c :: rest => back n { p with before := rest, after := c :: p.after, offset := p.offset - 1 }

/-- Whether a place is of a kind. -/
def isAt (m : Modes) (p : Place) : Anchor → Bool
  | .textStart => p.before.isEmpty
  | .lineStart => p.before.isEmpty || (m.multiLine && p.before.head? = some '\n')
  | .textEnd => p.after.isEmpty
  | .lineEnd =>
    p.after.isEmpty || p.after = ['\n'] || (m.multiLine && p.after.head? = some '\n')
  | .boundary => !(p.before.isEmpty && p.after.isEmpty) && wordBefore != wordAfter
  | .notBoundary => !(p.before.isEmpty && p.after.isEmpty) && wordBefore == wordAfter
where
  wordBefore : Bool := p.before.head?.any fun c => m.isWord c.toNat
  wordAfter : Bool := p.after.head?.any fun c => m.isWord c.toNat

/-- Goes past one character that meets a condition. -/
def stepIf (p : Place) (holds : Nat → Bool) : Option Place :=
  match p.after with
  | c :: rest => if holds c.toNat then some (p.step c rest) else none
  | [] => none

/-- Remembers what a group has captured since a place. -/
def capture (p : Place) (number : Nat) (since : Place) : Place :=
  { p with captured := (number, since.after.take (p.offset - since.offset)) :: p.captured }

end Place

/-! ### Repetitions -/

/-- What is still to be matched after a place. -/
abbrev Rest := Place → Option Place

/-- A way to match something and then the rest. -/
abbrev Matcher := Place → Rest → Option Place

/-- Whether one more round is within the greatest number of them. -/
def mayRepeat (max : Option Nat) (count : Nat) : Bool :=
  match max with
  | none => true
  | some m => count < m

/-- Rounds of a body, as many as possible first.  After the least number of rounds, a round that
starts where the round before it started is not tried. -/
def greedily (body : Matcher) (min : Nat) (max : Option Nat) (rest : Rest) :
    Nat → Nat → Option Nat → Place → Option Place
  | 0, _, _, p => rest p
  | fuel + 1, count, last, p =>
    if count < min then body p (greedily body min max rest fuel (count + 1) last)
    else if mayRepeat max count ∧ last ≠ some p.offset then
      match body p (greedily body min max rest fuel (count + 1) (some p.offset)) with
      | some q => some q
      | none => rest p
    else rest p

/-- Rounds of a body, as few as possible first. -/
def lazily (body : Matcher) (min : Nat) (max : Option Nat) (rest : Rest) :
    Nat → Nat → Option Nat → Place → Option Place
  | 0, _, _, p => rest p
  | fuel + 1, count, last, p =>
    if count < min then body p (lazily body min max rest fuel (count + 1) last)
    else match rest p with
      | some q => some q
      | none =>
        if mayRepeat max count ∧ last ≠ some p.offset then
          body p (lazily body min max rest fuel (count + 1) (some p.offset))
        else none

/-- The place after as many rounds of a body as possible. -/
def possessively (body : Matcher) (min : Nat) (max : Option Nat) :
    Nat → Nat → Option Nat → Place → Option Place
  | 0, _, _, p => some p
  | fuel + 1, count, last, p =>
    if count < min then
      match body p some with
      | some q => possessively body min max fuel (count + 1) last q
      | none => none
    else if mayRepeat max count ∧ last ≠ some p.offset then
      match body p some with
      | some q => possessively body min max fuel (count + 1) (some p.offset) q
      | none => some p
    else some p

/-! ### Nodes -/

mutual

/-- Matches a node and then the rest. -/
def Node.run (groups : GroupWidths) (flags : Flags) : Node → Place → Rest → Option Place
  | .char n, p, rest => (p.stepIf ((SetItem.char n).holds (.ofFlags flags) ·)).bind rest
  | .any, p, rest => (p.stepIf fun c => c ≠ 0xa || flags.contains 's').bind rest
  | .oneOf negated items, p, rest =>
    let m := Modes.ofFlags flags
    (p.stepIf fun c => items.any (·.holds m c) != negated).bind rest
  | .anchor a, p, rest => if p.isAt (.ofFlags flags) a then rest p else none
  | .branch alternatives, p, rest => runBranch groups flags alternatives p rest
  | .group number added removed body, p, rest =>
    runSequence groups (flags.change added removed) body p fun q =>
      match number with
      | some n => rest (q.capture n p)
      | none => rest q
  | .atomic body, p, rest => (runSequence groups flags body p some).bind rest
  | .repeated greed min max body, p, rest =>
    let round : Matcher := fun q k => runSequence groups flags body q k
    let fuel := min + p.after.length + 2
    match greed with
    | .greedy => greedily round min max rest fuel 0 none p
    | .lazy => lazily round min max rest fuel 0 none p
    | .possessive => (possessively round min max fuel 0 none p).bind rest
  | .backref number, p, rest =>
    match p.captured.lookup number with
    | none => none
    | some text =>
      let m := Modes.ofFlags flags
      let same : Char → Char → Bool := fun c d =>
        if m.ignoreCase then m.lower c.toNat = m.lower d.toNat else c = d
      (p.stepText same text).bind rest
  | .ifGroup number yes no, p, rest =>
    if (p.captured.lookup number).isSome then runSequence groups flags yes p rest
    else runSequence groups flags no p rest
  | .look behind negated body, p, rest =>
    let from? := if behind then p.back (sequenceWidth groups body).least else some p
    match from?.bind fun q => runSequence groups flags body q some with
    | some q => if negated then none else rest { p with captured := q.captured }
    | none => if negated then rest p else none

/-- Matches the nodes of a sequence one after the other and then the rest. -/
def runSequence (groups : GroupWidths) (flags : Flags) : List Node → Place → Rest → Option Place
  | [], p, rest => rest p
  | n :: ns, p, rest => n.run groups flags p fun q => runSequence groups flags ns q rest

/-- Matches one of several alternatives and then the rest. -/
def runBranch (groups : GroupWidths) (flags : Flags) :
    List (List Node) → Place → Rest → Option Place
  | [], _, _ => none
  | a :: as, p, rest =>
    match runSequence groups flags a p rest with
    | some q => some q
    | none => runBranch groups flags as p rest

end

/-- Whether the pattern matches the whole of a text. -/
def Program.matchesAll (program : Program) (text : String) : Bool :=
  (runSequence program.groups program.flags program.nodes (.start text.toList) fun p =>
    if p.after.isEmpty then some p else none).isSome

end Questionnaire.Pattern
