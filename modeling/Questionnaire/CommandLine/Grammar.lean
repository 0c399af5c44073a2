import Questionnaire.Text.Digit
import Questionnaire.Text.Quoted

/-!
# Options and operands

A `Grammar` says which words a program takes: parameters, which are options with a value, and
operands.  Every program also has the option for help.

`Grammar.mark` tells what a word is on its own; a name of an option may be cut short as long as only
one fits, and its value may follow after an equals sign.  `Grammar.scan` takes the marked words one
after the other.  What fits nowhere is set aside as surplus.
-/

namespace Questionnaire.CommandLine

/-- An option with a value. -/
structure Parameter where
  name : String
  /-- What stands for the value in a description. -/
  placeholder : String
  /-- What is wrong with a value, if anything is. -/
  complaint : String → Option String

/-- The operands that a program takes. -/
inductive Operands where
  /-- So many, by their names. -/
  | named (names : List String)
  /-- A command with all words that follow. -/
  | command

/-- Which words a program takes. -/
structure Grammar where
  program : String
  parameters : List Parameter
  operands : Operands

/-- Why the words do not make a call. -/
inductive Interruption where
  /-- Help was asked for; how the program is called. -/
  | help (usage : String)
  | misused (program message : String)
  deriving DecidableEq

/-- What a word is on its own. -/
inductive Mark where
  | operand
  /-- The word that ends the options. -/
  | divider
  /-- The option for help, with the value that is given to it. -/
  | help (attached : Option String)
  /-- The option for help as a letter with more letters after it. -/
  | helpLetters (more : List Char)
  | parameter (p : Parameter) (attached : Option String)
  | unknown

/-- What was found among the words. -/
structure Call where
  /-- The values of parameters, in the order in which they came. -/
  settings : List (String × String)
  /-- The operands; the word that ends the options names nothing, also where it is one. -/
  operands : List (Option String)
  /-- The words from the command on. -/
  command : List String
  surplus : List String

/-! ### Words on their own -/

/-- Whether a word is a negative number; a line feed may follow it. -/
def isNegativeNumber (word : List Char) : Bool :=
  match word with
  | '-' :: cs =>
    let cs := match cs.reverse with
      | '\n' :: rest => rest.reverse
      | _ => cs
    match cs.dropWhile (Text.isDigit ·.toNat) with
    | [] => !cs.isEmpty
    | '.' :: fraction => !fraction.isEmpty && fraction.all (Text.isDigit ·.toNat)
    | _ => false
  | _ => false

namespace Grammar

/-- How the program is called. -/
def usage (g : Grammar) : String :=
  let parameters := g.parameters.map fun p => s!" [{p.name} {p.placeholder}]"
  let operands := match g.operands with
    | .named names => names.map fun name => " " ++ name
    | .command => [" command ..."]
  s!"usage: {g.program} [-h]" ++ String.join (parameters ++ operands)

/-- The long names that a word may be short for, with what each stands for. -/
def longNames (g : Grammar) (attached : Option String) : List (String × Mark) :=
  ("--help", .help attached) ::
    g.parameters.map fun p => (p.name, .parameter p attached)

/-- What an option of a given name is. -/
def exactly? (g : Grammar) (name : String) (attached : Option String) : Option Mark :=
  if name = "-h" then some (.help attached) else (g.longNames attached).lookup name

/-- The options that a word may be short for. -/
def candidates (g : Grammar) (word name : String) (attached : Option String) :
    List (String × Mark) :=
  match word.toList with
  | '-' :: '-' :: _ =>
    (g.longNames attached).filter fun (long, _) => name.toList.isPrefixOf long.toList
  | '-' :: 'h' :: more => [("-h", .helpLetters more)]
  | _ => []

/-- What a word is on its own. -/
def mark (g : Grammar) (word : String) : Except Interruption Mark :=
  match word.toList with
  | '-' :: _ :: _ =>
    let name := String.ofList (word.toList.takeWhile (· ≠ '='))
    let attached := match word.toList.dropWhile (· ≠ '=') with
      | _ :: value => some (String.ofList value)
      | [] => none
    match (g.exactly? word none).or (attached.bind fun value => g.exactly? name (some value)) with
    | some m => .ok m
    | none =>
      match g.candidates word name attached with
      | [(_, m)] => .ok m
      | [] =>
        if isNegativeNumber word.toList || word.toList.contains ' ' then .ok .operand
        else .ok .unknown
      | many =>
        let names := ", ".intercalate (many.map (·.1))
        .error (.misused g.program s!"ambiguous option: {word} could match {names}")
  | _ => .ok .operand

/-- What the words are; after the one that ends the options all are operands. -/
def markAll (g : Grammar) : List String → Except Interruption (List (String × Mark))
  | [] => .ok []
  | "--" :: words => .ok (("--", .divider) :: words.map fun w => (w, .operand))
  | word :: words => do
    let m ← g.mark word
    let rest ← markAll g words
    pure ((word, m) :: rest)

/-! ### Words in order -/

/-- Puts a setting before those of a call. -/
def withSetting (name value : String) (call : Call) : Call :=
  { call with settings := (name, value) :: call.settings }

/-- Puts an operand before those of a call. -/
def withOperand (word : Option String) (call : Call) : Call :=
  { call with operands := word :: call.operands }

/-- Puts a word before the surplus of a call. -/
def withSurplus (word : String) (call : Call) : Call :=
  { call with surplus := word :: call.surplus }

/-- Refuses the value of a parameter that is unfit. -/
def checkValue (g : Grammar) (p : Parameter) (value : String) : Except Interruption Unit :=
  match p.complaint value with
  | some message => .error (.misused g.program s!"argument {p.name}: {message}")
  | none => .ok ()

/-- The option for help takes no value. -/
def helpWith (g : Grammar) (value : String) : Interruption :=
  .misused g.program ("argument -h/--help: ignored explicit argument " ++ Text.quoted value)

/-- What the letters after the letter for help come to: the same letter may come again, and other
letters do no harm. -/
def helpLetters (g : Grammar) : List Char → Interruption
  | 'h' :: '=' :: value => g.helpWith (String.ofList value)
  | 'h' :: more => helpLetters g more
  | '-' :: more => g.helpWith (String.ofList ('-' :: more))
  | _ => .help g.usage

/-- Takes the words one after the other, while so many operands are missing. -/
def scan (g : Grammar) : Operands → List (String × Mark) → Except Interruption Call
  | _, [] => .ok ⟨[], [], [], []⟩
  | .command, (word, .operand) :: words => .ok ⟨[], [], word :: words.map (·.1), []⟩
  | .command, (word, .divider) :: words =>
    if words.isEmpty then .ok ⟨[], [], [], [word]⟩ else .ok ⟨[], [], word :: words.map (·.1), []⟩
  | .named (_ :: names), (_, .divider) :: (word, .operand) :: words => do
    pure (withOperand (some word) (← scan g (.named names) words))
  | .named (_ :: names), (word, .operand) :: (_, .divider) :: words => do
    pure (withOperand (some word) (← scan g (.named names) words))
  | .named (_ :: names), (word, .operand) :: words => do
    pure (withOperand (if word = "--" then none else some word) (← scan g (.named names) words))
  | operands, (word, .operand) :: words | operands, (word, .divider) :: words
  | operands, (word, .unknown) :: words => do
    pure (withSurplus word (← scan g operands words))
  | _, (_, .help none) :: _ => .error (.help g.usage)
  | _, (_, .help (some value)) :: _ => .error (g.helpWith value)
  | _, (_, .helpLetters more) :: _ => .error (g.helpLetters more)
  | operands, (_, .parameter p (some value)) :: words => do
    g.checkValue p value
    pure (withSetting p.name value (← scan g operands words))
  | operands, (_, .parameter p none) :: (value, .operand) :: words => do
    g.checkValue p value
    pure (withSetting p.name value (← scan g operands words))
  | _, (_, .parameter p none) :: _ =>
    .error (.misused g.program s!"argument {p.name}: expected one argument")

/-- Finds the call that the words make. -/
def parse (g : Grammar) (words : List String) : Except Interruption Call := do
  g.scan g.operands (← g.markAll words)

/-- The names of the operands that a call is without. -/
def missing (g : Grammar) (call : Call) : List String :=
  match g.operands with
  | .named names => names.drop call.operands.length
  | .command => if call.command.isEmpty then ["command"] else []

/-- Refuses a call that is without some of its operands. -/
def checkComplete (g : Grammar) (call : Call) : Except Interruption Unit :=
  match g.missing call with
  | [] => .ok ()
  | names =>
    .error (.misused g.program
      ("the following arguments are required: " ++ ", ".intercalate names))

end Grammar
end Questionnaire.CommandLine
