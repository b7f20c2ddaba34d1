import TypeLineage.Text.Quoted
import TypeLineage.Text.Similar

/-!
Command line arguments: options with and without a value, spelled out or by a letter, and positional
arguments. After two dashes alone everything is positional.
-/

namespace TypeLineage.Command

/-- One way to write an option. Without a value of its own it takes the next argument. -/
structure Spelling where
  text : String
  key : String
  value : Option String := none
  deriving DecidableEq, Repr

/-- What is wrong with the arguments. -/
inductive Usage where
  | noSuchOption (text : String) (similar : List String)
  | noSuchCommand (text : String)
  | missingCommand
  | missingArgument (name : String)
  | extraArguments (texts : List String)
  | needsValue (text : String)
  | takesNoValue (text : String)
  /-- A value that is refused, for a parameter if one is named. -/
  | badValue (parameter : Option String) (reason : String)
  /-- A mistake where a command is expected, with the commands that may have been meant. -/
  | meant (commands : List String) (mistake : Usage)
  deriving DecidableEq, Repr

/-- Text with control characters written by their code points, so that it stays on its line. -/
def printable (text : String) : String :=
  String.ofList (text.toList.flatMap fun c =>
    if c.toNat < 32 ∨ (127 ≤ c.toNat ∧ c.toNat < 160) then Text.codeEscape c else [c])

namespace Usage

/-- The sentence on a mistake, without what could be written instead. -/
def sentence : Usage → String
  | .noSuchOption text _ => "No such option: " ++ printable text
  | .noSuchCommand text => "No such command " ++ Text.quotedString text ++ "."
  | .missingCommand => "Missing command."
  | .missingArgument name => "Missing argument '" ++ name ++ "'."
  | .extraArguments texts =>
    "Got unexpected extra argument(s) (" ++ " ".intercalate (texts.map printable) ++ ")"
  | .needsValue text => "Option '" ++ text ++ "' requires an argument."
  | .takesNoValue text => "Option '" ++ text ++ "' does not take a value."
  | .badValue none reason => "Invalid value: " ++ reason
  | .badValue (some parameter) reason => "Invalid value for " ++ parameter ++ ": " ++ reason
  | .meant commands mistake =>
    let stem := (mistake.sentence.toList.reverse.dropWhile (· = '.')).reverse
    String.ofList stem ++ ". Did you mean " ++
      ", ".intercalate (commands.map fun s => "'" ++ s ++ "'") ++ "?"

/-- The options that are close to one that does not exist. -/
def possible : Usage → List String
  | .noSuchOption _ similar => similar
  | .meant _ mistake => mistake.possible
  | _ => []

def message (u : Usage) : String :=
  if u.possible.isEmpty then u.sentence
  else
    u.sentence ++ " (Possible options: " ++ ", ".intercalate (u.possible.mergeSort (· ≤ ·)) ++ ")"

end Usage

/-- Options in the order in which they were given, and positional arguments. -/
structure Parsed where
  options : List (String × String)
  positional : List String

namespace Parsed

/-- The value of an option; the last one given counts. -/
def option? (p : Parsed) (key : String) : Option String :=
  (p.options.reverse.find? (·.1 = key)).map (·.2)

def addOption (p : Parsed) (key value : String) : Parsed :=
  { p with options := p.options ++ [(key, value)] }

def addPositional (p : Parsed) (texts : List String) : Parsed :=
  { p with positional := p.positional ++ texts }

end Parsed

def isLong (s : Spelling) : Bool :=
  "--".toList.isPrefixOf s.text.toList

/-- The long options that are close to one that does not exist. -/
def similarOptions (spellings : List Spelling) (text : String) : List String :=
  Text.closeTo text ((spellings.filter isLong).map (·.text))

/-- An argument as a long option, with its value after an equals sign if there is one. -/
def splitValue (text : String) : String × Option String :=
  let cs := text.toList
  let front := cs.takeWhile (· ≠ '=')
  match cs.drop front.length with
  | [] => (text, none)
  | _ :: value => (String.ofList front, some (String.ofList value))

/-- Reads the letters of an argument that begins with one dash. Left are the arguments after it, of
which the first may have been taken as a value. -/
def letters (spellings : List Spelling) (p : Parsed) (later : List String) :
    List Char → Except Usage (Parsed × List String)
  | [] => .ok (p, later)
  | c :: rest =>
    let text := String.ofList ['-', c]
    match spellings.find? (·.text = text) with
    | none => .error (.noSuchOption text [])
    | some ⟨_, key, some value⟩ => letters spellings (p.addOption key value) later rest
    | some ⟨_, key, none⟩ =>
      match rest, later with
      | _ :: _, _ => .ok (p.addOption key (String.ofList rest), later)
      | [], value :: later => .ok (p.addOption key value, later)
      | [], [] => .error (.needsValue text)

/-- Reads a long option. -/
def long (s : Spelling) (given : Option String) (p : Parsed) (later : List String) :
    Except Usage (Parsed × List String) :=
  match s.value, given with
  | some value, none => .ok (p.addOption s.key value, later)
  | some _, some _ => .error (.takesNoValue s.text)
  | none, some value => .ok (p.addOption s.key value, later)
  | none, none =>
    match later with
    | value :: later => .ok (p.addOption s.key value, later)
    | [] => .error (.needsValue s.text)

/-- Reads one argument that begins with a dash. -/
def one (spellings : List Spelling) (p : Parsed) (text : String) (later : List String) :
    Except Usage (Parsed × List String) :=
  let (name, given) := splitValue text
  match (spellings.filter isLong).find? (·.text = name) with
  | some s => long s given p later
  | none =>
    if "--".toList.isPrefixOf text.toList then
      .error (.noSuchOption name (similarOptions spellings name))
    else letters spellings p later (text.toList.drop 1)

def looksLikeOption (text : String) : Bool :=
  text.toList.head? = some '-' && 2 ≤ text.length

/-- A mistake in the arguments, with the arguments that were not read because of it. -/
structure Mistake where
  usage : Usage
  unread : List String

/-- Reads arguments, for a number of steps. Unless options may stand anywhere, all that follows the
first positional argument is positional too. -/
def parseFrom (spellings : List Spelling) (anywhere : Bool) :
    (steps : Nat) → Parsed → List String → Except Mistake Parsed
  | 0, p, _ => .ok p
  | _, p, [] => .ok p
  | steps + 1, p, text :: later =>
    if text = "--" then .ok (p.addPositional later)
    else if looksLikeOption text then
      match one spellings p text later with
      | .error usage => .error ⟨usage, later⟩
      | .ok (p, later) => parseFrom spellings anywhere steps p later
    else if anywhere then parseFrom spellings anywhere steps (p.addPositional [text]) later
    else .ok (p.addPositional (text :: later))

def parse (spellings : List Spelling) (anywhere : Bool) (arguments : List String) :
    Except Mistake Parsed :=
  parseFrom spellings anywhere arguments.length ⟨[], []⟩ arguments

end TypeLineage.Command
