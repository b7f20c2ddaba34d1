import TypeLineage.Command.Arguments
import TypeLineage.Export.Format
import TypeLineage.FileTree
import TypeLineage.Number.Notation
import TypeLineage.Setting.Basic
import TypeLineage.Text.Find
import TypeLineage.Text.Word

/-!
What is asked for on the command line. Paths that a command reads have to lead to something of the
right kind; all arguments are looked at before a command does anything.
-/

namespace TypeLineage.Command

/-- How the graph of a workspace is exported. -/
structure ExportRequest where
  workspace : Path
  format : String
  output : Option Path
  focus : String
  suffix : Option String
  layout : Option String
  nodeSize : Option String

inductive Request where
  | version
  | help
  | outline (workspace : Path) (fields : Option Bool) (suffix : Option String)
  | statistics (workspace : Path) (suffix : Option String)
  | declarations (file : Path)
  | exportGraph (r : ExportRequest)
  | watch (workspace : Path) (interval : Option Binary64) (output : Option Path)
  | listSettings
  | setSetting (key value : String)
  | resetSettings

/-- What a path given as an argument has to lead to. -/
inductive Wanted where
  | file
  | directory
  deriving DecidableEq, Repr

namespace Wanted

def word : Wanted → String
  | .file => "file"
  | .directory => "dir"

/-- What is wrong with what a path leads to. That a file cannot be read is left to the command that
reads it. -/
def complaint? : Wanted → Entry → Option String
  | .file, .file .. => none
  | .file, .directory _ => some " is a directory."
  | .directory, .file .. => some " is a file."
  | .directory, .directory mode => if mode.read then none else some " is not readable."

end Wanted

/-- A path that has to lead to something. What is given is taken as a path first, so that nothing
hangs on how it ends. -/
def existing (t : FileTree) (wanted : Wanted) (parameter text : String) : Except Usage Path :=
  let refuse (reason : String) : Except Usage Path :=
    .error (.badValue (some ("'" ++ parameter ++ "'"))
      (wanted.word ++ " " ++ Text.quotedString text ++ reason))
  match t.find? (Path.ofString text) with
  | none => refuse " does not exist."
  | some e => (wanted.complaint? e).elim (.ok (Path.ofString text)) refuse

def helpSpelling : Spelling :=
  ⟨"--help", "help", some ""⟩

def suffixSpelling : Spelling :=
  ⟨"--root-suffix", "suffix", none⟩

def topSpellings : List Spelling :=
  [⟨"--version", "version", some ""⟩, ⟨"-v", "version", some ""⟩, ⟨"--verbose", "verbose", some ""⟩,
   ⟨"--install-completion", "help", some ""⟩, ⟨"--show-completion", "help", some ""⟩, helpSpelling]

def outlineSpellings : List Spelling :=
  [⟨"--props", "fields", some "yes"⟩, ⟨"--no-props", "fields", some "no"⟩, suffixSpelling,
   helpSpelling]

def exportSpellings : List Spelling :=
  [⟨"--format", "format", none⟩, ⟨"-f", "format", none⟩, ⟨"--output", "output", none⟩,
   ⟨"-o", "output", none⟩, ⟨"--focus", "focus", none⟩, suffixSpelling, ⟨"--layout", "layout", none⟩,
   ⟨"--node-size", "nodeSize", none⟩, helpSpelling]

def watchSpellings : List Spelling :=
  [⟨"--interval", "interval", none⟩, ⟨"-i", "interval", none⟩, ⟨"--output", "output", none⟩,
   ⟨"-o", "output", none⟩, helpSpelling]

/-- Arguments that are all taken. -/
def noMore : List String → Except Usage Unit
  | [] => .ok ()
  | texts => .error (.extraArguments texts)

/-- The workspace of a command; the working directory if none is given. -/
def workspaceOf (t : FileTree) : List String → Except Usage Path
  | [] => .ok (.relative [])
  | text :: rest => do
    let p ← existing t .directory "workspace" text
    noMore rest
    .ok p

/-- A number in ASCII characters with nothing between or around its digits. -/
def bareNumber? (text : List Char) : Option Binary64 :=
  if text.all fun c => c.toNat < 128 && c ≠ '_' && !Text.isBlank c then Binary64.ofText? text
  else none

/-- Whether underscores stand in a text, none at its ends or next to another one. -/
def hasSingleUnderscores (text : List Char) : Bool :=
  text.contains '_' && text.head? ≠ some '_' && text.getLast? ≠ some '_' &&
    !Text.occursIn ['_', '_'] text

/-- A number of seconds. Blanks may stand around it, or single underscores inside it. -/
def number? (text : List Char) : Option Binary64 :=
  (bareNumber? (Binary64.unpad text)).or
    (if hasSingleUnderscores text then bareNumber? (text.filter (· ≠ '_')) else none)

def intervalOf : Option String → Except Usage (Option Binary64)
  | none => .ok none
  | some text =>
    match number? text.toList with
    | some x => .ok (some x)
    | none =>
      .error (.badValue (some "'--interval' / '-i'")
        "Input should be a valid number, unable to parse string as a number")

namespace Request

def ofOutline (t : FileTree) (p : Parsed) : Except Usage Request := do
  let workspace ← workspaceOf t p.positional
  .ok (.outline workspace ((p.option? "fields").map (· = "yes")) (p.option? "suffix"))

def ofStatistics (t : FileTree) (p : Parsed) : Except Usage Request := do
  let workspace ← workspaceOf t p.positional
  .ok (.statistics workspace (p.option? "suffix"))

def ofDeclarations (t : FileTree) (p : Parsed) : Except Usage Request :=
  match p.positional with
  | [] => .error (.missingArgument "file")
  | text :: rest => do
    let file ← existing t .file "file" text
    noMore rest
    .ok (.declarations file)

def ofExport (t : FileTree) (p : Parsed) : Except Usage Request := do
  let workspace ← workspaceOf t p.positional
  .ok (.exportGraph
    { workspace := workspace
      format := (p.option? "format").getD ExportFormat.json.name
      output := (p.option? "output").map Path.ofString
      focus := (p.option? "focus").getD ""
      suffix := p.option? "suffix"
      layout := p.option? "layout"
      nodeSize := p.option? "nodeSize" })

def ofWatch (t : FileTree) (p : Parsed) : Except Usage Request := do
  let interval ← intervalOf (p.option? "interval")
  let workspace ← workspaceOf t p.positional
  .ok (.watch workspace interval ((p.option? "output").map Path.ofString))

def ofSet (p : Parsed) : Except Usage Request :=
  match p.positional with
  | [] => .error (.missingArgument "key")
  | [_] => .error (.missingArgument "value")
  | key :: value :: rest => do
    noMore rest
    .ok (.setSetting key value)

def ofPlain (r : Request) (p : Parsed) : Except Usage Request := do
  noMore p.positional
  .ok r

end Request

/-- A command: its name, its options and how its arguments are read. -/
structure Reader where
  name : String
  spellings : List Spelling
  read : FileTree → Parsed → Except Usage Request

def readers : List Reader :=
  [⟨"show", outlineSpellings, Request.ofOutline⟩,
   ⟨"stats", [suffixSpelling, helpSpelling], Request.ofStatistics⟩,
   ⟨"parse", [helpSpelling], Request.ofDeclarations⟩,
   ⟨"export", exportSpellings, Request.ofExport⟩,
   ⟨"watch", watchSpellings, Request.ofWatch⟩]

def settingReaders : List Reader :=
  [⟨"show", [helpSpelling], fun _ => Request.ofPlain .listSettings⟩,
   ⟨"set", [helpSpelling], fun _ => Request.ofSet⟩,
   ⟨"reset", [helpSpelling], fun _ => Request.ofPlain .resetSettings⟩]

/-- The name of the command that has the commands on settings below it. -/
def settingsName : String :=
  "config"

/-- Reads the arguments of one command. -/
def Reader.request (r : Reader) (t : FileTree) (arguments : List String) :
    Except Usage Request := do
  let p ← (parse r.spellings true arguments).mapError Mistake.usage
  if (p.option? "help").isSome then .ok .help else r.read t p

/-- What the first option asks for that is not about the amount of output. -/
def eagerRequest? (p : Parsed) : Option Request :=
  match p.options.find? (·.1 ≠ "verbose") with
  | some ("version", _) => some .version
  | some _ => some .help
  | none => none

/-- A name that begins like an option: with neither a letter nor a digit. -/
def beginsLikeOption (name : String) : Bool :=
  name.toList.head?.any fun c => c = '_' || !Text.isWord c

/-- A mistake where a command is expected. Commands close to the first argument that is left may
have been meant. -/
def mistaken (known : List String) (mistake : Usage) : List String → Except Usage Request
  | [] => .error mistake
  | name :: _ =>
    match Text.closeTo name known with
    | [] => .error mistake
    | commands => .error (.meant commands mistake)

/-- The answer to a name that is no command. If it begins like an option, it is read as one, and so
are the arguments after it. -/
def unknownCommand (spellings : List Spelling) (known : List String) (name : String)
    (later : List String) : Except Usage Request :=
  if beginsLikeOption name then
    match parse spellings false (name :: later) with
    | .error m => mistaken known m.usage m.unread
    | .ok p =>
      match eagerRequest? p with
      | some r => .ok r
      | none => mistaken known (.noSuchCommand name) p.positional
  else mistaken known (.noSuchCommand name) [name]

def settingsSpellings : List Spelling :=
  [helpSpelling]

/-- Reads the arguments of a command on settings. Without any, help is given. -/
def settingsRequest (t : FileTree) (arguments : List String) : Except Usage Request := do
  let p ← (parse settingsSpellings false arguments).mapError Mistake.usage
  if arguments.isEmpty ∨ (p.option? "help").isSome then .ok .help
  else
    match p.positional with
    | [] => .error .missingCommand
    | name :: rest =>
      match settingReaders.find? (·.name = name) with
      | some r => r.request t rest
      | none => unknownCommand settingsSpellings (settingReaders.map (·.name)) name rest

/-- Reads the command that the arguments name. -/
def commandRequest (t : FileTree) : List String → Except Usage Request
  | [] => .error .missingCommand
  | name :: rest =>
    if name = settingsName then settingsRequest t rest
    else
      match readers.find? (·.name = name) with
      | some r => r.request t rest
      | none => unknownCommand topSpellings (settingsName :: readers.map (·.name)) name rest

/-- Reads all arguments. The first option that asks for the version or for help wins over any
command. -/
def Request.ofArguments (t : FileTree) (arguments : List String) : Except Usage Request := do
  let p ← (parse topSpellings false arguments).mapError Mistake.usage
  match eagerRequest? p with
  | some r => .ok r
  | none => if arguments.isEmpty then .ok .help else commandRequest t p.positional

end TypeLineage.Command
