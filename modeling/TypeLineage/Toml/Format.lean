import TypeLineage.Setting.Format
import TypeLineage.Toml.Reader
import TypeLineage.Toml.Writer

/-!
The format that the tool's settings file is in. A section whose keys are not all text is written
with each entry under the text of its key, and with what is found under that text.
-/

namespace TypeLineage.Toml

open Setting

namespace Fault

/-- The word for the kind of a fault. -/
def kind : Fault → String
  | .malformed => "TomlDecodeError"
  | .listEnd | .textEnd => "IndexError"
  | .absentKey _ => "KeyError"
  | .tooLong => "ValueError"
  | .nameless => "UnboundLocalError"
  | .codeTooLarge => "OverflowError"
  | _ => "TypeError"

def toFormatFault : Fault → FormatFault
  | .malformed => .malformed Fault.malformed.message
  | .tooLong => .mistaken Fault.tooLong.message
  | fault => .other fault.kind fault.message

end Fault

def sectionDraft (s : Section) : Draft :=
  s.map fun (k, _) =>
    let text := String.ofList k.plain
    (text, (s.find? fun e => Section.sameKey e.1 (.text text)).map (·.2))

/-- The tables of a document that are written from drafts. -/
def draftsOf (d : Document) : Tables :=
  d.filterMap fun (name, c) =>
    match c with
    | .value _ => none
    | .settings s => some (name, sectionDraft s)

/-- The document as a table, with an empty one in place of each draft. -/
def outlineOf (d : Document) : Table :=
  d.map fun (name, c) =>
    match c with
    | .value v => (name, v)
    | .settings _ => (name, .table [])

/-- A document is put into words as a whole before any of it is written. -/
def write (d : Document) : List Char × Option FormatFault :=
  match renderWith (draftsOf d) (outlineOf d) with
  | .ok text => (text, none)
  | .error fault => ([], some fault.toFormatFault)

def format : ConfigFormat :=
  { read := fun text => (parse text).mapError Fault.toFormatFault
    write := write
    inlineKind := "DynamicInlineTableDict" }

end TypeLineage.Toml
