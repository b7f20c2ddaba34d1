import TypeLineage.Setting.Section

/-!
The format of the settings file, as far as the settings depend on it: what reads a text as a table
and what writes a document. A format is given from outside; nothing is known of it here.
-/

namespace TypeLineage.Setting

/-- What keeps a text from being read or a document from being written. -/
inductive FormatFault where
  /-- A text that breaks the rules of the format. -/
  | malformed (message : String)
  /-- Any other fault that counts as a mistake in a value. -/
  | mistaken (message : String)
  | other (kind message : String)
  deriving DecidableEq, Repr

def FormatFault.message : FormatFault → String
  | .malformed message | .mistaken message | .other _ message => message

/-- What is written under a name at the top of a file. -/
inductive Content where
  | value (v : Value)
  /-- Settings of which not every key is text. -/
  | settings (s : Section)

def Content.ofSection (s : Section) : Content :=
  match s.table? with
  | some t => .value (.table t)
  | none => .settings s

/-- A whole file as it is written. -/
abbrev Document := List (String × Content)

namespace Document

def ofTable (t : Table) : Document :=
  t.map fun (k, v) => (k, .value v)

end Document

structure ConfigFormat where
  read : List Char → Except FormatFault Table
  /-- The text of a document, up to a fault if there is one. -/
  write : Document → List Char × Option FormatFault
  /-- The word for the kind of a table that stands in a list. -/
  inlineKind : String

end TypeLineage.Setting
