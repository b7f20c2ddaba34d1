import TypeLineage.FileTree
import TypeLineage.Setting.Format

/-!
The settings file. Settings are one table of it; the others are kept as they are. A malformed file
counts as empty.
-/

namespace TypeLineage.Setting

/-- The name of the table that holds the settings. -/
def sectionName : String :=
  "graph"

/-- The table that holds the settings. -/
def section? (all : Table) : Option Value :=
  Table.lookup? sectionName all

inductive StoreFault where
  | setting (fault : Fault)
  | encoding (fault : Utf8.Fault)
  | file (fault : FileFault)
  | format (fault : FormatFault)
  | pairs (fault : SectionFault)
  /-- A setting of the name that the settings file itself goes by. -/
  | reserved (key : String)

def encodingMessage (fault : Utf8.Fault) : String :=
  let last := fault.offset + fault.length - 1
  let place :=
    if fault.length = 1 then
      "byte 0x" ++ String.ofList (Text.hexDigits 2 fault.first.toNat) ++ " in position " ++
        toString fault.offset
    else "bytes in position " ++ toString fault.offset ++ "-" ++ toString last
  "'utf-8' codec can't decode " ++ place ++ ": " ++ fault.reason.message

def StoreFault.message : StoreFault → String
  | .setting fault => fault.message
  | .encoding fault => encodingMessage fault
  | .file fault => fault.message
  | .format fault => fault.message
  | .pairs fault => fault.message
  | .reserved key => "save_config() got multiple values for argument '" ++ key ++ "'"

section Files

variable (format : ConfigFormat)

/-- The table of a text, empty if the text is malformed. -/
def tableOf (text : List Char) : Except StoreFault Table :=
  match format.read text with
  | .ok t => .ok t
  | .error (.malformed _) => .ok []
  | .error fault => .error (.format fault)

/-- The whole settings file as a table. -/
def loadFile (t : FileTree) (p : Path) : Except StoreFault Table :=
  match t.look p with
  | .error fault => .error (.file fault)
  | .ok none => .ok []
  | .ok (some _) =>
    match t.read p with
    | .error fault => .error (.file fault)
    | .ok bytes =>
      match Utf8.decode bytes with
      | .error fault => .error (.encoding fault)
      | .ok text => tableOf format (Utf8.unifyLineEnds text)

end Files

/-- The settings in force, and the entries of the file that were passed over, latest first. -/
structure Effective where
  settings : Table
  ignored : List (String × Value)

/-- Takes over one entry of the settings table. Unknown names are passed over in silence. -/
def Effective.take (e : Effective) (entry : String × Value) : Except Fault Effective :=
  match ofName? entry.1 with
  | none => .ok e
  | some s =>
    match s.accept entry.2 with
    | .ok v => .ok { e with settings := Table.store entry.1 v e.settings }
    | .error .tooLarge => .error .tooLarge
    | .error _ => .ok { e with ignored := entry :: e.ignored }

/-- Takes over entries up to a number that is out of range. The entries passed over until then are
told in any case. -/
def Effective.takeAll (e : Effective) : List (String × Value) → Effective × Except Fault Unit
  | [] => (e, .ok ())
  | entry :: rest =>
    match e.take entry with
    | .ok e => e.takeAll rest
    | .error fault => (e, .error fault)

/-- The settings that a whole file gives. -/
def effective (all : Table) : Effective × Except Fault Unit :=
  match section? all with
  | some (.table entries) => Effective.takeAll ⟨defaults, []⟩ entries
  | _ => (⟨defaults, []⟩, .ok ())

/-- What loading gives: the settings, and the entries that were passed over, in order. -/
structure Loaded where
  ignored : List (String × Value)
  settings : Except StoreFault Table

def load (format : ConfigFormat) (t : FileTree) (p : Path) : Loaded :=
  match loadFile format t p with
  | .error fault => ⟨[], .error fault⟩
  | .ok all =>
    match effective all with
    | (e, .ok ()) => ⟨e.ignored.reverse, .ok e.settings⟩
    | (e, .error fault) => ⟨e.ignored.reverse, .error (.setting fault)⟩

/-- Files after an operation, and whether it was carried out to its end. -/
structure Saved where
  files : FileTree
  result : Except StoreFault Unit

/-- Writes a text, up to a fault if there is one, in place of what is in a file. Directories above
are made where they are missing. -/
def saveText (t : FileTree) (p : Path) (written : List Char × Option FormatFault) : Saved :=
  match t.ensureDirectories p.parent with
  | (t, some fault) => ⟨t, .error (.file fault)⟩
  | (t, none) =>
    match t.writeText p written.1 with
    | .error fault => ⟨t, .error (.file fault)⟩
    | .ok t =>
      match written.2 with
      | some fault => ⟨t, .error (.format fault)⟩
      | none => ⟨t, .ok ()⟩

/-- A whole file with a section of settings. -/
def documentWith (s : Section) (all : Table) : Document :=
  Keyed.put Prod.fst (sectionName, .ofSection s) (Document.ofTable all)

/-- The name by which the settings file is passed on; no setting can be written under it. -/
def reservedName : String :=
  "config_file"

section Changes

variable (format : ConfigFormat)

/-- The whole file and its settings after writing validated values, before anything is saved. -/
def changed (t : FileTree) (p : Path) (values : List (String × Value)) :
    Except StoreFault (Section × Table) :=
  if values.any (·.1 = reservedName) then .error (.reserved reservedName)
  else
    match loadFile format t p with
    | .error fault => .error fault
    | .ok all =>
      match Section.ofValue format.inlineKind (section? all) with
      | .error fault => .error (.pairs fault)
      | .ok s =>
        match change s values with
        | .error fault => .error (.setting fault)
        | .ok s => .ok (s, all)

/-- Validates and writes settings. Nothing is written if one of them is refused. -/
def save (t : FileTree) (p : Path) (values : List (String × Value)) : Saved :=
  match changed format t p values with
  | .error fault => ⟨t, .error fault⟩
  | .ok (s, all) => saveText t p (format.write (documentWith s all))

/-- Removes the settings from the file. -/
def reset (t : FileTree) (p : Path) : Saved :=
  match loadFile format t p with
  | .error fault => ⟨t, .error fault⟩
  | .ok all => saveText t p (format.write (Document.ofTable (all.filter (·.1 ≠ sectionName))))

end Changes

end TypeLineage.Setting
