import TypeLineage.Files
import TypeLineage.Text.Utf8

/-!
A tree of files as a value: what stands in it, what may be done with it, and how looking up, reading
and writing fail. Places are absolute lists of names; paths lead to places by way of directories
that have to exist and to let themselves be searched. There are no links in a tree.
-/

namespace TypeLineage

/-- What may be done with a file or a directory. To read a directory is to list its names, to write
it is to add names, and to search it is to go on to what a name stands for. -/
structure Mode where
  read : Bool
  write : Bool
  search : Bool
  deriving DecidableEq, Repr

def Mode.full : Mode :=
  ⟨true, true, true⟩

inductive Entry where
  | directory (mode : Mode)
  | file (bytes : List UInt8) (mode : Mode)
  deriving DecidableEq

def Entry.kind : Entry → FileKind
  | .directory _ => .directory
  | .file .. => .file

/-- A place is an absolute list of names. -/
abbrev Place := List String

/-- Everything that stands anywhere, the working directory and those above it too. -/
structure FileTree where
  workingDirectory : Place
  entries : List (Place × Entry)

namespace FileTree

/-- A working directory with nothing in it. -/
def bare (home : Place) : FileTree :=
  ⟨home, (List.range (home.length + 1)).map fun n => (home.take n, .directory .full)⟩

def entryAt? (t : FileTree) (place : Place) : Option Entry :=
  (t.entries.find? (·.1 = place)).map (·.2)

/-- Why a path leads nowhere. -/
inductive Block where
  | missing
  | notDirectory
  | denied
  | tooLong
  deriving DecidableEq, Repr

/-- The bytes that a name can have. -/
def nameLimit : Nat :=
  255

/-- The bytes that a path can have. -/
def pathLimit : Nat :=
  4095

/-- Follows the parts of a path. Every part is looked up in a directory; what is at the end does not
matter. -/
def follow (t : FileTree) (place : Place) : List String → Except Block Place
  | [] => .ok place
  | part :: rest =>
    match t.entryAt? place with
    | none => .error .missing
    | some (.file ..) => .error .notDirectory
    | some (.directory mode) =>
      if !mode.search then .error .denied
      else if nameLimit < part.utf8ByteSize then .error .tooLong
      else follow t (if part = ".." then place.dropLast else place ++ [part]) rest

def startOf (t : FileTree) (p : Path) : Place :=
  if p.isAbsolute then [] else t.workingDirectory

/-- The place that a path leads to. -/
def locate (t : FileTree) (p : Path) : Except Block Place :=
  if pathLimit < p.toString.utf8ByteSize then .error .tooLong
  else t.follow (t.startOf p) p.parts

def Block.fault (path : String) : Block → FileFault
  | .missing => .missing path
  | .notDirectory => .notDirectory path
  | .denied => .denied path
  | .tooLong => .tooLong path

/-- That nothing is there is no failure of looking it up. -/
def look (t : FileTree) (p : Path) : Except FileFault (Option Entry) :=
  match t.locate p with
  | .ok place => .ok (t.entryAt? place)
  | .error .missing | .error .notDirectory => .ok none
  | .error block => .error (block.fault p.toString)

def find? (t : FileTree) (p : Path) : Option Entry :=
  match t.locate p with
  | .ok place => t.entryAt? place
  | .error _ => none

def isDirectory (t : FileTree) (p : Path) : Bool :=
  (t.find? p).any (·.kind = .directory)

def exists? (t : FileTree) (p : Path) : Bool :=
  (t.find? p).isSome

/-- The bytes of a file. -/
def read (t : FileTree) (p : Path) : Except FileFault (List UInt8) :=
  match t.locate p with
  | .error block => .error (block.fault p.toString)
  | .ok place =>
    match t.entryAt? place with
    | none => .error (.missing p.toString)
    | some (.directory mode) =>
      .error (if mode.read then .isDirectory p.toString else .denied p.toString)
    | some (.file bytes mode) => if mode.read then .ok bytes else .error (.denied p.toString)

def readText (t : FileTree) (p : Path) : Except FileFault (List Char) :=
  (t.read p).map fun bytes => Utf8.unifyLineEnds (Utf8.replacing bytes)

/-- Puts an entry at a place. -/
def put (t : FileTree) (place : Place) (e : Entry) : FileTree :=
  { t with entries := t.entries.filter (·.1 ≠ place) ++ [(place, e)] }

/-- Puts an entry where nothing is, into the directory above. -/
def add (t : FileTree) (p : Path) (place : Place) (e : Entry) : Except FileFault FileTree :=
  match t.entryAt? place.dropLast with
  | some (.directory mode) =>
    if mode.write then .ok (t.put place e) else .error (.denied p.toString)
  | some (.file ..) => .error (.notDirectory p.toString)
  | none => .error (.missing p.toString)

/-- Writes a file, which keeps its mode if it is there. -/
def write (t : FileTree) (p : Path) (bytes : List UInt8) : Except FileFault FileTree :=
  match t.locate p with
  | .error block => .error (block.fault p.toString)
  | .ok place =>
    match t.entryAt? place with
    | some (.directory _) => .error (.isDirectory p.toString)
    | some (.file _ mode) =>
      if mode.write then .ok (t.put place (.file bytes mode)) else .error (.denied p.toString)
    | none => t.add p place (.file bytes .full)

def writeText (t : FileTree) (p : Path) (text : List Char) : Except FileFault FileTree :=
  t.write p (Utf8.encode text)

/-- Makes one directory below another. -/
def makeDirectory (t : FileTree) (p : Path) : Except FileFault FileTree :=
  match t.locate p with
  | .error block => .error (block.fault p.toString)
  | .ok place =>
    match t.entryAt? place with
    | some _ => .error (.present p.toString)
    | none => t.add p place (.directory .full)

/-- Makes a directory unless it is there. -/
def ensureDirectory (t : FileTree) (p : Path) : FileTree × Option FileFault :=
  match t.makeDirectory p with
  | .ok t => (t, none)
  | .error fault => (t, if t.isDirectory p then none else some fault)

/-- Makes a directory, given by its parts with the last one first, and those above it where they
are missing. What was made before a failure stays. -/
def ensureFrom (anchor : Anchor) (t : FileTree) : List String → FileTree × Option FileFault
  | [] => t.ensureDirectory ⟨anchor, []⟩
  | part :: above =>
    let p : Path := ⟨anchor, (part :: above).reverse⟩
    match t.makeDirectory p with
    | .error (.missing _) =>
      match ensureFrom anchor t above with
      | (t, none) => t.ensureDirectory p
      | (t, some fault) => (t, some fault)
    | _ => t.ensureDirectory p

def ensureDirectories (t : FileTree) (p : Path) : FileTree × Option FileFault :=
  t.ensureFrom p.anchor p.parts.reverse

/-- Takes away what is at a place and below it. -/
def remove (t : FileTree) (place : Place) : FileTree :=
  { t with entries := t.entries.filter fun e => !place.isPrefixOf e.1 }

/-- Takes away what a path leads to. -/
def delete (t : FileTree) (p : Path) : Except FileFault FileTree :=
  match t.locate p with
  | .error block => .error (block.fault p.toString)
  | .ok place =>
    if (t.entryAt? place).isSome then .ok (t.remove place) else .error (.missing p.toString)

/-- The names that lead from a place to what is below it. -/
def namesBelow (t : FileTree) (place : Place) : List (List String) :=
  (t.entries.filterMap fun (p, _) => place.isPrefixOf? p).filter (· ≠ [])

/-- Whether the names from a place on lead by way of directories that can be listed. To go on from
one, it has to be searched too. -/
def opens (t : FileTree) (place : Place) (names : List String) : Bool :=
  match t.entryAt? place, names with
  | some (.directory mode), [] => mode.read
  | some (.directory mode), name :: rest =>
    mode.read && mode.search && opens t (place ++ [name]) rest
  | _, _ => false

/-- The names that are met below a place. What stands in a directory that cannot be listed is passed
over in silence. -/
def namesMet (t : FileTree) (place : Place) : List (List String) :=
  (t.namesBelow place).filter fun names => t.opens place names.dropLast

/-- Lists what is below a path. Every directory that is met is opened by its own path, which must
not be too long. -/
def list (t : FileTree) (p : Path) : Except FileFault (List (List String)) :=
  match t.locate p with
  | .error block => .error (block.fault p.toString)
  | .ok place =>
    let met := t.namesMet place
    let opened := met.filter fun names =>
      (t.entryAt? (place ++ names)).any (·.kind = .directory)
    match opened.find? fun names => pathLimit < (p.below names).toString.utf8ByteSize with
    | some names => .error (.tooLong (p.below names).toString)
    | none => .ok met

/-- The files of a tree. Without links a path is resolved by its parts alone. -/
def files (t : FileTree) : Files :=
  { resolve := fun p => .ok (p.resolve t.workingDirectory).toString
    look := fun p => (t.look p).map fun e => e.map Entry.kind
    readText := t.readText
    list := t.list }

end FileTree

end TypeLineage
