import TypeLineage.Keyed
import TypeLineage.Setting.Value
import TypeLineage.Text.Blank

/-!
The settings of the tool: their names, defaults and permitted values. Values given as text are
turned into what the setting holds.
-/

namespace TypeLineage

inductive Setting where
  | rootSuffix
  | layout
  | nodeSize
  | showProperties
  | autoRefresh
  | watchDebounce
  deriving DecidableEq, Repr

namespace Setting

open Text

/-- All settings, in the order in which they are listed. -/
def all : List Setting :=
  [.rootSuffix, .layout, .nodeSize, .showProperties, .autoRefresh, .watchDebounce]

def name : Setting → String
  | .rootSuffix => "root_suffix"
  | .layout => "layout"
  | .nodeSize => "node_size"
  | .showProperties => "show_properties"
  | .autoRefresh => "auto_refresh"
  | .watchDebounce => "watch_debounce"

def ofName? (s : String) : Option Setting :=
  all.find? fun setting => setting.name = s

def default : Setting → Value
  | .rootSuffix => .text "Instance"
  | .layout => .text "force"
  | .nodeSize => .text "propertyCount"
  | .showProperties => .flag true
  | .autoRefresh => .flag true
  | .watchDebounce => .real (.ofInt 1)

/-- Every setting with its default. -/
def defaults : Table :=
  all.map fun s => (s.name, s.default)

def layouts : List String :=
  ["force", "tree", "cluster"]

def nodeSizes : List String :=
  ["propertyCount", "uniform"]

/-- Why a value is refused. All but a number out of range are mistakes in the settings file or on
the command line that can be passed over. -/
inductive Fault where
  | unknown (key : String)
  | notBoolean (key : String) (given : List Char)
  | notNumber (key : String) (given : List Char)
  | negative (key : String)
  | notLayout
  | notNodeSize
  | tooLong
  | tooLarge
  deriving DecidableEq, Repr

def Fault.message : Fault → String
  | .unknown key =>
    "Unknown setting '" ++ key ++ "'. Valid: " ++ ", ".intercalate (all.map name)
  | .notBoolean key given =>
    "'" ++ key ++ "' expects a boolean, got '" ++ String.ofList given ++ "'"
  | .notNumber key given =>
    "'" ++ key ++ "' expects a number of seconds, got '" ++ String.ofList given ++ "'"
  | .negative key => "'" ++ key ++ "' must not be negative"
  | .notLayout => "layout must be one of: " ++ ", ".intercalate layouts
  | .notNodeSize => "node_size must be one of: " ++ ", ".intercalate nodeSizes
  | .tooLong => Value.tooLongMessage
  | .tooLarge => "int too large to convert to float"

/-- The plain text of a value that can be shown. -/
def plainText (v : Value) : Except Fault (List Char) :=
  if v.isShowable then .ok v.plain else .error .tooLong

/-- The truth value that a word stands for, in any case and with blanks around it. -/
def boolean? (text : List Char) : Option Bool :=
  let word := String.ofList ((trim text).map Char.toLower)
  if ["1", "true", "yes", "on"].contains word then some true
  else if ["0", "false", "no", "off"].contains word then some false
  else none

def validateBoolean (key : String) : Value → Except Fault Value
  | .flag b => .ok (.flag b)
  | v => do
    let text ← plainText v
    match boolean? text with
    | some b => .ok (.flag b)
    | none => .error (.notBoolean key text)

/-- The number of seconds that a value stands for. -/
def seconds (key : String) : Value → Except Fault Binary64
  | .flag b => .ok (.ofInt (if b then 1 else 0))
  | .integer n =>
    match Binary64.ofInt n with
    | .infinite _ => .error .tooLarge
    | x => .ok x
  | .real x => .ok x
  | .text s =>
    match Binary64.ofText? s.toList with
    | some x => .ok x
    | none => .error (.notNumber key s.toList)
  | v => do .error (.notNumber key (← plainText v))

def validateSeconds (key : String) (v : Value) : Except Fault Value := do
  let x ← seconds key v
  if x.isNegative then .error (.negative key) else .ok (.real x)

def validateChoice (choices : List String) (fault : Fault) : Value → Except Fault Value
  | .text s => if choices.contains s then .ok (.text s) else .error fault
  | _ => .error fault

/-- The value that a setting takes. -/
def accept (s : Setting) (v : Value) : Except Fault Value :=
  match s with
  | .rootSuffix => (plainText v).map fun text => .text (String.ofList (trim text))
  | .layout => validateChoice layouts .notLayout v
  | .nodeSize => validateChoice nodeSizes .notNodeSize v
  | .showProperties | .autoRefresh => validateBoolean s.name v
  | .watchDebounce => validateSeconds s.name v

/-- The value that the setting of a name takes. -/
def validate (key : String) (v : Value) : Except Fault Value :=
  match ofName? key with
  | none => .error (.unknown key)
  | some s => s.accept v

end Setting

end TypeLineage
