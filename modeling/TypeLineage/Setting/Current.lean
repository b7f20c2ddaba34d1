import TypeLineage.Setting.Basic

/-!
The settings in force, each as what it holds.
-/

namespace TypeLineage

structure Settings where
  rootSuffix : String
  layout : String
  nodeSize : String
  showProperties : Bool
  autoRefresh : Bool
  watchDebounce : Binary64

namespace Setting

/-- The text that a setting has in a table. -/
def textIn (s : Setting) (t : Table) : String :=
  match Table.lookup? s.name t with
  | some (.text x) => x
  | _ => ""

/-- The truth value that a setting has in a table. -/
def flagIn (s : Setting) (t : Table) : Bool :=
  match Table.lookup? s.name t with
  | some (.flag b) => b
  | _ => false

/-- The number that a setting has in a table. -/
def numberIn (s : Setting) (t : Table) : Binary64 :=
  match Table.lookup? s.name t with
  | some (.real x) => x
  | _ => .nan

/-- What is given for one occasion, or what is set if nothing or the empty text is given. -/
def chosen (given : Option String) (set : String) : String :=
  (given.filter (· ≠ "")).getD set

end Setting

/-- The settings in a table of validated values that has them all. -/
def Settings.ofTable (t : Table) : Settings :=
  { rootSuffix := Setting.rootSuffix.textIn t
    layout := Setting.layout.textIn t
    nodeSize := Setting.nodeSize.textIn t
    showProperties := Setting.showProperties.flagIn t
    autoRefresh := Setting.autoRefresh.flagIn t
    watchDebounce := Setting.watchDebounce.numberIn t }

end TypeLineage
