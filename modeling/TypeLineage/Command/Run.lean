import TypeLineage.Command.Configure
import TypeLineage.Command.Export
import TypeLineage.Command.Watch

/-!
One run of the tool: the settings are read, then the arguments, then the command does its work.
-/

namespace TypeLineage.Command

open Console

def versionLine : List Char :=
  "TypeGraph CLI v0.1.0".toList

def helpLines : List String :=
  ["Usage: tg [OPTIONS] COMMAND [ARGS]...",
   "",
   "  show [WORKSPACE]      Show the type hierarchy as a tree.",
   "  stats [WORKSPACE]     Summarise the converted graph: counts and depth distribution.",
   "  parse FILE            Print the declaration records found in FILE as JSON.",
   "  export [WORKSPACE]    Export the type graph to JSON, Graphviz DOT or HTML.",
   "  watch [WORKSPACE]     Reload the type graph on file changes.",
   "  config show           Show the effective graph settings.",
   "  config set KEY VALUE  Change one graph setting.",
   "  config reset          Restore default graph settings."]

/-- The settings file below the directory of the tool. -/
def configFile (home : Path) : Path :=
  home.below ["config.toml"]

section Run

variable (format : Setting.ConfigFormat) (escape : List Char → List Char)

/-- Does what is asked for. -/
def Request.run (settings : Settings) (t : FileTree) (file : Path) : Request → Report
  | .version => ⟨t, [.plain versionLine], .done⟩
  | .help => ⟨t, helpLines.map fun line => .plain line.toList, .done⟩
  | .outline workspace fields suffix => Command.outline escape settings t workspace fields suffix
  | .statistics workspace suffix => Command.statistics escape settings t workspace suffix
  | .declarations file => Command.declarations escape t file
  | .exportGraph r => Command.exportGraph escape settings t r
  | .watch workspace interval output => Command.watch escape settings t workspace interval output
  | .listSettings => Command.listSettings format escape t file
  | .setSetting key value => Command.setSetting format escape t file key value
  | .resetSettings => Command.resetSettings format t file

/-- One run with arguments. Settings that cannot be read end it before anything else. -/
def run (t : FileTree) (home : Path) (arguments : List String) : Report :=
  let file := configFile home
  match (Setting.load format t file).settings with
  | .error (.file fault) => ⟨t, [], .file fault⟩
  | .error fault => ⟨t, [], .settings fault⟩
  | .ok table =>
    match Request.ofArguments t arguments with
    | .error u => ⟨t, [], .usage u⟩
    | .ok request => request.run format escape (.ofTable table) t file

end Run

end TypeLineage.Command
