import TypeLineage.Command.Inspect
import TypeLineage.Export.Format

/-!
The command that watches a workspace. It loads the types once and announces what it watches. The
last line of the announcement closes a style that none of its own text opens; a terminal that does
not print such a line ends the command there.
-/

namespace TypeLineage.Command

open Console

variable (escape : List Char → List Char)

/-- What is shown when the settings do not allow watching. -/
def refreshHint : List Output :=
  [.styled "[yellow]auto_refresh is disabled.[/yellow]".toList,
   .styled "[dim]Enable with: tg config set auto_refresh true[/dim]".toList]

def reloadedLine (name : String) (g : Graph) : Output :=
  .styled ("  [green]✓[/green] Reloaded (".toList ++ escape name.toList ++
    " changed): ".toList ++ Binary64.digits g.nodes.length ++ " types, ".toList ++
    Binary64.digits g.links.length ++ " links".toList)

def reloadFailedLine (fault : FileFault) : Output :=
  .styled ("  [red]✗[/red] Reload failed: ".toList ++ escape fault.message.toList)

def announcement (workspace : Path) (wait : Binary64) : List Output :=
  [.styled ("\n[bold green]👀 Watching[/bold green] [cyan]".toList ++
     escape workspace.toString.toList ++ "[/cyan] for changes...".toList),
   .styled ("[dim]  Debounce:  ".toList ++ wait.text Binary64.shown ++ ['s']),
   .styled "  Press Ctrl+C to stop[/dim]\n".toList]

/-- Loads the types of a workspace and exports them if an output is given. -/
def reload (settings : Settings) (t : FileTree) (workspace : Path) (output : Option Path) :
    Except FileFault (FileTree × Output) :=
  match loadTypes settings t workspace none with
  | .error (.circular path) => .error (.circular path)
  | .error fault => .ok (t, reloadFailedLine escape fault)
  | .ok (g, _) =>
    let line := reloadedLine escape workspace.name g
    match output with
    | none => .ok (t, line)
    | some p => (t.writeText p (g.jsonExport "")).map fun t => (t, line)

def watch (settings : Settings) (t : FileTree) (workspace : Path) (interval : Option Binary64)
    (output : Option Path) : Report :=
  if !settings.autoRefresh then ⟨t, refreshHint, .stopped⟩
  else
    let place := workspace.resolve t.workingDirectory
    match reload escape settings t place output with
    | .error fault => ⟨t, [], .file fault⟩
    | .ok (t, line) =>
      ⟨t, line :: announcement escape place (interval.getD settings.watchDebounce), .done⟩

end TypeLineage.Command
