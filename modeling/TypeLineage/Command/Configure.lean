import TypeLineage.Command.Report

/-!
Commands that show and change the settings.
-/

namespace TypeLineage.Command

open Console

section Shown

variable (escape : List Char → List Char)

/-- What is told about entries of the settings file that are passed over. -/
def ignoredNotices (file : Path) (ignored : List (String × Value)) : List Output :=
  ignored.map fun (key, v) => .notice (.ignored key v file.toString)

/-- A value of the settings as styled text. -/
def valueCell (v : Option Value) : List Char :=
  escape ((v.getD .null).display)

def settingsTable (current : Table) : Console.Table :=
  { title := "Graph settings".toList
    columns := [⟨"Setting".toList, false⟩, ⟨"Value".toList, false⟩, ⟨"Default".toList, false⟩]
    rows := Setting.all.map fun s =>
      [s.name.toList, valueCell escape (Table.lookup? s.name current),
        valueCell escape (some s.default)] }

def fileLine (t : FileTree) (file : Path) : Output :=
  let state := if t.exists? file then "" else " (not created yet)"
  .styled ("[dim]Config file: ".toList ++ escape file.toString.toList ++ state.toList ++
    "[/dim]".toList)

def setLine (key : String) (v : Option Value) : Output :=
  .styled ("[green]✓[/green] ".toList ++ key.toList ++ " = ".toList ++ valueCell escape v)

end Shown

section Settings

variable (format : Setting.ConfigFormat) (escape : List Char → List Char)

/-- Shows the settings in force beside their defaults. -/
def listSettings (t : FileTree) (file : Path) : Report :=
  let loaded := Setting.load format t file
  let notices := ignoredNotices file loaded.ignored
  match loaded.settings with
  | .error fault => ⟨t, notices, .settings fault⟩
  | .ok current =>
    ⟨t, notices ++ [.table (settingsTable escape current), fileLine escape t file], .done⟩

/-- Whether a fault of the settings is a mistake in a value, and so one of the arguments. -/
def isMistake : Setting.StoreFault → Bool
  | .setting .tooLarge => false
  | .setting _ | .encoding _ | .pairs (.notPair ..) => true
  | .format (.malformed _) | .format (.mistaken _) => true
  | _ => false

def settingsEnding (fault : Setting.StoreFault) : Ending :=
  match fault with
  | .file fault => .file fault
  | fault => if isMistake fault then .usage (.badValue none fault.message) else .settings fault

/-- Changes one setting. -/
def setSetting (t : FileTree) (file : Path) (key value : String) : Report :=
  let saved := Setting.save format t file [(key, .text value)]
  match saved.result with
  | .error fault => ⟨saved.files, [], settingsEnding fault⟩
  | .ok () =>
    let loaded := Setting.load format saved.files file
    let notices := ignoredNotices file loaded.ignored
    match loaded.settings with
    | .error fault => ⟨saved.files, notices, settingsEnding fault⟩
    | .ok current =>
      ⟨saved.files, notices ++ [setLine escape key (Table.lookup? key current)], .done⟩

/-- Takes all settings back to their defaults. -/
def resetSettings (t : FileTree) (file : Path) : Report :=
  let saved := Setting.reset format t file
  match saved.result with
  | .error (.file fault) => ⟨saved.files, [], .file fault⟩
  | .error fault => ⟨saved.files, [], .settings fault⟩
  | .ok () =>
    ⟨saved.files, [.styled "[green]✓[/green] Graph settings reset to defaults.".toList], .done⟩

end Settings

end TypeLineage.Command
