import TypeLineage.Number.Binary64
import TypeLineage.Path
import TypeLineage.Workspace.Sources

/-!
Collecting file changes until they have been quiet for a while. Every relevant change starts the
wait anew; a flush after the wait hands over all pending paths at once.
-/

namespace TypeLineage.Watch

/-- A change of a file or directory; a move has a destination. -/
structure Change where
  source : Option String
  destination : Option String
  isDirectory : Bool

/-- The paths of a change. Empty ones do not count. -/
def Change.paths (c : Change) : List Path :=
  if c.isDirectory then []
  else ([c.source, c.destination].filterMap fun s => s.filter (· ≠ "")).map Path.ofString

/-- Directories whose changes do not matter. The one of the generated declarations does. -/
def ignoredDirectories : List String :=
  Workspace.skippedDirectories.filter (· ≠ ".tactica")

/-- The wait is a number of seconds; times are what a clock shows. -/
structure Handler where
  root : Option Path
  wait : Binary64
  pending : List Path
  lastChange : Binary64

namespace Handler

def new (root : Option Path) (wait : Binary64) : Handler :=
  ⟨root, wait, [], .zero false⟩

/-- A source file below the root that is in no ignored directory. Only what leads to it from the
root is looked at. -/
def isRelevant (root : Option Path) (p : Path) : Bool :=
  if !Workspace.sourceExtensions.contains p.suffix then false
  else
    match root with
    | none => !p.names.any ignoredDirectories.contains
    | some base =>
      match p.relativeTo? base with
      | none => false
      | some names => !names.any ignoredDirectories.contains

/-- Notes one path at a time. -/
def note (h : Handler) (now : Binary64) (p : Path) : Handler :=
  if isRelevant h.root p then
    { h with pending := if p ∈ h.pending then h.pending else h.pending ++ [p], lastChange := now }
  else h

def dispatch (h : Handler) (now : Binary64) (c : Change) : Handler :=
  c.paths.foldl (fun h p => h.note now p) h

/-- The pending paths, if there are any and the time since the last change is not less than the
wait; they are pending no more then. -/
def flush (h : Handler) (now : Binary64) : Option (List Path) × Handler :=
  if h.pending.isEmpty || (now.sub h.lastChange).isLess h.wait then (none, h)
  else (some h.pending, { h with pending := [] })

end Handler

end TypeLineage.Watch
