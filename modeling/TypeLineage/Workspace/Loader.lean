import TypeLineage.Graph.Depths
import TypeLineage.Graph.Flatten
import TypeLineage.Hierarchy.Link
import TypeLineage.Workspace.Sources

/-!
Loading the types of a workspace. Generated declarations come first; without them every `define`
call gives a root. What was loaded is remembered by what the path of the workspace is resolved to.
-/

namespace TypeLineage

/-- The outcome of an attempt, with what was told on the way. -/
structure Outcome (α : Type) where
  notices : List Notice
  result : Except FileFault α

namespace Workspace

/-- The types of parsed declarations and what is told about linking them. -/
def linkNotices (ds : List Declaration) (r : Rooted) : List Notice :=
  let reachable := (r.hierarchy.reachable r.roots).length
  ((Hierarchy.danglings ds).map fun (name, parent) => .dangling name parent) ++
    [.linked ds.length r.roots.length, .reached ds.length reachable r.roots.length] ++
    (if reachable < ds.length then [.outOfReach (ds.length - reachable)] else [])

/-- Reads and links the types of a workspace from its files. -/
def readTypes (files : Files) (suffix : String) (workspace : Path) : Outcome Rooted :=
  let file := declarationsPath workspace
  match files.look file with
  | .error fault => ⟨[], .error fault⟩
  | .ok (some .file) =>
    match files.readText file with
    | .error fault => ⟨[.declarationsFound file.toString], .error fault⟩
    | .ok text =>
      let ds := Declaration.parse text file.toString
      let r := Hierarchy.link ds (some file.toString) suffix
      ⟨.declarationsFound file.toString :: parseNotices text file.toString ++ linkNotices ds r,
        .ok r⟩
  | .ok _ =>
    let directory := sourceDirectory workspace
    ⟨.declarationsMissing file.toString :: scanNotices files sourceExtensions directory,
      (directoryCalls files sourceExtensions directory).map Hierarchy.unlinked⟩

end Workspace

/-- A suffix that marks roots, and the types of the workspaces loaded so far. -/
structure Loader where
  suffix : String
  cache : List (String × Rooted)

namespace Loader

def remembered? (l : Loader) (key : String) : Option Rooted :=
  (l.cache.find? (·.1 = key)).map (·.2)

def remember (l : Loader) (key : String) (r : Rooted) : Loader :=
  { l with cache := (key, r) :: l.cache }

/-- The types of a workspace and the loader afterwards. Nothing is remembered of a failure. -/
def load (l : Loader) (files : Files) (workspace : Path) : Outcome Rooted × Loader :=
  match files.resolve workspace with
  | .error fault => (⟨[], .error fault⟩, l)
  | .ok key =>
    match l.remembered? key with
    | some r => (⟨[.remembered key], .ok r⟩, l)
    | none =>
      let read := Workspace.readTypes files l.suffix workspace
      match read.result with
      | .error _ => (read, l)
      | .ok r => (read, l.remember key r)

def clear (l : Loader) : Loader :=
  { l with cache := [] }

end Loader

structure GraphStats where
  types : Nat
  relationships : Nat
  properties : Nat
  deepest : Int
  deriving DecidableEq, Repr

def Graph.stats (g : Graph) : GraphStats :=
  { types := g.nodes.length
    relationships := g.links.length
    properties := g.propertyCount
    deepest := g.depthStats.deepest }

/-- Holds what was loaded last for one user. -/
structure Provider where
  loader : Loader
  roots : Rooted
  graph : Option Graph

namespace Provider

def noTypes : Rooted :=
  Hierarchy.unlinked []

def new (suffix : String) : Provider :=
  ⟨⟨suffix, []⟩, noTypes, none⟩

/-- The graph of a workspace and the provider afterwards. After a failure it holds what it held. -/
def load (p : Provider) (files : Files) (workspace : Path) : Outcome Graph × Provider :=
  let (read, loader) := p.loader.load files workspace
  let start := Notice.loading workspace.toString
  match read.result with
  | .error fault => (⟨start :: read.notices, .error fault⟩, { p with loader := loader })
  | .ok r =>
    let g := Graph.ofHierarchy r true
    (⟨start :: read.notices ++ [.converted r.roots.length g.nodes.length g.links.length], .ok g⟩,
      ⟨loader, r, some g⟩)

def clear (p : Provider) : Provider :=
  ⟨p.loader.clear, noTypes, none⟩

def stats? (p : Provider) : Option GraphStats :=
  p.graph.map Graph.stats

end Provider

end TypeLineage
