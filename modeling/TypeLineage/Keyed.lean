/-!
Lists whose entries carry a key. Writing an entry whose key is present keeps the old position.
-/

namespace TypeLineage.Keyed

variable {α : Type}

/-- Replaces the entry of the same key in place, or appends. -/
def put (key : α → String) (x : α) : List α → List α
  | [] => [x]
  | y :: rest => if key y = key x then x :: rest else y :: put key x rest

/-- Writes all entries in order. -/
def ofList (key : α → String) (xs : List α) : List α :=
  xs.foldl (fun table x => put key x table) []

/-- Appends the entry unless its key is present. -/
def putNew (key : α → String) (x : α) (table : List α) : List α :=
  if table.any (key · = key x) then table else table ++ [x]

/-- Keeps the first entry of each key. -/
def firsts (key : α → String) (xs : List α) : List α :=
  xs.foldl (fun table x => putNew key x table) []

def get? (key : α → String) (k : String) (table : List α) : Option α :=
  table.find? (key · = k)

end TypeLineage.Keyed
