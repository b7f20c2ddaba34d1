/-!
Balanced braces. The first opening brace of a text is paired with the closing brace that brings
the count of open braces back to zero.
-/

namespace TypeLineage.Braces

/-- The offset at which `depth` open braces are all closed. -/
def closing? (depth offset : Nat) : List Char → Option Nat
  | [] => none
  | c :: rest =>
    if c = '{' then closing? (depth + 1) (offset + 1) rest
    else if c = '}' then
      if depth ≤ 1 then some offset else closing? (depth - 1) (offset + 1) rest
    else closing? depth (offset + 1) rest

/-- The offsets of the first opening brace and of the brace that closes it. -/
def spanFrom? (offset : Nat) : List Char → Option (Nat × Nat)
  | [] => none
  | c :: rest =>
    if c = '{' then (closing? 1 (offset + 1) rest).map (offset, ·)
    else spanFrom? (offset + 1) rest

def span? (text : List Char) : Option (Nat × Nat) :=
  spanFrom? 0 text

/-- The span at or after an offset. -/
def spanAt? (text : List Char) (start : Nat) : Option (Nat × Nat) :=
  spanFrom? start (text.drop start)

/-- The text between the braces of the first span. -/
def interior? (text : List Char) : Option (List Char) :=
  (span? text).map fun (first, last) => (text.take last).drop (first + 1)

end TypeLineage.Braces
