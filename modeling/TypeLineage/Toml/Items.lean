import TypeLineage.Toml.Basic
import TypeLineage.Toml.Fault

/-!
The items of an array as text: what stands between its commas, where commas in strings, in inline
tables and in inner arrays do not count.
-/

namespace TypeLineage.Toml

open Text

/-- An array that begins with a string, whatever it ends with. -/
def beginsWithString (s : List Char) : Bool :=
  (trim (inner s)).head?.any isQuote

/-! ### Inline tables -/

/-- Where a character stands between inline tables. -/
inductive BracePlace where
  | inside
  /-- Right behind a closing brace. -/
  | behind
  | between

structure BraceScan where
  place : BracePlace := .inside
  quoted : Bool := false
  depth : Nat
  /-- The table read so far, latest first. -/
  item : List Char

/-- A quote begins a string, and ends one unless an odd number of backslashes stands before it. -/
def BraceScan.quoteChar (b : BraceScan) (before : List Char) (c : Char) : BraceScan :=
  if isQuote c then
    { b with quoted := !b.quoted || (before.takeWhile (· = '\\')).length % 2 = 1 }
  else b

/-- The inline tables of an array, given what was read before them, latest first. -/
def braceItemsFrom (b : BraceScan) (before : List Char) : List Char → List (List Char)
  | [] => []
  | c :: rest =>
    match b.place with
    | .behind => braceItemsFrom { b with place := .between } (c :: before) rest
    | .between =>
      if c = '\x7b' then braceItemsFrom { b with place := .inside, item := [c] } (c :: before) rest
      else braceItemsFrom b (c :: before) rest
    | .inside =>
      let b := b.quoteChar before c
      let b := { b with item := c :: b.item }
      if b.quoted then braceItemsFrom b (c :: before) rest
      else if c = '\x7b' then braceItemsFrom { b with depth := b.depth + 1 } (c :: before) rest
      else if c ≠ '\x7d' then braceItemsFrom b (c :: before) rest
      else if 1 < b.depth then braceItemsFrom { b with depth := b.depth - 1 } (c :: before) rest
      else b.item.reverse :: braceItemsFrom { b with place := .behind } (c :: before) rest

/-- The inline tables of an array with its brackets. -/
def braceItems : List Char → List (List Char)
  | opening :: first :: rest =>
    braceItemsFrom ⟨.inside, false, if first = '\x7b' then 1 else 0, [first]⟩ [first, opening]
      rest.dropLast
  | _ => []

/-! ### Strings -/

/-- A text that ends with the character that it begins with, no odd number of backslashes before
it. -/
def isBounded (s : List Char) : Bool :=
  s.isEmpty || (s.getLast? = s.head? && !endsEscaped (inner s))

/-- A text that begins with three equal characters and does not end with them. -/
def isLeftOpen : List Char → Bool
  | a :: b :: c :: rest =>
    let back := (a :: b :: c :: rest).reverse
    a = b && b = c && back[1]? ≠ some a && back[2]? ≠ some a
  | _ => false

def isWholeItem (s : List Char) : Bool :=
  isBounded (trim s) && !isLeftOpen (trim s)

/-- Puts pieces together to whole strings. The last piece is taken as it is unless something was put
in front of it. -/
def stringItemsFrom (item : List Char) (joined : Bool) : List (List Char) →
    Except Fault (List (List Char))
  | [] => if joined && !isWholeItem item then .error .listEnd else .ok [item]
  | piece :: rest =>
    if isWholeItem item then (stringItemsFrom piece false rest).map (item :: ·)
    else stringItemsFrom (item ++ ',' :: piece) true rest

def stringItems : List (List Char) → Except Fault (List (List Char))
  | [] => .ok []
  | piece :: rest => stringItemsFrom piece false rest

/-! ### Arrays -/

/-- The items of an array of arrays, given how many are open; the item read so far is latest
first. -/
def nestedItemsFrom (depth : Int) (item : List Char) : List Char → List (List Char)
  | [] => [item.reverse]
  | c :: rest =>
    if c = '[' then nestedItemsFrom (depth + 1) (c :: item) rest
    else if c = ']' then nestedItemsFrom (depth - 1) (c :: item) rest
    else if c = ',' ∧ depth = 0 then item.reverse :: nestedItemsFrom 0 [] rest
    else nestedItemsFrom depth (c :: item) rest

/-- An array whose first item is an array. -/
def beginsWithArray (body : List Char) : Bool :=
  body.contains '[' && (trim (body.takeWhile (· ≠ '['))).isEmpty

/-- The items of an array with its brackets. Where it has inline tables, nothing else counts. -/
def items (s : List Char) : Except Fault (List (List Char)) :=
  let body := inner s
  if beginsWithArray body then .ok (nestedItemsFrom 0 [] body)
  else if (trim body).head? = some '\x7b' then .ok (braceItems s)
  else if beginsWithString s then stringItems (cut ',' body)
  else .ok (cut ',' body)

end TypeLineage.Toml
