import TypeLineage.Text.Quoted

/-!
Structured data as text, on one line or indented. All characters beyond ASCII are escaped as UTF-16
units.
-/

namespace TypeLineage

inductive Json where
  | null
  | bool (b : Bool)
  | number (n : Int)
  | string (s : String)
  | array (items : List Json)
  | object (entries : List (String × Json))

namespace Json

open Text

def unitEscape (unit : Nat) : List Char :=
  '\\' :: 'u' :: hexDigits 4 unit

/-- The escape of a character: one UTF-16 unit, or two for a character beyond the basic plane. -/
def unitsEscape (c : Char) : List Char :=
  let n := c.toNat
  if n < 0x10000 then unitEscape n
  else
    let n := n - 0x10000
    unitEscape (0xD800 + n / 0x400) ++ unitEscape (0xDC00 + n % 0x400)

def escapeChar (c : Char) : List Char :=
  if c = '"' ∨ c = '\\' then ['\\', c]
  else if c = '\n' then ['\\', 'n']
  else if c = '\r' then ['\\', 'r']
  else if c = '\t' then ['\\', 't']
  else if c.toNat = 8 then ['\\', 'b']
  else if c.toNat = 12 then ['\\', 'f']
  else if 32 ≤ c.toNat ∧ c.toNat < 127 then [c]
  else unitsEscape c

def stringText (s : String) : List Char :=
  '"' :: s.toList.flatMap escapeChar ++ ['"']

def boolText (b : Bool) : List Char :=
  if b then "true".toList else "false".toList

def numberText (n : Int) : List Char :=
  Binary64.signText (n < 0) ++ Binary64.digits n.natAbs

mutual

/-- The text on one line, with a blank after each comma and colon. -/
def compact : Json → List Char
  | .null => "null".toList
  | .bool b => boolText b
  | .number n => numberText n
  | .string s => stringText s
  | .array items => '[' :: compactItems items ++ [']']
  | .object entries => '\x7b' :: compactEntries entries ++ ['\x7d']

def compactItems : List Json → List Char
  | [] => []
  | [v] => compact v
  | v :: rest => compact v ++ ',' :: ' ' :: compactItems rest

def compactEntries : List (String × Json) → List Char
  | [] => []
  | [(k, v)] => stringText k ++ ':' :: ' ' :: compact v
  | (k, v) :: rest => stringText k ++ ':' :: ' ' :: compact v ++ ',' :: ' ' :: compactEntries rest

end

/-- A new line at an indentation level of two columns each. -/
def newline (level : Nat) : List Char :=
  '\n' :: List.replicate (2 * level) ' '

mutual

/-- The text with one item or entry a line. Empty arrays and objects stay closed. -/
def indented (level : Nat) : Json → List Char
  | .null => "null".toList
  | .bool b => boolText b
  | .number n => numberText n
  | .string s => stringText s
  | .array [] => "[]".toList
  | .array items =>
    '[' :: newline (level + 1) ++ indentedItems (level + 1) items ++ newline level ++ [']']
  | .object [] => ['\x7b', '\x7d']
  | .object entries =>
    '\x7b' :: newline (level + 1) ++ indentedEntries (level + 1) entries ++ newline level ++
      ['\x7d']

def indentedItems (level : Nat) : List Json → List Char
  | [] => []
  | [v] => indented level v
  | v :: rest => indented level v ++ ',' :: newline level ++ indentedItems level rest

def indentedEntries (level : Nat) : List (String × Json) → List Char
  | [] => []
  | [(k, v)] => stringText k ++ ':' :: ' ' :: indented level v
  | (k, v) :: rest =>
    stringText k ++ ':' :: ' ' :: indented level v ++ ',' :: newline level ++
      indentedEntries level rest

end

end Json

end TypeLineage
