import TypeLineage.Keyed
import TypeLineage.Number.Notation
import TypeLineage.Text.Quoted

/-!
Configuration values and how they are shown in messages.
-/

namespace TypeLineage

/-- A date, with a time of day or without. Dates of one kind that name the same point in time are
equal, whatever they look like. -/
structure Timestamp where
  kind : String
  point : String
  plain : List Char
  shown : List Char
  deriving DecidableEq, Repr

inductive Value where
  | null
  | flag (b : Bool)
  | integer (n : Int)
  | real (x : Binary64)
  | text (s : String)
  | moment (m : Timestamp)
  | list (items : List Value)
  | table (entries : List (String × Value))
  deriving Inhabited, Repr

/-- A table as a list of entries with distinct keys, in order. -/
abbrev Table := List (String × Value)

namespace Table

def lookup? (k : String) (t : Table) : Option Value :=
  (Keyed.get? Prod.fst k t).map Prod.snd

def store (k : String) (v : Value) (t : Table) : Table :=
  Keyed.put Prod.fst (k, v) t

end Table

namespace Value

open Text

def flagText (b : Bool) : List Char :=
  if b then "True".toList else "False".toList

def integerText (n : Int) : List Char :=
  Binary64.signText (n < 0) ++ Binary64.digits n.natAbs

mutual

/-- The value as it is written in messages: text in quotes, lists in square brackets and tables in
braces. -/
def display : Value → List Char
  | .null => "None".toList
  | .flag b => flagText b
  | .integer n => integerText n
  | .real x => x.text Binary64.shown
  | .text s => quoted s.toList
  | .moment m => m.shown
  | .list items => '[' :: displayItems items ++ [']']
  | .table entries => '\x7b' :: displayEntries entries ++ ['\x7d']

def displayItems : List Value → List Char
  | [] => []
  | [v] => display v
  | v :: rest => display v ++ ',' :: ' ' :: displayItems rest

def displayEntries : List (String × Value) → List Char
  | [] => []
  | [(k, v)] => quoted k.toList ++ ':' :: ' ' :: display v
  | (k, v) :: rest =>
    quoted k.toList ++ ':' :: ' ' :: display v ++ ',' :: ' ' :: displayEntries rest

end

/-- The word for the kind of a value in messages. -/
def kindWord : Value → String
  | .null => "NoneType"
  | .flag _ => "bool"
  | .integer _ => "int"
  | .real _ => "float"
  | .text _ => "str"
  | .moment m => m.kind
  | .list _ => "list"
  | .table _ => "dict"

/-- The value as plain text: text stands for itself. -/
def plain : Value → List Char
  | .text s => s.toList
  | .moment m => m.plain
  | v => display v

/-- The most digits of a decimal integer that is read or shown. -/
def mostDigits : Nat :=
  4300

/-- An integer of few enough digits. -/
def isShort (n : Int) : Bool :=
  n.natAbs < Nat.pow 10 mostDigits

mutual

/-- A value without integers that are too long to be shown. -/
def isShowable : Value → Bool
  | .integer n => isShort n
  | .list items => areShowable items
  | .table entries => haveShowable entries
  | _ => true

def areShowable : List Value → Bool
  | [] => true
  | v :: rest => isShowable v && areShowable rest

def haveShowable : List (String × Value) → Bool
  | [] => true
  | (_, v) :: rest => isShowable v && haveShowable rest

end

/-- What is told about an integer that is too long to be shown. -/
def tooLongMessage : String :=
  "Exceeds the limit (" ++ toString mostDigits ++ " digits) for integer string conversion; " ++
    "use sys.set_int_max_str_digits() to increase the limit"

end Value

end TypeLineage
