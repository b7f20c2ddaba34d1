import TypeLineage.Toml.Basic
import TypeLineage.Toml.Fault

/-!
Places in a value, and the opening of tables by name. A step of a place leads to the value of a key
or to the last item of a list.
-/

namespace TypeLineage.Toml

open Text

inductive Step where
  | key (k : String)
  | last
  deriving DecidableEq, Repr

/-- The value at a place. -/
def valueAt? : List Step → Value → Option Value
  | [], v => some v
  | .key k :: steps, .table t => (Table.lookup? k t).bind (valueAt? steps)
  | .last :: steps, .list items => items.getLast?.bind (valueAt? steps)
  | _ :: _, _ => none

/-- Puts a value at a place that leads to another one. -/
def replaceAt (new : Value) : List Step → Value → Value
  | [], _ => new
  | .key k :: steps, .table t =>
    match Table.lookup? k t with
    | some v => .table (Table.store k (replaceAt new steps v) t)
    | none => .table t
  | .last :: steps, .list items =>
    match items.getLast? with
    | some v => .list (items.dropLast ++ [replaceAt new steps v])
    | none => .list items
  | _ :: _, v => v

/-- What was read so far: the whole table, the place of the table that is open, and the names that
were made on the way to others. -/
structure Opened where
  root : Value
  place : List Step
  implied : List String

namespace Opened

def current (o : Opened) : Value :=
  (valueAt? o.place o.root).getD .null

/-- Changes the open table. -/
def put (o : Opened) (v : Value) : Opened :=
  { o with root := replaceAt v o.place o.root }

def enter (o : Opened) (step : Step) : Opened :=
  { o with place := o.place ++ [step] }

/-- A new table, or an array of one table. -/
def fresh (array : Bool) : Value :=
  if array then .list [.table []] else .table []

/-- Opens a key that is there. At the end of a name it can only be one that was made on the way to
another, or an array that gets a further table. -/
def reopen (array final : Bool) (o : Opened) (t : Table) (k : String) (v : Value) :
    Except Fault Opened :=
  if !final then .ok (o.enter (.key k))
  else if o.implied.contains k then
    if array then .error .malformed
    else .ok ({ o with implied := o.implied.erase k }.enter (.key k))
  else
    match array, v with
    | false, _ => .error .malformed
    | true, .list items =>
      .ok ((o.put (.table (Table.store k (.list (items ++ [.table []])) t))).enter (.key k))
    | true, _ => .error .notAppendable

/-- Opens a key in the last item of a list. -/
def openInLast (array final : Bool) (o : Opened) (k : String) : Value → Except Fault Opened
  | .table t =>
    let t := if (Table.lookup? k t).isSome then t else Table.store k (fresh (array && final)) t
    .ok ((o.put (.table t)).enter (.key k))
  | .list _ => .error .keyInList
  | .text s => .error (if occursIn k.toList s.toList then .keyInText else .fixedText)
  | v => .error (.noKeys v.kindWord)

/-- Opens a key, which is made if it is not there. -/
def openKey (array final : Bool) (o : Opened) (k : String) : Except Fault Opened :=
  match o.current with
  | .table t =>
    match Table.lookup? k t with
    | some v => reopen array final o t k v
    | none =>
      let o := if final then o else { o with implied := o.implied ++ [k] }
      .ok ((o.put (.table (Table.store k (fresh (array && final)) t))).enter (.key k))
  | .list items =>
    match items.getLast? with
    | none => .error .listEnd
    | some v => openInLast array final (o.enter .last) k v
  | .text s =>
    match s.toList.getLast? with
    | none => .error .textEnd
    | some c => .error (if k.toList = [c] then .keyInText else .fixedText)
  | v => .error (.noItems v.kindWord)

/-- On the way of a name in double brackets, lists are entered at their last item. -/
def enterLast (o : Opened) : Except Fault Opened :=
  match o.current with
  | .table _ => .ok o
  | .list items => if items.isEmpty then .error .listEnd else .ok (o.enter .last)
  | .text s => if s.isEmpty then .error .textEnd else .ok o
  | v => .error (.noItems v.kindWord)

/-- Opens the parts of a name one after the other. -/
def openParts (array : Bool) : Opened → List String → Except Fault Opened
  | o, [] => .ok o
  | o, k :: ks => do
    if k.isEmpty then .error .malformed
    else
      let o ← openKey array ks.isEmpty o k
      let o ← if array then o.enterLast else .ok o
      openParts array o ks

/-- Opens the table, or a table of the array, of a name. -/
def openName (array : Bool) (o : Opened) (name : List String) : Except Fault Opened :=
  openParts array { o with place := [] } name

end Opened

end TypeLineage.Toml
