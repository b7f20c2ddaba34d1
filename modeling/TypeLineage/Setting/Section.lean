import TypeLineage.Setting.Basic

/-!
The table of the settings in a file. It can also be given as a list of pairs, whose keys need not be
text; then numbers and truth values that are equal are one key.
-/

namespace TypeLineage.Setting

/-- Why what is given as the settings is no table. -/
inductive SectionFault where
  /-- A value that has no items. -/
  | notIterable (v : Value)
  /-- An item that is not a sequence. -/
  | notSequence (index : Nat)
  /-- An item that is not a pair. -/
  | notPair (index length : Nat)
  /-- A pair whose first part, of a kind, cannot be a key. -/
  | notKey (kind : String)

def SectionFault.message : SectionFault → String
  | .notIterable v => "'" ++ v.kindWord ++ "' object is not iterable"
  | .notSequence index =>
    "cannot convert dictionary update sequence element #" ++ toString index ++ " to a sequence"
  | .notPair index length =>
    "dictionary update sequence element #" ++ toString index ++ " has length " ++ toString length ++
      "; 2 is required"
  | .notKey kind => "unhashable type: '" ++ kind ++ "'"

/-- Settings by key, in order. -/
abbrev Section := List (Value × Value)

namespace Section

def ofTable (t : Table) : Section :=
  t.map fun (k, v) => (.text k, v)

/-- The integer that a number or truth value is equal to. -/
def whole? : Value → Option Int
  | .flag b => some (if b then 1 else 0)
  | .integer n => some n
  | .real x => x.whole?
  | _ => none

/-- Whether two values are one key. `nan` differs from itself. -/
def sameKey : Value → Value → Bool
  | .text s, .text t => s = t
  | .moment m, .moment n => m.kind = n.kind && m.point = n.point
  | .real x, .real y => (x = y && x ≠ .nan) || ((x.whole?).isSome && x.whole? = y.whole?)
  | v, w => (whole? v).isSome && whole? v = whole? w

/-- Replaces the value of a key in place, or appends. -/
def put (k v : Value) : Section → Section
  | [] => [(k, v)]
  | (l, w) :: rest => if sameKey l k then (l, v) :: rest else (l, w) :: put k v rest

section Reading

variable (inlineKind : String)

/-- A pair whose first part can be a key. Tables in a list have a kind of their own. -/
def keyed (k v : Value) : Except SectionFault (Value × Value) :=
  match k with
  | .list _ => .error (.notKey "list")
  | .table _ => .error (.notKey inlineKind)
  | _ => .ok (k, v)

/-- The pair that an item of a list stands for: a list of two, a table of two keys or a text of two
characters. -/
def pair (index : Nat) : Value → Except SectionFault (Value × Value)
  | .list [k, v] => keyed inlineKind k v
  | .list items => .error (.notPair index items.length)
  | .table [(a, _), (b, _)] => .ok (.text a, .text b)
  | .table entries => .error (.notPair index entries.length)
  | .text s =>
    match s.toList with
    | [a, b] => .ok (.text (String.singleton a), .text (String.singleton b))
    | cs => .error (.notPair index cs.length)
  | _ => .error (.notSequence index)

/-- Writes the pairs of a list, the first of which has an index, in order. -/
def ofPairs (index : Nat) (read : Section) : List Value → Except SectionFault Section
  | [] => .ok read
  | item :: rest => do
    let (k, v) ← pair inlineKind index item
    ofPairs (index + 1) (read.put k v) rest

/-- The settings in a value. A value that is no table is taken apart into pairs as far as it can
be. -/
def ofValue : Option Value → Except SectionFault Section
  | none => .ok []
  | some (.table entries) => .ok (ofTable entries)
  | some (.list items) => ofPairs inlineKind 0 [] items
  | some (.text s) => if s.isEmpty then .ok [] else .error (.notPair 0 1)
  | some v => .error (.notIterable v)

end Reading

/-- The section as a table, if all its keys are text. -/
def table? (s : Section) : Option Table :=
  s.mapM fun (k, v) =>
    match k with
    | .text k => some (k, v)
    | _ => none

end Section

/-- The section after writing validated values. -/
def change (s : Section) : List (String × Value) → Except Fault Section
  | [] => .ok s
  | (k, v) :: rest => do
    let v ← validate k v
    change (s.put (.text k) v) rest

end TypeLineage.Setting
