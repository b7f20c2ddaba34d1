import TypeLineage.Keyed

/-!
What a declarations file says about a type: its name, the type it extends and its own fields.
-/

namespace TypeLineage

/-- A field holds plain data or offers the constructor of a subtype. -/
inductive FieldKind where
  | plain
  | slot
  deriving DecidableEq, Repr, Inhabited

structure Field where
  name : String
  type : String
  optional : Bool
  kind : FieldKind
  deriving DecidableEq, Repr, Inhabited

namespace Field

/-- Later fields override earlier ones of the same name and keep their place. -/
def merge (base own : List Field) : List Field :=
  own.foldl (fun fields f => Keyed.put Field.name f fields) base

end Field

structure Declaration where
  name : String
  parent : Option String
  fields : List Field
  line : Int
  file : String
  deriving DecidableEq, Repr, Inhabited

namespace Declaration

/-- The declarations of a file by name, in order of first mention. -/
def table (ds : List Declaration) : List Declaration :=
  Keyed.ofList Declaration.name ds

end Declaration

end TypeLineage
