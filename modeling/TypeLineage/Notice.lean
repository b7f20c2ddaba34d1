import TypeLineage.Setting.Value

/-!
What the library tells about its work on the side.
-/

namespace TypeLineage

inductive Level where
  | debug
  | info
  | warning
  deriving DecidableEq, Repr

def Level.text : Level → String
  | .debug => "DEBUG"
  | .info => "INFO"
  | .warning => "WARNING"

inductive Notice where
  /-- A declaration whose braces never close. -/
  | unterminated (name : String) (line : Nat)
  | parsed (count : Nat) (file : String)
  /-- The calls found below a directory. -/
  | scanned (count : Nat) (directory : String)
  /-- A declaration whose parent is not declared. -/
  | dangling (name parent : String)
  | linked (count roots : Nat)
  | loading (workspace : String)
  | declarationsFound (file : String)
  | declarationsMissing (file : String)
  | reached (types reachable roots : Nat)
  | outOfReach (count : Nat)
  /-- A workspace whose types are known already. -/
  | remembered (key : String)
  | converted (roots nodes links : Nat)
  /-- A setting in the file that is passed over. -/
  | ignored (key : String) (value : Value) (file : String)

namespace Notice

def level : Notice → Level
  | .linked .. | .loading .. | .declarationsFound .. | .declarationsMissing .. | .reached ..
  | .converted .. => .info
  | .ignored .. => .warning
  | _ => .debug

def text : Notice → String
  | .unterminated name line =>
    "Dropping unterminated declaration '" ++ name ++ "' at line " ++ toString line
  | .parsed count file =>
    "Parsed " ++ toString count ++ " declarations from " ++ (if file = "" then "<text>" else file)
  | .scanned count directory =>
    "Found " ++ toString count ++ " define() calls under " ++ directory
  | .dangling name parent => "'" ++ name ++ "' extends unknown type '" ++ parent ++ "'; excluded"
  | .linked count roots =>
    "Linked " ++ toString count ++ " declarations into " ++ toString roots ++ " root types"
  | .loading workspace => "Loading graph from " ++ workspace
  | .declarationsFound file => "Found " ++ file ++ ", parsing..."
  | .declarationsMissing file => "No " ++ file ++ " found, scanning source files..."
  | .reached types reachable roots =>
    "Parsed " ++ toString types ++ " types from generated declarations, " ++ toString reachable ++
      " reachable from " ++ toString roots ++ " roots"
  | .outOfReach count =>
    toString count ++ " declarations are not under a root (suffix or parent mismatch)"
  | .remembered key => "Returning cached type graph for " ++ key
  | .converted roots nodes links =>
    "Converted " ++ toString roots ++ " root types into " ++ toString nodes ++ " nodes / " ++
      toString links ++ " links"
  | .ignored key value file =>
    "Ignoring invalid setting " ++ key ++ " = " ++ String.ofList value.display ++ " in " ++ file

end Notice

end TypeLineage
