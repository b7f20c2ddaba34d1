import TypeLineage.Number.Notation
import TypeLineage.Terminal.Emoji

/-!
Styled text. A tag in square brackets, such as `[dim]`, opens a style and `[/dim]` closes it;
backslashes before a bracket keep a tag from being one. Plain output only drops the tags. Between
tags, the short names of emoji stand for them.
-/

namespace TypeLineage.Markup

/-- The first character of a tag. -/
def isTagStart (c : Char) : Bool :=
  c.isLower || c == '#' || c == '/' || c == '@'

/-- The text up to the next closing bracket, if no opening one comes first, and what is left. -/
def upToBracket? (read : List Char) : List Char → Option (List Char × List Char)
  | [] => none
  | c :: rest =>
    if c = ']' then some (read.reverse, rest)
    else if c = '[' then none
    else upToBracket? (c :: read) rest

/-- Reads what follows an opening bracket as a tag. -/
def tag? : List Char → Option (List Char × List Char)
  | [] => none
  | c :: rest => if isTagStart c then upToBracket? [c] rest else none

/-- Escapes tags after a run of backslashes: the run is doubled and one more backslash added. -/
def escapeFrom : (run : Nat) → List Char → List Char
  | _, [] => []
  | run, c :: rest =>
    if c = '\\' then '\\' :: escapeFrom (run + 1) rest
    else if c = '[' ∧ (tag? rest).isSome then
      List.replicate (run + 1) '\\' ++ '[' :: escapeFrom 0 rest
    else c :: escapeFrom 0 rest

/-- Makes a text safe inside styled text. One backslash alone at the end is doubled. -/
def escape (s : List Char) : List Char :=
  let s := escapeFrom 0 s
  match s.reverse with
  | '\\' :: '\\' :: _ => s
  | '\\' :: _ => s ++ ['\\']
  | _ => s

inductive Fault where
  | unmatched (tag : String) (position : Nat)
  | nothingToClose (position : Nat)
  deriving DecidableEq, Repr

def Fault.message : Fault → String
  | .unmatched tag position =>
    s!"closing tag '[{tag}]' at position {position} doesn't match any open tag"
  | .nothingToClose position => s!"closing tag '[/]' at position {position} has nothing to close"

/-- A piece of styled text, with its offset. -/
inductive Piece where
  | plain (text : List Char)
  | tag (position : Nat) (text : List Char)

/-- Text without a backslash before an opening bracket. -/
def unescape : List Char → List Char
  | [] => []
  | '\\' :: '[' :: rest => '[' :: unescape rest
  | c :: rest => c :: unescape rest

/-- Cuts styled text into pieces. `text` is what was read since the last tag, without the `run` of
backslashes after it, latest first; `skip` characters belong to a tag that was read already. -/
def piecesFrom : (offset run skip : Nat) → (text : List Char) → List Char → List Piece
  | _, run, _, text, [] => [.plain (text.reverse ++ List.replicate run '\\')]
  | offset, run, skip + 1, text, _ :: rest => piecesFrom (offset + 1) run skip text rest
  | offset, run, 0, text, c :: rest =>
    if c = '\\' then piecesFrom (offset + 1) (run + 1) 0 text rest
    else if c = '[' then
      match tag? rest with
      | some (name, _) =>
        let kept := List.replicate (run / 2) '\\'
        if run % 2 = 1 then
          .plain text.reverse :: .plain kept :: .plain ('[' :: name ++ [']']) ::
            piecesFrom (offset + 1) 0 (name.length + 1) [] rest
        else
          .plain text.reverse :: .plain kept :: .tag (offset - run + 2 * (run / 2)) name ::
            piecesFrom (offset + 1) 0 (name.length + 1) [] rest
      | none => piecesFrom (offset + 1) 0 0 ('[' :: (List.replicate run '\\' ++ text)) rest
    else piecesFrom (offset + 1) 0 0 (c :: (List.replicate run '\\' ++ text)) rest

/-- Closes the latest open style of a name. -/
def close? (style : List Char) : List (List Char) → Option (List (List Char))
  | [] => none
  | s :: rest => if s = style then some rest else (close? style rest).map (s :: ·)

/-- The plain text of pieces, given the open styles, latest first. -/
def plainFrom (opened : List (List Char)) (done : List Char) : List Piece → Except Fault (List Char)
  | [] => .ok done
  | .plain text :: rest => plainFrom opened (done ++ Emoji.replace (unescape text)) rest
  | .tag position ('/' :: name) :: rest =>
    let style := Text.trim name
    if style.isEmpty then
      match opened with
      | [] => .error (.nothingToClose position)
      | _ :: opened => plainFrom opened done rest
    else
      match close? style opened with
      | none => .error (.unmatched (String.ofList ('/' :: name)) position)
      | some opened => plainFrom opened done rest
  | .tag _ style :: rest => plainFrom (style :: opened) done rest

/-- Bell, backspace, vertical tab, form feed and carriage return are not printed. -/
def isPrinted (c : Char) : Bool :=
  c.toNat ≠ 7 && c.toNat ≠ 8 && c.toNat ≠ 11 && c.toNat ≠ 12 && c.toNat ≠ 13

/-- The text that is left when tags are dropped and emoji are put in. -/
def plain (s : List Char) : Except Fault (List Char) :=
  if s.contains '[' then (plainFrom [] [] (piecesFrom 0 0 0 [] s)).map (·.filter isPrinted)
  else .ok ((Emoji.replace s).filter isPrinted)

end TypeLineage.Markup
