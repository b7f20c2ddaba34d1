/-!
Control sequences of a terminal: an escape character, an opening bracket, parameters and a letter.
-/

namespace TypeLineage.Text

def escapeChar : Char :=
  '\x1b'

/-- Whether a character is a parameter of a control sequence. -/
def isParameter (c : Char) : Bool :=
  c.isDigit || c = ';' || c = '?'

/-- The length of the control sequence at the beginning of a text, 0 if there is none. -/
def sequenceLength : List Char → Nat
  | first :: '[' :: rest =>
    let parameters := rest.takeWhile isParameter
    if first = escapeChar ∧ (rest.drop parameters.length).head?.any Char.isAlpha then
      parameters.length + 3
    else 0
  | _ => 0

/-- Leaves out control sequences. `skip` characters belong to one that was found already. -/
def withoutSequencesFrom : (skip : Nat) → List Char → List Char
  | _, [] => []
  | skip + 1, _ :: rest => withoutSequencesFrom skip rest
  | 0, c :: rest =>
    match sequenceLength (c :: rest) with
    | 0 => c :: withoutSequencesFrom 0 rest
    | n + 1 => withoutSequencesFrom n rest

/-- The text without its control sequences. -/
def withoutSequences (s : List Char) : List Char :=
  withoutSequencesFrom 0 s

end TypeLineage.Text
