/-!
Similarity of words, for suggestions. Two words share their longest common piece and, in turn, what
is shared to the left and to the right of it.
-/

namespace TypeLineage.Text

def commonPrefixLength : List Char → List Char → Nat
  | a :: s, b :: t => if a = b then commonPrefixLength s t + 1 else 0
  | _, _ => 0

/-- A common piece of two words. -/
structure Piece where
  left : Nat
  right : Nat
  length : Nat

/-- The longest common piece; of several the first in the left word, then in the right one. -/
def longestPiece (s t : List Char) : Piece :=
  (List.range s.length).foldl
    (fun best i =>
      (List.range t.length).foldl
        (fun best j =>
          let n := commonPrefixLength (s.drop i) (t.drop j)
          if best.length < n then ⟨i, j, n⟩ else best)
        best)
    ⟨0, 0, 0⟩

/-- The number of shared characters, for a depth of division. -/
def sharedFrom : (depth : Nat) → List Char → List Char → Nat
  | 0, _, _ => 0
  | depth + 1, s, t =>
    let p := longestPiece s t
    if p.length = 0 then 0
    else
      p.length + sharedFrom depth (s.take p.left) (t.take p.right) +
        sharedFrom depth (s.drop (p.left + p.length)) (t.drop (p.right + p.length))

def shared (s t : List Char) : Nat :=
  sharedFrom s.length s t

/-- A known word with the characters that it shares and the length of both words together. -/
structure Match where
  word : String
  shared : Nat
  total : Nat

/-- At least three characters in five are shared. -/
def Match.isClose (m : Match) : Bool :=
  3 * m.total ≤ 10 * m.shared

/-- Whether one match comes before another: by the part that is shared, then by the word. -/
def Match.before (m n : Match) : Bool :=
  let a := m.shared * n.total
  let b := n.shared * m.total
  b < a || (a = b && n.word ≤ m.word)

def matchOf (word known : String) : Match :=
  ⟨known, shared known.toList word.toList, known.length + word.length⟩

/-- Up to three known words that are close to a word, the closest first. -/
def closeTo (word : String) (known : List String) : List String :=
  ((((known.map (matchOf word)).filter Match.isClose).mergeSort Match.before).take 3).map (·.word)

end TypeLineage.Text
