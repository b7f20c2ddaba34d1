/-!
Substrings, and cutting a text at the character that ends its lines.
-/

namespace TypeLineage.Text

/-- Whether `needle` stands somewhere in the text. -/
def occursIn (needle : List Char) : List Char → Bool
  | [] => needle.isEmpty
  | c :: rest => needle.isPrefixOf (c :: rest) || occursIn needle rest

/-- The pieces between the occurrences of a separator, one more than there are separators. -/
def cut (separator : Char) (s : List Char) : List (List Char) :=
  s.foldr
    (fun c pieces =>
      if c = separator then [] :: pieces
      else match pieces with
        | [] => [[c]]
        | piece :: later => (c :: piece) :: later)
    [[]]

/-- The lines of a text. Only the line feed ends a line. -/
def lines (s : List Char) : List (List Char) :=
  cut '\n' s

/-- Puts lines back into one text, with a line feed between neighbours. -/
def unlines (ls : List (List Char)) : List Char :=
  ['\n'].intercalate ls

end TypeLineage.Text
