import TypeLineage.Text.Blank
import TypeLineage.Terminal.Emoji.Names
import TypeLineage.Text.Find

/-!
Emoji by their short names: `:smile:` stands for an emoji, and `:smile-text:` or `:smile-emoji:` for
the same one in a given presentation. What is no name of an emoji is left as it is.
-/

namespace TypeLineage.Emoji

open Text

/-- Names and what they stand for, from words in turn. -/
def pairs : List (List Char) → List (List Char × List Char)
  | name :: emoji :: rest => (name, emoji) :: pairs rest
  | _ => []

/-- The names in lines of a table. -/
def entries (table : List String) : List (List Char × List Char) :=
  table.flatMap fun line => pairs (cut ' ' line.toList)

def flagList : List (List Char × List Char) :=
  entries flags

def peopleList : List (List Char × List Char) :=
  entries people

def allList : List (List Char × List Char) :=
  flagList ++ peopleList ++ entries things

def find? (name : List Char) (table : List (List Char × List Char)) : Option (List Char) :=
  (table.find? (·.1 = name)).map (·.2)

/-- The endings for tones of skin, each with the character that gives the tone. -/
def tones : List (String × Char) :=
  [("_light_skin_tone", '🏻'), ("_medium-light_skin_tone", '🏼'), ("_medium_skin_tone", '🏽'),
   ("_medium-dark_skin_tone", '🏾'), ("_dark_skin_tone", '🏿')]

/-- The character that asks for an emoji in colour. -/
def colourSelector : Char :=
  '\uFE0F'

/-- The character that asks for an emoji as a letter. -/
def letterSelector : Char :=
  '\uFE0E'

/-- An emoji of a person in a tone of skin. The tone follows the first character. -/
def inTone (tone : Char) : List Char → List Char
  | c :: rest => c :: tone :: rest.dropWhile (· = colourSelector)
  | [] => []

/-- A name without an ending. -/
def without? (ending : String) (name : List Char) : Option (List Char) :=
  (ending.toList.reverse.isPrefixOf? name.reverse).map List.reverse

def toned? (name : List Char) : Option (List Char) :=
  tones.findSome? fun (ending, tone) =>
    ((without? ending name).bind fun person => find? person peopleList).map (inTone tone)

/-- A flag by the name of its country after `flag_for_`. -/
def flag? (name : List Char) : Option (List Char) :=
  ("flag_for_".toList.isPrefixOf? name).bind fun country => find? country flagList

/-- The letters in names that are not ASCII, each after those that it is the lower case of. -/
def otherCases : List (Char × Char) :=
  [('Ç', 'ç'), ('Ô', 'ô'), ('É', 'é'), ('Ã', 'ã'), ('Í', 'í'), ('Å', 'å'), ('\u212B', 'å'),
   ('\u212A', 'k')]

def lower (c : Char) : Char :=
  ((otherCases.find? (·.1 = c)).map (·.2)).getD c.toLower

/-- The emoji of a name in any case. -/
def ofName? (name : List Char) : Option (List Char) :=
  let name := name.map lower
  (find? name allList).or ((toned? name).or (flag? name))

/-- What stands between two colons: a name, the selector that is asked for, and the length of all
this with the colon after it. -/
structure Code where
  name : List Char
  selector : List Char
  length : Nat

/-- Reads a name up to the nearest colon, without blanks; what was read of it is latest first. -/
def code? (read : List Char) : List Char → Option Code
  | [] => none
  | c :: rest =>
    if "-emoji:".toList.isPrefixOf (c :: rest) then
      some ⟨read.reverse, [colourSelector], read.length + 7⟩
    else if "-text:".toList.isPrefixOf (c :: rest) then
      some ⟨read.reverse, [letterSelector], read.length + 6⟩
    else if c = ':' then some ⟨read.reverse, [], read.length + 1⟩
    else if isBlank c then none
    else code? (c :: read) rest

/-- What is shown for a code, given the text after its first colon. -/
def Code.shown (code : Code) (rest : List Char) : List Char :=
  match ofName? code.name with
  | some emoji => emoji ++ code.selector
  | none => ':' :: rest.take code.length

/-- Puts emoji in for codes, after skipping some characters. -/
def replaceFrom : (skip : Nat) → List Char → List Char
  | _, [] => []
  | skip + 1, _ :: rest => replaceFrom skip rest
  | 0, c :: rest =>
    if c = ':' then
      match code? [] rest with
      | some code => code.shown rest ++ replaceFrom code.length rest
      | none => c :: replaceFrom 0 rest
    else c :: replaceFrom 0 rest

/-- The text with emoji in place of their short names. -/
def replace (s : List Char) : List Char :=
  replaceFrom 0 s

end TypeLineage.Emoji
