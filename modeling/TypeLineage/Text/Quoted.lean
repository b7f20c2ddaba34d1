import TypeLineage.Number.Notation
import TypeLineage.Text.Visible

/-!
Quoted text for messages: single quotes, or double quotes where the text holds a single quote and
no double one. Backslashes, the quote itself and characters that cannot be shown are escaped.
-/

namespace TypeLineage.Text

def hexDigit (n : Nat) : Char :=
  Nat.digitChar (n % 16)

/-- The last `n` hexadecimal digits of a number. -/
def hexDigits : (n : Nat) → Nat → List Char
  | 0, _ => []
  | n + 1, value => hexDigits n (value / 16) ++ [hexDigit value]

/-- The escape of a character by its code point, as short as it can be. -/
def codeEscape (c : Char) : List Char :=
  if c.toNat < 0x100 then '\\' :: 'x' :: hexDigits 2 c.toNat
  else if c.toNat < 0x10000 then '\\' :: 'u' :: hexDigits 4 c.toNat
  else '\\' :: 'U' :: hexDigits 8 c.toNat

def quoteChar (quote c : Char) : List Char :=
  if c = quote ∨ c = '\\' then ['\\', c]
  else if c = '\n' then ['\\', 'n']
  else if c = '\r' then ['\\', 'r']
  else if c = '\t' then ['\\', 't']
  else if isVisible c then [c]
  else codeEscape c

def quoteFor (s : List Char) : Char :=
  if s.contains '\'' && !s.contains '"' then '"' else '\''

def quoted (s : List Char) : List Char :=
  let quote := quoteFor s
  quote :: s.flatMap (quoteChar quote) ++ [quote]

def quotedString (s : String) : String :=
  String.ofList (quoted s.toList)

end TypeLineage.Text
