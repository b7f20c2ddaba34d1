import TypeLineage.Setting.Value

/-!
What keeps a configuration file from being read or written. A text that breaks the rules of the
format is malformed; the other faults come up on the way, where something is taken for what it is
not.
-/

namespace TypeLineage.Toml

inductive Fault where
  | malformed
  /-- A place in a list that is beyond its end. -/
  | listEnd
  /-- A place in a text that is beyond its end. -/
  | textEnd
  /-- A value of a kind that has no last item. -/
  | noItems (kind : String)
  /-- A value of a kind in which no key can be looked for. -/
  | noKeys (kind : String)
  /-- A value of a kind that cannot be gone through. -/
  | notIterable (kind : String)
  /-- Text in which an entry is to be stored. -/
  | fixedText
  /-- Text in which an entry is looked up. -/
  | keyInText
  /-- A list in which an entry is looked up. -/
  | keyInList
  /-- A value that is no list and is to get a further table. -/
  | notAppendable
  /-- A string of several lines without a name. -/
  | nameless
  /-- A character beyond the last code point. -/
  | codeTooLarge
  /-- A key that is not found under its text. -/
  | absentKey (key : String)
  /-- An integer that is too long to be written. -/
  | tooLong
  deriving DecidableEq, Repr

def Fault.message : Fault → String
  | .malformed => "malformed"
  | .listEnd => "list index out of range"
  | .textEnd => "string index out of range"
  | .noItems kind => "'" ++ kind ++ "' object is not subscriptable"
  | .noKeys kind => "argument of type '" ++ kind ++ "' is not iterable"
  | .notIterable kind => "'" ++ kind ++ "' object is not iterable"
  | .fixedText => "'str' object does not support item assignment"
  | .keyInText => "string indices must be integers, not 'str'"
  | .keyInList => "list indices must be integers or slices, not str"
  | .notAppendable => "You can only load a file descriptor, filename or list"
  | .nameless => "cannot access local variable 'value' where it is not associated with a value"
  | .codeTooLarge => "Python int too large to convert to C int"
  | .absentKey key => Text.quotedString key
  | .tooLong => Value.tooLongMessage

end TypeLineage.Toml
