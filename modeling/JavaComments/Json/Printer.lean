import JavaComments.Text.Lines

namespace JavaComments.Json

def hexByte (n : Nat) : Text := [Nat.digitChar (n / 16), Nat.digitChar (n % 16)]

/-- How a character is written in a string: a quote, a backslash and control characters below the
space are escaped, all others stand for themselves. -/
def writtenChar (c : Char) : Text :=
  match c with
  | '"' => "\\\"".toList
  | '\\' => "\\\\".toList
  | '\x08' => "\\b".toList
  | '\x0c' => "\\f".toList
  | '\n' => "\\n".toList
  | '\r' => "\\r".toList
  | '\t' => "\\t".toList
  | c => if c.toNat < 0x20 then "\\u00".toList ++ hexByte c.toNat else [c]

def writeString (text : Text) : Text := '"' :: text.flatMap writtenChar ++ ['"']

def commaSeparated (values : List Text) : Text := [','].intercalate values

def writeList (values : List Text) : Text := '[' :: commaSeparated values ++ [']']

def writeObject (members : List (Text × Text)) : Text :=
  '{' :: commaSeparated (members.map fun (key, value) => writeString key ++ ':' :: value) ++ ['}']

def writeOptional {α : Type} (write : α → Text) : Option α → Text
  | none => "null".toList
  | some value => write value

end JavaComments.Json
