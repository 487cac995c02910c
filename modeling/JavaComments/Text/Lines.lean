namespace JavaComments

/-- A text is the list of its characters, so that a proof about it can follow the list. -/
abbrev Text := List Char

namespace Text

/-- Cuts at every line feed; a text without one is a single line. -/
def lines (text : Text) : List Text := text.splitOn '\n'

def isMultiline (text : Text) : Bool := text.contains '\n'

/-- Joins with a line feed between neighbours. -/
def unlines (ls : List Text) : Text := ['\n'].intercalate ls

/-- Cuts at every line feed and takes a carriage return directly before it as part of the break. -/
def codeLines : Text → List Text
  | [] => [[]]
  | '\r' :: '\n' :: rest => [] :: codeLines rest
  | '\n' :: rest => [] :: codeLines rest
  | c :: rest => (codeLines rest).modifyHead (c :: ·)

def ofNat (n : Nat) : Text := Nat.toDigits 10 n

def ofBool (b : Bool) : Text := if b then "true".toList else "false".toList

end Text

end JavaComments
