import JavaComments.Text.Lines
import JavaComments.Text.Hidden

namespace JavaComments.Text

def numbered (c : Char) : Text := "\\u\x7b".toList ++ Nat.toDigits 16 c.toNat ++ "\x7d".toList

/-- How a character is shown between double quotes: hidden ones by name or number. -/
def shown (c : Char) : Text :=
  match c with
  | '\x00' => "\\0".toList
  | '\t' => "\\t".toList
  | '\n' => "\\n".toList
  | '\r' => "\\r".toList
  | '"' => "\\\"".toList
  | '\\' => "\\\\".toList
  | c => if isHidden c then numbered c else [c]

/-- A text as a literal in double quotes, every character visible. -/
def literal (text : Text) : Text := '"' :: text.flatMap shown ++ ['"']

end JavaComments.Text
