import JavaComments.Json.Number
import JavaComments.Json.Quoted

namespace JavaComments.Json

/-- Reads what stands in the place of another value; a list or object is not entered. -/
def found (s : Text) : Except Failure (Found × Text) :=
  match s with
  | [] => .error (.atEnd .expectedValue)
  | c :: rest =>
    match c with
    | 'n' => (word "ull".toList rest).map (Found.null, ·)
    | 't' => (word "rue".toList rest).map (Found.bool true, ·)
    | 'f' => (word "alse".toList rest).map (Found.bool false, ·)
    | '"' => (contents rest).map fun (text, rest) => (Found.string text, rest)
    | '[' => .ok (.list, s)
    | '{' => .ok (.object, s)
    | c => if c = '-' ∨ c.isDigit then number s else .error (.after .expectedValue s)

def mismatch (expected : Expected) (s : Text) : Failure :=
  match found s with
  | .error failure => failure
  | .ok (found, rest) => .before (.wrongType found expected) rest

end JavaComments.Json
