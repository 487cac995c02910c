import JavaComments.Text.Lines

namespace JavaComments

/-- A finished documentation comment, without delimiters or margin. -/
structure JavaDoc where
  text : Text
deriving DecidableEq

namespace JavaDoc

def lines (doc : JavaDoc) : List Text := doc.text.lines

def isEmpty (doc : JavaDoc) : Bool := doc.text.isEmpty

end JavaDoc

end JavaComments
