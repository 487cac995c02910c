import JavaComments.Comment.Basic

namespace JavaComments

namespace Text

/-- Writes `*&#47;` for every `*/`, from left to right. -/
def escapeBlockEnd : Text → Text
  | '*' :: '/' :: rest => "*&#47;".toList ++ escapeBlockEnd rest
  | c :: rest => c :: escapeBlockEnd rest
  | [] => []

end Text

/-- How comments are written: the spaces before every line, and whether `*/` is escaped in the
text of block and documentation comments. -/
structure Layout where
  indent : Nat := 0
  escape : Bool := true
deriving DecidableEq

namespace Layout

def margin (layout : Layout) : Text := List.replicate layout.indent ' '

def guarded (layout : Layout) (text : Text) : Text :=
  if layout.escape then text.escapeBlockEnd else text

/-- A marker is followed by a space and the line, or by nothing where the line is empty. -/
def marked (layout : Layout) (marker line : Text) : Text :=
  layout.margin ++ marker ++ if line.isEmpty then [] else ' ' :: line

def lineComment (layout : Layout) (text : Text) : Text :=
  Text.unlines (text.lines.map (layout.marked "//".toList))

/-- The opener, one starred line for each line of the text, and the closer below the stars. -/
def starBlock (layout : Layout) (opener text : Text) : Text :=
  Text.unlines <|
    (layout.margin ++ opener) ::
      text.lines.map (fun line => layout.marked " *".toList (layout.guarded line)) ++
      [layout.margin ++ " */".toList]

/-- A text of several lines is written as a star block, any other on one line. -/
def blockComment (layout : Layout) (text : Text) : Text :=
  if text.isMultiline then layout.starBlock "/*".toList text
  else layout.margin ++ "/* ".toList ++ layout.guarded text ++ " */".toList

/-- An empty documentation comment is not written at all. -/
def javadoc (layout : Layout) (doc : JavaDoc) : Text :=
  if doc.isEmpty then [] else layout.starBlock "/**".toList doc.text

def comment (layout : Layout) : Comment → Text
  | .line text => layout.lineComment text
  | .block text => layout.blockComment text
  | .javadoc doc => layout.javadoc doc

/-- Every comment that is written at all ends with a line feed. -/
def statement (layout : Layout) (statement : Statement) : Text :=
  statement.comments.flatMap fun c =>
    let written := layout.comment c
    if written.isEmpty then [] else written ++ ['\n']

end Layout

end JavaComments
