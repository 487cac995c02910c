import JavaComments.JavaDoc.Basic

namespace JavaComments

/-- A comment of a Java source, without delimiters. -/
inductive Comment where
  | line (text : Text)
  | block (text : Text)
  | javadoc (doc : JavaDoc)
deriving DecidableEq

def Comment.text : Comment → Text
  | line text => text
  | block text => text
  | javadoc doc => doc.text

/-- Comments that stand one after the other in the source, each on lines of its own. -/
structure Statement where
  comments : List Comment := []
deriving DecidableEq

namespace Statement

def empty : Statement := {}

def ofList (comments : List Comment) : Statement := ⟨comments⟩

def singleton (comment : Comment) : Statement := ⟨[comment]⟩

def push (statement : Statement) (comment : Comment) : Statement :=
  ⟨statement.comments ++ [comment]⟩

end Statement

end JavaComments
