import JavaComments.Text.Lines

namespace JavaComments

/-- One contribution to the description of a documentation comment. -/
inductive Fragment where
  | comment (text : Text)
  | paragraph (text : Text)
  | sampleCode (code : Text)
  | orderedList (items : List Text)
  | unorderedList (items : List Text)
deriving DecidableEq

/-- A list is its opening tag, one entry for each item, and its closing tag. -/
def listEntries (opening : Text) (items : List Text) (closing : Text) : List Text :=
  opening :: items.map ("<li> ".toList ++ ·) ++ [closing]

/-- The entries of the description that a fragment adds; an entry may hold line feeds. -/
def Fragment.entries : Fragment → List Text
  | comment text => [text]
  | paragraph text => ["<p> ".toList ++ text]
  | sampleCode code => "<pre><code>".toList :: code.codeLines ++ ["</code></pre>".toList]
  | orderedList items => listEntries "<ol>".toList items "</ol>".toList
  | unorderedList items => listEntries "<ul>".toList items "</ul>".toList

structure Param where
  name : Text
  description : Text
deriving DecidableEq

def Param.entry (param : Param) : Text :=
  "@param ".toList ++ param.name ++ ' ' :: param.description

structure Throws where
  type : Text
  description : Text
deriving DecidableEq

def Throws.entry (clause : Throws) : Text :=
  "@throws ".toList ++ clause.type ++ ' ' :: clause.description

def deprecatedEntry (notice : Text) : Text := "@deprecated ".toList ++ notice

end JavaComments
