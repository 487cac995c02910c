import JavaComments.Json.Printer
import JavaComments.Request.Basic

namespace JavaComments

open Json

def Fragment.print : Fragment → Text
  | comment text => writeObject [("comment".toList, writeString text)]
  | paragraph text => writeObject [("paragraph".toList, writeString text)]
  | sampleCode code => writeObject [("sample_code".toList, writeString code)]
  | orderedList items => writeObject [("ordered_list".toList, writeList (items.map writeString))]
  | unorderedList items =>
    writeObject [("unordered_list".toList, writeList (items.map writeString))]

def Param.print (param : Param) : Text :=
  writeObject [("name".toList, writeString param.name),
    ("description".toList, writeString param.description)]

def Throws.print (clause : Throws) : Text :=
  writeObject [("type".toList, writeString clause.type),
    ("description".toList, writeString clause.description)]

/-- Writes a request without blanks, every section present. -/
def Request.print (request : Request) : Text :=
  writeObject [("body".toList, writeList (request.body.map Fragment.print)),
    ("params".toList, writeList (request.params.map Param.print)),
    ("throws".toList, writeOptional Throws.print request.throws),
    ("deprecated".toList, writeOptional writeString request.deprecated)]

end JavaComments
