import JavaComments.Json.Choice
import JavaComments.Json.Record
import JavaComments.Request.Basic

namespace JavaComments.Request

open Json

def fragmentVariants : List (Entry Fragment) :=
  [⟨"comment".toList, string.map .comment⟩,
    ⟨"paragraph".toList, string.map .paragraph⟩,
    ⟨"sample_code".toList, string.map .sampleCode⟩,
    ⟨"ordered_list".toList, (list string).map .orderedList⟩,
    ⟨"unordered_list".toList, (list string).map .unorderedList⟩]

def paramRecord : Record TwoTexts Param :=
  twoTexts "ParamRequest".toList "name".toList "description".toList none Param.mk

/-- A clause may come without a description. -/
def throwsRecord : Record TwoTexts Throws :=
  twoTexts "ThrowsRequest".toList "type".toList "description".toList (some []) Throws.mk

/-- Every section of a request may be left out. -/
def record : Record Request Request where
  name := "CommentRequest".toList
  fields :=
    [⟨"body".toList, (list (choice fragmentVariants)).map fun body r => { r with body := body }⟩,
      ⟨"params".toList, (list paramRecord.reader).map fun params r => { r with params := params }⟩,
      ⟨"throws".toList, (optional throwsRecord.reader).map fun throws r =>
        { r with throws := throws }⟩,
      ⟨"deprecated".toList, (optional string).map fun deprecated r =>
        { r with deprecated := deprecated }⟩]
  start := {}
  finish := .ok

/-- A request and nothing but blanks around it. -/
def document (text : Text) : Except Failure Request :=
  match record.reader.run text with
  | .error fault => .error fault.failure
  | .ok (request, rest) =>
    match skipBlanks rest with
    | [] => .ok request
    | other => .error (.after .trailingCharacters other)

def parse (text : Text) : Except Refusal Request :=
  (document text).mapError (.ofFailure text)

end JavaComments.Request
