import JavaComments.JavaDoc.Builder

namespace JavaComments

/-- A documentation comment described as data: its fragments, parameters and clauses. Here a
clause without a type, or an empty notice, is still present. -/
structure Request where
  body : List Fragment := []
  params : List Param := []
  throws : Option Throws := none
  deprecated : Option Text := none
deriving DecidableEq

namespace Request

/-- The calls that a request stands for, in the order of its sections. -/
def calls (request : Request) : List Call :=
  request.body.map .body ++ request.params.map .param ++
    request.throws.toList.map .throws ++ request.deprecated.toList.map .deprecated

def builder (request : Request) : Builder := .ofCalls request.calls

def build (request : Request) : JavaDoc := request.builder.build

def events (request : Request) : List Event :=
  Builder.empty.events request.calls ++ [request.builder.summary]

end Request

end JavaComments
