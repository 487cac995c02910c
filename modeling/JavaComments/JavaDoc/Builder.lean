import JavaComments.Event
import JavaComments.JavaDoc.Basic
import JavaComments.JavaDoc.Section

namespace JavaComments

/-- A documentation comment in the making. The clauses follow the description whatever the order
of the calls, and at most one `@throws` and one `@deprecated` clause is in effect. -/
structure Builder where
  body : List Fragment := []
  params : List Param := []
  throws : Option Throws := none
  deprecated : Option Text := none
deriving DecidableEq

/-- One contribution to a documentation comment, of any section. -/
inductive Call where
  | body (fragment : Fragment)
  | param (param : Param)
  | throws (clause : Throws)
  | deprecated (notice : Text)
deriving DecidableEq

namespace Builder

def empty : Builder := {}

/-- A clause replaces the one in effect; one without a type, or an empty notice, only clears it. -/
def apply (b : Builder) : Call → Builder
  | .body fragment => { b with body := b.body ++ [fragment] }
  | .param param => { b with params := b.params ++ [param] }
  | .throws clause => { b with throws := if clause.type.isEmpty then none else some clause }
  | .deprecated notice => { b with deprecated := if notice.isEmpty then none else some notice }

/-- A call is logged when it replaces the `@throws` clause in effect. -/
def event? (b : Builder) : Call → Option Event
  | .throws clause => b.throws.map fun old => .replacingThrows old.type clause.type
  | _ => none

def applyAll (b : Builder) (calls : List Call) : Builder := calls.foldl apply b

def events (b : Builder) : List Call → List Event
  | [] => []
  | call :: calls => (b.event? call).toList ++ (b.apply call).events calls

def ofCalls (calls : List Call) : Builder := empty.applyAll calls

def bodyEntries (b : Builder) : List Text := b.body.flatMap Fragment.entries

/-- The description, the parameters, the `@throws` clause and the notice, in this order. -/
def entries (b : Builder) : List Text :=
  b.bodyEntries ++ b.params.map Param.entry ++ b.throws.toList.map Throws.entry ++
    b.deprecated.toList.map deprecatedEntry

def build (b : Builder) : JavaDoc := ⟨Text.unlines b.entries⟩

def summary (b : Builder) : Event :=
  .building b.bodyEntries.length b.params.length b.throws.isSome b.deprecated.isSome

end Builder

end JavaComments
