import JavaComments.Comment.Layout
import JavaComments.Error
import JavaComments.Plan
import JavaComments.Request.Reader

namespace JavaComments

/-- One rendering: where the request is, where the comment goes, and how it is written. -/
structure Job where
  input : Text
  output : Option Text := none
  indent : Nat := 0
  noEscape : Bool := false
  raw : Bool := false
deriving DecidableEq

namespace Job

def layout (job : Job) : Layout where
  indent := job.indent
  escape := !job.noEscape

/-- The bare text has no layout that could be asked for. -/
def isConflicting (job : Job) : Bool := job.raw && (0 < job.indent || job.noEscape)

def request (job : Job) (text : Text) : Except Error Request :=
  if job.isConflicting then .error (.arguments .rawWithLayout)
  else (Request.parse text).mapError .request

def write (job : Job) (request : Request) : Text :=
  if job.raw then request.build.text else job.layout.javadoc request.build

def compose (job : Job) (text : Text) : Except Error Text := (job.request text).map job.write

/-- Reads the request, composes the comment, and saves or prints it with a line feed behind it. -/
def plan (job : Job) : Plan (Except Error Unit) :=
  .log [.reading job.input] <| .read job.input fun
    | .error fault => .done (.error (.file (.read job.input fault)))
    | .ok text =>
      match job.request text with
      | .error error => .done (.error error)
      | .ok request =>
        let content := job.write request ++ ['\n']
        .log request.events <|
          match job.output with
          | none => .print content (.done (.ok ()))
          | some path => .write path content fun
            | .error fault => .done (.error (.file (.write path fault)))
            | .ok () => .log [.written path] (.done (.ok ()))

abbrev Outcome := Plan.Outcome (Except Error Unit)

def run (job : Job) (files : FileSystem) : Outcome := job.plan.run files

end Job

end JavaComments
