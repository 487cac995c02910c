import JavaComments.Event
import JavaComments.FileSystem.Basic

namespace JavaComments

/-- What is to be done, one step after the other. A step that reads or writes a file goes on with
what comes of it. -/
inductive Plan (α : Type) where
  | done (result : α)
  | log (events : List Event) (next : Plan α)
  | print (content : Text) (next : Plan α)
  | complain (content : Text) (next : Plan α)
  | read (path : Text) (next : Except FileSystem.Fault Text → Plan α)
  | write (path content : Text) (next : Except FileSystem.Fault Unit → Plan α)

namespace Plan

variable {α β : Type}

def bind : Plan α → (α → Plan β) → Plan β
  | .done result, after => after result
  | .log events next, after => .log events (next.bind after)
  | .print content next, after => .print content (next.bind after)
  | .complain content next, after => .complain content (next.bind after)
  | .read path next, after => .read path fun answer => (next answer).bind after
  | .write path content next, after => .write path content fun answer => (next answer).bind after

/-- The result, what is printed, the files in the end and what is logged. A complaint goes to
another place than what is printed, and is not kept. -/
structure Outcome (α : Type) where
  result : α
  printed : Text
  files : FileSystem
  events : List Event

/-- What there is in the end when an event or a printed text came before. -/
def Outcome.behind (events : List Event) (printed : Text) (outcome : Outcome α) : Outcome α :=
  { outcome with
    events := events ++ outcome.events
    printed := printed ++ outcome.printed }

/-- Carries out a plan on given files. -/
def run : Plan α → FileSystem → Outcome α
  | .done result, files => ⟨result, [], files, []⟩
  | .log events next, files => (next.run files).behind events []
  | .print content next, files => (next.run files).behind [] content
  | .complain _ next, files => next.run files
  | .read path next, files => (next (files.read path)).run files
  | .write path content next, files =>
    match files.write path content with
    | .error fault => (next (.error fault)).run files
    | .ok files => (next (.ok ())).run files

theorem run_bind (plan : Plan α) (after : α → Plan β) (files : FileSystem) :
    (plan.bind after).run files =
      let first := plan.run files
      ((after first.result).run first.files).behind first.events first.printed := by
  induction plan generalizing files with
  | done result => rfl
  | log events next ih => simp [bind, run, ih, Outcome.behind]
  | print content next ih => simp [bind, run, ih, Outcome.behind]
  | complain content next ih => exact ih files
  | read path next ih => exact ih (files.read path) files
  | write path content next ih =>
    rw [bind, run, run]
    split
    next fault _ => exact ih (.error fault) files
    next after _ => exact ih (.ok ()) after

end Plan

end JavaComments
