import JavaComments.Program

namespace JavaComments

def FileSystem.Fault.ofMachine : IO.Error → Fault
  | .noFileOrDirectory .. => .notFound
  | .inappropriateType _ code _ => if code = 21 then .isDirectory else .notDirectory
  | .permissionDenied .. => .other "Permission denied (os error 13)".toList
  | fault => .other fault.toString.toList

def Text.fetch (path : Text) : IO (Except FileSystem.Fault Text) := do
  try
    let bytes ← IO.FS.readBinFile (String.ofList path)
    match Text.ofUtf8? bytes.toList with
    | some text => return .ok text
    | none => return .error .notUtf8
  catch fault => return .error (.ofMachine fault)

def Text.save (content path : Text) : IO (Except FileSystem.Fault Unit) := do
  try
    IO.FS.writeFile (String.ofList path) (String.ofList content)
    return .ok ()
  catch fault => return .error (.ofMachine fault)

/-- Carries out a plan on the machine, where nobody follows the log. -/
def Plan.perform {α : Type} : Plan α → IO α
  | .done result => return result
  | .log _ next => next.perform
  | .print content next => do
    IO.print (String.ofList content)
    next.perform
  | .complain content next => do
    IO.eprint (String.ofList content)
    next.perform
  | .read path next => do
    let answer ← path.fetch
    (next answer).perform
  | .write path content next => do
    let answer ← content.save path
    (next answer).perform

end JavaComments

def main (args : List String) : IO UInt32 := do
  let status ← (JavaComments.Program.plan (args.map String.toList)).perform
  return status.toUInt32
