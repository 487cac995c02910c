import JavaComments.FileSystem.Path

namespace JavaComments

namespace FileSystem

inductive Node where
  | directory
  | file (bytes : List UInt8)
deriving DecidableEq

end FileSystem

/-- Files and directories by their location, and the directory at which relative paths begin. The
first entry for a location counts. There are no permissions: every file may be read and written, and
every directory searched and added to. -/
structure FileSystem where
  workingDirectory : FileSystem.Location
  nodes : List (FileSystem.Location × FileSystem.Node) := []
deriving DecidableEq

namespace FileSystem

/-- What is found at a location; the root is always a directory. -/
def node? (fs : FileSystem) (location : Location) : Option Node :=
  if location.isEmpty then some .directory else fs.nodes.lookup location

def put (fs : FileSystem) (location : Location) (node : Node) : FileSystem :=
  { fs with nodes := (location, node) :: fs.nodes }

/-- Follows names through directories. -/
def walk (fs : FileSystem) (here : Location) : List Text → Except Fault Location
  | [] => .ok here
  | name :: names =>
    if name = ['.'] then fs.walk here names
    else if name = ['.', '.'] then fs.walk here.dropLast names
    else if isTooLong name then .error .nameTooLong
    else match fs.node? (here ++ [name]) with
      | none => .error .notFound
      | some (.file _) => .error .notDirectory
      | some .directory => fs.walk (here ++ [name]) names

/-- The directory in which a path ends, and the name there. -/
structure Target where
  parent : Location
  name : Text
  slashEnd : Bool

def Target.location (target : Target) : Location := target.parent ++ [target.name]

/-- Follows a path up to its last name; there is no target when it ends in dots or has no names,
and so can only be a directory. -/
def target? (fs : FileSystem) (text : Text) : Except Fault (Option Target) := do
  let path ← Path.ofText text
  match path.names.getLast? with
  | none => .ok none
  | some name =>
    let parent ← fs.walk (if path.absolute then [] else fs.workingDirectory) path.names.dropLast
    if name = ['.'] ∨ name = ['.', '.'] then .ok none
    else .ok (some ⟨parent, name, path.slashEnd⟩)

def readBytes (fs : FileSystem) (text : Text) : Except Fault (List UInt8) := do
  match ← fs.target? text with
  | none => .error .isDirectory
  | some target =>
    if isTooLong target.name then .error .nameTooLong
    else match fs.node? target.location with
      | none => .error .notFound
      | some .directory => .error .isDirectory
      | some (.file bytes) => if target.slashEnd then .error .notDirectory else .ok bytes

def read (fs : FileSystem) (text : Text) : Except Fault Text := do
  match Text.ofUtf8? (← fs.readBytes text) with
  | none => .error .notUtf8
  | some content => .ok content

/-- Writes a text to the file at a path, which is created or replaced. -/
def write (fs : FileSystem) (text content : Text) : Except Fault FileSystem := do
  match ← fs.target? text with
  | none => .error .isDirectory
  | some target =>
    if target.slashEnd then .error .isDirectory
    else if isTooLong target.name then .error .nameTooLong
    else if fs.node? target.location = some .directory then .error .isDirectory
    else .ok (fs.put target.location (.file content.utf8))

end FileSystem

end JavaComments
