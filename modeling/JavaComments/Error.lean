import JavaComments.FileSystem.Path
import JavaComments.Json.Failure

namespace JavaComments

inductive FileError where
  | read (path : Text) (fault : FileSystem.Fault)
  | write (path : Text) (fault : FileSystem.Fault)
  | other (message : Text)
deriving DecidableEq

inductive ArgumentError where
  | rawWithLayout
  | other (message : Text)
deriving DecidableEq

inductive Error where
  | file (error : FileError)
  | request (refusal : Json.Refusal)
  | arguments (error : ArgumentError)
deriving DecidableEq

def FileError.message : FileError → Text
  | read path fault => "Failed to read ".toList ++ path ++ ": ".toList ++ fault.message
  | write path fault => "Failed to write ".toList ++ path ++ ": ".toList ++ fault.message
  | other message => message

def ArgumentError.message : ArgumentError → Text
  | rawWithLayout =>
    "--raw prints the bare comment body and cannot be combined with --indent or --no-escape".toList
  | other message => message

namespace Error

def message : Error → Text
  | file error => "I/O error: ".toList ++ error.message
  | request refusal => "Invalid comment request: ".toList ++ refusal.message
  | arguments error => "Invalid arguments: ".toList ++ error.message

/-- The code under which an error is listed. -/
def code : Error → Text
  | file _ => "javadoc_ast::io_error".toList
  | request _ => "javadoc_ast::json_error".toList
  | arguments _ => "javadoc_ast::invalid_args".toList

def help? : Error → Option Text
  | request _ => some "see the request format accepted by `javadoc-ast render`".toList
  | _ => none

end Error

end JavaComments
