import JavaComments.Text.Utf8

namespace JavaComments.FileSystem

/-- Why a file is not read or written. A machine has other reasons, such as a missing permission,
which are told in its words. -/
inductive Fault where
  | notFound
  | notDirectory
  | isDirectory
  | nameTooLong
  | notUtf8
  | containsNul
  | other (message : Text)
deriving DecidableEq

def Fault.message : Fault → Text
  | notFound => "No such file or directory (os error 2)".toList
  | notDirectory => "Not a directory (os error 20)".toList
  | isDirectory => "Is a directory (os error 21)".toList
  | nameTooLong => "File name too long (os error 36)".toList
  | notUtf8 => "stream did not contain valid UTF-8".toList
  | containsNul => "file name contained an unexpected NUL byte".toList
  | other message => message

/-- The names on the way from the root to a file or directory. -/
abbrev Location := List Text

/-- A path as it is followed: its names between slashes, and whether slashes stand before the first
and behind the last. -/
structure Path where
  absolute : Bool
  names : List Text
  slashEnd : Bool
deriving DecidableEq

/-- A path has at least one byte and less than 4096, none of them NUL. -/
def Path.ofText (text : Text) : Except Fault Path :=
  if '\x00' ∈ text then .error .containsNul
  else if text.isEmpty then .error .notFound
  else if 4096 ≤ text.byteLength then .error .nameTooLong
  else .ok {
    absolute := text.head? = some '/'
    names := (text.splitOn '/').filter (!·.isEmpty)
    slashEnd := text.getLast? = some '/' }

/-- A name has at most 255 bytes. -/
def isTooLong (name : Text) : Bool := 255 < name.byteLength

end JavaComments.FileSystem
