import JavaComments.Text.Lines

namespace JavaComments

/-- What is logged while a comment is put together and rendered. -/
inductive Event where
  | replacingThrows (old new : Text)
  | building (entries params : Nat) (throws deprecated : Bool)
  | reading (path : Text)
  | written (path : Text)
deriving DecidableEq

namespace Event

inductive Level where
  | debug
  | info
deriving DecidableEq

def Level.name : Level → Text
  | debug => "DEBUG".toList
  | info => "INFO".toList

def level : Event → Level
  | replacingThrows .. => .debug
  | building .. => .debug
  | reading _ => .info
  | written _ => .info

def message : Event → Text
  | replacingThrows old new =>
    "Replacing @throws ".toList ++ old ++ " with @throws ".toList ++ new
  | building entries params throws deprecated =>
    "Building JavaDoc: ".toList ++ Text.ofNat entries ++ " body lines, ".toList ++
      Text.ofNat params ++ " params, throws: ".toList ++ Text.ofBool throws ++
      ", deprecated: ".toList ++ Text.ofBool deprecated
  | reading path => "Reading comment request from ".toList ++ path
  | written path => "Rendered comment written to ".toList ++ path

/-- The log line: the level, a space and the message. -/
def line (event : Event) : Text := event.level.name ++ ' ' :: event.message

end Event

end JavaComments
