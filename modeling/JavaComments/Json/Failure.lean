import JavaComments.Text.Utf8
import JavaComments.Json.Reason

namespace JavaComments.Json

/-- Why a text is refused, and how many of its bytes are unread at the place to report. -/
structure Failure where
  reason : Reason
  unread : Nat
deriving DecidableEq

namespace Failure

/-- The place between what is read and the rest. -/
def before (reason : Reason) (rest : Text) : Failure := ⟨reason, rest.byteLength⟩

/-- The place behind the first byte of the rest, if there is one. -/
def after (reason : Reason) (rest : Text) : Failure := ⟨reason, rest.byteLength - 1⟩

def atEnd (reason : Reason) : Failure := ⟨reason, 0⟩

end Failure

/-- A fault has its place, or gets it when the innermost list or object around it is closed. -/
inductive Fault where
  | placed (failure : Failure)
  | pending (reason : Reason) (rest : Text)
deriving DecidableEq

/-- A fault that nothing closes is placed where it arose. -/
def Fault.failure : Fault → Failure
  | placed failure => failure
  | pending reason rest => .before reason rest

/-- A place in a text as it is reported: its line from one, and the bytes before it on that line. -/
structure Position where
  line : Nat
  column : Nat
deriving DecidableEq

/-- The position behind the first `offset` bytes. -/
def Position.ofOffset (bytes : List UInt8) (offset : Nat) : Position :=
  let read := bytes.take offset
  ⟨1 + read.count 10, (read.reverse.takeWhile (· != 10)).length⟩

structure Refusal where
  reason : Reason
  position : Position
deriving DecidableEq

def Refusal.ofFailure (text : Text) (failure : Failure) : Refusal :=
  ⟨failure.reason, .ofOffset text.utf8 (text.byteLength - failure.unread)⟩

def Refusal.message (refusal : Refusal) : Text :=
  refusal.reason.message ++ " at line ".toList ++ Text.ofNat refusal.position.line ++
    " column ".toList ++ Text.ofNat refusal.position.column

end JavaComments.Json
