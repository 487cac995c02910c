import JavaComments.Json.Record

namespace JavaComments

theorem Text.byteLength_le_of_suffix {rest s : Text} (h : rest <:+ s) :
    rest.byteLength ≤ s.byteLength := by
  obtain ⟨front, rfl⟩ := h
  rw [byteLength_append]
  exact Nat.le_add_left _ _

namespace Json

/-- What a reading comes to, with the number of bytes that it leaves unread. -/
class Unread (β : Type) where
  bytes : β → Nat

instance : Unread Text := ⟨Text.byteLength⟩

instance {α : Type} : Unread (α × Text) := ⟨fun read => read.2.byteLength⟩

instance : Unread Item where
  bytes
    | .done rest => rest.byteLength
    | .element rest => rest.byteLength

instance : Unread Member where
  bytes
    | .done rest => rest.byteLength
    | .key _ rest => rest.byteLength

instance : Unread Failure := ⟨Failure.unread⟩

instance : Unread Fault := ⟨fun fault => fault.failure.unread⟩

section

variable {ε β γ : Type} [Unread ε] [Unread β] [Unread γ] {size larger : Nat}

/-- Whether it succeeds or fails, a reading has at most so many bytes unread in the end. -/
def Leaves (size : Nat) : Except ε β → Prop
  | .ok read => Unread.bytes read ≤ size
  | .error error => Unread.bytes error ≤ size

theorem Leaves.mono {result : Except ε β} (h : Leaves size result) (hle : size ≤ larger) :
    Leaves larger result := by
  cases result with
  | ok read => exact Nat.le_trans h hle
  | error error => exact Nat.le_trans h hle

theorem Leaves.bind {result : Except ε β} {next : β → Except ε γ} (h : Leaves size result)
    (hn : ∀ read, result = .ok read → Leaves (Unread.bytes read) (next read)) :
    Leaves size (result >>= next) := by
  cases result with
  | ok read => exact (hn read rfl).mono h
  | error error => exact h

theorem Leaves.map {result : Except ε β} (h : Leaves size result) {f : β → γ}
    (hf : ∀ read, Unread.bytes (f read) ≤ Unread.bytes read) : Leaves size (result.map f) := by
  cases result with
  | ok read => exact Nat.le_trans (hf read) h
  | error error => exact h

theorem Leaves.placed {result : Except Failure β} (h : Leaves size result) :
    Leaves size (result.mapError Fault.placed) := by
  cases result with
  | ok read => exact h
  | error failure => exact h

/-- A reader never leaves more of a text unread than there was, and fails at no place before it. -/
def Bounded (read : Text → Except ε β) : Prop := ∀ s, Leaves s.byteLength (read s)

theorem Bounded.of_eq {read : Text → Except ε β} (h : Bounded read) {s : Text}
    {result : Except ε β} (he : read s = result) : Leaves s.byteLength result :=
  he ▸ h s

end

variable {s rest : Text}

theorem leaves_before {β : Type} [Unread β] (reason : Reason) (rest : Text) :
    Leaves (β := β) rest.byteLength (.error (Failure.before reason rest)) :=
  Nat.le_refl _

theorem leaves_after {β : Type} [Unread β] (reason : Reason) (rest : Text) :
    Leaves (β := β) rest.byteLength (.error (Failure.after reason rest)) :=
  Nat.sub_le _ _

theorem leaves_atEnd {β : Type} [Unread β] (size : Nat) (reason : Reason) :
    Leaves (β := β) size (.error (Failure.atEnd reason)) :=
  Nat.zero_le _

theorem byteLength_skipBlanks_le (s : Text) : (skipBlanks s).byteLength ≤ s.byteLength :=
  Text.byteLength_le_of_suffix (List.dropWhile_suffix isBlank)

theorem byteLength_le_cons (c : Char) (rest : Text) :
    rest.byteLength ≤ Text.byteLength (c :: rest) :=
  Nat.le_add_left _ _

/-- Behind a token there is no more than there was before the blanks in front of it. -/
theorem byteLength_le_of_skipBlanks {c : Char} (h : skipBlanks s = c :: rest) :
    rest.byteLength ≤ s.byteLength :=
  Nat.le_trans (byteLength_le_cons c rest) (h ▸ byteLength_skipBlanks_le s)

/-- Nor is there behind the blanks that follow the token. -/
theorem byteLength_next_le {c : Char} (h : skipBlanks s = c :: rest) :
    (skipBlanks rest).byteLength ≤ s.byteLength :=
  Nat.le_trans (byteLength_skipBlanks_le rest) (byteLength_le_of_skipBlanks h)

theorem word_bounded (letters : Text) : Bounded (word letters) := by
  induction letters with
  | nil => exact fun s => Nat.le_refl _
  | cons c letters ih =>
    intro s
    cases s with
    | nil => exact leaves_atEnd _ _
    | cons d s =>
      rw [word]
      split
      next => exact (ih s).mono (byteLength_le_cons d s)
      next => exact leaves_after _ _

theorem colon_bounded : Bounded colon := by
  intro s
  have hs := byteLength_skipBlanks_le s
  unfold colon
  split
  next => exact leaves_atEnd _ _
  next heq => exact byteLength_le_of_skipBlanks heq
  next => exact (leaves_after _ _).mono hs

end Json

end JavaComments
