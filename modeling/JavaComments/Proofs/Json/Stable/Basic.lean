import JavaComments.Json.Record
import JavaComments.Proofs.Json.Reader

namespace JavaComments.Json

/-- The text ended where more of it was needed. -/
def Reason.isEnd : Reason → Bool
  | endOfValue | endOfList | endOfObject | endOfString => true
  | _ => false

theorem Reason.isEnd_message {reason : Reason} (h : reason.isEnd = true) :
    "EOF while parsing".toList <+: reason.message := by
  cases reason with
  | endOfValue => exact ⟨" a value".toList, rfl⟩
  | endOfList => exact ⟨" a list".toList, rfl⟩
  | endOfObject => exact ⟨" an object".toList, rfl⟩
  | endOfString => exact ⟨" a string".toList, rfl⟩
  | _ => simp [isEnd] at h

/-- An error that more text may cure. -/
class Curable (ε : Type) where
  isEnd : ε → Bool

instance : Curable Failure := ⟨fun failure => failure.reason.isEnd⟩

instance : Curable Fault := ⟨fun fault => fault.failure.reason.isEnd⟩

/-- A result with text that is not read yet, to which more can be added. -/
class Pending (β : Type) where
  extend : β → Text → β

instance : Pending Text := ⟨fun rest more => rest ++ more⟩

instance {α : Type} : Pending (α × Text) := ⟨fun read more => (read.1, read.2 ++ more)⟩

instance : Pending Item where
  extend
    | .done rest, more => .done (rest ++ more)
    | .element rest, more => .element (rest ++ more)

instance : Pending Member where
  extend
    | .done rest, more => .done (rest ++ more)
    | .key key rest, more => .key key (rest ++ more)

section

variable {ε β γ : Type} [Curable ε] [Pending β] [Pending γ] {more : Text}

/-- What is read of a text is read of it when more follows, and an error remains one unless it is
that the text has ended. -/
inductive Outlasts (more : Text) : Except ε β → Except ε β → Prop
  | stands (read : β) : Outlasts more (.ok read) (.ok (Pending.extend read more))
  | ended {error : ε} (h : Curable.isEnd error = true) (long : Except ε β) :
      Outlasts more (.error error) long
  | failed (error error' : ε) : Outlasts more (.error error) (.error error')

theorem Outlasts.bind {short long : Except ε β} {next : β → Except ε γ}
    (h : Outlasts more short long)
    (hn : ∀ read, short = .ok read → Outlasts more (next read) (next (Pending.extend read more))) :
    Outlasts more (short >>= next) (long >>= next) := by
  cases h with
  | stands read => exact hn read rfl
  | ended h long => exact .ended h _
  | failed error error' => exact .failed error error'

theorem Outlasts.map {short long : Except ε β} (h : Outlasts more short long) {f : β → γ}
    (hf : ∀ read, f (Pending.extend read more) = Pending.extend (f read) more) :
    Outlasts more (short.map f) (long.map f) := by
  cases h with
  | stands read =>
    change Outlasts more (.ok (f read)) (.ok (f (Pending.extend read more)))
    rw [hf read]
    exact .stands (f read)
  | ended h long => exact .ended h _
  | failed error error' => exact .failed error error'

theorem Outlasts.placed {short long : Except Failure β} (h : Outlasts more short long) :
    Outlasts more (short.mapError Fault.placed) (long.mapError Fault.placed) := by
  cases h with
  | stands read => exact Outlasts.stands (ε := Fault) read
  | ended h long => exact Outlasts.ended (ε := Fault) h _
  | failed error error' => exact Outlasts.failed (Fault.placed error) (Fault.placed error')

theorem Outlasts.of_ok {short : Except ε β} {whole : β} (h : Outlasts more short (.ok whole)) :
    (∃ read, short = .ok read ∧ whole = Pending.extend read more) ∨
      ∃ error, short = .error error ∧ Curable.isEnd error = true := by
  cases h with
  | stands read => exact .inl ⟨read, rfl, rfl⟩
  | ended h => exact .inr ⟨_, rfl, h⟩

/-- A reader that never takes back what it said of a text when more follows. -/
def Stable (read : Text → Except ε β) : Prop := ∀ s more, Outlasts more (read s) (read (s ++ more))

end

theorem skipBlanks_append_of_cons {s rest : Text} {c : Char} (h : skipBlanks s = c :: rest)
    (more : Text) : skipBlanks (s ++ more) = c :: (rest ++ more) := by
  unfold skipBlanks at h ⊢
  rw [List.dropWhile_append, h]
  rfl

theorem word_stable (letters : Text) : Stable (word letters) := by
  induction letters with
  | nil => exact fun s more => .stands s
  | cons c letters ih =>
    intro s more
    cases s with
    | nil => exact .ended rfl _
    | cons d s =>
      rw [List.cons_append, word, word]
      split
      next => exact ih s more
      next => exact .failed _ _

theorem colon_stable : Stable colon := by
  intro s more
  unfold colon
  cases h : skipBlanks s with
  | nil => exact .ended rfl _
  | cons c rest =>
    rw [skipBlanks_append_of_cons h]
    rcases eq_or_ne c ':' with rfl | hc
    · exact .stands rest
    · simp only [hc, List.cons.injEq, false_and, imp_self, implies_true]
      exact .failed _ _

end JavaComments.Json
