import JavaComments.Json.Sequence
import JavaComments.Proofs.Json.Unread.Value

namespace JavaComments.Json

section

variable {α β : Type}

/-- A mismatch that is found behind blanks. -/
theorem leaves_mismatch {s other : Text} (expected : Expected) (h : skipBlanks s = other) :
    Leaves (β := α × Text) s.byteLength (.error (Fault.placed (mismatch expected other))) :=
  Nat.le_trans (mismatch_unread_le expected other) (h ▸ byteLength_skipBlanks_le s)

theorem string_bounded : Bounded string.run := by
  intro s
  show Leaves s.byteLength (readString s)
  unfold readString
  split
  next => exact leaves_atEnd (β := Text × Text) _ _
  next rest heq => exact ((contents_bounded rest).mono (byteLength_le_of_skipBlanks heq)).placed
  next => exact leaves_mismatch .string rfl

theorem map_bounded {reader : Reader α} (h : Bounded reader.run) (f : α → β) :
    Bounded (reader.map f).run :=
  fun s => (h s).map fun _ => Nat.le_refl _

theorem optional_bounded {reader : Reader α} (h : Bounded reader.run) :
    Bounded (optional reader).run := by
  intro s
  show Leaves s.byteLength (readOptional reader s)
  unfold readOptional
  split
  next => exact leaves_atEnd (β := Option α × Text) _ _
  next rest heq =>
    have behind := byteLength_le_of_skipBlanks heq
    exact ((word_bounded _ rest).mono behind).placed.map fun _ => Nat.le_refl _
  next => exact ((h _).mono (byteLength_skipBlanks_le s)).map fun _ => Nat.le_refl _

/-- An attempt to close has at most so many bytes unread in the end, and where it failed. -/
def Closing.Leaves (size : Nat) (closing : Closing) : Prop :=
  closing.rest.byteLength ≤ size ∧ ∀ failure ∈ closing.failure?, failure.unread ≤ size

theorem Closing.leaves_closed {size : Nat} {rest : Text} (h : rest.byteLength ≤ size) :
    Closing.Leaves size ⟨rest, none⟩ :=
  ⟨h, by simp⟩

theorem Closing.leaves_atEnd (size : Nat) (reason : Reason) :
    Closing.Leaves size ⟨[], some (.atEnd reason)⟩ :=
  ⟨Nat.zero_le _, fun _ hf => Option.some.inj hf ▸ Nat.zero_le _⟩

theorem Closing.leaves_after {size : Nat} {rest : Text} (h : rest.byteLength ≤ size)
    (reason : Reason) : Closing.Leaves size ⟨rest, some (.after reason rest)⟩ :=
  ⟨h, fun _ hf => Option.some.inj hf ▸ Nat.le_trans (Nat.sub_le _ _) h⟩

theorem closeList_leaves (s : Text) : (closeList s).Leaves s.byteLength := by
  have hs := byteLength_skipBlanks_le s
  unfold closeList
  split
  next => exact Closing.leaves_atEnd _ _
  next heq => exact Closing.leaves_closed (byteLength_le_of_skipBlanks heq)
  next rest heq =>
    have behind := byteLength_next_le heq
    split
    next heq' => exact Closing.leaves_after (heq' ▸ behind) _
    next => exact Closing.leaves_after behind _
  next => exact Closing.leaves_after hs _

theorem closeObject_leaves (s : Text) : (closeObject s).Leaves s.byteLength := by
  have hs := byteLength_skipBlanks_le s
  unfold closeObject
  split
  next => exact Closing.leaves_atEnd _ _
  next heq => exact Closing.leaves_closed (byteLength_le_of_skipBlanks heq)
  next heq => exact Closing.leaves_after (heq ▸ hs) _
  next => exact Closing.leaves_after hs _

theorem Leaves.enclosed {close : Text → Closing} (hc : ∀ s, (close s).Leaves s.byteLength)
    {size : Nat} {content : Except Fault (α × Text)} (h : Leaves size content) :
    Leaves size (Json.enclosed close content) := by
  match content with
  | .error (.placed failure) => exact h
  | .error (.pending reason rest) => exact Nat.le_trans (hc rest).1 h
  | .ok (value, rest) =>
    obtain ⟨closed, failed⟩ := hc rest
    rw [Json.enclosed]
    split
    next heq => rw [heq] at closed; exact Nat.le_trans closed h
    next heq => rw [heq] at failed; exact Nat.le_trans (failed _ rfl) h

theorem nextItem_bounded (first : Bool) : Bounded (nextItem first) := by
  intro s
  have hs := byteLength_skipBlanks_le s
  unfold nextItem
  split
  next => exact leaves_atEnd _ _
  next heq => exact heq ▸ hs
  next c rest _ heq =>
    rw [heq] at hs
    split
    next => exact hs
    next =>
      split
      next =>
        have behind := byteLength_next_le heq
        split
        next => exact leaves_atEnd _ _
        next heq' => exact (leaves_after _ _).mono (heq' ▸ behind)
        next => exact behind
      next => exact (leaves_after _ _).mono hs

theorem items_bounded {element : Reader α} (h : Bounded element.run) (first : Bool) :
    Bounded (items element first) := by
  intro s
  fun_induction items element first s with
  | case1 first s failure hn => exact (nextItem_bounded first).of_eq hn
  | case2 first s rest hn => exact (nextItem_bounded first).of_eq hn
  | case3 first s start hn fault he =>
    exact (h.of_eq he).mono ((nextItem_bounded first).of_eq hn)
  | case4 first s start hn value rest he ih =>
    have behind := Nat.le_trans (h.of_eq he) ((nextItem_bounded first).of_eq hn)
    exact (ih.mono behind).map fun _ => Nat.le_refl _

theorem list_bounded {element : Reader α} (h : Bounded element.run) :
    Bounded (list element).run := by
  intro s
  show Leaves s.byteLength (readList element s)
  unfold readList
  split
  next => exact leaves_atEnd (β := List α × Text) _ _
  next rest heq =>
    exact ((items_bounded h true rest).mono (byteLength_le_of_skipBlanks heq)).enclosed
      closeList_leaves
  next => exact leaves_mismatch .list rfl

end

end JavaComments.Json
