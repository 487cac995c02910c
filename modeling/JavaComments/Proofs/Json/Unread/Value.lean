import JavaComments.Proofs.Text.Hexadecimal
import JavaComments.Proofs.Json.Unread.Basic
import Mathlib.Data.List.TakeDrop

namespace JavaComments.Json

theorem hexUnit_bounded : Bounded hexUnit := by
  intro s
  unfold hexUnit
  split
  next read heq =>
    obtain ⟨digits, _, rfl⟩ := hexUnit?_eq_some_iff.mp heq
    exact Text.byteLength_le_of_suffix (List.suffix_append digits read.2)
  next =>
    split
    next => exact leaves_atEnd _ _
    next => exact Nat.sub_le _ _

theorem pairMark_bounded (mark : Char) : Bounded (pairMark mark) := by
  intro s
  cases s with
  | nil => exact leaves_atEnd _ _
  | cons c rest =>
    rw [pairMark]
    split
    next => exact byteLength_le_cons c rest
    next => exact leaves_after _ _

theorem unicodeEscape_bounded : Bounded unicodeEscape := by
  intro s
  refine (hexUnit_bounded s).bind fun (unit, rest) _ => ?_
  dsimp only
  split
  next => exact leaves_before _ _
  next =>
    split
    next =>
      refine (pairMark_bounded _ rest).bind fun rest _ => ?_
      refine (pairMark_bounded _ rest).bind fun rest _ => ?_
      refine (hexUnit_bounded rest).bind fun (low, rest) _ => ?_
      dsimp only
      split
      next => exact Nat.le_refl _
      next => exact leaves_before _ _
    next => exact Nat.le_refl _

theorem escape_bounded : Bounded escape := by
  intro s
  cases s with
  | nil => exact leaves_atEnd _ _
  | cons c rest =>
    rw [escape]
    split
    next => exact (unicodeEscape_bounded rest).mono (byteLength_le_cons c rest)
    next =>
      split
      next => exact byteLength_le_cons c rest
      next => exact leaves_after _ _

theorem piece_bounded : Bounded piece := by
  intro s
  cases s with
  | nil => exact leaves_atEnd _ _
  | cons c rest =>
    have behind := byteLength_le_cons c rest
    rw [piece]
    split
    next => exact behind
    next =>
      split
      next => exact ((escape_bounded rest).mono behind).map fun _ => Nat.le_refl _
      next =>
        split
        next => exact (leaves_before _ rest).mono behind
        next => exact behind

theorem contentsAfter_bounded (read : Text) : Bounded (contentsAfter read) := by
  intro s
  fun_induction contentsAfter read s with
  | case1 read s failure hp => exact piece_bounded.of_eq hp
  | case2 read s rest hp => exact piece_bounded.of_eq hp
  | case3 read s c rest hp ih => exact ih.mono (piece_bounded.of_eq hp)

theorem contents_bounded : Bounded contents := contentsAfter_bounded []

section Numbers

/-- What stands behind digits is no more than with them. -/
theorem byteLength_span_le (p : Char → Bool) (s : Text) :
    Text.byteLength (s.span p).2 ≤ s.byteLength := by
  rw [List.span_eq_takeWhile_dropWhile]
  exact Text.byteLength_le_of_suffix (List.dropWhile_suffix p)

theorem byteLength_tail_le (s : Text) : Text.byteLength s.tail ≤ s.byteLength :=
  Text.byteLength_le_of_suffix (List.tail_suffix s)

theorem wholeDigits_bounded : Bounded wholeDigits := by
  intro s
  unfold wholeDigits
  split
  next => exact leaves_atEnd _ _
  next rest =>
    split
    next => exact (leaves_after _ rest).mono (byteLength_le_cons _ rest)
    next => exact byteLength_le_cons _ rest
  next =>
    dsimp only
    split
    next => exact leaves_after _ _
    next => exact byteLength_span_le _ _

theorem fractionDigits_bounded : Bounded fractionDigits := by
  intro s
  unfold fractionDigits
  split
  next rest =>
    have behind := byteLength_le_cons '.' rest
    dsimp only
    split
    next =>
      split
      next => exact leaves_atEnd _ _
      next => exact (leaves_after _ rest).mono behind
    next => exact Nat.le_trans (byteLength_span_le _ rest) behind
  next => exact Nat.le_refl _

theorem exponentDigits_bounded (exponent : Nat) (s : Text) :
    Text.byteLength (exponentDigits exponent s).2 ≤ s.byteLength := by
  induction s generalizing exponent with
  | nil => exact Nat.le_refl _
  | cons c rest ih =>
    have behind := byteLength_le_cons c rest
    rw [exponentDigits]
    split
    next =>
      dsimp only
      split
      next => exact Nat.le_trans (ih _) behind
      next => exact behind
    next => exact Nat.le_refl _

theorem exponentPart_bounded : Bounded exponentPart := by
  intro s
  unfold exponentPart
  split
  next => exact Nat.le_refl _
  next e s =>
    split
    next =>
      extract_lets negative digits
      have behind : Text.byteLength digits ≤ Text.byteLength (e :: s) := by
        refine Nat.le_trans ?_ (byteLength_le_cons e s)
        unfold digits
        split
        next => exact byteLength_tail_le s
        next => exact Nat.le_refl _
      clear_value digits
      cases digits with
      | nil => exact leaves_atEnd _ _
      | cons c digits =>
        dsimp only
        split
        next => exact Nat.le_trans (exponentDigits_bounded 0 _) behind
        next => exact (leaves_after _ _).mono behind
    next => exact Nat.le_refl _

theorem scaledNumber_leaves (negative : Bool) (significand : Nat) (exponent : Int) (rest : Text) :
    Leaves rest.byteLength (scaledNumber negative significand exponent rest) := by
  unfold scaledNumber
  split
  next => exact Nat.le_refl _
  next => exact leaves_before _ _

theorem number_bounded : Bounded number := by
  intro s
  have unsigned : Text.byteLength (if s.head? = some '-' then s.tail else s) ≤ s.byteLength := by
    split
    next => exact byteLength_tail_le s
    next => exact Nat.le_refl _
  unfold number
  extract_lets negative
  refine ((wholeDigits_bounded _).mono unsigned).bind fun (whole, rest) _ => ?_
  refine (fractionDigits_bounded rest).bind fun (fraction, rest) _ => ?_
  refine (exponentPart_bounded rest).bind fun (exponent, rest) _ => ?_
  dsimp only
  split
  next =>
    split
    next => exact Nat.le_refl _
    next => exact scaledNumber_leaves _ _ _ rest
  next => exact scaledNumber_leaves _ _ _ rest
  next => exact scaledNumber_leaves _ _ _ rest
  next =>
    split
    next => exact leaves_before _ rest
    next => exact Text.byteLength_le_of_suffix (List.dropWhile_suffix _)

end Numbers

theorem found_bounded : Bounded found := by
  intro s
  cases s with
  | nil => exact leaves_atEnd _ _
  | cons c rest =>
    have behind := byteLength_le_cons c rest
    unfold found
    dsimp only
    split
    next => exact ((word_bounded _ rest).mono behind).map fun _ => Nat.le_refl _
    next => exact ((word_bounded _ rest).mono behind).map fun _ => Nat.le_refl _
    next => exact ((word_bounded _ rest).mono behind).map fun _ => Nat.le_refl _
    next => exact ((contents_bounded rest).mono behind).map fun _ => Nat.le_refl _
    next => exact Nat.le_refl _
    next => exact Nat.le_refl _
    next =>
      split
      next => exact number_bounded _
      next => exact leaves_after _ _

/-- A value of the wrong type is reported at a place within it. -/
theorem mismatch_unread_le (expected : Expected) (s : Text) :
    (mismatch expected s).unread ≤ s.byteLength := by
  have read := found_bounded s
  unfold mismatch
  split
  next heq => rw [heq] at read; exact read
  next heq => rw [heq] at read; exact read

end JavaComments.Json
