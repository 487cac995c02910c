import JavaComments.Json.Failure
import Mathlib.Data.List.DropRight
import Mathlib.Tactic.WLOG

namespace JavaComments

section Cuts

variable {α : Type} {p : α → Prop} {front back front' back' : List α}

/-- A list is cut behind its last member without the property. -/
def CutBehind (p : α → Prop) (front back : List α) : Prop :=
  (∀ x ∈ front.getLast?, ¬ p x) ∧ ∀ x ∈ back, p x

theorem CutBehind.front_eq (h : CutBehind p front back) (h' : CutBehind p front' back')
    (he : front ++ back = front' ++ back') : front = front' := by
  -- what one front has more than the other ends without the property, and belongs to a back
  have same {a b c d middle : List α} (hb : ∀ x ∈ b, p x) (hc : ∀ x ∈ c.getLast?, ¬ p x)
      (hfront : c = a ++ middle) (hback : b = middle ++ d) : a = c := by
    cases hlast : middle.getLast? with
    | none => rw [hfront, List.getLast?_eq_none_iff.mp hlast, List.append_nil]
    | some x =>
      have inBack : x ∈ b := hback ▸ List.mem_append_left d (List.mem_of_getLast? hlast)
      have atEnd : x ∈ c.getLast? := by simp [hfront, List.getLast?_append, hlast]
      exact absurd (hb x inBack) (hc x atEnd)
  rcases List.append_eq_append_iff.mp he with ⟨middle, hfront, hback⟩ | ⟨middle, hfront, hback⟩
  · exact same h.2 h'.1 hfront hback
  · exact (same h'.2 h.1 hfront hback).symm

end Cuts

namespace Json

/-- A position stands behind the first `offset` bytes: its line counts the line feeds among them,
from one, and its column is how far it is from the place behind the last of them. -/
structure Position.Behind (bytes : List UInt8) (offset : Nat) (position : Position) : Prop where
  line : position.line = 1 + (bytes.take offset).count 10
  column : ∃ closed started, bytes.take offset = closed ++ started ∧
    (∀ last ∈ closed.getLast?, last = 10) ∧ (∀ byte ∈ started, byte ≠ 10) ∧
    position.column = offset - closed.length

namespace Position

variable {bytes : List UInt8} {offset i j : Nat} {position : Position}

theorem behind_ofOffset (h : offset ≤ bytes.length) :
    (ofOffset bytes offset).Behind bytes offset where
  line := rfl
  column := by
    have length : (bytes.take offset).length = offset := List.length_take_of_le h
    have column : (ofOffset bytes offset).column =
        ((bytes.take offset).rtakeWhile (· != 10)).length := List.length_reverse.symm
    rw [column]
    generalize bytes.take offset = read at length
    refine ⟨read.rdropWhile (· != 10), read.rtakeWhile (· != 10),
      List.rdropWhile_append_rtakeWhile.symm, ?_, ?_, ?_⟩
    · intro last hlast
      obtain ⟨hne, rfl⟩ := List.mem_getLast?_eq_getLast hlast
      simpa using List.rdropWhile_last_not _ read hne
    · intro byte hbyte
      simpa using List.mem_rtakeWhile_imp hbyte
    · have whole : read.rdropWhile (· != 10) ++ read.rtakeWhile (· != 10) = read :=
        List.rdropWhile_append_rtakeWhile
      have parts := congrArg List.length whole
      rw [List.length_append] at parts
      omega

/-- Within a text, no two offsets have one position. -/
theorem Behind.offset_unique (hi : position.Behind bytes i) (hj : position.Behind bytes j)
    (hle : i ≤ bytes.length) (hle' : j ≤ bytes.length) : i = j := by
  wlog hij : i ≤ j generalizing i j
  · exact (this hj hi hle' hle (Nat.le_of_not_le hij)).symm
  obtain ⟨closed, started, hc, hclosed, hstarted, hcolumn⟩ := hi.column
  obtain ⟨closed', started', hc', hclosed', hstarted', hcolumn'⟩ := hj.column
  -- the lines are the same, so that no line feed stands between the offsets
  obtain ⟨between, hbetween⟩ := List.take_prefix_take_left hij (l := bytes)
  have unbroken : between.count 10 = 0 := by
    have hline := hi.line.symm.trans hj.line
    rw [← hbetween, List.count_append] at hline
    omega
  have cut : CutBehind (· ≠ 10) closed (started ++ between) := by
    refine ⟨fun last hlast => not_not.mpr (hclosed last hlast), ?_⟩
    intro byte hbyte
    rcases List.mem_append.mp hbyte with hs | hb
    · exact hstarted byte hs
    · exact fun he => List.count_eq_zero.mp unbroken (he ▸ hb)
  have cut' : CutBehind (· ≠ 10) closed' started' :=
    ⟨fun last hlast => not_not.mpr (hclosed' last hlast), hstarted'⟩
  have same : closed = closed' :=
    cut.front_eq cut' (by rw [← List.append_assoc, ← hc, hbetween, hc'])
  have length : closed.length + started.length = i := by
    rw [← List.length_append, ← hc, List.length_take_of_le hle]
  rw [← same] at hcolumn'
  omega

/-- Line feeds in front of a text move a position down, and leave its column. -/
theorem ofOffset_replicate (n : Nat) (bytes : List UInt8) (offset : Nat) :
    ofOffset (List.replicate n 10 ++ bytes) (offset + n) =
      ⟨(ofOffset bytes offset).line + n, (ofOffset bytes offset).column⟩ := by
  have read : (List.replicate n 10 ++ bytes).take (offset + n) =
      List.replicate n 10 ++ bytes.take offset := by
    rw [List.take_append, List.length_replicate, Nat.add_sub_cancel, List.take_of_length_le]
    rw [List.length_replicate]
    exact Nat.le_add_left n offset
  have line : (List.replicate n 10 ++ bytes.take offset).count 10 =
      (bytes.take offset).count 10 + n := by
    rw [List.count_append, List.count_replicate_self, Nat.add_comm]
  have column : ((List.replicate n 10 ++ bytes.take offset).reverse.takeWhile (· != 10)).length =
      ((bytes.take offset).reverse.takeWhile (· != 10)).length := by
    rw [List.reverse_append, List.reverse_replicate, List.takeWhile_append]
    split
    next => cases n <;> simp_all
    next => rfl
  rw [ofOffset, ofOffset, read, line, column, Nat.add_assoc]

end Position

section Message

/-- A number is read back where it stands behind a space. -/
theorem numbered_inj {front front' sep : Text} {m n : Nat} (hs : sep.getLast? = some ' ')
    (h : front ++ sep ++ Text.ofNat m = front' ++ sep ++ Text.ofNat n) :
    front = front' ∧ m = n := by
  have digits (n : Nat) : ∀ c ∈ Text.ofNat n, c.isDigit = true := fun c hc =>
    Nat.isDigit_of_mem_toDigits (by decide) (by decide) hc
  have stops (front : Text) : ∀ c ∈ (front ++ sep).getLast?, ¬ c.isDigit = true := by
    rw [List.getLast?_append, hs]
    rintro c ⟨⟩
    decide
  have same := CutBehind.front_eq ⟨stops front, digits m⟩ ⟨stops front', digits n⟩ h
  rw [same, List.append_cancel_left_eq] at h
  have value := congrArg (Nat.ofDigitChars 10 · 0) h
  rw [Text.ofNat, Text.ofNat, Nat.ofDigitChars_ten_toDigits, Nat.ofDigitChars_ten_toDigits] at value
  exact ⟨List.append_cancel_right same, value⟩

/-- What is said of a refusal and its position are read back from its message. -/
theorem message_inj {said said' : Text} {position position' : Position}
    (h : said ++ " at line ".toList ++ Text.ofNat position.line ++ " column ".toList ++
        Text.ofNat position.column =
      said' ++ " at line ".toList ++ Text.ofNat position'.line ++ " column ".toList ++
        Text.ofNat position'.column) : said = said' ∧ position = position' := by
  obtain ⟨front, column⟩ := numbered_inj (by decide) h
  obtain ⟨same, line⟩ := numbered_inj (by decide) front
  cases position
  cases position'
  exact ⟨same, congrArg₂ Position.mk line column⟩

end Message

end Json

end JavaComments
