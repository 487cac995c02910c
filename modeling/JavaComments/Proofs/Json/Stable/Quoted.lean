import JavaComments.Proofs.Json.Quoted
import JavaComments.Proofs.Json.Stable.Basic

namespace JavaComments.Json

/-- Digits are one byte each, so the first four bytes of a text that begins with digits hold them
all. -/
theorem prefix_of_byteLength {digits s rest more : Text} {unit : Nat} (h : HexUnit digits unit)
    (happ : s ++ more = digits ++ rest) (hs : 4 ≤ s.byteLength) : digits <+: s := by
  rcases List.append_eq_append_iff.mp happ with ⟨missing, hd, _⟩ | ⟨tail, ht, _⟩
  · have four := h.byteLength
    rw [hd, Text.byteLength_append] at four
    cases missing with
    | nil => exact ⟨[], by rw [hd, List.append_nil, List.append_nil]⟩
    | cons c missing =>
      have := c.utf8Size_pos
      rw [Text.byteLength_cons] at four
      omega
  · exact ⟨tail, ht.symm⟩

theorem hexUnit_stable : Stable hexUnit := by
  intro s more
  cases h : hexUnit? s with
  | some read =>
    obtain ⟨digits, hd, rfl⟩ := hexUnit?_eq_some_iff.mp h
    rw [List.append_assoc, hexUnit_append hd, hexUnit_append hd]
    exact .stands read
  | none =>
    have short : hexUnit s = if s.byteLength < 4 then .error (.atEnd .endOfString)
        else .error ⟨.invalidEscape, s.byteLength - 4⟩ := by rw [hexUnit, h]
    rw [short]
    split
    next => exact .ended rfl _
    next hlen =>
      cases hl : hexUnit (s ++ more) with
      | error failure => exact .failed _ failure
      | ok read =>
        -- The digits would be in the short text too, where none are.
        obtain ⟨digits, hd, happ⟩ := hexUnit?_eq_some_iff.mp (hexUnit_eq_ok_iff.mp hl)
        obtain ⟨tail, ht⟩ := prefix_of_byteLength hd happ (Nat.le_of_not_lt hlen)
        rw [hexUnit?_eq_some_iff.mpr ⟨digits, hd, ht.symm⟩] at h
        cases h

theorem pairMark_stable (mark : Char) : Stable (pairMark mark) := by
  intro s more
  cases s with
  | nil => exact .ended rfl _
  | cons c rest =>
    rw [List.cons_append, pairMark, pairMark]
    split
    next => exact .stands rest
    next => exact .failed _ _

theorem unicodeEscape_stable : Stable unicodeEscape := by
  intro s more
  refine (hexUnit_stable s more).bind fun (unit, rest) _ => ?_
  dsimp only [Pending.extend]
  split
  next => exact .failed _ _
  next =>
    split
    next =>
      refine (pairMark_stable _ rest more).bind fun rest _ => ?_
      refine (pairMark_stable _ rest more).bind fun rest _ => ?_
      refine (hexUnit_stable rest more).bind fun (low, rest) _ => ?_
      dsimp only [Pending.extend]
      split
      next =>
        generalize pairedChar unit low = c
        exact .stands (c, rest)
      next => exact .failed _ _
    next => exact .stands (Char.ofNat unit, rest)

theorem escape_stable : Stable escape := by
  intro s more
  cases s with
  | nil => exact .ended rfl _
  | cons c rest =>
    rw [List.cons_append, escape, escape]
    split
    next => exact unicodeEscape_stable rest more
    next =>
      split
      next d _ => exact .stands (d, rest)
      next => exact .failed _ _

theorem piece_stable : Stable piece := by
  intro s more
  cases s with
  | nil => exact .ended rfl _
  | cons c rest =>
    rw [List.cons_append, piece, piece]
    split
    next => exact .stands (none, rest)
    next =>
      split
      next => exact (escape_stable rest more).map fun _ => rfl
      next =>
        split
        next => exact .failed _ _
        next => exact .stands (some c, rest)

/-- One round of the reading, as a reading and then another. -/
theorem contentsAfter_eq (read s : Text) :
    contentsAfter read s = piece s >>= fun (c?, rest) =>
      match c? with
      | none => .ok (read.reverse, rest)
      | some c => contentsAfter (c :: read) rest := by
  rw [contentsAfter]
  split
  next heq => rw [heq]; rfl
  next heq => rw [heq]; rfl
  next heq => rw [heq]; rfl

theorem contentsAfter_stable (read : Text) : Stable (contentsAfter read) := by
  intro s more
  -- What follows a piece is shorter, with the same text behind it.
  induction hn : s.length using Nat.strongRecOn generalizing read s with
  | ind n ih =>
    rw [contentsAfter_eq, contentsAfter_eq]
    refine (piece_stable s more).bind fun (c?, rest) hp => ?_
    cases c? with
    | none => exact .stands (read.reverse, rest)
    | some c => exact ih rest.length (hn ▸ piece_shorter hp) (c :: read) rest rfl

theorem contents_stable : Stable contents := contentsAfter_stable []

end JavaComments.Json
