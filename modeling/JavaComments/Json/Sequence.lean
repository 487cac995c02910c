import JavaComments.Json.Reader

namespace JavaComments.Json

/-- What the attempt to close a list or object leaves unread, and why it failed if it did. -/
structure Closing where
  rest : Text
  failure? : Option Failure

/-- A list is closed by its bracket; a comma is passed over before the attempt fails. -/
def closeList (s : Text) : Closing :=
  match skipBlanks s with
  | [] => ⟨[], some (.atEnd .endOfList)⟩
  | ']' :: rest => ⟨rest, none⟩
  | ',' :: rest =>
    match skipBlanks rest with
    | ']' :: rest => ⟨']' :: rest, some (.after .trailingComma (']' :: rest))⟩
    | other => ⟨other, some (.after .trailingCharacters other)⟩
  | other => ⟨other, some (.after .trailingCharacters other)⟩

def closeObject (s : Text) : Closing :=
  match skipBlanks s with
  | [] => ⟨[], some (.atEnd .endOfObject)⟩
  | '}' :: rest => ⟨rest, none⟩
  | ',' :: rest => ⟨',' :: rest, some (.after .trailingComma (',' :: rest))⟩
  | other => ⟨other, some (.after .trailingCharacters other)⟩

/-- Closes what was opened before the content. A pending fault of the content is placed where the
attempt to close ends, whether it succeeds or not. -/
def enclosed {α : Type} (close : Text → Closing) :
    Except Fault (α × Text) → Except Fault (α × Text)
  | .error (.placed failure) => .error (.placed failure)
  | .error (.pending reason rest) => .error (.placed (.before reason (close rest).rest))
  | .ok (value, rest) =>
    match close rest with
    | ⟨rest, none⟩ => .ok (value, rest)
    | ⟨_, some failure⟩ => .error (.placed failure)

/-- What comes next in a list: its end, or an element. -/
inductive Item where
  | done (rest : Text)
  | element (rest : Text)

def nextItem (first : Bool) (s : Text) : Except Failure Item :=
  match skipBlanks s with
  | [] => .error (.atEnd .endOfList)
  | ']' :: rest => .ok (.done (']' :: rest))
  | c :: rest =>
    if first then .ok (.element (c :: rest))
    else if c = ',' then
      match skipBlanks rest with
      | [] => .error (.atEnd .endOfValue)
      | ']' :: rest => .error (.after .trailingComma (']' :: rest))
      | other => .ok (.element other)
    else .error (.after .expectedCommaOrBracket (c :: rest))

theorem closeList_le (s : Text) : (closeList s).rest.length ≤ s.length := by
  have hs := length_skipBlanks_le s
  unfold closeList
  split
  next => simp
  next heq => rw [heq, List.length_cons] at hs; simp only; omega
  next tail heq =>
    rw [heq, List.length_cons] at hs
    have ht := length_skipBlanks_le tail
    split
    next heq' => rw [heq'] at ht; simp only; omega
    next => simp only; omega
  next => exact hs

theorem closeObject_le (s : Text) : (closeObject s).rest.length ≤ s.length := by
  have hs := length_skipBlanks_le s
  unfold closeObject
  split
  next => simp
  next heq => rw [heq, List.length_cons] at hs; simp only; omega
  next heq => rw [heq] at hs; exact hs
  next => exact hs

theorem enclosed_eq_ok_iff {α : Type} {close : Text → Closing}
    {content : Except Fault (α × Text)} {value : α} {rest : Text} :
    enclosed close content = .ok (value, rest) ↔
      ∃ inner, content = .ok (value, inner) ∧ close inner = ⟨rest, none⟩ := by
  match content with
  | .error (.placed failure) => simp [enclosed]
  | .error (.pending reason tail) => simp [enclosed]
  | .ok (v, inner) =>
    simp only [enclosed, Except.ok.injEq, Prod.mk.injEq]
    constructor
    · intro h
      split at h
      next tail heq => cases h; exact ⟨inner, ⟨rfl, rfl⟩, heq⟩
      next => simp at h
    · rintro ⟨_, ⟨rfl, rfl⟩, heq⟩
      simp [heq]

theorem nextItem_element_le {first : Bool} {s rest : Text}
    (h : nextItem first s = .ok (.element rest)) : rest.length ≤ s.length := by
  have hs := length_skipBlanks_le s
  unfold nextItem at h
  split at h
  next => simp at h
  next => simp at h
  next c tail _ heq =>
    rw [heq] at hs
    split at h
    next => cases h; exact hs
    next =>
      split at h
      next =>
        have ht := length_skipBlanks_le tail
        split at h
        next => simp at h
        next => simp at h
        next => cases h; simp only [List.length_cons] at hs; omega
      next => simp at h

theorem nextItem_done_le {first : Bool} {s rest : Text}
    (h : nextItem first s = .ok (.done rest)) : rest.length ≤ s.length := by
  have hs := length_skipBlanks_le s
  unfold nextItem at h
  split at h
  next => simp at h
  next heq => cases h; rw [heq] at hs; exact hs
  next =>
    split at h
    next => simp at h
    next =>
      split at h
      next => split at h <;> simp at h
      next => simp at h

/-- Reads elements up to the end of the list, which is left unread. -/
def items {α : Type} (element : Reader α) (first : Bool) (s : Text) :
    Except Fault (List α × Text) :=
  match _hn : nextItem first s with
  | .error failure => .error (.placed failure)
  | .ok (.done rest) => .ok ([], rest)
  | .ok (.element start) =>
    match _he : element.run start with
    | .error fault => .error fault
    | .ok (value, rest) =>
      (items element false rest).map fun (values, rest) => (value :: values, rest)
termination_by s.length
decreasing_by exact Nat.lt_of_lt_of_le (element.shorter _he) (nextItem_element_le _hn)

theorem items_le {α : Type} {element : Reader α} {first : Bool} {s rest : Text}
    {values : List α} (h : items element first s = .ok (values, rest)) :
    rest.length ≤ s.length := by
  fun_induction items element first s generalizing values with
  | case1 => simp at h
  | case2 first s tail hn => cases h; exact nextItem_done_le hn
  | case3 => simp at h
  | case4 first s start hn value tail he ih =>
    obtain ⟨⟨values, rest⟩, hr, h⟩ := map_eq_ok_iff.mp h
    cases h
    have := element.shorter he
    have := nextItem_element_le hn
    have := ih hr
    omega

def readList {α : Type} (element : Reader α) (s : Text) : Except Fault (List α × Text) :=
  match skipBlanks s with
  | [] => .error (.placed (.atEnd .endOfValue))
  | '[' :: rest => enclosed closeList (items element true rest)
  | other => .error (.placed (mismatch .list other))

def list {α : Type} (element : Reader α) : Reader (List α) where
  run := readList element
  shorter {s} _ _ h := by
    have hs := length_skipBlanks_le s
    unfold readList at h
    split at h
    next => simp at h
    next tail heq =>
      obtain ⟨inner, hi, hc⟩ := enclosed_eq_ok_iff.mp h
      have := items_le hi
      have := hc ▸ closeList_le inner
      rw [heq, List.length_cons] at hs
      dsimp only at this
      omega
    next => simp at h

end JavaComments.Json
