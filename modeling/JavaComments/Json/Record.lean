import JavaComments.Json.Sequence

namespace JavaComments.Json

/-- How a record is read. A field's value updates the state, which begins as `start`; in the end the
state gives the value, or the key of a required field that is absent. -/
structure Record (σ α : Type) where
  name : Text
  fields : List (Entry (σ → σ))
  start : σ
  finish : σ → Except Text α

/-- What comes next in an object: its end, or the key of a member. -/
inductive Member where
  | done (rest : Text)
  | key (key rest : Text)

def memberKey (s : Text) : Except Failure Member :=
  match s with
  | '"' :: rest => (contents rest).map fun (key, rest) => .key key rest
  | other => .error (.after .keyNotString other)

def nextMember (first : Bool) (s : Text) : Except Failure Member :=
  match skipBlanks s with
  | [] => .error (.atEnd .endOfObject)
  | '}' :: rest => .ok (.done ('}' :: rest))
  | c :: rest =>
    if first then memberKey (c :: rest)
    else if c = ',' then
      match skipBlanks rest with
      | [] => .error (.atEnd .endOfValue)
      | '}' :: rest => .error (.after .trailingComma ('}' :: rest))
      | other => memberKey other
    else .error (.after .expectedCommaOrBrace (c :: rest))

theorem memberKey_ne_done {s rest : Text} : memberKey s ≠ .ok (.done rest) := by
  intro h
  unfold memberKey at h
  split at h
  next => obtain ⟨⟨key, tail⟩, _, h⟩ := map_eq_ok_iff.mp h; simp at h
  next => simp at h

theorem memberKey_shorter {s key rest : Text} (h : memberKey s = .ok (.key key rest)) :
    rest.length < s.length := by
  unfold memberKey at h
  split at h
  next =>
    obtain ⟨⟨k, tail⟩, hc, h⟩ := map_eq_ok_iff.mp h
    cases h
    exact Nat.lt_succ_of_lt (contents_shorter hc)
  next => simp at h

theorem nextMember_shorter {first : Bool} {s key rest : Text}
    (h : nextMember first s = .ok (.key key rest)) : rest.length < s.length := by
  have hs := length_skipBlanks_le s
  unfold nextMember at h
  split at h
  next => simp at h
  next => simp at h
  next c tail _ heq =>
    rw [heq] at hs
    split at h
    next => exact Nat.lt_of_lt_of_le (memberKey_shorter h) hs
    next =>
      split at h
      next =>
        have ht := length_skipBlanks_le tail
        split at h
        next => simp at h
        next => simp at h
        next =>
          have := memberKey_shorter h
          simp only [List.length_cons] at hs
          omega
      next => simp at h

theorem nextMember_done_le {first : Bool} {s rest : Text}
    (h : nextMember first s = .ok (.done rest)) : rest.length ≤ s.length := by
  have hs := length_skipBlanks_le s
  unfold nextMember at h
  split at h
  next => simp at h
  next heq => cases h; rw [heq] at hs; exact hs
  next =>
    split at h
    next => exact absurd h memberKey_ne_done
    next =>
      split at h
      next =>
        split at h
        next => simp at h
        next => simp at h
        next => exact absurd h memberKey_ne_done
      next => simp at h

namespace Record

variable {σ α : Type}

/-- Reads members up to the end of the object, which is left unread; `seen` holds their keys. -/
def members (record : Record σ α) (seen : List Text) (state : σ) (s : Text) :
    Except Fault (σ × Text) :=
  match _hn : nextMember seen.isEmpty s with
  | .error failure => .error (.placed failure)
  | .ok (.done rest) => .ok (state, rest)
  | .ok (.key key rest) =>
    match Entry.find? record.fields key with
    | none => .error (.pending (.unknownField key (record.fields.map Entry.key)) rest)
    | some field =>
      if key ∈ seen then .error (.pending (.duplicateField key) rest)
      else match _hc : colon rest with
        | .error failure => .error (.placed failure)
        | .ok start =>
          match _hv : field.reader.run start with
          | .error fault => .error fault
          | .ok (update, rest) => record.members (key :: seen) (update state) rest
termination_by s.length
decreasing_by
  have := nextMember_shorter _hn
  have := colon_shorter _hc
  have := field.reader.shorter _hv
  omega

def object (record : Record σ α) (s : Text) : Except Fault (α × Text) := do
  let (state, rest) ← record.members [] record.start s
  match record.finish state with
  | .ok value => .ok (value, rest)
  | .error key => .error (.pending (.missingField key) rest)

/-- Reads list elements as the values of the fields in turn, and counts them. -/
def positions (present : Nat) (state : σ) (s : Text) :
    List (Entry (σ → σ)) → Except Fault ((σ × Nat) × Text)
  | [] => .ok ((state, present), s)
  | field :: fields =>
    match nextItem (present = 0) s with
    | .error failure => .error (.placed failure)
    | .ok (.done rest) => .ok ((state, present), rest)
    | .ok (.element start) =>
      match field.reader.run start with
      | .error fault => .error fault
      | .ok (update, rest) => positions (present + 1) (update state) rest fields

/-- What a list holds between its brackets when it stands for the record. -/
def tuple (record : Record σ α) (s : Text) : Except Fault (α × Text) := do
  let ((state, present), rest) ← positions 0 record.start s record.fields
  match record.finish state with
  | .ok value => .ok (value, rest)
  | .error _ =>
    .error (.pending (.wrongLength present record.name record.fields.length) rest)

def read (record : Record σ α) (s : Text) : Except Fault (α × Text) :=
  match skipBlanks s with
  | [] => .error (.placed (.atEnd .endOfValue))
  | '{' :: rest => enclosed closeObject (record.object rest)
  | '[' :: rest => enclosed closeList (record.tuple rest)
  | other => .error (.placed (mismatch (.record record.name) other))

theorem members_le {record : Record σ α} {seen : List Text} {state final : σ} {s rest : Text}
    (h : record.members seen state s = .ok (final, rest)) : rest.length ≤ s.length := by
  fun_induction members record seen state s with
  | case1 => simp at h
  | case2 seen state s tail hn => cases h; exact nextMember_done_le hn
  | case3 => simp at h
  | case4 => simp at h
  | case5 => simp at h
  | case6 => simp at h
  | case7 seen state s key rest hn field hf hk start hc update tail hv ih =>
    have := nextMember_shorter hn
    have := colon_shorter hc
    have := field.reader.shorter hv
    have := ih h
    omega

theorem object_le {record : Record σ α} {s rest : Text} {value : α}
    (h : record.object s = .ok (value, rest)) : rest.length ≤ s.length := by
  obtain ⟨⟨state, tail⟩, hm, h⟩ := bind_eq_ok_iff.mp h
  dsimp only at h
  split at h
  next => cases h; exact members_le hm
  next => simp at h

theorem positions_le {fields : List (Entry (σ → σ))} {present count : Nat} {state final : σ}
    {s rest : Text} (h : positions present state s fields = .ok ((final, count), rest)) :
    rest.length ≤ s.length := by
  induction fields generalizing present state s with
  | nil => cases h; exact Nat.le_refl _
  | cons field fields ih =>
    unfold positions at h
    split at h
    next => simp at h
    next hn => cases h; exact nextItem_done_le hn
    next start hn =>
      split at h
      next => simp at h
      next update tail hv =>
        have := nextItem_element_le hn
        have := field.reader.shorter hv
        have := ih h
        omega

theorem tuple_le {record : Record σ α} {s rest : Text} {value : α}
    (h : record.tuple s = .ok (value, rest)) : rest.length ≤ s.length := by
  obtain ⟨⟨⟨state, present⟩, tail⟩, hp, h⟩ := bind_eq_ok_iff.mp h
  dsimp only at h
  split at h
  next => cases h; exact positions_le hp
  next => simp at h

/-- A record: an object with its fields in any order, or a list of their values in turn. -/
def reader (record : Record σ α) : Reader α where
  run := record.read
  shorter {s} _ _ h := by
    have hs := length_skipBlanks_le s
    unfold read at h
    split at h
    next => simp at h
    next tail heq =>
      obtain ⟨inner, ho, hc⟩ := enclosed_eq_ok_iff.mp h
      have := object_le ho
      have := hc ▸ closeObject_le inner
      rw [heq, List.length_cons] at hs
      dsimp only at this
      omega
    next tail heq =>
      obtain ⟨inner, ht, hc⟩ := enclosed_eq_ok_iff.mp h
      have := tuple_le ht
      have := hc ▸ closeList_le inner
      rw [heq, List.length_cons] at hs
      dsimp only at this
      omega
    next => simp at h

end Record

structure TwoTexts where
  first : Option Text := none
  second : Option Text := none

/-- A record of two texts, of which the second may have a default. -/
def twoTexts {α : Type} (name first second : Text) (default? : Option Text)
    (make : Text → Text → α) : Record TwoTexts α where
  name := name
  fields :=
    [⟨first, string.map fun text state => { state with first := some text }⟩,
      ⟨second, string.map fun text state => { state with second := some text }⟩]
  start := {}
  finish state :=
    match state.first, state.second.or default? with
    | none, _ => .error first
    | some _, none => .error second
    | some x, some y => .ok (make x y)

end JavaComments.Json
