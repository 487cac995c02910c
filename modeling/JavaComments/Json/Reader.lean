import JavaComments.Json.Mismatch

namespace JavaComments.Json

/-- Reads a value at the front of a text and takes at least one character for it. -/
structure Reader (α : Type) where
  run : Text → Except Fault (α × Text)
  shorter : ∀ {s value rest}, run s = .ok (value, rest) → rest.length < s.length

def Reader.map {α β : Type} (f : α → β) (reader : Reader α) : Reader β where
  run s := (reader.run s).map fun (value, rest) => (f value, rest)
  shorter h := by
    obtain ⟨⟨value, rest⟩, hr, h⟩ := map_eq_ok_iff.mp h
    cases h
    exact reader.shorter hr

def readString (s : Text) : Except Fault (Text × Text) :=
  match skipBlanks s with
  | [] => .error (.placed (.atEnd .endOfValue))
  | '"' :: rest => (contents rest).mapError .placed
  | other => .error (.placed (mismatch .string other))

def string : Reader Text where
  run := readString
  shorter {s} _ _ h := by
    have hs := length_skipBlanks_le s
    unfold readString at h
    split at h
    next => simp at h
    next rest heq =>
      have := contents_shorter (mapError_eq_ok_iff.mp h)
      rw [heq, List.length_cons] at hs
      omega
    next => simp at h

def readOptional {α : Type} (reader : Reader α) (s : Text) : Except Fault (Option α × Text) :=
  match skipBlanks s with
  | [] => .error (.placed (.atEnd .endOfValue))
  | 'n' :: rest => ((word "ull".toList rest).mapError .placed).map (none, ·)
  | other => (reader.run other).map fun (value, rest) => (some value, rest)

/-- A value, or `null` for none. -/
def optional {α : Type} (reader : Reader α) : Reader (Option α) where
  run := readOptional reader
  shorter {s} _ _ h := by
    have hs := length_skipBlanks_le s
    unfold readOptional at h
    split at h
    next => simp at h
    next rest heq =>
      obtain ⟨tail, hw, h⟩ := map_eq_ok_iff.mp h
      cases h
      have := congrArg List.length (word_eq_ok_iff.mp (mapError_eq_ok_iff.mp hw))
      rw [heq, List.length_cons] at hs
      rw [List.length_append] at this
      omega
    next =>
      obtain ⟨⟨value, rest⟩, hr, h⟩ := map_eq_ok_iff.mp h
      cases h
      exact Nat.lt_of_lt_of_le (reader.shorter hr) hs

/-- A named value: a field of a record, or a variant of a choice. -/
structure Entry (α : Type) where
  key : Text
  reader : Reader α

def Entry.find? {α : Type} (entries : List (Entry α)) (key : Text) : Option (Entry α) :=
  entries.find? (·.key = key)

end JavaComments.Json
