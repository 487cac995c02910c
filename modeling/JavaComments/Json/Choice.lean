import JavaComments.Json.Sequence

namespace JavaComments.Json

def closeVariant (s : Text) : Except Failure Text :=
  match skipBlanks s with
  | [] => .error (.atEnd .endOfObject)
  | '}' :: rest => .ok rest
  | other => .error (.before .expectedValue other)

/-- Reads the name of a variant whose opening quote is behind. -/
def variantName {α : Type} (variants : List (Entry α)) (s : Text) :
    Except Failure (Entry α × Text) := do
  let (key, rest) ← contents s
  match Entry.find? variants key with
  | some variant => .ok (variant, rest)
  | none => .error (.before (.unknownVariant key (variants.map Entry.key)) rest)

/-- Reads the one member of an object whose key names the variant of its value. -/
def variant {α : Type} (variants : List (Entry α)) (s : Text) : Except Fault (α × Text) :=
  match skipBlanks s with
  | [] => .error (.placed (.atEnd .endOfObject))
  | '}' :: rest => .error (.placed (.after .expectedValue ('}' :: rest)))
  | '"' :: rest => do
    let (variant, rest) ← (variantName variants rest).mapError Fault.placed
    let rest ← (colon rest).mapError Fault.placed
    let (value, rest) ← variant.reader.run rest
    let rest ← (closeVariant rest).mapError Fault.placed
    .ok (value, rest)
  | other => .error (.placed (.after .keyNotString other))

/-- A variant that is only named has no value; that is found out before its place is known. -/
def bareVariant {α : Type} (variants : List (Entry α)) (s : Text) : Except Fault (α × Text) := do
  let (_, rest) ← (variantName variants s).mapError Fault.placed
  .error (.pending .bareVariant rest)

def readChoice {α : Type} (variants : List (Entry α)) (s : Text) : Except Fault (α × Text) :=
  match skipBlanks s with
  | [] => .error (.placed (.atEnd .endOfValue))
  | '{' :: rest => variant variants rest
  | '"' :: rest => bareVariant variants rest
  | other => .error (.placed (.after .expectedValue other))

theorem closeVariant_shorter {s rest : Text} (h : closeVariant s = .ok rest) :
    rest.length < s.length := by
  have hs := length_skipBlanks_le s
  unfold closeVariant at h
  split at h
  next => simp at h
  next heq => cases h; rw [heq] at hs; exact hs
  next => simp at h

theorem variantName_shorter {α : Type} {variants : List (Entry α)} {s rest : Text}
    {entry : Entry α} (h : variantName variants s = .ok (entry, rest)) :
    rest.length < s.length := by
  obtain ⟨⟨key, tail⟩, hc, h⟩ := bind_eq_ok_iff.mp h
  dsimp only at h
  split at h
  next => cases h; exact contents_shorter hc
  next => simp at h

theorem variant_shorter {α : Type} {variants : List (Entry α)} {s rest : Text} {value : α}
    (h : variant variants s = .ok (value, rest)) : rest.length < s.length := by
  have hs := length_skipBlanks_le s
  unfold variant at h
  split at h
  next => simp at h
  next => simp at h
  next heq =>
    obtain ⟨⟨entry, r₁⟩, h₁, h⟩ := bind_eq_ok_iff.mp h
    obtain ⟨r₂, h₂, h⟩ := bind_eq_ok_iff.mp h
    obtain ⟨⟨v, r₃⟩, h₃, h⟩ := bind_eq_ok_iff.mp h
    obtain ⟨r₄, h₄, h⟩ := bind_eq_ok_iff.mp h
    cases h
    have := variantName_shorter (mapError_eq_ok_iff.mp h₁)
    have := colon_shorter (mapError_eq_ok_iff.mp h₂)
    have := entry.reader.shorter h₃
    have := closeVariant_shorter (mapError_eq_ok_iff.mp h₄)
    rw [heq, List.length_cons] at hs
    omega
  next => simp at h

theorem bareVariant_ne_ok {α : Type} {variants : List (Entry α)} {s : Text} {read : α × Text} :
    bareVariant variants s ≠ .ok read := by
  intro h
  obtain ⟨_, _, h⟩ := bind_eq_ok_iff.mp h
  simp at h

/-- One of several kinds of value, told apart by the key of an object with one member. -/
def choice {α : Type} (variants : List (Entry α)) : Reader α where
  run := readChoice variants
  shorter {s} _ _ h := by
    have hs := length_skipBlanks_le s
    unfold readChoice at h
    split at h
    next => simp at h
    next heq =>
      have := variant_shorter h
      rw [heq, List.length_cons] at hs
      omega
    next => exact absurd h bareVariant_ne_ok
    next => simp at h

end JavaComments.Json
