import JavaComments.Json.Blank

namespace JavaComments.Json

def hexDigit? (c : Char) : Option Nat :=
  if '0' ≤ c ∧ c ≤ '9' then some (c.toNat - '0'.toNat)
  else if 'a' ≤ c ∧ c ≤ 'f' then some (c.toNat - 'a'.toNat + 10)
  else if 'A' ≤ c ∧ c ≤ 'F' then some (c.toNat - 'A'.toNat + 10)
  else none

def hexUnit? : Text → Option (Nat × Text)
  | a :: b :: c :: d :: rest => do
    let a ← hexDigit? a
    let b ← hexDigit? b
    let c ← hexDigit? c
    let d ← hexDigit? d
    return (((a * 16 + b) * 16 + c) * 16 + d, rest)
  | _ => none

/-- Four bytes are taken for the digits before they are looked at. -/
def hexUnit (s : Text) : Except Failure (Nat × Text) :=
  match hexUnit? s with
  | some read => .ok read
  | none =>
    if s.byteLength < 4 then .error (.atEnd .endOfString)
    else .error ⟨.invalidEscape, s.byteLength - 4⟩

def isHighSurrogate (unit : Nat) : Bool := 0xD800 ≤ unit && unit ≤ 0xDBFF

def isLowSurrogate (unit : Nat) : Bool := 0xDC00 ≤ unit && unit ≤ 0xDFFF

def pairedChar (high low : Nat) : Char :=
  Char.ofNat (0x10000 + (high - 0xD800) * 0x400 + (low - 0xDC00))

/-- The character that the second half of a surrogate pair has to begin with. -/
def pairMark (mark : Char) : Text → Except Failure Text
  | [] => .error (.atEnd .endOfString)
  | c :: rest =>
    if c = mark then .ok rest else .error (.after .unfinishedSurrogatePair (c :: rest))

/-- Reads what follows `\u`: one code unit, or the two of a surrogate pair. -/
def unicodeEscape (s : Text) : Except Failure (Char × Text) := do
  let (unit, rest) ← hexUnit s
  if isLowSurrogate unit then .error (.before .loneSurrogate rest)
  else if isHighSurrogate unit then
    let rest ← pairMark '\\' rest
    let rest ← pairMark 'u' rest
    let (low, rest) ← hexUnit rest
    if isLowSurrogate low then .ok (pairedChar unit low, rest)
    else .error (.before .loneSurrogate rest)
  else .ok (Char.ofNat unit, rest)

def letterEscape? : Char → Option Char
  | '"' => some '"'
  | '\\' => some '\\'
  | '/' => some '/'
  | 'b' => some '\x08'
  | 'f' => some '\x0c'
  | 'n' => some '\n'
  | 'r' => some '\r'
  | 't' => some '\t'
  | _ => none

/-- Reads what follows a backslash. -/
def escape : Text → Except Failure (Char × Text)
  | [] => .error (.atEnd .endOfString)
  | c :: rest =>
    if c = 'u' then unicodeEscape rest
    else match letterEscape? c with
      | some d => .ok (d, rest)
      | none => .error (.after .invalidEscape (c :: rest))

/-- Reads one character of a string, or its closing quote. -/
def piece : Text → Except Failure (Option Char × Text)
  | [] => .error (.atEnd .endOfString)
  | c :: rest =>
    if c = '"' then .ok (none, rest)
    else if c = '\\' then (escape rest).map fun (d, rest) => (some d, rest)
    else if c.toNat < 0x20 then .error (.before .controlCharacter rest)
    else .ok (some c, rest)

theorem hexUnit?_shorter {s rest : Text} {unit : Nat} (h : hexUnit? s = some (unit, rest)) :
    rest.length < s.length := by
  unfold hexUnit? at h
  split at h
  next a b c d tail =>
    simp only [Option.bind_eq_bind, Option.bind_eq_some_iff, Option.pure_def,
      Option.some.injEq, Prod.mk.injEq] at h
    obtain ⟨_, _, _, _, _, _, _, _, _, rfl⟩ := h
    simp only [List.length_cons]
    omega
  next => simp at h

theorem hexUnit_eq_ok_iff {s rest : Text} {unit : Nat} :
    hexUnit s = .ok (unit, rest) ↔ hexUnit? s = some (unit, rest) := by
  unfold hexUnit
  split
  next read heq => simp [heq]
  next heq => split <;> simp [heq]

theorem pairMark_eq_ok_iff {mark : Char} {s rest : Text} :
    pairMark mark s = .ok rest ↔ s = mark :: rest := by
  cases s with
  | nil => simp [pairMark]
  | cons c s =>
    by_cases h : c = mark
    · simp [pairMark, h]
    · simp [pairMark, h]

theorem unicodeEscape_shorter {s rest : Text} {c : Char} (h : unicodeEscape s = .ok (c, rest)) :
    rest.length < s.length := by
  obtain ⟨⟨unit, tail⟩, hunit, h⟩ := bind_eq_ok_iff.mp h
  have hlt := hexUnit?_shorter (hexUnit_eq_ok_iff.mp hunit)
  dsimp only at h
  split at h
  next => simp at h
  next =>
    split at h
    next =>
      obtain ⟨marked, hm, h⟩ := bind_eq_ok_iff.mp h
      obtain ⟨digits, hd, h⟩ := bind_eq_ok_iff.mp h
      obtain ⟨⟨low, last⟩, hlow, h⟩ := bind_eq_ok_iff.mp h
      have hlast := hexUnit?_shorter (hexUnit_eq_ok_iff.mp hlow)
      rw [pairMark_eq_ok_iff.mp hm, pairMark_eq_ok_iff.mp hd] at hlt
      split at h
      next =>
        simp only [Except.ok.injEq, Prod.mk.injEq] at h
        simp only [List.length_cons, ← h.2] at hlt ⊢
        omega
      next => simp at h
    next =>
      simp only [Except.ok.injEq, Prod.mk.injEq] at h
      exact h.2 ▸ hlt

theorem escape_shorter {s rest : Text} {c : Char} (h : escape s = .ok (c, rest)) :
    rest.length < s.length := by
  unfold escape at h
  split at h
  next => simp at h
  next d tail =>
    split at h
    next => exact Nat.lt_succ_of_lt (unicodeEscape_shorter h)
    next =>
      split at h
      next => cases h; simp
      next => simp at h

theorem piece_shorter {s rest : Text} {c : Option Char} (h : piece s = .ok (c, rest)) :
    rest.length < s.length := by
  unfold piece at h
  split at h
  next => simp at h
  next d tail =>
    split at h
    next => cases h; simp
    next =>
      split at h
      next =>
        obtain ⟨⟨e, t⟩, he, h⟩ := map_eq_ok_iff.mp h
        cases h
        exact Nat.lt_succ_of_lt (escape_shorter he)
      next =>
        split at h
        next => simp at h
        next => cases h; simp

/-- Reads up to the closing quote; `read` holds the characters before, the last one first. -/
def contentsAfter (read : Text) (s : Text) : Except Failure (Text × Text) :=
  match _h : piece s with
  | .error failure => .error failure
  | .ok (none, rest) => .ok (read.reverse, rest)
  | .ok (some c, rest) => contentsAfter (c :: read) rest
termination_by s.length
decreasing_by exact piece_shorter _h

/-- Reads a string whose opening quote is behind. -/
def contents (s : Text) : Except Failure (Text × Text) := contentsAfter [] s

theorem contentsAfter_shorter {read s text rest : Text}
    (h : contentsAfter read s = .ok (text, rest)) : rest.length < s.length := by
  fun_induction contentsAfter read s with
  | case1 => simp at h
  | case2 read s tail hp => cases h; exact piece_shorter hp
  | case3 read s c tail hp ih => exact Nat.lt_trans (ih h) (piece_shorter hp)

theorem contents_shorter {s text rest : Text} (h : contents s = .ok (text, rest)) :
    rest.length < s.length := contentsAfter_shorter h

end JavaComments.Json
