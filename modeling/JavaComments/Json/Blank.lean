import JavaComments.Json.Failure
import JavaComments.Json.Result

namespace JavaComments.Json

/-- The characters that may stand between tokens. -/
def isBlank (c : Char) : Bool := c = ' ' || c = '\t' || c = '\n' || c = '\r'

def skipBlanks (s : Text) : Text := s.dropWhile isBlank

theorem length_skipBlanks_le (s : Text) : (skipBlanks s).length ≤ s.length :=
  (List.dropWhile_sublist isBlank).length_le

theorem skipBlanks_cons_token {c : Char} {s : Text} (h : isBlank c = false) :
    skipBlanks (c :: s) = c :: s := by
  simp [skipBlanks, h]

def word : Text → Text → Except Failure Text
  | [], s => .ok s
  | _ :: _, [] => .error (.atEnd .endOfValue)
  | c :: letters, d :: s =>
    if c = d then word letters s else .error (.after .expectedWord (d :: s))

theorem word_eq_ok_iff {letters s rest : Text} :
    word letters s = .ok rest ↔ s = letters ++ rest := by
  induction letters generalizing s with
  | nil => simp [word]
  | cons c letters ih =>
    cases s with
    | nil => simp [word]
    | cons d s =>
      by_cases h : c = d
      · simp [word, h, ih]
      · simp [word, h, Ne.symm h]

def colon (s : Text) : Except Failure Text :=
  match skipBlanks s with
  | [] => .error (.atEnd .endOfObject)
  | ':' :: rest => .ok rest
  | other => .error (.after .expectedColon other)

theorem colon_shorter {s rest : Text} (h : colon s = .ok rest) : rest.length < s.length := by
  have hs := length_skipBlanks_le s
  unfold colon at h
  split at h
  next => simp at h
  next other heq => cases h; rw [heq] at hs; exact hs
  next => simp at h

end JavaComments.Json
