import JavaComments.Text.Lines

namespace JavaComments

/-- What Java source holds where it holds only comments. -/
inductive Lexeme where
  | blank (c : Char)
  | line (text : Text)
  | block (text : Text)
deriving DecidableEq

namespace Lexeme

def text : Lexeme → Text
  | blank c => [c]
  | line text => text
  | block text => text

def isComment : Lexeme → Bool
  | blank _ => false
  | line _ => true
  | block _ => true

end Lexeme

/-- Where a scan is: in the code, behind a slash of the code, or inside a comment, with the
characters read since its opener. -/
inductive Mode where
  | code
  | slash
  | line (body : Text)
  | block (body : Text)
deriving DecidableEq

def Mode.text : Mode → Text
  | code => []
  | slash => ['/']
  | line body => '/' :: '/' :: body
  | block body => '/' :: '*' :: body

structure Scanner where
  lexemes : List Lexeme := []
  mode : Mode := .code
deriving DecidableEq

namespace Scanner

/-- Reads one character. In the code, only a space, a line feed or a comment is accepted. A line
comment ends before a line feed, a block comment with the first `*/` behind its opener. -/
def step (s : Scanner) (c : Char) : Option Scanner :=
  match s.mode with
  | .code =>
    if c = ' ' ∨ c = '\n' then some ⟨s.lexemes ++ [.blank c], .code⟩
    else if c = '/' then some ⟨s.lexemes, .slash⟩
    else none
  | .slash =>
    if c = '/' then some ⟨s.lexemes, .line []⟩
    else if c = '*' then some ⟨s.lexemes, .block []⟩
    else none
  | .line body =>
    if c = '\n' then some ⟨s.lexemes ++ [.line ('/' :: '/' :: body), .blank c], .code⟩
    else some ⟨s.lexemes, .line (body ++ [c])⟩
  | .block body =>
    if c = '/' ∧ body.getLast? = some '*' then
      some ⟨s.lexemes ++ [.block ('/' :: '*' :: body ++ [c])], .code⟩
    else some ⟨s.lexemes, .block (body ++ [c])⟩

def run (s : Scanner) (text : Text) : Option Scanner := text.foldlM step s

/-- What a scan has read: its lexemes, and the part of the next one that is behind. -/
def text (s : Scanner) : Text := s.lexemes.flatMap Lexeme.text ++ s.mode.text

@[simp] theorem run_nil (s : Scanner) : s.run [] = some s := rfl

@[simp] theorem run_cons (s : Scanner) (c : Char) (text : Text) :
    s.run (c :: text) = (s.step c).bind fun s' => s'.run text := rfl

theorem run_append (s : Scanner) (front back : Text) :
    s.run (front ++ back) = (s.run front).bind fun s' => s'.run back :=
  List.foldlM_append

theorem step_text {s s' : Scanner} {c : Char} (h : s.step c = some s') :
    s'.text = s.text ++ [c] := by
  obtain ⟨lexemes, mode⟩ := s
  cases mode with
  | code =>
    simp only [step] at h
    split at h
    next => cases h; simp [text, Lexeme.text, Mode.text]
    next =>
      split at h
      next hc => cases h; simp [text, Mode.text, hc]
      next => simp at h
  | slash =>
    simp only [step] at h
    split at h
    next hc => cases h; simp [text, Mode.text, hc]
    next =>
      split at h
      next hc => cases h; simp [text, Mode.text, hc]
      next => simp at h
  | line body =>
    simp only [step] at h
    split at h
    next => cases h; simp [text, Lexeme.text, Mode.text]
    next => cases h; simp [text, Mode.text]
  | block body =>
    simp only [step] at h
    split at h
    next => cases h; simp [text, Lexeme.text, Mode.text]
    next => cases h; simp [text, Mode.text]

/-- A scan loses nothing of what it reads. -/
theorem run_text {s s' : Scanner} {text : Text} (h : s.run text = some s') :
    s'.text = s.text ++ text := by
  induction text generalizing s with
  | nil => cases h; simp
  | cons c text ih =>
    obtain ⟨next, hn, hr⟩ := Option.bind_eq_some_iff.mp h
    rw [ih hr, step_text hn, List.append_assoc, List.singleton_append]

end Scanner

end JavaComments
