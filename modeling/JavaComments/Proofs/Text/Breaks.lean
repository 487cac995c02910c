import JavaComments.Proofs.Text.Lines
import Mathlib.Data.List.Basic

namespace JavaComments

/-- What ends a line of code. -/
inductive Break where
  | lf
  | crlf
deriving DecidableEq

namespace Break

def text : Break → Text
  | lf => ['\n']
  | crlf => ['\r', '\n']

/-- The line ends where the break begins: a carriage return before a line feed is not the line's. -/
def Ends (mark : Break) (line : Text) : Prop :=
  '\n' ∉ line ∧ (mark = .lf → line.getLast? ≠ some '\r')

variable {mark : Break}

theorem ends_nil (mark : Break) : mark.Ends [] := by simp [Ends]

theorem ends_cons_iff {c : Char} {line : Text} : mark.Ends (c :: line) ↔
    c ≠ '\n' ∧ (c = '\r' → (line ++ mark.text).head? ≠ some '\n') ∧ mark.Ends line := by
  cases line with
  | nil => cases mark <;> simp [Ends, text, eq_comm]
  | cons d line =>
    simp only [Ends, List.getLast?_cons_cons, List.mem_cons, not_or, List.cons_append,
      List.head?_cons, ne_eq, Option.some.injEq]
    tauto

end Break

namespace Text

/-- Lines with a break behind each, and the last line, which has none. -/
def withBreaks (ended : List (Text × Break)) (last : Text) : Text :=
  ended.flatMap (fun e => e.1 ++ e.2.text) ++ last

theorem withBreaks_cons (e : Text × Break) (ended : List (Text × Break)) (last : Text) :
    withBreaks (e :: ended) last = e.1 ++ (e.2.text ++ withBreaks ended last) := by
  simp [withBreaks]

theorem codeLines_cons {c : Char} {text : Text} (hn : c ≠ '\n')
    (hr : c = '\r' → text.head? ≠ some '\n') :
    codeLines (c :: text) = text.codeLines.modifyHead (c :: ·) := by
  rw [codeLines.eq_def]
  split
  next heq => cases heq
  next heq => cases heq; exact absurd rfl (hr rfl)
  next heq => cases heq; exact absurd rfl hn
  next heq => cases heq; rfl

theorem codeLines_of_not_mem {text : Text} (h : '\n' ∉ text) : text.codeLines = [text] := by
  induction text with
  | nil => rfl
  | cons c text ih =>
    rw [List.mem_cons, not_or] at h
    have plain : text.head? ≠ some '\n' := fun hh => h.2 (List.mem_of_mem_head? hh)
    rw [codeLines_cons (Ne.symm h.1) fun _ => plain, ih h.2, List.modifyHead_cons]

theorem codeLines_append_break {line : Text} {mark : Break} (h : mark.Ends line) (rest : Text) :
    codeLines (line ++ (mark.text ++ rest)) = line :: rest.codeLines := by
  induction line with
  | nil => cases mark <;> simp [Break.text, codeLines]
  | cons c line ih =>
    obtain ⟨hn, hr, hl⟩ := Break.ends_cons_iff.mp h
    have behind : (line ++ (mark.text ++ rest)).head? = (line ++ mark.text).head? := by
      cases line <;> cases mark <;> rfl
    rw [List.cons_append, codeLines_cons hn (behind ▸ hr), ih hl, List.modifyHead_cons]

theorem codeLines_withBreaks {ended : List (Text × Break)} {last : Text}
    (h : ∀ e ∈ ended, e.2.Ends e.1) (hl : '\n' ∉ last) :
    (withBreaks ended last).codeLines = ended.map Prod.fst ++ [last] := by
  induction ended with
  | nil => exact codeLines_of_not_mem hl
  | cons e ended ih =>
    obtain ⟨he, hs⟩ := List.forall_mem_cons.mp h
    rw [withBreaks_cons, codeLines_append_break he, ih hs, List.map_cons, List.cons_append]

/-- Where no line ends in a carriage return, either break ends it. -/
theorem codeLines_withBreaks_of_plain {ls : List Text} {last : Text} {ended : List (Text × Break)}
    (plain : ∀ line ∈ ls, '\n' ∉ line ∧ line.getLast? ≠ some '\r') (hl : '\n' ∉ last)
    (he : ended.map Prod.fst = ls) : (withBreaks ended last).codeLines = ls ++ [last] := by
  have ends : ∀ e ∈ ended, e.2.Ends e.1 := by
    intro e hm
    obtain ⟨hn, hr⟩ := plain e.1 (he ▸ List.mem_map_of_mem hm)
    exact ⟨hn, fun _ => hr⟩
  rw [codeLines_withBreaks ends hl, he]

/-- Every code is lines with breaks, in such a way that no line keeps a part of its break. -/
theorem exists_withBreaks (code : Text) : ∃ ended last, (∀ e ∈ ended, e.2.Ends e.1) ∧
    '\n' ∉ last ∧ code = withBreaks ended last := by
  fun_induction codeLines code with
  | case1 => exact ⟨[], [], by simp, by simp, rfl⟩
  | case2 rest ih =>
    obtain ⟨ended, last, he, hl, rfl⟩ := ih
    exact ⟨([], .crlf) :: ended, last, List.forall_mem_cons.mpr ⟨Break.ends_nil _, he⟩, hl, rfl⟩
  | case3 rest ih =>
    obtain ⟨ended, last, he, hl, rfl⟩ := ih
    exact ⟨([], .lf) :: ended, last, List.forall_mem_cons.mpr ⟨Break.ends_nil _, he⟩, hl, rfl⟩
  | case4 c rest hcr hlf ih =>
    obtain ⟨ended, last, he, hl, rfl⟩ := ih
    have hn : c ≠ '\n' := hlf
    -- The character goes to the front of the first line, and is no return that its break lacks.
    cases ended with
    | nil => exact ⟨[], c :: last, he, by simp [Ne.symm hn, hl], rfl⟩
    | cons e ended =>
      obtain ⟨first, others⟩ := List.forall_mem_cons.mp he
      refine ⟨(c :: e.1, e.2) :: ended, last, List.forall_mem_cons.mpr ⟨?_, others⟩, hl, ?_⟩
      · refine Break.ends_cons_iff.mpr ⟨hn, ?_, first⟩
        intro hc hh
        obtain ⟨tail, ht⟩ := List.head?_eq_some_iff.mp hh
        apply hcr (tail ++ withBreaks ended last) hc
        rw [withBreaks_cons, ← List.append_assoc, ht, List.cons_append]
      · rw [withBreaks_cons, withBreaks_cons, List.cons_append]

/-- Of two carriage returns before a line feed, the first belongs to the line. -/
example : codeLines "a\r\r\nb\r".toList = ["a\r".toList, "b\r".toList] := by decide

end Text

end JavaComments
