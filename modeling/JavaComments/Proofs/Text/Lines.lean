import JavaComments.Text.Lines

namespace JavaComments.Text

@[simp] theorem unlines_singleton (l : Text) : unlines [l] = l := List.intercalate_singleton

theorem unlines_cons_cons (l l' : Text) (ls : List Text) :
    unlines (l :: l' :: ls) = l ++ '\n' :: unlines (l' :: ls) := by
  simp [unlines]

theorem unlines_append {ls ms : List Text} (hl : ls ≠ []) (hm : ms ≠ []) :
    unlines (ls ++ ms) = unlines ls ++ '\n' :: unlines ms := by
  induction ls with
  | nil => exact absurd rfl hl
  | cons l ls ih =>
    cases ls with
    | nil => simp [unlines, List.intercalate_cons_of_ne_nil hm]
    | cons l' ls =>
      have rest := ih (List.cons_ne_nil l' ls)
      rw [List.cons_append] at rest
      rw [List.cons_append, List.cons_append, unlines_cons_cons, rest, unlines_cons_cons,
        List.append_assoc, List.cons_append]

theorem unlines_eq_nil_iff {ls : List Text} : unlines ls = [] ↔ ls = [] ∨ ls = [[]] := by
  cases ls with
  | nil => simp [unlines]
  | cons l ls =>
    cases ls with
    | nil => simp
    | cons l' ls => simp [unlines]

/-- Closing a joined text closes each of its lines. -/
theorem unlines_append_lf {ls : List Text} (h : ls ≠ []) :
    unlines ls ++ ['\n'] = ls.flatMap (· ++ ['\n']) := by
  induction ls with
  | nil => exact absurd rfl h
  | cons l ls ih =>
    cases ls with
    | nil => simp
    | cons l' ls =>
      rw [unlines_cons_cons, List.flatMap_cons, ← ih (List.cons_ne_nil l' ls)]
      simp

theorem lines_ne_nil (text : Text) : text.lines ≠ [] := List.splitOn_ne_nil '\n' text

theorem unlines_lines (text : Text) : unlines text.lines = text := List.intercalate_splitOn '\n'

theorem lines_unlines {ls : List Text} (hne : ls ≠ []) (h : ∀ l ∈ ls, '\n' ∉ l) :
    lines (unlines ls) = ls :=
  List.splitOn_intercalate '\n' h hne

theorem lines_eq_singleton {text : Text} (h : '\n' ∉ text) : text.lines = [text] := by
  have single : lines (unlines [text]) = [text] := lines_unlines (by simp) (by simpa using h)
  rwa [unlines_singleton] at single

/-- Lines that are each closed by a line feed are the lines of the whole, with an empty one behind
them. -/
theorem lines_flatMap_lf {ls : List Text} (h : ∀ l ∈ ls, '\n' ∉ l) :
    lines (ls.flatMap (· ++ ['\n'])) = ls ++ [[]] := by
  have joined : ls.flatMap (· ++ ['\n']) = unlines (ls ++ [[]]) := by
    cases ls with
    | nil => rfl
    | cons l ls =>
      rw [← unlines_append_lf (List.cons_ne_nil l ls),
        unlines_append (List.cons_ne_nil l ls) (by simp), unlines_singleton]
  rw [joined]
  apply lines_unlines (by simp)
  intro l hl
  rcases List.mem_append.mp hl with hl | hl
  · exact h l hl
  · rw [List.mem_singleton.mp hl]
    simp

theorem lines_cons_lf (text : Text) : lines ('\n' :: text) = [] :: text.lines := by
  simp [lines, List.splitOn_cons_eq_if_modifyHead]

theorem lines_cons_of_ne {c : Char} (h : c ≠ '\n') (text : Text) :
    lines (c :: text) = text.lines.modifyHead (c :: ·) := by
  simp [lines, List.splitOn_cons_eq_if_modifyHead, h]

/-- A line feed keeps the lines on its two sides apart. -/
theorem lines_append_lf (front back : Text) :
    lines (front ++ '\n' :: back) = front.lines ++ back.lines := by
  induction front with
  | nil => exact lines_cons_lf back
  | cons c front ih =>
    by_cases hc : c = '\n'
    · rw [hc, List.cons_append, lines_cons_lf, lines_cons_lf, ih, List.cons_append]
    · obtain ⟨first, others, hl⟩ := List.exists_cons_of_ne_nil (lines_ne_nil front)
      rw [List.cons_append, lines_cons_of_ne hc, lines_cons_of_ne hc, ih, hl, List.cons_append,
        List.modifyHead_cons, List.modifyHead_cons, List.cons_append]

/-- Texts that are joined keep their lines, whatever line feeds they hold themselves. -/
theorem lines_unlines_eq_flatMap {texts : List Text} (h : texts ≠ []) :
    lines (unlines texts) = texts.flatMap lines := by
  induction texts with
  | nil => exact absurd rfl h
  | cons text texts ih =>
    cases texts with
    | nil => simp
    | cons text' texts =>
      rw [List.flatMap_cons, unlines_cons_cons, lines_append_lf, ih (List.cons_ne_nil text' texts)]

theorem length_lines (text : Text) : text.lines.length = text.count '\n' + 1 := by
  induction text with
  | nil => rfl
  | cons c text ih =>
    by_cases hc : c = '\n'
    · rw [hc, lines_cons_lf, List.length_cons, ih, List.count_cons_self]
    · rw [lines_cons_of_ne hc, List.length_modifyHead, ih, List.count_cons_of_ne hc]

theorem isMultiline_iff {text : Text} : text.isMultiline = true ↔ '\n' ∈ text := by
  simp [isMultiline]

theorem lf_not_mem_line {text line : Text} (h : line ∈ text.lines) : '\n' ∉ line := by
  induction text generalizing line with
  | nil =>
    rw [show lines [] = [[]] from rfl, List.mem_singleton] at h
    simp [h]
  | cons c text ih =>
    by_cases hc : c = '\n'
    · rw [hc, lines_cons_lf, List.mem_cons] at h
      rcases h with rfl | h
      · simp
      · exact ih h
    · rw [lines_cons_of_ne hc] at h
      obtain ⟨first, others, hl⟩ := List.exists_cons_of_ne_nil (lines_ne_nil text)
      rw [hl, List.modifyHead_cons, List.mem_cons] at h
      rcases h with rfl | h
      · simp [Ne.symm hc, ih (hl ▸ List.mem_cons_self)]
      · exact ih (hl ▸ List.mem_cons_of_mem first h)

/-- Takes away every carriage return that stands directly before a line feed. -/
def bareBreaks : Text → Text
  | [] => []
  | '\r' :: '\n' :: rest => '\n' :: bareBreaks rest
  | c :: rest => c :: bareBreaks rest

/-- The lines of code are those of the text in which every break is a line feed alone. -/
theorem codeLines_eq (code : Text) : code.codeLines = code.bareBreaks.lines := by
  fun_induction codeLines code with
  | case1 => rfl
  | case2 rest ih => rw [bareBreaks, lines_cons_lf, ih]
  | case3 rest ih =>
    rw [bareBreaks, lines_cons_lf, ih]
    simp
  | case4 c rest hcr hlf ih =>
    rw [bareBreaks, lines_cons_of_ne hlf, ih]
    exact hcr

theorem count_bareBreaks (text : Text) : text.bareBreaks.count '\n' = text.count '\n' := by
  fun_induction bareBreaks text with
  | case1 => rfl
  | case2 rest ih => simp [ih]
  | case3 c rest _ ih => simp [List.count_cons, ih]

theorem length_codeLines (code : Text) : code.codeLines.length = code.count '\n' + 1 := by
  rw [codeLines_eq, length_lines, count_bareBreaks]

end JavaComments.Text
