import JavaComments.Proofs.Comment.Containment
import JavaComments.Proofs.Comment.Marked

namespace JavaComments.Layout

open Text

variable {layout : Layout}

theorem blockComment_ne_nil (text : Text) : layout.blockComment text ≠ [] := by
  unfold blockComment
  split
  next => simp [starBlock, unlines_eq_nil_iff]
  next => simp

/-- Nothing is written for a comment only if it is an empty documentation comment. -/
theorem comment_eq_nil_iff {c : Comment} : layout.comment c = [] ↔ c = .javadoc ⟨[]⟩ := by
  cases c with
  | line text => exact iff_of_false (lineComment_ne_nil text) (by simp)
  | block text => exact iff_of_false (blockComment_ne_nil text) (by simp)
  | javadoc doc =>
    rw [comment, javadoc_eq_nil_iff, Comment.javadoc.injEq]
    exact ⟨fun h => congrArg JavaDoc.mk h, fun h => congrArg JavaDoc.text h⟩

/-- Behind a comment in a statement stands a line feed, or nothing, whatever the layout. -/
theorem statement_eq_flatMap (layout : Layout) (s : Statement) :
    layout.statement s = s.comments.flatMap fun c =>
      layout.comment c ++ if c = .javadoc ⟨[]⟩ then [] else ['\n'] := by
  unfold statement
  congr 1
  funext c
  by_cases hc : layout.comment c = []
  · obtain rfl := comment_eq_nil_iff.mp hc
    simp [hc]
  · simp [hc, mt comment_eq_nil_iff.mpr hc]

/-- The lines that a comment is written in; an empty documentation comment is written in none. -/
def writtenLines (layout : Layout) (c : Comment) : List Text :=
  if (layout.comment c).isEmpty then [] else (layout.comment c).lines

theorem lf_not_mem_writtenLines {c : Comment} {l : Text} (h : l ∈ layout.writtenLines c) :
    '\n' ∉ l := by
  unfold writtenLines at h
  split at h
  next => cases h
  next => exact lf_not_mem_line h

theorem unlines_writtenLines (layout : Layout) (c : Comment) :
    unlines (layout.writtenLines c) = layout.comment c := by
  unfold writtenLines
  split
  next h => rw [List.isEmpty_iff.mp h]; rfl
  next => exact unlines_lines _

/-- A statement is the lines of its comments, each closed by a line feed. -/
theorem statement_eq (layout : Layout) (s : Statement) :
    layout.statement s = (s.comments.flatMap layout.writtenLines).flatMap (· ++ ['\n']) := by
  rw [statement, List.flatMap_assoc]
  congr 1
  funext c
  dsimp only
  unfold writtenLines
  split
  next => rfl
  next => rw [← unlines_append_lf (lines_ne_nil _), unlines_lines]

theorem lf_not_mem_statement_line {s : Statement} {l : Text}
    (h : l ∈ s.comments.flatMap layout.writtenLines) : '\n' ∉ l := by
  obtain ⟨c, -, hl⟩ := List.mem_flatMap.mp h
  exact lf_not_mem_writtenLines hl

theorem writtenLines_eq_lines {c : Comment} (h : layout.comment c ≠ []) :
    layout.writtenLines c = (layout.comment c).lines :=
  if_neg (mt List.isEmpty_iff.mp h)

theorem lines_lineComment (layout : Layout) (text : Text) :
    (layout.lineComment text).lines = text.lines.map (layout.marked "//".toList) := by
  apply lines_unlines (by simp [lines_ne_nil])
  intro l hl
  obtain ⟨line, hm, rfl⟩ := List.mem_map.mp hl
  exact lf_not_mem_marked (by decide) (lf_not_mem_line hm)

theorem lines_blockComment (layout : Layout) (text : Text) : (layout.blockComment text).lines =
    if text.isMultiline then (layout.starBlock "/*".toList text).lines
    else [layout.margin ++ ("/* ".toList ++ layout.guarded text ++ " */".toList)] := by
  unfold blockComment
  split
  next => rfl
  next h =>
    have hg : '\n' ∉ layout.guarded text := lf_not_mem_guarded (mt isMultiline_iff.mpr h)
    rw [List.append_assoc, List.append_assoc]
    exact lines_eq_singleton (by simp [lf_not_mem_margin, hg])

theorem writtenLines_line (layout : Layout) (text : Text) :
    layout.writtenLines (.line text) = text.lines.map (layout.marked "//".toList) := by
  have written : layout.comment (.line text) ≠ [] := lineComment_ne_nil text
  rw [writtenLines_eq_lines written]
  exact lines_lineComment layout text

theorem writtenLines_block (layout : Layout) (text : Text) : layout.writtenLines (.block text) =
    if text.isMultiline then (layout.starBlock "/*".toList text).lines
    else [layout.margin ++ ("/* ".toList ++ layout.guarded text ++ " */".toList)] := by
  have written : layout.comment (.block text) ≠ [] := blockComment_ne_nil text
  rw [writtenLines_eq_lines written]
  exact lines_blockComment layout text

theorem writtenLines_javadoc (layout : Layout) (doc : JavaDoc) :
    layout.writtenLines (.javadoc doc) =
      if doc.isEmpty then [] else (layout.starBlock "/**".toList doc.text).lines := by
  rw [writtenLines, comment, javadoc]
  split
  next => rfl
  next =>
    have written : ¬ (layout.starBlock "/**".toList doc.text).isEmpty := by
      simp [starBlock, unlines_eq_nil_iff]
    rw [if_neg written]

end JavaComments.Layout
