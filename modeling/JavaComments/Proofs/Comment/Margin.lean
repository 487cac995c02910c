import JavaComments.Proofs.Comment.WrittenLines
import Mathlib.Data.List.Forall2

namespace JavaComments

/-- The lines of the text that the lines of a star block are written for: none for its opener and
its closer. -/
def Text.starSources (text : Text) : List (Option Text) := none :: text.lines.map some ++ [none]

/-- The lines of the text that the lines of a comment are written for. -/
def Comment.sources : Comment → List (Option Text)
  | .line text => text.lines.map some
  | .block text => if text.isMultiline then text.starSources else [some text]
  | .javadoc doc => if doc.isEmpty then [] else doc.text.starSources

namespace Text

theorem getLast?_append_escapeBlockEnd (front : Text) {rest : Text} (h : rest ≠ []) :
    (front ++ rest.escapeBlockEnd).getLast? = rest.escapeBlockEnd.getLast? :=
  List.getLast?_append_of_ne_nil front (mt escapeBlockEnd_eq_nil_iff.mp h)

/-- The escape leaves no space at the end where there was none. -/
theorem getLast?_escapeBlockEnd {text : Text} (h : text.escapeBlockEnd.getLast? = some ' ') :
    text.getLast? = some ' ' := by
  fun_induction escapeBlockEnd text with
  | case1 rest ih =>
    cases rest with
    | nil => simp at h
    | cons d rest =>
      rw [getLast?_append_escapeBlockEnd _ (List.cons_ne_nil d rest)] at h
      simpa using ih h
  | case2 c rest _ ih =>
    cases rest with
    | nil => exact h
    | cons d rest =>
      rw [← List.singleton_append,
        getLast?_append_escapeBlockEnd _ (List.cons_ne_nil d rest)] at h
      simpa using ih h
  | case3 => exact h

end Text

namespace Layout

open Text

variable {layout : Layout}

theorem marked_eq (layout : Layout) (marker line : Text) : layout.marked marker line =
    layout.margin ++ (⟨0, layout.escape⟩ : Layout).marked marker line := by
  simp [marked, margin]

theorem lines_starBlock_eq (layout : Layout) {opener : Text} (ho : '\n' ∉ opener) (text : Text) :
    (layout.starBlock opener text).lines =
      ((⟨0, layout.escape⟩ : Layout).starBlock opener text).lines.map (layout.margin ++ ·) := by
  have unguarded : (⟨0, layout.escape⟩ : Layout).guarded = layout.guarded := rfl
  rw [lines_starBlock ho, lines_starBlock ho, unguarded]
  simp [marked_eq layout, margin]

/-- A margin stands in front of every line that is written, and changes nothing else. -/
theorem writtenLines_eq (layout : Layout) (c : Comment) : layout.writtenLines c =
    ((⟨0, layout.escape⟩ : Layout).writtenLines c).map (layout.margin ++ ·) := by
  cases c with
  | line text =>
    rw [writtenLines_line, writtenLines_line, List.map_map]
    exact List.map_congr_left fun line _ => marked_eq layout _ line
  | block text =>
    rw [writtenLines_block, writtenLines_block]
    split
    next => exact lines_starBlock_eq layout (by decide) text
    next => rfl
  | javadoc doc =>
    rw [writtenLines_javadoc, writtenLines_javadoc]
    split
    next => rfl
    next => exact lines_starBlock_eq layout (by decide) doc.text

/-- What is written for a line of the text holds it, as it is or guarded, and ends in a space only
if it does. What is written for no line does not end in a space. -/
def WrittenFor (layout : Layout) (written : Text) : Option Text → Prop
  | some line => (line <:+: written ∨ layout.guarded line <:+: written) ∧
      (written.getLast? = some ' ' → line.getLast? = some ' ')
  | none => written.getLast? ≠ some ' '

theorem getLast?_guarded {line : Text} (h : (layout.guarded line).getLast? = some ' ') :
    line.getLast? = some ' ' := by
  unfold guarded at h
  split at h
  next => exact getLast?_escapeBlockEnd h
  next => exact h

theorem getLast?_append_ne_space {marker : Text} {c : Char} (hm : marker.getLast? = some c)
    (hc : c ≠ ' ') (front : Text) : (front ++ marker).getLast? ≠ some ' ' := by
  rw [List.getLast?_append, hm, Option.some_or, ne_eq, Option.some.injEq]
  exact hc

/-- Behind a marker, only the line itself can end in a space. -/
theorem getLast?_marked {marker line : Text} {c : Char} (hm : marker.getLast? = some c)
    (hc : c ≠ ' ') (h : (layout.marked marker line).getLast? = some ' ') :
    line.getLast? = some ' ' := by
  cases line with
  | nil =>
    have bare : layout.marked marker [] = layout.margin ++ marker := by simp [marked]
    rw [bare] at h
    exact absurd h (getLast?_append_ne_space hm hc layout.margin)
  | cons d line =>
    have filled : layout.marked marker (d :: line) =
        (layout.margin ++ marker ++ [' ']) ++ d :: line := by simp [marked]
    rwa [filled, List.getLast?_append_of_ne_nil _ (List.cons_ne_nil d line)] at h

theorem infix_marked (layout : Layout) (marker line : Text) :
    line <:+: layout.marked marker line := by
  cases line with
  | nil => exact List.nil_infix
  | cons d line => exact ⟨layout.margin ++ marker ++ [' '], [], by simp [marked]⟩

theorem starBlock_sources (layout : Layout) {opener : Text} {c : Char} (ho : '\n' ∉ opener)
    (hl : opener.getLast? = some c) (hc : c ≠ ' ') (text : Text) :
    List.Forall₂ layout.WrittenFor (layout.starBlock opener text).lines text.starSources := by
  have opened : layout.WrittenFor (layout.margin ++ opener) none :=
    getLast?_append_ne_space hl hc layout.margin
  have closed : layout.WrittenFor (layout.margin ++ " */".toList) none :=
    getLast?_append_ne_space (c := '/') rfl (by decide) layout.margin
  have starred (line : Text) :
      layout.WrittenFor (layout.marked " *".toList (layout.guarded line)) (some line) :=
    ⟨.inr (infix_marked layout _ _),
      fun h => getLast?_guarded (getLast?_marked (c := '*') rfl (by decide) h)⟩
  rw [lines_starBlock ho, starSources, List.map_map]
  refine List.rel_append (.cons opened ?_) (.cons closed .nil)
  rw [List.forall₂_map_left_iff, List.forall₂_map_right_iff, List.forall₂_same]
  exact fun line _ => starred line

/-- Line by line, a comment is written for the lines of its text. -/
theorem writtenLines_sources (layout : Layout) (c : Comment) :
    List.Forall₂ layout.WrittenFor (layout.writtenLines c) c.sources := by
  cases c with
  | line text =>
    rw [writtenLines_line, Comment.sources, List.forall₂_map_left_iff, List.forall₂_map_right_iff,
      List.forall₂_same]
    exact fun line _ =>
      ⟨.inl (infix_marked layout _ line), getLast?_marked (c := '/') rfl (by decide)⟩
  | block text =>
    rw [writtenLines_block, Comment.sources]
    split
    next => exact starBlock_sources layout (c := '*') (by decide) rfl (by decide) text
    next =>
      refine .cons ⟨.inr ?_, ?_⟩ .nil
      · exact ⟨layout.margin ++ "/* ".toList, " */".toList, by simp⟩
      · rw [← List.append_assoc]
        exact fun h => absurd h (getLast?_append_ne_space (c := '/') rfl (by decide) _)
  | javadoc doc =>
    rw [writtenLines_javadoc, Comment.sources]
    split
    next => exact .nil
    next => exact starBlock_sources layout (c := '*') (by decide) rfl (by decide) doc.text

theorem lines_statement (layout : Layout) (s : Statement) :
    (layout.statement s).lines = s.comments.flatMap layout.writtenLines ++ [[]] := by
  rw [statement_eq]
  exact lines_flatMap_lf fun _ hl => lf_not_mem_statement_line hl

theorem statement_sources (layout : Layout) (s : Statement) :
    List.Forall₂ layout.WrittenFor (layout.statement s).lines
      (s.comments.flatMap Comment.sources ++ [none]) := by
  rw [lines_statement]
  have same : List.Forall₂ (· = ·) s.comments s.comments := List.forall₂_same.mpr fun _ _ => rfl
  refine List.rel_append (List.rel_flatMap same ?_) (.cons ?_ .nil)
  · intro c _ hc
    rw [← hc]
    exact writtenLines_sources layout c
  · simp [WrittenFor]

theorem comment_eq_map (indent : Nat) (escape : Bool) (c : Comment) :
    Layout.comment ⟨indent, escape⟩ c = if Layout.comment ⟨0, escape⟩ c = [] then []
      else unlines ((Layout.comment ⟨0, escape⟩ c).lines.map (List.replicate indent ' ' ++ ·)) := by
  have lined : writtenLines ⟨indent, escape⟩ c =
      (writtenLines ⟨0, escape⟩ c).map (List.replicate indent ' ' ++ ·) :=
    writtenLines_eq ⟨indent, escape⟩ c
  rw [← unlines_writtenLines, lined, writtenLines]
  by_cases h : Layout.comment ⟨0, escape⟩ c = []
  · rw [if_pos (List.isEmpty_iff.mpr h), if_pos h]
    rfl
  · rw [if_neg (mt List.isEmpty_iff.mp h), if_neg h]

theorem statement_eq_map (indent : Nat) (escape : Bool) (s : Statement) : ∃ ls : List Text,
    (∀ l ∈ ls, '\n' ∉ l) ∧ Layout.statement ⟨0, escape⟩ s = ls.flatMap (· ++ ['\n']) ∧
      Layout.statement ⟨indent, escape⟩ s =
        ls.flatMap fun l => List.replicate indent ' ' ++ l ++ ['\n'] := by
  refine ⟨s.comments.flatMap (writtenLines ⟨0, escape⟩), fun _ hl => lf_not_mem_statement_line hl,
    statement_eq _ s, ?_⟩
  have lined : writtenLines ⟨indent, escape⟩ = fun c =>
      (writtenLines ⟨0, escape⟩ c).map (List.replicate indent ' ' ++ ·) :=
    funext (writtenLines_eq ⟨indent, escape⟩)
  rw [statement_eq, lined]
  simp only [List.flatMap_assoc, List.flatMap_map]

/-- A margin is put in front of each line and nowhere else, and nothing that is written besides the
text ends a line in a space. -/
theorem margin_before_each_line (indent : Nat) (escape : Bool) :
    (∀ c : Comment, Layout.comment ⟨indent, escape⟩ c =
      if Layout.comment ⟨0, escape⟩ c = [] then []
      else unlines ((Layout.comment ⟨0, escape⟩ c).lines.map (List.replicate indent ' ' ++ ·))) ∧
    (∀ s : Statement, ∃ ls : List Text, (∀ l ∈ ls, '\n' ∉ l) ∧
      Layout.statement ⟨0, escape⟩ s = ls.flatMap (· ++ ['\n']) ∧
      Layout.statement ⟨indent, escape⟩ s =
        ls.flatMap fun l => List.replicate indent ' ' ++ l ++ ['\n']) ∧
    (∀ c : Comment, List.Forall₂ (WrittenFor ⟨indent, escape⟩)
      (writtenLines ⟨indent, escape⟩ c) c.sources) ∧
    ∀ s : Statement, List.Forall₂ (WrittenFor ⟨indent, escape⟩)
      (Layout.statement ⟨indent, escape⟩ s).lines
      (s.comments.flatMap Comment.sources ++ [none]) :=
  ⟨comment_eq_map indent escape, statement_eq_map indent escape,
    writtenLines_sources ⟨indent, escape⟩, statement_sources ⟨indent, escape⟩⟩

end Layout

end JavaComments
