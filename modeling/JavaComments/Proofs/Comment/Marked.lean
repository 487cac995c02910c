import JavaComments.Proofs.Comment.BlockEnd
import Mathlib.Data.List.Basic

namespace JavaComments

namespace Layout

open Text

/-- What a line says behind its marker: nothing, or what follows one space. -/
def unspaced? : Text → Option Text
  | [] => some []
  | ' ' :: line => some line
  | _ => none

/-- What a line says that is written with a margin and a marker. -/
def unmarked? (indent : Nat) (marker written : Text) : Option Text :=
  (written.dropPrefix? (List.replicate indent ' ' ++ marker)).bind unspaced?

variable {layout : Layout}

theorem unmarked?_marked (marker line : Text) :
    unmarked? layout.indent marker (layout.marked marker line) = some line := by
  have behind :
      (layout.marked marker line).dropPrefix? (List.replicate layout.indent ' ' ++ marker) =
        some (if line.isEmpty then [] else ' ' :: line) :=
    List.dropPrefix?_append_of_beq _ (beq_self_eq_true _)
  rw [unmarked?, behind, Option.bind_some]
  cases line <;> rfl

/-- Lines that are written under one marker are read back one by one. -/
theorem mapM_unmarked?_marked (marker : Text) (ls : List Text) :
    (ls.map (layout.marked marker)).mapM (unmarked? layout.indent marker) = some ls := by
  induction ls with
  | nil => rfl
  | cons line ls ih => simp [unmarked?_marked, ih]

theorem lf_not_mem_margin : '\n' ∉ layout.margin := by
  simp [margin]

theorem lf_not_mem_marked {marker line : Text} (hm : '\n' ∉ marker) (hl : '\n' ∉ line) :
    '\n' ∉ layout.marked marker line := by
  cases line <;> simp_all [marked, lf_not_mem_margin]

theorem lf_not_mem_guarded {line : Text} (h : '\n' ∉ line) : '\n' ∉ layout.guarded line := by
  unfold guarded
  split
  next => exact lf_not_mem_escapeBlockEnd h
  next => exact h

/-- The escape of a text is the escape of its lines, as no block end reaches over a line feed. -/
theorem unlines_guarded (layout : Layout) (text : Text) :
    unlines (text.lines.map layout.guarded) = layout.guarded text := by
  unfold guarded
  split
  next => rw [← escapeBlockEnd_unlines, unlines_lines]
  next => rw [List.map_id', unlines_lines]

theorem lines_starBlock {opener : Text} (ho : '\n' ∉ opener) (text : Text) :
    (layout.starBlock opener text).lines =
      (layout.margin ++ opener) ::
        (text.lines.map layout.guarded).map (layout.marked " *".toList) ++
        [layout.margin ++ " */".toList] := by
  rw [starBlock, List.map_map]
  apply lines_unlines (by simp)
  intro l hl
  rw [List.mem_append, List.mem_cons, List.mem_singleton] at hl
  rcases hl with (rfl | hl) | rfl
  · simp [lf_not_mem_margin, ho]
  · obtain ⟨line, hm, rfl⟩ := List.mem_map.mp hl
    exact lf_not_mem_marked (by decide) (lf_not_mem_guarded (lf_not_mem_line hm))
  · simp [lf_not_mem_margin]

theorem javadoc_eq_nil_iff {doc : JavaDoc} : layout.javadoc doc = [] ↔ doc.text = [] := by
  unfold javadoc
  split
  next h => simpa [JavaDoc.isEmpty] using h
  next h =>
    have written : layout.starBlock "/**".toList doc.text ≠ [] := by
      simp [starBlock, unlines_eq_nil_iff]
    exact iff_of_false written (by simpa [JavaDoc.isEmpty] using h)

/-- The lines between the opener and the closer of a documentation comment say its text. -/
theorem lines_javadoc {doc : JavaDoc} (h : doc.text ≠ []) :
    ∃ starred : List Text,
      (layout.javadoc doc).lines =
        (layout.margin ++ "/**".toList) :: starred ++ [layout.margin ++ " */".toList] ∧
      starred.length = doc.lines.length ∧
      (starred.mapM (unmarked? layout.indent " *".toList)).map unlines =
        some (layout.guarded doc.text) := by
  have hd : ¬ doc.isEmpty = true := by simpa [JavaDoc.isEmpty] using h
  refine ⟨(doc.lines.map layout.guarded).map (layout.marked " *".toList), ?_, by simp, ?_⟩
  · rw [javadoc, if_neg hd, lines_starBlock (by decide)]
    rfl
  · rw [mapM_unmarked?_marked, Option.map_some, JavaDoc.lines, unlines_guarded]

end Layout

end JavaComments
