import JavaComments.Proofs.Comment.Escape

namespace JavaComments.Layout

open Text

/-- What a line comment says: its lines without margin and slashes, joined again. -/
def readLineComment? (indent : Nat) (written : Text) : Option Text :=
  (written.lines.mapM (unmarked? indent "//".toList)).map unlines

/-- What a star block says: the lines between its first and its last one, without margin and star,
joined again. -/
def readStarBlock? (indent : Nat) (written : Text) : Option Text :=
  (written.lines.tail.dropLast.mapM (unmarked? indent " *".toList)).map unlines

/-- What a block comment on one line says: all between its opener and its closer. -/
def readOneLine? (indent : Nat) (written : Text) : Option Text :=
  (written.dropPrefix? (List.replicate indent ' ' ++ "/* ".toList)).bind
    (·.dropSuffix? " */".toList)

/-- What a block comment says. Whether it is a star block is seen from what is written. -/
def readBlockComment? (indent : Nat) (written : Text) : Option Text :=
  if written.isMultiline then readStarBlock? indent written else readOneLine? indent written

variable {layout : Layout}

theorem length_lines_starBlock {opener : Text} (ho : '\n' ∉ opener) (text : Text) :
    (layout.starBlock opener text).lines.length = text.count '\n' + 3 := by
  rw [lines_starBlock ho]
  simp [length_lines]

theorem length_lines_blockComment (layout : Layout) (text : Text) :
    (layout.blockComment text).lines.length =
      if text.count '\n' = 0 then 1 else text.count '\n' + 3 := by
  rw [lines_blockComment]
  by_cases h : '\n' ∈ text
  · rw [if_pos (isMultiline_iff.mpr h), length_lines_starBlock (by decide),
      if_neg (mt List.count_eq_zero.mp (not_not.mpr h))]
  · rw [if_neg (mt isMultiline_iff.mp h), if_pos (List.count_eq_zero.mpr h)]
    rfl

theorem lf_mem_lineComment_iff {text : Text} : '\n' ∈ layout.lineComment text ↔ '\n' ∈ text := by
  rw [← isMultiline_iff, ← isMultiline_iff, isMultiline_eq, isMultiline_eq, lines_lineComment,
    List.length_map]

theorem lf_mem_blockComment_iff {text : Text} :
    '\n' ∈ layout.blockComment text ↔ '\n' ∈ text := by
  rw [← isMultiline_iff, isMultiline_eq, length_lines_blockComment, decide_eq_true_iff]
  split
  next h => simpa using List.count_eq_zero.mp h
  next h => simpa using List.count_pos_iff.mp (Nat.pos_of_ne_zero h)

theorem readLineComment?_lineComment (layout : Layout) (text : Text) :
    readLineComment? layout.indent (layout.lineComment text) = some text := by
  rw [readLineComment?, lines_lineComment, mapM_unmarked?_marked, Option.map_some, unlines_lines]

theorem readStarBlock?_starBlock {opener : Text} (ho : '\n' ∉ opener) (text : Text) :
    readStarBlock? layout.indent (layout.starBlock opener text) = some (layout.guarded text) := by
  rw [readStarBlock?, lines_starBlock ho, List.cons_append, List.tail_cons, List.dropLast_concat,
    mapM_unmarked?_marked, Option.map_some, unlines_guarded]

theorem readOneLine?_framed (layout : Layout) (body : Text) :
    readOneLine? layout.indent (layout.margin ++ "/* ".toList ++ body ++ " */".toList) =
      some body := by
  have opened : (layout.margin ++ "/* ".toList ++ body ++ " */".toList).dropPrefix?
      (List.replicate layout.indent ' ' ++ "/* ".toList) = some (body ++ " */".toList) := by
    rw [List.append_assoc]
    exact List.dropPrefix?_append_of_beq _ (beq_self_eq_true _)
  rw [readOneLine?, opened, Option.bind_some, List.dropSuffix?_eq_some_iff]
  exact ⟨_, rfl, beq_self_eq_true _⟩

theorem readBlockComment?_blockComment (layout : Layout) (text : Text) :
    readBlockComment? layout.indent (layout.blockComment text) = some (layout.guarded text) := by
  unfold readBlockComment?
  by_cases h : '\n' ∈ text
  · rw [if_pos (isMultiline_iff.mpr (lf_mem_blockComment_iff.mpr h)), blockComment,
      if_pos (isMultiline_iff.mpr h)]
    exact readStarBlock?_starBlock (by decide) text
  · rw [if_neg (mt isMultiline_iff.mp (mt lf_mem_blockComment_iff.mp h)), blockComment,
      if_neg (mt isMultiline_iff.mp h)]
    exact readOneLine?_framed layout _

/-- A line comment is read back as its text, and a block comment as its text with the escape in it
if there is one, by readers that know nothing but the margin. So no two texts are written alike
where nothing is escaped. What is written has several lines just where the text has: as many for a
line comment, and two more for a block comment, for the opener and the closer. -/
theorem line_and_block_read_back (indent : Nat) :
    (∀ (escape : Bool) (text : Text),
      readLineComment? indent (Layout.lineComment ⟨indent, escape⟩ text) = some text) ∧
    (∀ text : Text,
      readBlockComment? indent (Layout.blockComment ⟨indent, false⟩ text) = some text) ∧
    (∀ text : Text, ∃ pieces : List Text, pieces ≠ [] ∧ (∀ piece ∈ pieces, ¬ HasBlockEnd piece) ∧
      text = "*/".toList.intercalate pieces ∧
      readBlockComment? indent (Layout.blockComment ⟨indent, true⟩ text) =
        some ("*&#47;".toList.intercalate pieces)) ∧
    Function.Injective (Layout.lineComment ⟨indent, false⟩) ∧
    Function.Injective (Layout.blockComment ⟨indent, false⟩) ∧
    ∀ (escape : Bool) (text : Text),
      ('\n' ∈ Layout.lineComment ⟨indent, escape⟩ text ↔ '\n' ∈ text) ∧
      ('\n' ∈ Layout.blockComment ⟨indent, escape⟩ text ↔ '\n' ∈ text) ∧
      (Layout.lineComment ⟨indent, escape⟩ text).lines.length = text.count '\n' + 1 ∧
      (Layout.blockComment ⟨indent, escape⟩ text).lines.length =
        if text.count '\n' = 0 then 1 else text.count '\n' + 3 := by
  have line (escape : Bool) (text : Text) :
      readLineComment? indent (Layout.lineComment ⟨indent, escape⟩ text) = some text :=
    readLineComment?_lineComment ⟨indent, escape⟩ text
  have block (text : Text) :
      readBlockComment? indent (Layout.blockComment ⟨indent, false⟩ text) = some text :=
    readBlockComment?_blockComment ⟨indent, false⟩ text
  refine ⟨line, block, ?_, ?_, ?_, ?_⟩
  · intro text
    obtain ⟨pieces, hne, hp, ht, he⟩ := escapeBlockEnd_pieces text
    refine ⟨pieces, hne, hp, ht, ?_⟩
    rw [← he]
    exact readBlockComment?_blockComment ⟨indent, true⟩ text
  · intro one other h
    have first := line false one
    rw [h, line false other] at first
    exact (Option.some.inj first).symm
  · intro one other h
    have first := block one
    rw [h, block other] at first
    exact (Option.some.inj first).symm
  · intro escape text
    refine ⟨lf_mem_lineComment_iff, lf_mem_blockComment_iff, ?_, length_lines_blockComment _ text⟩
    rw [lines_lineComment, List.length_map, length_lines]

end JavaComments.Layout
