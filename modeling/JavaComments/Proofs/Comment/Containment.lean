import JavaComments.Proofs.Comment.BlockEnd
import JavaComments.Proofs.Comment.Scanner
import JavaComments.Proofs.Text.Lines

namespace JavaComments

/-- In the code, the text is read to the code again, and these are the comments found in it. -/
def Text.ScansAs (text : Text) (comments : List Lexeme) : Prop :=
  ∃ lexemes, (∀ before, Scanner.run ⟨before, .code⟩ text = some ⟨before ++ lexemes, .code⟩) ∧
    lexemes.filter Lexeme.isComment = comments

namespace Text.ScansAs

theorem nil : ScansAs [] [] := ⟨[], by simp, rfl⟩

theorem append {front back : Text} {cs ds : List Lexeme} (hf : ScansAs front cs)
    (hb : ScansAs back ds) : ScansAs (front ++ back) (cs ++ ds) := by
  obtain ⟨xs, hxs, rfl⟩ := hf
  obtain ⟨ys, hys, rfl⟩ := hb
  refine ⟨xs ++ ys, ?_, List.filter_append ..⟩
  intro before
  rw [Scanner.run_append, hxs, Option.bind_some, hys, List.append_assoc]

theorem flatMap {α : Type} (items : List α) {text : α → Text} {comments : α → List Lexeme}
    (h : ∀ item ∈ items, ScansAs (text item) (comments item)) :
    ScansAs (items.flatMap text) (items.flatMap comments) := by
  induction items with
  | nil => exact nil
  | cons item items ih =>
    exact (h item List.mem_cons_self).append
      (ih fun other hm => h other (List.mem_cons_of_mem item hm))

theorem blank {c : Char} (h : c = ' ' ∨ c = '\n') : ScansAs [c] [] :=
  ⟨[.blank c], by simp [Scanner.step, h], rfl⟩

theorem margin (layout : Layout) : ScansAs layout.margin [] := by
  unfold Layout.margin
  induction layout.indent with
  | zero => exact nil
  | succ n ih => exact (blank (.inl rfl)).append ih

theorem line {body : Text} (h : '\n' ∉ body) :
    ScansAs ('/' :: '/' :: body ++ ['\n']) [.line ('/' :: '/' :: body)] := by
  have inside : ∀ before read, Scanner.run ⟨before, .line read⟩ (body ++ ['\n']) =
      some ⟨before ++ [.line ('/' :: '/' :: (read ++ body)), .blank '\n'], .code⟩ := by
    induction body with
    | nil => simp [Scanner.step]
    | cons c body ih =>
      intro before read
      rw [List.mem_cons, not_or] at h
      simp [Scanner.step, Ne.symm h.1, ih h.2]
  refine ⟨[.line ('/' :: '/' :: body), .blank '\n'], ?_, rfl⟩
  intro before
  simpa [Scanner.step] using inside before []

theorem block {body : Text} (h : ¬ HasBlockEnd body) :
    ScansAs ('/' :: '*' :: body ++ ['*', '/']) [.block ('/' :: '*' :: body ++ ['*', '/'])] := by
  have inside : ∀ before read, ¬ HasBlockEnd (read ++ body) →
      Scanner.run ⟨before, .block read⟩ (body ++ ['*', '/']) =
        some ⟨before ++ [.block ('/' :: '*' :: (read ++ body) ++ ['*', '/'])], .code⟩ := by
    clear h
    induction body with
    | nil => simp [Scanner.step]
    | cons c body ih =>
      intro before read hb
      have stays : ¬ (c = '/' ∧ read.getLast? = some '*') := by
        intro hx
        obtain ⟨rfl, hr⟩ := hx
        exact hb (pair_infix_append_iff.mpr (.inr (.inr ⟨hr, rfl⟩)))
      rw [← List.singleton_append, ← List.append_assoc] at hb
      simpa [Scanner.step, stays] using ih before (read ++ [c]) hb
  refine ⟨[.block ('/' :: '*' :: body ++ ['*', '/'])], ?_, rfl⟩
  intro before
  simpa [Scanner.step] using inside before [] h

end Text.ScansAs

namespace Layout

open Text

variable {layout : Layout}

/-- The comments that a scan finds where a comment is written. -/
def tokens (layout : Layout) (c : Comment) : List Lexeme :=
  match c with
  | .line text =>
    text.lines.map fun line => .line ('/' :: '/' :: if line.isEmpty then [] else ' ' :: line)
  | .block _ => [.block ((layout.comment c).drop layout.indent)]
  | .javadoc doc => if doc.isEmpty then [] else [.block ((layout.comment c).drop layout.indent)]

theorem drop_margin_append (text : Text) : (layout.margin ++ text).drop layout.indent = text := by
  simp [margin]

theorem not_hasBlockEnd_margin : ¬ HasBlockEnd layout.margin := by
  intro h
  have := List.eq_of_mem_replicate (h.subset (a := '*') (by simp))
  simp at this

theorem hasBlockEnd_margin_append_iff {c : Char} {text : Text} (hc : c ≠ '/') :
    HasBlockEnd (layout.margin ++ c :: text) ↔ HasBlockEnd (c :: text) := by
  simp [hasBlockEnd_append_cons_iff hc, not_hasBlockEnd_margin]

theorem hasBlockEnd_marked_star_iff {line : Text} :
    HasBlockEnd (layout.marked " *".toList line) ↔ HasBlockEnd line := by
  have hs : " *".toList = [' ', '*'] := rfl
  rw [marked, List.append_assoc, hs, List.cons_append, hasBlockEnd_margin_append_iff (by decide)]
  cases line with
  | nil => simp [hasBlockEnd_cons_iff]
  | cons c line => simp [hasBlockEnd_cons_iff]

theorem starBlock_eq (opener text : Text) :
    layout.starBlock opener text = layout.margin ++ (opener ++ '\n' ::
      (unlines (text.lines.map fun line => layout.marked " *".toList (layout.guarded line)) ++
        '\n' :: layout.margin ++ " */".toList)) := by
  let starred := text.lines.map fun line => layout.marked " *".toList (layout.guarded line)
  have hs : starred ≠ [] := by simp [starred, lines_ne_nil]
  calc layout.starBlock opener text
      = unlines ([layout.margin ++ opener] ++ (starred ++ [layout.margin ++ " */".toList])) := rfl
    _ = _ := by
      rw [unlines_append (by simp) (by simp), unlines_append hs (by simp), unlines_singleton,
        unlines_singleton]
      simp [starred]

/-- Neither the markers nor the breaks of a star block end it before its closer. -/
theorem starBlock_body (he : layout.escape = true) {opening : Text}
    (ho : opening = [] ∨ opening = ['*']) (text : Text) : ∃ body, ¬ HasBlockEnd body ∧
      layout.starBlock ('/' :: '*' :: opening) text =
        layout.margin ++ ('/' :: '*' :: body ++ ['*', '/']) := by
  let starred := text.lines.map fun line => layout.marked " *".toList (layout.guarded line)
  have hs : ¬ HasBlockEnd (unlines starred) := by
    rw [hasBlockEnd_unlines_iff]
    intro hx
    obtain ⟨l, hl, h⟩ := hx
    obtain ⟨line, _, rfl⟩ := List.mem_map.mp hl
    rw [hasBlockEnd_marked_star_iff, guarded, if_pos he] at h
    exact not_hasBlockEnd_escapeBlockEnd line h
  refine ⟨opening ++ '\n' :: (unlines starred ++ '\n' :: layout.margin ++ [' ']), ?_, ?_⟩
  · have hopen : ¬ HasBlockEnd opening := by
      rcases ho with rfl | rfl <;> simp [hasBlockEnd_cons_iff]
    simp [hasBlockEnd_append_cons_iff, hasBlockEnd_cons_iff, hopen, hs, not_hasBlockEnd_margin]
  · rw [starBlock_eq]
    simp [starred]

theorem blockComment_body (he : layout.escape = true) (text : Text) : ∃ body, ¬ HasBlockEnd body ∧
    layout.blockComment text = layout.margin ++ ('/' :: '*' :: body ++ ['*', '/']) := by
  unfold blockComment
  split
  next => exact starBlock_body he (.inl rfl) text
  next =>
    refine ⟨' ' :: (layout.guarded text ++ [' ']), ?_, ?_⟩
    · have hg : ¬ HasBlockEnd (layout.guarded text) := by
        rw [guarded, if_pos he]
        exact not_hasBlockEnd_escapeBlockEnd text
      simp [hasBlockEnd_append_cons_iff, hasBlockEnd_cons_iff, hg]
    · simp

theorem marked_ne_nil {marker : Text} (hm : marker ≠ []) (line : Text) :
    layout.marked marker line ≠ [] := by
  simp [marked, hm]

theorem lineComment_ne_nil (text : Text) : layout.lineComment text ≠ [] := by
  rw [lineComment, ne_eq, unlines_eq_nil_iff, List.map_eq_nil_iff, List.map_eq_singleton_iff]
  rintro (hl | ⟨line, _, hl⟩)
  · exact lines_ne_nil text hl
  · exact marked_ne_nil (by simp) line hl

theorem lineComment_scansAs (layout : Layout) (text : Text) :
    ScansAs (layout.lineComment text ++ ['\n']) (layout.tokens (.line text)) := by
  have hl : text.lines.map (layout.marked "//".toList) ≠ [] := by simp [lines_ne_nil]
  rw [lineComment, unlines_append_lf hl, List.flatMap_map, tokens, List.map_eq_flatMap]
  apply ScansAs.flatMap
  intro line hm
  have hn := lf_not_mem_line hm
  have body : '\n' ∉ (if line.isEmpty then [] else ' ' :: line) := by
    cases line with
    | nil => simp
    | cons c line => simpa using hn
  have := (ScansAs.margin layout).append (ScansAs.line body)
  simpa [marked] using this

theorem block_scansAs {written body : Text} (hb : ¬ HasBlockEnd body)
    (h : written = layout.margin ++ ('/' :: '*' :: body ++ ['*', '/'])) :
    ScansAs (written ++ ['\n']) [.block (written.drop layout.indent)] := by
  have := ((ScansAs.margin layout).append (ScansAs.block hb)).append (ScansAs.blank (.inr rfl))
  rw [h, drop_margin_append]
  simpa using this

/-- What a comment adds to a statement is scanned as that comment and blanks around it. -/
theorem comment_scansAs (layout : Layout) (he : layout.escape = true) (c : Comment) :
    ScansAs (if (layout.comment c).isEmpty then [] else layout.comment c ++ ['\n'])
      (layout.tokens c) := by
  cases c with
  | line text =>
    simpa [comment, lineComment_ne_nil] using lineComment_scansAs layout text
  | block text =>
    obtain ⟨body, hb, h⟩ := blockComment_body he text
    have ne : layout.blockComment text ≠ [] := by simp [h]
    simpa [comment, tokens, ne] using block_scansAs hb h
  | javadoc doc =>
    by_cases hd : doc.isEmpty
    · simpa [comment, tokens, javadoc, hd] using ScansAs.nil
    · obtain ⟨body, hb, h⟩ := starBlock_body he (.inr rfl) doc.text
      have ne : layout.starBlock ['/', '*', '*'] doc.text ≠ [] := by simp [h]
      simpa [comment, tokens, javadoc, hd, ne] using block_scansAs hb h

/-- Under an escaping layout, the text of a statement is read as comments and nothing else: a scan
of it ends in the code, its lexemes make up the text, and the comments among them are, in order,
one for each line of a line comment and one for each other comment that is not empty. -/
theorem statement_scans_as_comments (indent : Nat) (statement : Statement) :
    ∃ lexemes,
      Scanner.run {} (Layout.statement ⟨indent, true⟩ statement) = some ⟨lexemes, .code⟩ ∧
      lexemes.flatMap Lexeme.text = Layout.statement ⟨indent, true⟩ statement ∧
      lexemes.filter Lexeme.isComment = statement.comments.flatMap (tokens ⟨indent, true⟩) := by
  obtain ⟨lexemes, hscan, hfound⟩ := ScansAs.flatMap statement.comments
    fun c _ => comment_scansAs ⟨indent, true⟩ rfl c
  have run : Scanner.run {} (Layout.statement ⟨indent, true⟩ statement) = some ⟨lexemes, .code⟩ :=
    hscan []
  refine ⟨lexemes, run, ?_, hfound⟩
  have read := Scanner.run_text run
  simpa [Scanner.text, Mode.text] using read

end Layout

end JavaComments
