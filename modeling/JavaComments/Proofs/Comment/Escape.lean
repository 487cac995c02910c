import JavaComments.Proofs.Comment.WrittenLines

namespace JavaComments

section Pieces

variable {α β : Type} {f g : α → List β} {xs : List α}

theorem intercalate_cons_head (sep : List α) (x : α) (l : List α) (ls : List (List α)) :
    sep.intercalate ((x :: l) :: ls) = x :: sep.intercalate (l :: ls) := by
  cases ls <;> simp

theorem length_flatMap_le (h : ∀ x ∈ xs, (f x).length ≤ (g x).length) :
    (xs.flatMap f).length ≤ (xs.flatMap g).length := by
  induction xs with
  | nil => exact le_rfl
  | cons x xs ih =>
    obtain ⟨hx, hxs⟩ := List.forall_mem_cons.mp h
    rw [List.flatMap_cons, List.flatMap_cons, List.length_append, List.length_append]
    exact Nat.add_le_add hx (ih hxs)

/-- Pieces that are nowhere longer make the same whole only if they are the same one by one. -/
theorem flatMap_eq_flatMap_iff (h : ∀ x ∈ xs, (f x).length ≤ (g x).length) :
    xs.flatMap f = xs.flatMap g ↔ ∀ x ∈ xs, f x = g x := by
  constructor
  · intro he
    induction xs with
    | nil => simp
    | cons x xs ih =>
      obtain ⟨hx, hxs⟩ := List.forall_mem_cons.mp h
      rw [List.flatMap_cons, List.flatMap_cons] at he
      have total := congrArg List.length he
      rw [List.length_append, List.length_append] at total
      -- Neither the head nor the tail can make up for what the other one lacks.
      have tail := length_flatMap_le hxs
      have head : (f x).length = (g x).length := by omega
      obtain ⟨same, rest⟩ := List.append_inj he head
      exact List.forall_mem_cons.mpr ⟨same, ih hxs rest⟩
  · exact List.flatMap_congr

end Pieces

namespace Text

theorem escapeBlockEnd_of_not_hasBlockEnd {text : Text} (h : ¬ HasBlockEnd text) :
    text.escapeBlockEnd = text := by
  fun_induction escapeBlockEnd text with
  | case1 rest ih => exact absurd (hasBlockEnd_cons_iff.mpr (.inl ⟨rfl, rfl⟩)) h
  | case2 c rest hc ih =>
    rw [hasBlockEnd_cons_iff, not_or] at h
    rw [ih h.2]
  | case3 => rfl

theorem escapeBlockEnd_eq_self_iff {text : Text} :
    text.escapeBlockEnd = text ↔ ¬ HasBlockEnd text := by
  constructor
  · intro h
    have escaped := not_hasBlockEnd_escapeBlockEnd text
    rwa [h] at escaped
  · exact escapeBlockEnd_of_not_hasBlockEnd

theorem escapeBlockEnd_escapeBlockEnd (text : Text) :
    text.escapeBlockEnd.escapeBlockEnd = text.escapeBlockEnd :=
  escapeBlockEnd_of_not_hasBlockEnd (not_hasBlockEnd_escapeBlockEnd text)

theorem length_le_length_escapeBlockEnd (text : Text) :
    text.length ≤ text.escapeBlockEnd.length := by
  fun_induction escapeBlockEnd text with
  | case1 rest ih =>
    rw [List.length_append]
    simp only [List.length_cons, String.reduceToList, List.length_nil]
    omega
  | case2 c rest _ ih =>
    rw [List.length_cons, List.length_cons]
    omega
  | case3 => exact le_rfl

theorem lines_escapeBlockEnd (text : Text) :
    text.escapeBlockEnd.lines = text.lines.map escapeBlockEnd := by
  have free : ∀ l ∈ text.lines.map escapeBlockEnd, '\n' ∉ l := by
    intro l hl
    obtain ⟨line, hm, rfl⟩ := List.mem_map.mp hl
    exact lf_not_mem_escapeBlockEnd (lf_not_mem_line hm)
  calc text.escapeBlockEnd.lines = lines (unlines (text.lines.map escapeBlockEnd)) := by
        rw [← escapeBlockEnd_unlines, unlines_lines]
    _ = text.lines.map escapeBlockEnd := lines_unlines (by simp [lines_ne_nil]) free

theorem isMultiline_eq (text : Text) : text.isMultiline = decide (1 < text.lines.length) := by
  rw [length_lines, isMultiline, eq_comm, Bool.eq_iff_iff]
  simp

theorem isMultiline_escapeBlockEnd (text : Text) :
    text.escapeBlockEnd.isMultiline = text.isMultiline := by
  rw [isMultiline_eq, isMultiline_eq, lines_escapeBlockEnd, List.length_map]

/-- Every text falls into pieces that have no block end between its block ends, and the escape puts
the replacement between the same pieces. -/
theorem escapeBlockEnd_pieces (text : Text) : ∃ pieces : List Text, pieces ≠ [] ∧
    (∀ piece ∈ pieces, ¬ HasBlockEnd piece) ∧ text = "*/".toList.intercalate pieces ∧
      text.escapeBlockEnd = "*&#47;".toList.intercalate pieces := by
  fun_induction escapeBlockEnd text with
  | case1 rest ih =>
    obtain ⟨pieces, hne, hp, ht, he⟩ := ih
    refine ⟨[] :: pieces, List.cons_ne_nil _ _, ?_, ?_, ?_⟩
    · exact List.forall_mem_cons.mpr ⟨not_hasBlockEnd_nil, hp⟩
    · rw [List.intercalate_cons_of_ne_nil hne, ← ht]
      rfl
    · rw [List.intercalate_cons_of_ne_nil hne, ← he]
      rfl
  | case2 c rest hc ih =>
    obtain ⟨pieces, hne, hp, ht, he⟩ := ih
    obtain ⟨first, others, rfl⟩ := List.exists_cons_of_ne_nil hne
    obtain ⟨hf, ho⟩ := List.forall_mem_cons.mp hp
    refine ⟨(c :: first) :: others, List.cons_ne_nil _ _, ?_, ?_, ?_⟩
    · refine List.forall_mem_cons.mpr ⟨?_, ho⟩
      rw [hasBlockEnd_cons_iff, not_or]
      refine ⟨?_, hf⟩
      intro h
      -- A block end that `c` began would start the text, and the escape would have replaced it.
      obtain ⟨rfl, hh⟩ := h
      obtain ⟨tail, rfl⟩ := List.head?_eq_some_iff.mp hh
      rw [intercalate_cons_head] at ht
      exact hc _ rfl ht
    · rw [intercalate_cons_head, ← ht]
    · rw [intercalate_cons_head, ← he]
  | case3 => exact ⟨[[]], by simp, by simp, rfl, rfl⟩

end Text

/-- The comment with every block end in its text escaped; a line comment has no use for that. -/
def Comment.escaped : Comment → Comment
  | .line text => .line text
  | .block text => .block text.escapeBlockEnd
  | .javadoc doc => .javadoc ⟨doc.text.escapeBlockEnd⟩

/-- A block or documentation comment has a block end in its text. -/
def Comment.HoldsBlockEnd : Comment → Prop
  | .line _ => False
  | .block text => text.HasBlockEnd
  | .javadoc doc => doc.text.HasBlockEnd

namespace Layout

open Text

theorem guarded_escapeBlockEnd (layout : Layout) (text : Text) :
    layout.guarded text.escapeBlockEnd = text.escapeBlockEnd := by
  unfold guarded
  split
  next => exact escapeBlockEnd_escapeBlockEnd text
  next => rfl

theorem starBlock_escapeBlockEnd (indent : Nat) (escape : Bool) (opener text : Text) :
    Layout.starBlock ⟨indent, escape⟩ opener text.escapeBlockEnd =
      Layout.starBlock ⟨indent, true⟩ opener text := by
  have starred : (fun line => marked ⟨indent, escape⟩ " *".toList (guarded ⟨indent, escape⟩ line)) ∘
      escapeBlockEnd = fun line =>
        marked ⟨indent, true⟩ " *".toList (guarded ⟨indent, true⟩ line) := by
    funext line
    rw [Function.comp_apply, guarded_escapeBlockEnd]
    rfl
  rw [starBlock, starBlock, lines_escapeBlockEnd, List.map_map, starred]
  rfl

/-- Escaping the text first comes to the same as escaping while it is written. -/
theorem comment_escaped (indent : Nat) (escape : Bool) (c : Comment) :
    Layout.comment ⟨indent, escape⟩ c.escaped = Layout.comment ⟨indent, true⟩ c := by
  cases c with
  | line text => rfl
  | block text =>
    rw [Comment.escaped, comment, comment, blockComment, blockComment, isMultiline_escapeBlockEnd,
      starBlock_escapeBlockEnd, guarded_escapeBlockEnd]
    rfl
  | javadoc doc =>
    have void : JavaDoc.isEmpty ⟨doc.text.escapeBlockEnd⟩ = doc.isEmpty := by
      rw [Bool.eq_iff_iff, JavaDoc.isEmpty, JavaDoc.isEmpty, List.isEmpty_iff, List.isEmpty_iff,
        escapeBlockEnd_eq_nil_iff]
    rw [Comment.escaped, comment, comment, javadoc, javadoc, void, starBlock_escapeBlockEnd]

theorem escapeBlockEnd_marked (layout : Layout) (line : Text) :
    escapeBlockEnd (layout.marked " *".toList line) =
      layout.marked " *".toList line.escapeBlockEnd := by
  have bare : layout.marked " *".toList [] = layout.margin ++ " *".toList := by simp [marked]
  have front : escapeBlockEnd (layout.margin ++ " *".toList) = layout.margin ++ " *".toList := by
    rw [← bare, escapeBlockEnd_eq_self_iff, hasBlockEnd_marked_star_iff]
    exact not_hasBlockEnd_nil
  have filled {text : Text} (h : text ≠ []) :
      layout.marked " *".toList text = layout.margin ++ " *".toList ++ ' ' :: text := by
    simp [marked, h]
  cases line with
  | nil => rw [escapeBlockEnd_nil, bare, front]
  | cons c line =>
    have hl : c :: line ≠ [] := List.cons_ne_nil c line
    rw [filled hl, filled (mt escapeBlockEnd_eq_nil_iff.mp hl),
      escapeBlockEnd_append_cons (by decide), front, escapeBlockEnd_cons_of_ne (by decide)]

theorem unlines_marked_guarded (layout : Layout) (text : Text) :
    unlines (text.lines.map fun line => layout.marked " *".toList (layout.guarded line)) =
      layout.guarded (unlines (text.lines.map (layout.marked " *".toList))) := by
  unfold guarded
  split
  next =>
    rw [escapeBlockEnd_unlines, List.map_map]
    simp only [Function.comp_def, escapeBlockEnd_marked]
  next => rfl

theorem starBlock_guarded (indent : Nat) (opener text : Text) : ∃ front body back,
    (∀ escape, Layout.starBlock ⟨indent, escape⟩ opener text =
      front ++ Layout.guarded ⟨indent, escape⟩ body ++ back) ∧
    (HasBlockEnd body ↔ HasBlockEnd text) := by
  let bare : Layout := ⟨indent, false⟩
  refine ⟨bare.margin ++ opener ++ ['\n'], unlines (text.lines.map (bare.marked " *".toList)),
    '\n' :: bare.margin ++ " */".toList, ?_, ?_⟩
  · intro escape
    have unescaped : Layout.marked ⟨indent, escape⟩ = bare.marked := rfl
    have margined : Layout.margin ⟨indent, escape⟩ = bare.margin := rfl
    -- Guarding the marked lines one by one is guarding them as one text.
    rw [starBlock_eq, unlines_marked_guarded, unescaped, margined]
    simp only [List.append_assoc, List.cons_append, List.nil_append]
  · calc _ ↔ ∃ l ∈ text.lines, HasBlockEnd l := by
          simp only [hasBlockEnd_unlines_iff, List.mem_map, exists_exists_and_eq_and,
            hasBlockEnd_marked_star_iff]
      _ ↔ HasBlockEnd text := by rw [← hasBlockEnd_unlines_iff, unlines_lines]

/-- Only one part of what is written for a comment depends on the escape, and that part has a block
end exactly if the text of a block or documentation comment does. -/
theorem comment_guarded (indent : Nat) (c : Comment) : ∃ front body back,
    (∀ escape, Layout.comment ⟨indent, escape⟩ c =
      front ++ Layout.guarded ⟨indent, escape⟩ body ++ back) ∧
    (HasBlockEnd body ↔ c.HoldsBlockEnd) := by
  have nothing (escape : Bool) : Layout.guarded ⟨indent, escape⟩ [] = [] := by
    cases escape <;> rfl
  cases c with
  | line text =>
    refine ⟨Layout.lineComment ⟨indent, true⟩ text, [], [], ?_, ?_⟩
    · intro escape
      rw [nothing, List.append_nil, List.append_nil]
      rfl
    · simp [Comment.HoldsBlockEnd]
  | block text =>
    by_cases hm : text.isMultiline
    · obtain ⟨front, body, back, h, hb⟩ := starBlock_guarded indent "/*".toList text
      exact ⟨front, body, back, fun escape => by rw [comment, blockComment, if_pos hm, h], hb⟩
    · refine ⟨Layout.margin ⟨indent, true⟩ ++ "/* ".toList, text, " */".toList, ?_, Iff.rfl⟩
      intro escape
      rw [comment, blockComment, if_neg hm]
      rfl
  | javadoc doc =>
    by_cases hd : doc.isEmpty
    · refine ⟨[], doc.text, [], ?_, Iff.rfl⟩
      intro escape
      rw [comment, javadoc, if_pos hd, List.isEmpty_iff.mp hd, nothing]
      rfl
    · obtain ⟨front, body, back, h, hb⟩ := starBlock_guarded indent "/**".toList doc.text
      exact ⟨front, body, back, fun escape => by rw [comment, javadoc, if_neg hd, h], hb⟩

theorem length_comment_le (indent : Nat) (c : Comment) :
    (Layout.comment ⟨indent, false⟩ c).length ≤ (Layout.comment ⟨indent, true⟩ c).length := by
  obtain ⟨front, body, back, h, -⟩ := comment_guarded indent c
  have longer := length_le_length_escapeBlockEnd body
  rw [h, h]
  simp only [List.length_append, guarded, Bool.false_eq_true, ↓reduceIte]
  omega

theorem comment_eq_iff (indent : Nat) (c : Comment) :
    Layout.comment ⟨indent, false⟩ c = Layout.comment ⟨indent, true⟩ c ↔ ¬ c.HoldsBlockEnd := by
  obtain ⟨front, body, back, h, hb⟩ := comment_guarded indent c
  rw [h, h, ← hb, ← escapeBlockEnd_eq_self_iff]
  simp [guarded, eq_comm]

/-- Escaping the text of comments and then writing them without an escape comes to the same as
writing them with it, and nothing is left to escape then. So the escape makes a difference to a
statement exactly if a block end is in the text of one of its block or documentation comments. -/
theorem escape_before_writing (indent : Nat) :
    (∀ text : Text, ∃ pieces : List Text, pieces ≠ [] ∧ (∀ piece ∈ pieces, ¬ HasBlockEnd piece) ∧
      text = "*/".toList.intercalate pieces ∧
      text.escapeBlockEnd = "*&#47;".toList.intercalate pieces) ∧
    (∀ (c : Comment) (escape : Bool),
      Layout.comment ⟨indent, escape⟩ c.escaped = Layout.comment ⟨indent, true⟩ c) ∧
    ∀ s : Statement, Layout.statement ⟨indent, false⟩ s = Layout.statement ⟨indent, true⟩ s ↔
      ∀ c ∈ s.comments, ¬ c.HoldsBlockEnd := by
  refine ⟨escapeBlockEnd_pieces, fun c escape => comment_escaped indent escape c, ?_⟩
  intro s
  rw [statement_eq_flatMap, statement_eq_flatMap, flatMap_eq_flatMap_iff]
  · simp only [List.append_cancel_right_eq, comment_eq_iff]
  · intro c _
    have longer := length_comment_le indent c
    rw [List.length_append, List.length_append]
    omega

end Layout

end JavaComments
