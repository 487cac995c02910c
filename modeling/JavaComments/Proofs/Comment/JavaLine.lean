import JavaComments.Comment.Layout
import JavaComments.Proofs.Text.Lines
import Mathlib.Data.List.Chain

namespace JavaComments

namespace Text

/-- Cuts where Java ends a line: at a line feed, at a carriage return, and at the two together. -/
def javaLines : Text → List Text
  | [] => [[]]
  | '\r' :: '\n' :: rest => [] :: javaLines rest
  | '\r' :: rest => [] :: javaLines rest
  | '\n' :: rest => [] :: javaLines rest
  | c :: rest => (javaLines rest).modifyHead (c :: ·)

theorem javaLines_return {text : Text} (h : text.head? ≠ some '\n') :
    javaLines ('\r' :: text) = [] :: text.javaLines := by
  rw [javaLines.eq_def]
  split
  next heq => cases heq
  next heq => cases heq; exact absurd rfl h
  next heq => cases heq; rfl
  next heq => cases heq
  next hr _ heq => cases heq; exact absurd rfl hr

theorem javaLines_cons {c : Char} (hr : c ≠ '\r') (hn : c ≠ '\n') (text : Text) :
    javaLines (c :: text) = text.javaLines.modifyHead (c :: ·) := by
  rw [javaLines.eq_def]
  split
  next heq => cases heq
  next heq => cases heq; exact absurd rfl hr
  next heq => cases heq; exact absurd rfl hr
  next heq => cases heq; exact absurd rfl hn
  next heq => cases heq; rfl

theorem javaLines_append_of_plain {front : Text} (h : ∀ c ∈ front, c ≠ '\r' ∧ c ≠ '\n')
    (back : Text) : javaLines (front ++ back) = back.javaLines.modifyHead (front ++ ·) := by
  induction front with
  | nil => exact (congrFun List.modifyHead_id back.javaLines).symm
  | cons c front ih =>
    obtain ⟨hc, hf⟩ := List.forall_mem_cons.mp h
    rw [List.cons_append, javaLines_cons hc.1 hc.2, ih hf, List.modifyHead_modifyHead]
    rfl

/-- A line feed behind a text leaves its first line alone, and keeps its other lines apart from what
follows. It may belong to a carriage return that has cut the text already. -/
theorem javaLines_append_lf (front back : Text) : ∃ first others joined,
    front.javaLines = first :: others ∧ javaLines (front ++ '\n' :: back) = first :: joined ∧
      ∀ piece ≠ [], piece ∈ joined ↔ piece ∈ others ∨ piece ∈ back.javaLines := by
  fun_induction javaLines front with
  | case1 => exact ⟨[], [], back.javaLines, rfl, rfl, by simp⟩
  | case2 rest ih | case4 rest ih =>
    obtain ⟨first, others, joined, ho, hj, hm⟩ := ih
    refine ⟨[], first :: others, first :: joined, by rw [ho], by simp [javaLines, hj], ?_⟩
    intro piece hp
    rw [List.mem_cons, List.mem_cons, hm piece hp, or_assoc]
  | case3 rest hlf ih =>
    cases rest with
    | nil =>
      -- The line feed ends no line of its own here: the return and it are one line end.
      exact ⟨[], [[]], back.javaLines, rfl, rfl, fun piece hp => by simp [hp]⟩
    | cons d rest =>
      obtain ⟨first, others, joined, ho, hj, hm⟩ := ih
      have hd : (d :: (rest ++ '\n' :: back)).head? ≠ some '\n' := by
        intro he
        exact hlf rest (by rw [Option.some.inj he])
      refine ⟨[], first :: others, first :: joined, by rw [ho], ?_, ?_⟩
      · rw [List.cons_append] at hj
        rw [List.cons_append, List.cons_append, javaLines_return hd, hj]
      · intro piece hp
        rw [List.mem_cons, List.mem_cons, hm piece hp, or_assoc]
  | case5 c rest _ hr hn ih =>
    obtain ⟨first, others, joined, ho, hj, hm⟩ := ih
    refine ⟨c :: first, others, joined, by rw [ho, List.modifyHead_cons], ?_, hm⟩
    rw [List.cons_append, javaLines_cons hr hn, hj, List.modifyHead_cons]

theorem javaLines_ne_nil (text : Text) : text.javaLines ≠ [] := by
  obtain ⟨first, others, _, h, -⟩ := javaLines_append_lf text []
  simp [h]

theorem mem_javaLines_append_lf {piece : Text} (hp : piece ≠ []) (front back : Text) :
    piece ∈ javaLines (front ++ '\n' :: back) ↔
      piece ∈ front.javaLines ∨ piece ∈ back.javaLines := by
  obtain ⟨first, others, joined, ho, hj, hm⟩ := javaLines_append_lf front back
  rw [ho, hj, List.mem_cons, List.mem_cons, hm piece hp, or_assoc]

/-- Lines that are joined are cut each for itself, up to empty pieces. -/
theorem mem_javaLines_unlines {piece : Text} (hp : piece ≠ []) (ls : List Text) :
    piece ∈ javaLines (unlines ls) ↔ ∃ l ∈ ls, piece ∈ l.javaLines := by
  induction ls with
  | nil => simpa [unlines, javaLines] using hp
  | cons l ls ih =>
    cases ls with
    | nil => simp
    | cons l' ls =>
      rw [unlines_cons_cons, mem_javaLines_append_lf hp, ih]
      simp

/-- No carriage return stands directly before anything but a line feed or another one. -/
def ReturnsAtBreaks (text : Text) : Prop :=
  text.IsChain fun c next => c = '\r' → next = '\r' ∨ next = '\n'

theorem returnsAtBreaks_cons_iff {c : Char} {text : Text} :
    ReturnsAtBreaks (c :: text) ↔
      (c = '\r' → ∀ next ∈ text.head?, next = '\r' ∨ next = '\n') ∧ text.ReturnsAtBreaks := by
  rw [ReturnsAtBreaks, List.isChain_cons]
  exact and_congr_left fun _ => ⟨fun h hc next hn => h next hn hc, fun h next hn hc => h hc next hn⟩

theorem returnsAtBreaks_append_lf {front back : Text} :
    ReturnsAtBreaks (front ++ '\n' :: back) ↔ front.ReturnsAtBreaks ∧ back.ReturnsAtBreaks := by
  induction front with
  | nil =>
    rw [List.nil_append, returnsAtBreaks_cons_iff]
    simp [ReturnsAtBreaks]
  | cons c front ih =>
    rw [List.cons_append, returnsAtBreaks_cons_iff, returnsAtBreaks_cons_iff, ih, and_assoc]
    cases front <;> simp

theorem returnsAtBreaks_unlines {ls : List Text} :
    ReturnsAtBreaks (unlines ls) ↔ ∀ l ∈ ls, l.ReturnsAtBreaks := by
  induction ls with
  | nil => simp [unlines, ReturnsAtBreaks]
  | cons l ls ih =>
    cases ls with
    | nil => simp
    | cons l' ls =>
      rw [unlines_cons_cons, returnsAtBreaks_append_lf, ih]
      simp

theorem head?_javaLines_eq_nil_iff (text : Text) :
    text.javaLines.head? = some [] ↔ ∀ c ∈ text.head?, c = '\r' ∨ c = '\n' := by
  fun_cases javaLines text with
  | case5 c rest _ hr hn =>
    obtain ⟨first, others, h⟩ := List.exists_cons_of_ne_nil (javaLines_ne_nil rest)
    have plain : ¬ (c = '\r' ∨ c = '\n') := not_or.mpr ⟨hr, hn⟩
    simp [h, plain]
  | _ => simp

/-- Java sees no more than empty lines behind the first one of a line exactly if nothing but
carriage returns follows a carriage return in it. -/
theorem tail_javaLines_eq_nil_iff {line : Text} (h : '\n' ∉ line) :
    (∀ piece ∈ line.javaLines.tail, piece = []) ↔ line.ReturnsAtBreaks := by
  induction line with
  | nil => simp [javaLines, ReturnsAtBreaks]
  | cons c line ih =>
    rw [List.mem_cons, not_or] at h
    rw [returnsAtBreaks_cons_iff, ← ih h.2]
    by_cases hc : c = '\r'
    · have hl : line.head? ≠ some '\n' := fun he => h.2 (List.mem_of_mem_head? he)
      obtain ⟨first, others, hj⟩ := List.exists_cons_of_ne_nil (javaLines_ne_nil line)
      have hfirst := head?_javaLines_eq_nil_iff line
      rw [hj, List.head?_cons, Option.some.injEq] at hfirst
      rw [hc, javaLines_return hl, hj, List.tail_cons, List.tail_cons, List.forall_mem_cons,
        hfirst]
      simp
    · rw [javaLines_cons hc (Ne.symm h.1)]
      simp [hc]

theorem tail_javaLines_lines_iff (text : Text) :
    (∀ line ∈ text.lines, ∀ piece ∈ line.javaLines.tail, piece = []) ↔ text.ReturnsAtBreaks := by
  calc _ ↔ ∀ line ∈ text.lines, line.ReturnsAtBreaks :=
        forall₂_congr fun _ hl => tail_javaLines_eq_nil_iff (lf_not_mem_line hl)
    _ ↔ text.ReturnsAtBreaks := by rw [← returnsAtBreaks_unlines, unlines_lines]

/-- Java sees nothing but line comments behind a margin, and empty lines. -/
def OnlyLineComments (indent : Nat) (source : Text) : Prop :=
  ∀ piece ∈ source.javaLines, piece ≠ [] → List.replicate indent ' ' ++ "//".toList <+: piece

end Text

namespace Layout

open Text

/-- Java cuts a line of a line comment just where it cuts the line of the text. -/
theorem javaLines_marked (layout : Layout) (line : Text) : ∃ first,
    (layout.marked "//".toList line).javaLines =
      (layout.margin ++ "//".toList ++ first) :: line.javaLines.tail := by
  let gap : Text := if line.isEmpty then [] else [' ']
  have written : layout.marked "//".toList line =
      (layout.margin ++ "//".toList ++ gap) ++ line := by
    cases line <;> simp [marked, gap]
  have plain : ∀ c ∈ layout.margin ++ "//".toList ++ gap, c ≠ '\r' ∧ c ≠ '\n' := by
    have blank : ∀ c ∈ gap, c = ' ' := by cases line <;> simp [gap]
    intro c hc
    have drawn : c = ' ' ∨ c = '/' := by
      rw [List.mem_append, List.mem_append] at hc
      rcases hc with (hc | hc) | hc
      · exact .inl (List.eq_of_mem_replicate hc)
      · exact .inr (by simpa using hc)
      · exact .inl (blank c hc)
    rcases drawn with rfl | rfl <;> decide
  obtain ⟨first, others, hl⟩ := List.exists_cons_of_ne_nil (javaLines_ne_nil line)
  refine ⟨gap ++ first, ?_⟩
  rw [written, javaLines_append_of_plain plain, hl]
  simp

theorem onlyLineComments_iff (layout : Layout) (text : Text) :
    OnlyLineComments layout.indent (layout.lineComment text) ↔
      ∀ line ∈ text.lines, ∀ piece ∈ line.javaLines.tail, piece ≠ [] →
        List.replicate layout.indent ' ' ++ "//".toList <+: piece := by
  constructor
  · intro h line hl piece hm hp
    obtain ⟨first, hj⟩ := javaLines_marked layout line
    refine h piece ((mem_javaLines_unlines hp _).mpr ⟨_, List.mem_map_of_mem hl, ?_⟩) hp
    rw [hj]
    exact List.mem_cons_of_mem _ hm
  · intro h piece hm hp
    obtain ⟨written, hw, hm⟩ := (mem_javaLines_unlines hp _).mp hm
    obtain ⟨line, hl, rfl⟩ := List.mem_map.mp hw
    obtain ⟨first, hj⟩ := javaLines_marked layout line
    rw [hj, List.mem_cons] at hm
    rcases hm with rfl | hm
    · exact List.prefix_append _ _
    · exact h line hl piece hm hp

/-- Java sees nothing but line comments where a line comment is written, exactly if what a carriage
return cuts off within a line of its text is empty or happens to look like one. It cannot look so
under every margin: there the text must have carriage returns only where its lines end. -/
theorem lineComment_onlyLineComments_iff (text : Text) :
    (∀ layout : Layout, OnlyLineComments layout.indent (layout.lineComment text) ↔
      ∀ line ∈ text.lines, ∀ piece ∈ line.javaLines.tail, piece ≠ [] →
        List.replicate layout.indent ' ' ++ "//".toList <+: piece) ∧
    ((∀ layout : Layout, OnlyLineComments layout.indent (layout.lineComment text)) ↔
      text.ReturnsAtBreaks) := by
  refine ⟨fun layout => onlyLineComments_iff layout text, ?_⟩
  simp only [onlyLineComments_iff]
  rw [← tail_javaLines_lines_iff]
  constructor
  · intro h line hl piece hm
    by_contra hp
    -- The margins of no space and of one space cannot both be at the front.
    obtain ⟨narrow, rfl⟩ := h ⟨0, true⟩ line hl piece hm hp
    obtain ⟨wide, hw⟩ := h ⟨1, true⟩ line hl _ hm hp
    cases hw
  · intro h layout line hl piece hm hp
    exact absurd (h line hl piece hm) hp

/-- A carriage return ends a line comment, and Java reads code behind it. -/
theorem not_forall_onlyLineComments :
    ¬ ∀ (layout : Layout) (text : Text),
      OnlyLineComments layout.indent (layout.lineComment text) := by
  intro h
  have cut : "two".toList ∈ ((⟨0, true⟩ : Layout).lineComment "one\rtwo".toList).javaLines := by
    decide
  have commented := h ⟨0, true⟩ "one\rtwo".toList "two".toList cut (by decide)
  revert commented
  decide

end Layout

end JavaComments
