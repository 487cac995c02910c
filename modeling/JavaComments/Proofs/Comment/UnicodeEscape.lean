import JavaComments.Proofs.Comment.Containment
import JavaComments.Proofs.Comment.UnitGuard

namespace JavaComments

namespace Text

open CodeUnit

/-- What Java reads in a text, as UTF-16 units. -/
def javaUnits (text : Text) : List Nat := text.codeUnits.map CodeUnit.value

@[simp] theorem javaUnits_nil : javaUnits [] = [] := by simp [javaUnits, codeUnits]

theorem javaUnits_append_of_plain {front : Text}
    (h : ∀ c ∈ front, c ≠ '\\' ∧ c.toNat < 0x10000) (back : Text) :
    javaUnits (front ++ back) = front.map Char.toNat ++ back.javaUnits := by
  simp [javaUnits, codeUnits_append_of_plain h, raw]

theorem javaUnits_append_cons {c : Char} (hc : c = ' ' ∨ c = '\n') (front back : Text) :
    javaUnits (front ++ c :: back) = front.javaUnits ++ c.toNat :: back.javaUnits := by
  have hs : codeUnits (c :: back) = raw c.toNat :: back.codeUnits := by
    rcases hc with rfl | rfl <;> exact codeUnits_cons_of_lt (by decide) (by decide) back
  rw [javaUnits, codeUnits, codeUnitsFrom_append_cons hc, hs, List.map_append]
  rfl

/-- Java reads the end of a block comment somewhere in the text. -/
def ReadsBlockEnd (text : Text) : Prop := [asterisk, solidus] <:+: text.javaUnits

theorem readsBlockEnd_escapeBlockEnd_iff (text : Text) :
    ReadsBlockEnd text.escapeBlockEnd ↔ HidesBlockEnd text.codeUnits := by
  rw [ReadsBlockEnd, javaUnits, codeUnits, codeUnitsFrom_escapeBlockEnd]
  exact blockEnd_guarded_iff text.codeUnits

@[simp] theorem not_readsBlockEnd_nil : ¬ ReadsBlockEnd [] := by simp [ReadsBlockEnd]

@[simp] theorem not_readsBlockEnd_star : ¬ ReadsBlockEnd ['*'] := by
  have hs : javaUnits ['*'] = [asterisk] := by
    rw [← List.append_nil ['*'], javaUnits_append_of_plain (by simp), javaUnits_nil]
    rfl
  rw [ReadsBlockEnd, hs]
  decide

theorem readsBlockEnd_append_cons_iff {c : Char} (hc : c = ' ' ∨ c = '\n') (front back : Text) :
    ReadsBlockEnd (front ++ c :: back) ↔ ReadsBlockEnd front ∨ ReadsBlockEnd back := by
  have ha : c.toNat ≠ asterisk := by rcases hc with rfl | rfl <;> decide
  have hs : c.toNat ≠ solidus := by rcases hc with rfl | rfl <;> decide
  rw [ReadsBlockEnd, javaUnits_append_cons hc, pair_infix_append_cons_iff hs, pair_infix_cons_iff]
  simp [ha, ReadsBlockEnd]

theorem readsBlockEnd_cons_iff {c : Char} (hc : c = ' ' ∨ c = '\n') (text : Text) :
    ReadsBlockEnd (c :: text) ↔ ReadsBlockEnd text := by
  simpa using readsBlockEnd_append_cons_iff hc [] text

theorem readsBlockEnd_unlines_iff {ls : List Text} :
    ReadsBlockEnd (unlines ls) ↔ ∃ l ∈ ls, ReadsBlockEnd l := by
  induction ls with
  | nil => simp [ReadsBlockEnd, unlines]
  | cons l ls ih =>
    cases ls with
    | nil => simp
    | cons l' ls =>
      rw [unlines_cons_cons, readsBlockEnd_append_cons_iff (.inr rfl), ih]
      simp

end Text

open CodeUnit

/-- The comment is written between block delimiters. -/
def Comment.isBlock : Comment → Bool
  | .line _ => false
  | .block _ => true
  | .javadoc doc => !doc.isEmpty

/-- After a margin, a block comment opens, and the first end of it that follows is the last thing
in the text. -/
def IsOneBlock (indent : Nat) (units : List Nat) : Prop :=
  ∃ body, units = List.replicate indent ' '.toNat ++
      ([solidus, asterisk] ++ body ++ [asterisk, solidus]) ∧
    ¬ [asterisk, solidus] <:+: body

namespace Layout

open Text

variable {layout : Layout}

theorem readsBlockEnd_margin_append_iff (layout : Layout) (text : Text) :
    ReadsBlockEnd (layout.margin ++ text) ↔ ReadsBlockEnd text := by
  unfold margin
  induction layout.indent with
  | zero => rfl
  | succ n ih =>
    rw [List.replicate_succ, List.cons_append, readsBlockEnd_cons_iff (.inl rfl), ih]

theorem readsBlockEnd_marked_star_iff {line : Text} :
    ReadsBlockEnd (layout.marked [' ', '*'] line) ↔ ReadsBlockEnd line := by
  rw [marked, List.append_assoc, readsBlockEnd_margin_append_iff, List.cons_append,
    readsBlockEnd_cons_iff (.inl rfl)]
  cases line with
  | nil => simp
  | cons c line =>
    simpa using readsBlockEnd_append_cons_iff (.inl rfl) ['*'] (c :: line)

theorem readsBlockEnd_starred_iff (he : layout.escape = true) (text : Text) :
    ReadsBlockEnd (unlines (text.lines.map fun line =>
      layout.marked [' ', '*'] (layout.guarded line))) ↔ HidesBlockEnd text.codeUnits := by
  calc _ ↔ ∃ l ∈ text.lines.map escapeBlockEnd, ReadsBlockEnd l := by
        simp [readsBlockEnd_unlines_iff, readsBlockEnd_marked_star_iff, guarded, he]
    _ ↔ HidesBlockEnd text.codeUnits := by
        rw [← readsBlockEnd_unlines_iff, ← escapeBlockEnd_unlines, unlines_lines,
          readsBlockEnd_escapeBlockEnd_iff]

theorem starBlock_inside (he : layout.escape = true) {opening : Text}
    (ho : opening = [] ∨ opening = ['*']) (text : Text) :
    ∃ inside, layout.starBlock ('/' :: '*' :: opening) text =
        layout.margin ++ ("/*".toList ++ inside ++ " */".toList) ∧
      (ReadsBlockEnd inside ↔ HidesBlockEnd text.codeUnits) := by
  let starred := text.lines.map fun line => layout.marked [' ', '*'] (layout.guarded line)
  refine ⟨opening ++ '\n' :: (unlines starred ++ '\n' :: layout.margin), ?_, ?_⟩
  · rw [starBlock_eq]
    simp [starred]
  · have hopen : ¬ ReadsBlockEnd opening := by rcases ho with rfl | rfl <;> simp
    have hmargin : ¬ ReadsBlockEnd layout.margin := by
      simpa using (readsBlockEnd_margin_append_iff layout []).not
    rw [readsBlockEnd_append_cons_iff (.inr rfl), readsBlockEnd_append_cons_iff (.inr rfl),
      readsBlockEnd_starred_iff he]
    simp [hopen, hmargin]

/-- Java reads an end between the delimiters of a comment exactly where its text hides one. -/
theorem comment_inside (layout : Layout) (he : layout.escape = true) {c : Comment}
    (hc : c.isBlock = true) :
    ∃ inside, layout.comment c = layout.margin ++ ("/*".toList ++ inside ++ " */".toList) ∧
      (ReadsBlockEnd inside ↔ HidesBlockEnd c.text.codeUnits) := by
  cases c with
  | line text => cases hc
  | block text =>
    rw [comment, blockComment]
    split
    next => exact starBlock_inside he (.inl rfl) text
    next =>
      refine ⟨' ' :: layout.guarded text, by simp, ?_⟩
      rw [readsBlockEnd_cons_iff (.inl rfl), guarded, if_pos he]
      exact readsBlockEnd_escapeBlockEnd_iff text
  | javadoc doc =>
    have hd : ¬ doc.isEmpty = true := by simpa [Comment.isBlock] using hc
    rw [comment, javadoc, if_neg hd]
    exact starBlock_inside he (.inr rfl) doc.text

theorem isOneBlock_iff (layout : Layout) (inside : Text) :
    IsOneBlock layout.indent (javaUnits (layout.margin ++ ("/*".toList ++ inside ++ " */".toList)))
      ↔ ¬ ReadsBlockEnd inside := by
  have units : javaUnits (layout.margin ++ ("/*".toList ++ inside ++ " */".toList)) =
      List.replicate layout.indent ' '.toNat ++ ([solidus, asterisk] ++
        (inside.javaUnits ++ [' '.toNat]) ++ [asterisk, solidus]) := by
    have front : ∀ c ∈ layout.margin ++ "/*".toList, c ≠ '\\' ∧ c.toNat < 0x10000 := by
      intro c hc
      rcases List.mem_append.mp hc with hc | hc
      · rw [List.eq_of_mem_replicate hc]
        decide
      · have opener : ∀ d ∈ "/*".toList, d ≠ '\\' ∧ d.toNat < 0x10000 := by simp
        exact opener c hc
    have closer : javaUnits ['*', '/'] = [asterisk, solidus] := by
      rw [← List.append_nil ['*', '/'], javaUnits_append_of_plain (by simp), javaUnits_nil]
      rfl
    calc _ = javaUnits ((layout.margin ++ "/*".toList) ++ (inside ++ ' ' :: ['*', '/'])) := by simp
      _ = _ := by
        rw [javaUnits_append_of_plain front, javaUnits_append_cons (.inl rfl), closer]
        simp [margin, asterisk, solidus]
  -- The space of the closer keeps its star apart from the last unit inside.
  have body : [asterisk, solidus] <:+: inside.javaUnits ++ [' '.toNat] ↔ ReadsBlockEnd inside := by
    rw [pair_infix_append_cons_iff (by decide), pair_infix_cons_iff]
    simp [ReadsBlockEnd, asterisk]
  rw [units, ← body]
  constructor
  · intro hx
    obtain ⟨other, he, ho⟩ := hx
    have hb := List.append_cancel_left (List.append_cancel_right (List.append_cancel_left he))
    rwa [hb]
  · exact fun h => ⟨_, rfl, h⟩

/-- As Java reads it, a block comment under an escaping layout ends where it is meant to exactly
when no escape in its text spells a part of a block end. -/
theorem comment_isOneBlock_iff (indent : Nat) {c : Comment} (hc : c.isBlock = true) :
    IsOneBlock indent (javaUnits (Layout.comment ⟨indent, true⟩ c)) ↔
      ¬ HidesBlockEnd c.text.codeUnits := by
  obtain ⟨inside, hw, hi⟩ := comment_inside ⟨indent, true⟩ rfl hc
  rw [hw, ← hi]
  exact isOneBlock_iff ⟨indent, true⟩ inside

theorem comment_isOneBlock_iff_block_end : Comment.isBlock (.block "a */ b".toList) = true ∧
    IsOneBlock 2 (javaUnits (Layout.comment ⟨2, true⟩ (.block "a */ b".toList))) := by
  have plain : ¬ HidesBlockEnd (codeUnits "a */ b".toList) := by
    rw [← List.append_nil "a */ b".toList, codeUnits_append_of_plain (by simp), codeUnits,
      codeUnitsFrom_nil]
    unfold HidesBlockEnd
    decide
  exact ⟨rfl, (comment_isOneBlock_iff 2 rfl).mpr plain⟩

/-- A star that is spelt by an escape is not seen, and the slash behind it ends the comment. -/
theorem not_isOneBlock_escaped_star :
    ¬ IsOneBlock 0 (javaUnits (Layout.comment ⟨0, true⟩ (.block "\\u002a/ x".toList))) := by
  have hidden : HidesBlockEnd (codeUnits "\\u002a/ x".toList) := by
    have escape : unicodeEscape? "u002a/ x".toList = some (asterisk, "/ x".toList) := rfl
    have units : codeUnits "\\u002a/ x".toList =
        ⟨asterisk, true⟩ :: codeUnits ('/' :: " x".toList) :=
      codeUnits_escape escape
    rw [units, hidesBlockEnd_cons_iff, codeUnits_cons_of_lt (by decide) (by decide)]
    exact .inl ⟨true, false, rfl, rfl, rfl⟩
  have block : Comment.isBlock (.block "\\u002a/ x".toList) = true := rfl
  obtain ⟨inside, hw, hi⟩ := comment_inside ⟨0, true⟩ rfl block
  rw [hw]
  intro h
  exact (isOneBlock_iff ⟨0, true⟩ inside).mp h (hi.mpr hidden)

end Layout

end JavaComments
