import JavaComments.Comment.Layout
import JavaComments.Proofs.Text.Lines
import Mathlib.Data.List.Infix

namespace JavaComments

section Pairs

variable {α : Type} {a b c : α} {xs ys : List α}

theorem pair_prefix_iff : [a, b] <+: c :: xs ↔ c = a ∧ xs.head? = some b := by
  cases xs with
  | nil => simp
  | cons x xs => simp [eq_comm]

theorem pair_infix_cons_iff :
    [a, b] <:+: c :: xs ↔ (c = a ∧ xs.head? = some b) ∨ [a, b] <:+: xs := by
  rw [List.infix_cons_iff, pair_prefix_iff]

theorem pair_infix_append_iff :
    [a, b] <:+: xs ++ ys ↔
      [a, b] <:+: xs ∨ [a, b] <:+: ys ∨ (xs.getLast? = some a ∧ ys.head? = some b) := by
  induction xs with
  | nil => simp
  | cons x xs ih =>
    rw [List.cons_append, pair_infix_cons_iff, pair_infix_cons_iff, ih]
    cases xs with
    | nil => simp; tauto
    | cons x' xs => simp only [List.cons_append, List.head?_cons, List.getLast?_cons_cons]; tauto

theorem pair_infix_append_cons_iff (hc : c ≠ b) :
    [a, b] <:+: xs ++ c :: ys ↔ [a, b] <:+: xs ∨ [a, b] <:+: c :: ys := by
  simp [pair_infix_append_iff, hc]

/-- A separator that belongs to no pair leaves every pair within one of the pieces. -/
theorem pair_infix_intercalate_iff {sep : α} {ls : List (List α)} (ha : sep ≠ a) (hb : sep ≠ b) :
    [a, b] <:+: [sep].intercalate ls ↔ ∃ l ∈ ls, [a, b] <:+: l := by
  induction ls with
  | nil => simp
  | cons l ls ih =>
    cases ls with
    | nil => simp
    | cons l' ls =>
      rw [List.intercalate_cons_cons, List.append_assoc, List.singleton_append,
        pair_infix_append_cons_iff hb, pair_infix_cons_iff, ih]
      simp [ha]

end Pairs

namespace Text

/-- The two characters that end a block comment stand somewhere in the text. -/
def HasBlockEnd (text : Text) : Prop := ['*', '/'] <:+: text

@[simp] theorem not_hasBlockEnd_nil : ¬ HasBlockEnd [] := by simp [HasBlockEnd]

theorem hasBlockEnd_cons_iff {c : Char} {text : Text} :
    HasBlockEnd (c :: text) ↔ (c = '*' ∧ text.head? = some '/') ∨ HasBlockEnd text :=
  pair_infix_cons_iff

theorem hasBlockEnd_append_cons_iff {front back : Text} {c : Char} (hc : c ≠ '/') :
    HasBlockEnd (front ++ c :: back) ↔ HasBlockEnd front ∨ HasBlockEnd (c :: back) :=
  pair_infix_append_cons_iff hc

theorem hasBlockEnd_unlines_iff {ls : List Text} :
    HasBlockEnd (unlines ls) ↔ ∃ l ∈ ls, HasBlockEnd l :=
  pair_infix_intercalate_iff (by decide) (by decide)

theorem head?_escapeBlockEnd (text : Text) : text.escapeBlockEnd.head? = text.head? := by
  fun_cases escapeBlockEnd text <;> rfl

@[simp] theorem escapeBlockEnd_nil : escapeBlockEnd [] = [] := rfl

@[simp] theorem escapeBlockEnd_star_slash (text : Text) :
    escapeBlockEnd ('*' :: '/' :: text) = "*&#47;".toList ++ text.escapeBlockEnd := rfl

theorem escapeBlockEnd_cons {c : Char} {text : Text} (h : ¬ (c = '*' ∧ text.head? = some '/')) :
    escapeBlockEnd (c :: text) = c :: text.escapeBlockEnd := by
  rw [escapeBlockEnd.eq_def]
  split
  next heq => cases heq; exact absurd ⟨rfl, rfl⟩ h
  next heq => cases heq; rfl
  next heq => cases heq

theorem escapeBlockEnd_cons_of_ne {c : Char} (hc : c ≠ '*') (text : Text) :
    escapeBlockEnd (c :: text) = c :: text.escapeBlockEnd :=
  escapeBlockEnd_cons fun h => hc h.1

theorem escapeBlockEnd_eq_nil_iff {text : Text} : text.escapeBlockEnd = [] ↔ text = [] := by
  rw [← List.head?_eq_none_iff, head?_escapeBlockEnd, List.head?_eq_none_iff]

/-- A text without stars is at the front of an escaped text only if it was there before. -/
theorem escapeBlockEnd_eq_append_iff {text front back : Text} (h : '*' ∉ front) :
    text.escapeBlockEnd = front ++ back ↔
      ∃ rest, text = front ++ rest ∧ rest.escapeBlockEnd = back := by
  induction front generalizing text with
  | nil => simp
  | cons c front ih =>
    rw [List.mem_cons, not_or] at h
    cases text with
    | nil => simp
    | cons d text =>
      constructor
      · intro he
        have hd : d = c := by
          simpa [head?_escapeBlockEnd] using congrArg List.head? he
        rw [hd, escapeBlockEnd_cons_of_ne (Ne.symm h.1), List.cons_append, List.cons.injEq] at he
        obtain ⟨rest, rfl, hr⟩ := (ih h.2).mp he.2
        exact ⟨rest, by rw [hd, List.cons_append], hr⟩
      · intro h
        obtain ⟨rest, hd, hr⟩ := h
        obtain ⟨rfl, ht⟩ := List.cons.inj hd
        rw [escapeBlockEnd_cons_of_ne (Ne.symm h.1), (ih h.2).mpr ⟨rest, ht, hr⟩, List.cons_append]

theorem escapeBlockEnd_append_cons {c : Char} (hc : c ≠ '/') (front back : Text) :
    escapeBlockEnd (front ++ c :: back) = front.escapeBlockEnd ++ escapeBlockEnd (c :: back) := by
  fun_induction escapeBlockEnd front with
  | case1 rest ih => simp [ih]
  | case2 d rest hd ih =>
    rw [List.cons_append, List.cons_append, ← ih]
    apply escapeBlockEnd_cons
    intro h
    obtain ⟨rfl, hr⟩ := h
    cases rest with
    | nil => exact hc (by simpa using hr)
    | cons e rest => exact hd rest rfl (by simpa using hr)
  | case3 => rfl

theorem escapeBlockEnd_unlines (ls : List Text) :
    escapeBlockEnd (unlines ls) = unlines (ls.map escapeBlockEnd) := by
  induction ls with
  | nil => rfl
  | cons l ls ih =>
    cases ls with
    | nil => simp
    | cons l' ls =>
      rw [unlines_cons_cons, escapeBlockEnd_append_cons (by decide),
        escapeBlockEnd_cons_of_ne (by decide), ih]
      simp only [List.map_cons, unlines_cons_cons]

theorem lf_not_mem_escapeBlockEnd {text : Text} (h : '\n' ∉ text) : '\n' ∉ text.escapeBlockEnd := by
  fun_induction escapeBlockEnd text with
  | case1 rest ih =>
    rw [List.mem_append, not_or]
    exact ⟨by decide, ih fun hm => h (by simp [hm])⟩
  | case2 c rest _ ih =>
    rw [List.mem_cons, not_or] at h ⊢
    exact ⟨h.1, ih h.2⟩
  | case3 => exact h

/-- What replaces a block end meets neither side in a new one. -/
theorem not_hasBlockEnd_escapeBlockEnd (text : Text) : ¬ HasBlockEnd text.escapeBlockEnd := by
  fun_induction escapeBlockEnd text with
  | case1 rest ih => simpa [hasBlockEnd_cons_iff] using ih
  | case2 c rest hc ih =>
    rw [hasBlockEnd_cons_iff, head?_escapeBlockEnd, not_or]
    refine ⟨?_, ih⟩
    intro h
    obtain ⟨rfl, hr⟩ := h
    obtain ⟨tail, rfl⟩ := List.head?_eq_some_iff.mp hr
    exact hc tail rfl rfl
  | case3 => exact not_hasBlockEnd_nil

end Text

end JavaComments
