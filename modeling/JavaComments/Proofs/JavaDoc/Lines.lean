import JavaComments.Proofs.Comment.Marked
import JavaComments.Proofs.JavaDoc.Entries
import Mathlib.Algebra.GroupWithZero.Nat

namespace JavaComments

section Pieces

variable {α β : Type} {f : α → List β} {xs : List α}

theorem flatMap_eq_nil_iff_of_ne (h : ∀ x, f x ≠ []) : xs.flatMap f = [] ↔ xs = [] := by
  cases xs with
  | nil => simp
  | cons x xs => simp [h x]

/-- Where every piece holds something, a single entry comes from a single piece. -/
theorem flatMap_eq_singleton_iff_of_ne (h : ∀ x, f x ≠ []) {y : β} :
    xs.flatMap f = [y] ↔ ∃ x, xs = [x] ∧ f x = [y] := by
  cases xs with
  | nil => simp
  | cons x xs =>
    rw [List.flatMap_cons, List.append_eq_singleton_iff, flatMap_eq_nil_iff_of_ne h]
    simp [h x, and_comm]

end Pieces

namespace Fragment

theorem entries_ne_nil (fragment : Fragment) : fragment.entries ≠ [] := by
  cases fragment <;> simp [entries, listEntries]

/-- Only a comment has no mark of its own. -/
theorem entries_eq_blank_iff {fragment : Fragment} :
    fragment.entries = [[]] ↔ fragment = .comment [] := by
  cases fragment <;> simp [entries, listEntries]

end Fragment

theorem Param.entry_ne_nil (param : Param) : param.entry ≠ [] :=
  List.append_ne_nil_of_right_ne_nil _ (List.cons_ne_nil _ _)

theorem Throws.entry_ne_nil (clause : Throws) : clause.entry ≠ [] :=
  List.append_ne_nil_of_right_ne_nil _ (List.cons_ne_nil _ _)

theorem deprecatedEntry_ne_nil (notice : Text) : deprecatedEntry notice ≠ [] :=
  List.append_ne_nil_of_left_ne_nil (by decide) notice

/-- The calls leave nothing to say: no parameter, no clause and no notice in effect, and no
description, or one that is a single empty comment. -/
structure Call.SayNothing (calls : List Call) : Prop where
  params : calls.filterMap param? = []
  throws : ∀ clause ∈ last? throws? calls, clause.type = []
  deprecated : ∀ notice ∈ last? notice? calls, notice = []
  body : calls.filterMap fragment? = [] ∨ calls.filterMap fragment? = [.comment []]

namespace Builder

variable {calls : List Call} {b : Builder}

/-- The entries behind the description. -/
def tagEntries (b : Builder) : List Text :=
  b.params.map Param.entry ++ b.throws.toList.map Throws.entry ++
    b.deprecated.toList.map deprecatedEntry

theorem entries_eq_append (b : Builder) : b.entries = b.bodyEntries ++ b.tagEntries := by
  simp [entries, tagEntries]

theorem tagEntries_eq_nil_iff :
    b.tagEntries = [] ↔ b.params = [] ∧ b.throws = none ∧ b.deprecated = none := by
  simp [tagEntries]

/-- Every entry behind the description begins with its tag. -/
theorem blank_not_mem_tagEntries (b : Builder) : [] ∉ b.tagEntries := by
  simp [tagEntries, Param.entry_ne_nil, Throws.entry_ne_nil, deprecatedEntry_ne_nil]

theorem bodyEntries_eq_nil_iff : b.bodyEntries = [] ↔ b.body = [] :=
  flatMap_eq_nil_iff_of_ne Fragment.entries_ne_nil

theorem bodyEntries_eq_blank_iff : b.bodyEntries = [[]] ↔ b.body = [.comment []] := by
  rw [bodyEntries, flatMap_eq_singleton_iff_of_ne Fragment.entries_ne_nil]
  simp [Fragment.entries_eq_blank_iff]

theorem build_text_eq_nil_iff : b.build.text = [] ↔
    (b.params = [] ∧ b.throws = none ∧ b.deprecated = none) ∧
      (b.body = [] ∨ b.body = [.comment []]) := by
  rw [build, Text.unlines_eq_nil_iff, entries_eq_append, List.append_eq_nil_iff,
    List.append_eq_singleton_iff, bodyEntries_eq_nil_iff, bodyEntries_eq_blank_iff,
    tagEntries_eq_nil_iff]
  have tagged : b.tagEntries ≠ [[]] := by
    intro h
    exact blank_not_mem_tagEntries b (h ▸ List.mem_singleton.mpr rfl)
  tauto

theorem Holds.build_text_eq_nil_iff (h : Holds calls b) :
    b.build.text = [] ↔ Call.SayNothing calls := by
  rw [Builder.build_text_eq_nil_iff, h.params, h.throws, h.deprecated, h.body,
    Option.filter_eq_none_iff, Option.filter_eq_none_iff]
  simp only [Bool.not_eq_true', Bool.not_eq_false, List.isEmpty_iff]
  constructor
  · rintro ⟨⟨params, throws, deprecated⟩, body⟩
    exact ⟨params, throws, deprecated, body⟩
  · rintro ⟨params, throws, deprecated, body⟩
    exact ⟨⟨params, throws, deprecated⟩, body⟩

/-- A comment has the lines of its entries, one entry after the other, and one empty line if it has
no entry. It is empty, and not written at all, exactly if the calls leave nothing to say. -/
theorem build_lines_and_isEmpty (calls : List Call) :
    (ofCalls calls).build.lines =
      (if Call.entries calls = [] then [[]] else (Call.entries calls).flatMap Text.lines) ∧
    (ofCalls calls).build.lines.length =
      (if Call.entries calls = [] then 1
        else ((Call.entries calls).map fun entry => entry.count '\n' + 1).sum) ∧
    ((ofCalls calls).build.isEmpty = true ↔ Call.SayNothing calls) ∧
    ∀ layout : Layout, layout.javadoc (ofCalls calls).build = [] ↔ Call.SayNothing calls := by
  have holds := holds_ofCalls calls
  have split : (ofCalls calls).build.lines =
      if Call.entries calls = [] then [[]] else (Call.entries calls).flatMap Text.lines := by
    rw [JavaDoc.lines, build, holds.entries_eq]
    split
    next h => rw [h]; rfl
    next h => exact Text.lines_unlines_eq_flatMap h
  refine ⟨split, ?_, ?_, ?_⟩
  · rw [split, apply_ite List.length, List.length_flatMap]
    simp only [Text.length_lines, List.length_singleton]
  · rw [JavaDoc.isEmpty, List.isEmpty_iff]
    exact holds.build_text_eq_nil_iff
  · intro layout
    rw [Layout.javadoc_eq_nil_iff]
    exact holds.build_text_eq_nil_iff

end Builder

end JavaComments
