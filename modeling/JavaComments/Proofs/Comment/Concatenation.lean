import JavaComments.Proofs.Comment.WrittenLines

namespace JavaComments

/-- Comments that are pushed one after the other follow those that are there. -/
theorem Statement.foldl_push (s : Statement) (cs : List Comment) :
    cs.foldl push s = ofList (s.comments ++ cs) := by
  induction cs generalizing s with
  | nil => rw [List.append_nil]; rfl
  | cons c cs ih => rw [List.foldl_cons, ih, push, List.append_assoc, List.singleton_append]

namespace Layout

/-- What a comment adds to a statement, wherever it stands. -/
def contribution (layout : Layout) (c : Comment) : Text :=
  if c = .javadoc ⟨[]⟩ then [] else layout.comment c ++ ['\n']

variable {layout : Layout}

theorem contribution_eq_nil_iff {c : Comment} : layout.contribution c = [] ↔ c = .javadoc ⟨[]⟩ := by
  simp [contribution]

theorem statement_ofList (layout : Layout) (cs : List Comment) :
    layout.statement (.ofList cs) = cs.flatMap layout.contribution := by
  rw [statement_eq_flatMap]
  apply List.flatMap_congr
  intro c _
  unfold contribution
  split
  next h => rw [comment_eq_nil_iff.mpr h, List.nil_append]
  next => rfl

theorem statement_ofList_append (layout : Layout) (front back : List Comment) :
    layout.statement (.ofList (front ++ back)) =
      layout.statement (.ofList front) ++ layout.statement (.ofList back) := by
  rw [statement_ofList, statement_ofList, statement_ofList, List.flatMap_append]

theorem statement_ofList_filter (layout : Layout) (cs : List Comment) :
    layout.statement (.ofList (cs.filter (· ≠ .javadoc ⟨[]⟩))) = layout.statement (.ofList cs) := by
  rw [statement_ofList, statement_ofList]
  induction cs with
  | nil => rfl
  | cons c cs ih =>
    by_cases hc : c = .javadoc ⟨[]⟩
    · rw [List.filter_cons_of_neg (by simpa using hc), List.flatMap_cons,
        contribution_eq_nil_iff.mpr hc, List.nil_append, ih]
    · rw [List.filter_cons_of_pos (by simpa using hc), List.flatMap_cons, List.flatMap_cons, ih]

/-- A statement is written as its comments are, one after the other and each on lines of its own,
however it was put together. An empty documentation comment adds nothing wherever it stands, so
any of them may be put in or taken out; every other comment adds something, so nothing is written
only where there are none but empty ones. -/
theorem statement_is_contributions (layout : Layout) :
    (∀ front back : List Comment, layout.statement (.ofList (front ++ back)) =
      layout.statement (.ofList front) ++ layout.statement (.ofList back)) ∧
    (∀ cs : List Comment,
      layout.statement (cs.foldl Statement.push .empty) = layout.statement (.ofList cs)) ∧
    (∀ (c : Comment) (cs : List Comment),
      layout.statement (cs.foldl Statement.push (.singleton c)) =
        layout.statement (.ofList (c :: cs))) ∧
    (∀ (front : List Comment) (c : Comment) (back : List Comment),
      layout.statement (.ofList (front ++ c :: back)) =
        layout.statement (.ofList front) ++
          (if c = .javadoc ⟨[]⟩ then [] else layout.comment c ++ ['\n']) ++
          layout.statement (.ofList back)) ∧
    (∀ cs : List Comment, layout.statement (.ofList (cs.filter (· ≠ .javadoc ⟨[]⟩))) =
      layout.statement (.ofList cs)) ∧
    ∀ cs : List Comment, layout.statement (.ofList cs) = [] ↔
      ∀ c ∈ cs, ∃ doc : JavaDoc, c = .javadoc doc ∧ doc.text = [] := by
  refine ⟨statement_ofList_append layout, ?_, ?_, ?_, statement_ofList_filter layout, ?_⟩
  · intro cs
    rw [Statement.foldl_push]
    rfl
  · intro c cs
    rw [Statement.foldl_push]
    rfl
  · intro front c back
    rw [statement_ofList, statement_ofList, statement_ofList, List.flatMap_append,
      List.flatMap_cons, List.append_assoc]
    rfl
  · intro cs
    rw [statement_ofList, List.flatMap_eq_nil_iff]
    apply forall₂_congr
    intro c _
    rw [contribution_eq_nil_iff]
    constructor
    · intro h
      exact ⟨⟨[]⟩, h, rfl⟩
    · rintro ⟨doc, rfl, h⟩
      rw [← h]

end Layout

end JavaComments
