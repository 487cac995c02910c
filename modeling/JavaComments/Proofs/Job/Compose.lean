import JavaComments.Proofs.Comment.Marked
import JavaComments.Proofs.Job.Run

namespace JavaComments.Job

/-- The bare text is asked for together with a layout. -/
def Conflicts (job : Job) : Prop := job.raw = true ∧ (0 < job.indent ∨ job.noEscape = true)

variable {job : Job} {text : Text}

theorem not_conflicts_iff : ¬ job.Conflicts ↔ job.isConflicting = false := by
  rw [Conflicts, ← isConflicting_iff, Bool.not_eq_true]

theorem compose_of_conflicts (h : job.Conflicts) (text : Text) :
    job.compose text = .error (.arguments .rawWithLayout) := by
  rw [compose, request, if_pos (isConflicting_iff.mpr h)]
  rfl

theorem compose_of_not_conflicts (h : ¬ job.Conflicts) (text : Text) :
    job.compose text = ((Request.parse text).mapError .request).map job.write := by
  rw [compose, request, if_neg (mt isConflicting_iff.mp h)]

theorem compose_eq_ok_iff (h : ¬ job.Conflicts) {written : Text} :
    job.compose text = .ok written ↔
      ∃ request, Request.parse text = .ok request ∧ job.write request = written := by
  rw [compose_of_not_conflicts h]
  cases Request.parse text <;> simp [Except.map, Except.mapError]

theorem not_conflicts_of_laid (h : job.raw = false) : ¬ job.Conflicts := by
  simp [Conflicts, h]

/-- Renderings of one text that ask for nothing contradictory fail with the same refusal, or all
succeed; others fail whatever the text. What is written with a layout is empty just where the bare
text is, and otherwise says it line by line: take the margin, the star and the space from every
line between the opener and the closer, and it is the bare text, escaped unless the job says not
to. -/
theorem compose_alike (text : Text) :
    (∀ job : Job, job.Conflicts → job.compose text = .error (.arguments .rawWithLayout)) ∧
    (∀ one other : Job, ¬ one.Conflicts → ¬ other.Conflicts →
      (∃ refusal, one.compose text = .error (.request refusal) ∧
        other.compose text = .error (.request refusal)) ∨
      ∃ first second, one.compose text = .ok first ∧ other.compose text = .ok second) ∧
    ∀ (bare laid : Job) (said written : Text), bare.raw = true → laid.raw = false →
      bare.compose text = .ok said → laid.compose text = .ok written →
      (written = [] ↔ said = []) ∧
      (written ≠ [] → ∃ starred : List Text,
        written.lines =
          (List.replicate laid.indent ' ' ++ "/**".toList) :: starred ++
            [List.replicate laid.indent ' ' ++ " */".toList] ∧
        starred.length = said.lines.length ∧
        (starred.mapM (Layout.unmarked? laid.indent " *".toList)).map Text.unlines =
          some (if laid.noEscape then said else said.escapeBlockEnd)) := by
  refine ⟨fun job h => compose_of_conflicts h text, ?_, ?_⟩
  · intro one other h ho
    rw [compose_of_not_conflicts h, compose_of_not_conflicts ho]
    cases Request.parse text with
    | error refusal => exact .inl ⟨refusal, rfl, rfl⟩
    | ok request => exact .inr ⟨one.write request, other.write request, rfl, rfl⟩
  · intro bare laid said written hb hl hsaid hwritten
    have hc : ¬ bare.Conflicts := by
      intro h
      rw [compose_of_conflicts h] at hsaid
      cases hsaid
    obtain ⟨request, hp, rfl⟩ := (compose_eq_ok_iff hc).mp hsaid
    obtain ⟨request', hp', rfl⟩ := (compose_eq_ok_iff (not_conflicts_of_laid hl)).mp hwritten
    cases hp.symm.trans hp'
    have bareText : bare.write request = request.build.text := if_pos hb
    have laidText : laid.write request = laid.layout.javadoc request.build := by simp [write, hl]
    rw [bareText, laidText]
    refine ⟨Layout.javadoc_eq_nil_iff, ?_⟩
    intro hne
    obtain ⟨starred, hlines, hlength, hread⟩ :=
      Layout.lines_javadoc (mt Layout.javadoc_eq_nil_iff.mpr hne)
    refine ⟨starred, hlines, hlength, hread.trans ?_⟩
    cases hn : laid.noEscape <;> simp [Layout.guarded, layout, hn]

def blockEndRequest : Text := "\x7b\"body\":[\x7b\"comment\":\"a */\"\x7d]\x7d".toList

theorem compose_alike_block_end :
    compose { input := [], raw := true } blockEndRequest = .ok "a */".toList ∧
    compose { input := [], indent := 2 } blockEndRequest =
      .ok "  /**\n   * a *&#47;\n   */".toList ∧
    ∃ starred : List Text,
      Text.lines "  /**\n   * a *&#47;\n   */".toList =
        (List.replicate 2 ' ' ++ "/**".toList) :: starred ++
          [List.replicate 2 ' ' ++ " */".toList] ∧
      starred.length = (Text.lines "a */".toList).length ∧
      (starred.mapM (Layout.unmarked? 2 " *".toList)).map Text.unlines =
        some (Text.escapeBlockEnd "a */".toList) := by
  have bare : compose { input := [], raw := true } blockEndRequest = .ok "a */".toList := by
    decide +kernel
  have laid : compose { input := [], indent := 2 } blockEndRequest =
      .ok "  /**\n   * a *&#47;\n   */".toList := by
    decide +kernel
  exact ⟨bare, laid, ((compose_alike blockEndRequest).2.2 _ _ _ _ rfl rfl bare laid).2 (by decide)⟩

end JavaComments.Job
