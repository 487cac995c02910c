import JavaComments.Proofs.CommandLine.Order
import JavaComments.Proofs.Job.Compose

namespace JavaComments

open CommandLine

theorem Job.result_eq_rawWithLayout_iff {job : Job} {files : FileSystem} {text : Text}
    (hread : files.read job.input = .ok text) :
    (job.run files).result = .error (.arguments .rawWithLayout) ↔ job.Conflicts := by
  have ends := job.run_ends files
  generalize job.run files = outcome at ends
  cases ends with
  | unread hfault => cases hread.symm.trans hfault
  | conflicting _ hc => exact iff_of_true rfl (isConflicting_iff.mp hc)
  | refused _ hc | unwritten _ hc | printed _ hc | saved _ hc =>
    exact iff_of_false (by simp) (not_conflicts_iff.mpr hc)

theorem CommandLine.Make.conflicts_iff {settings : List Setting} {job : Job}
    (made : Make settings job) (hraw : .raw ∈ settings) :
    job.Conflicts ↔ .noEscape ∈ settings ∨ ∃ spaces, 0 < spaces ∧ .indent spaces ∈ settings := by
  rw [Job.Conflicts, ← made.raw, ← made.noEscape, made.indent_pos_iff, and_iff_right hraw, or_comm]

namespace Program

/-- The bare text and a layout: the line is refused when it says not to escape or gives an indent
of one space or more. An indent of no spaces, although it is given, counts as none. -/
theorem run_raw_refused_iff {settings : List Setting} {args : List Text} {job : Job}
    {files : FileSystem} {text : Text} (hline : Line settings args)
    (hjob : command? ("render".toList :: args) = some (.render job)) (hraw : .raw ∈ settings)
    (hread : files.read job.input = .ok text) :
    ((job.run files).result = .error (.arguments .rawWithLayout) ∧
        run ("render".toList :: args) files = ⟨1, [], files⟩ ↔
      .noEscape ∈ settings ∨ ∃ spaces, 0 < spaces ∧ .indent spaces ∈ settings) ∧
    (¬ (.noEscape ∈ settings ∨ ∃ spaces, 0 < spaces ∧ .indent spaces ∈ settings) →
      ∀ others, Line (settings.filter fun setting => setting.topic ≠ .indent) others →
        run ("render".toList :: args) files = run ("render".toList :: others) files) := by
  have made : Make settings job := make_of_line hline hjob
  rw [← made.conflicts_iff hraw]
  constructor
  · constructor
    · intro h
      exact (Job.result_eq_rawWithLayout_iff hread).mp h.1
    · intro hc
      have hresult := (Job.result_eq_rawWithLayout_iff hread).mpr hc
      obtain ⟨hfiles, hprinted⟩ := (job.run_ends files).honest.failed _ hresult
      rw [run_of_render hjob, hresult, hfiles, hprinted]
      exact ⟨rfl, rfl⟩
  · intro hc others hothers
    have h0 : job.indent = 0 := by
      rw [made.conflicts_iff hraw, not_or, ← made.indent_pos_iff] at hc
      omega
    have hjob' : command? ("render".toList :: others) = some (.render job) :=
      command?_eq_some_iff.mpr (.render hothers (made.filter_indent h0))
    rw [run_of_render hjob, run_of_render hjob']

/-- A request that says nothing, in the file `in.json` at the root. -/
def emptyRequest : FileSystem := ⟨[], [(["in.json".toList], .file (Text.utf8 "{}".toList))]⟩

def indentZero : List Setting := [.input "in.json".toList, .raw, .indent 0]

def indentZeroLine : List Text :=
  ["in.json".toList, "--raw".toList, "--indent".toList, "0".toList]

theorem line_indentZero : Line indentZero indentZeroLine := line_iff_reading?.mpr rfl

theorem read_emptyRequest : emptyRequest.read "in.json".toList = .ok "{}".toList := by
  decide +kernel

theorem run_raw_refused_iff_indent_zero :
    Line indentZero indentZeroLine ∧
    command? ("render".toList :: indentZeroLine) =
      some (.render { input := "in.json".toList, raw := true }) ∧
    .raw ∈ indentZero ∧ emptyRequest.read "in.json".toList = .ok "{}".toList ∧
    ¬ ((Job.run { input := "in.json".toList, raw := true } emptyRequest).result =
        .error (.arguments .rawWithLayout) ∧
      run ("render".toList :: indentZeroLine) emptyRequest = ⟨1, [], emptyRequest⟩) ∧
    run ("render".toList :: indentZeroLine) emptyRequest =
      run ["render".toList, "in.json".toList, "--raw".toList] emptyRequest := by
  have unspaced :
      ¬ (.noEscape ∈ indentZero ∨ ∃ spaces, 0 < spaces ∧ .indent spaces ∈ indentZero) := by
    simp [indentZero]
  have understood : command? ("render".toList :: indentZeroLine) =
      some (.render { input := "in.json".toList, raw := true }) := rfl
  obtain ⟨refused, same⟩ :=
    run_raw_refused_iff line_indentZero understood (by decide) read_emptyRequest
  exact ⟨line_indentZero, understood, by decide, read_emptyRequest, mt refused.mp unspaced,
    same unspaced _ (line_iff_reading?.mpr rfl)⟩

/-- Not every line with the bare text and an indent is refused. -/
theorem not_forall_raw_refused :
    ¬ ∀ (settings : List Setting) (args : List Text) (job : Job) (files : FileSystem) (text : Text),
      Line settings args → command? ("render".toList :: args) = some (.render job) →
      .raw ∈ settings → ((∃ spaces, .indent spaces ∈ settings) ∨ .noEscape ∈ settings) →
      files.read job.input = .ok text →
      (job.run files).result = .error (.arguments .rawWithLayout) ∧
        run ("render".toList :: args) files = ⟨1, [], files⟩ := by
  intro h
  have refused := (h _ _ { input := "in.json".toList, raw := true } emptyRequest _
    line_indentZero rfl (by decide) (.inl ⟨0, by decide⟩) read_emptyRequest).2
  have printed : (run ("render".toList :: indentZeroLine) emptyRequest).status = 0 := by
    decide +kernel
  rw [refused] at printed
  cases printed

end Program

end JavaComments
