import JavaComments.Program
import JavaComments.Proofs.CommandLine.Command
import JavaComments.Proofs.Job.Run

namespace JavaComments.Program

open CommandLine (command? command?_eq_some_iff command?_eq_none_iff Asks)

variable {args : List Text} {files : FileSystem}

theorem run_conclude (result : Except Error Unit) (files : FileSystem) :
    (conclude result).run files =
      ⟨match result with
        | .ok () => 0
        | .error _ => 1, [], files, []⟩ := by
  cases result <;> rfl

theorem run_of_render {job : Job} (h : command? args = some (.render job)) :
    run args files =
      ⟨match (job.run files).result with
        | .ok () => 0
        | .error _ => 1, (job.run files).printed, (job.run files).files⟩ := by
  rw [run, plan, h]
  dsimp only
  rw [Plan.run_bind, ← Job.run]
  dsimp only
  rw [run_conclude, Plan.Outcome.behind, List.append_nil]

theorem run_of_print {content : Text} (h : plan args = .print content (.done 0)) :
    run args files = ⟨0, content, files⟩ := by
  rw [run, h]
  exact congrArg (Outcome.mk 0 · files) (List.append_nil content)

theorem run_of_refused (h : command? args = none) : run args files = ⟨2, [], files⟩ := by
  rw [run, plan, h]
  rfl

/-- The ways in which a run ends, as the arguments ask for it. -/
inductive Ends (args : List Text) (files : FileSystem) : Outcome → Prop
  | refused : (∀ command, ¬ Asks args command) → Ends args files ⟨2, [], files⟩
  | version : Asks args .version → Ends args files ⟨0, versionLine, files⟩
  | help {page : Page} : Asks args (.help page) → Ends args files ⟨0, page.text, files⟩
  | rendered {job : Job} : Asks args (.render job) → (job.run files).result = .ok () →
      Ends args files ⟨0, (job.run files).printed, (job.run files).files⟩
  | failed {job : Job} {error : Error} : Asks args (.render job) →
      (job.run files).result = .error error → Ends args files ⟨1, [], files⟩

theorem run_ends (args : List Text) (files : FileSystem) : Ends args files (run args files) := by
  cases hc : command? args with
  | none =>
    rw [run_of_refused hc]
    exact .refused (command?_eq_none_iff.mp hc)
  | some command =>
    have asks := command?_eq_some_iff.mp hc
    cases command with
    | version =>
      rw [run_of_print (by rw [plan, hc])]
      exact .version asks
    | help page =>
      rw [run_of_print (by rw [plan, hc])]
      exact .help asks
    | render job =>
      rw [run_of_render hc]
      cases hr : (job.run files).result with
      | ok => exact .rendered asks hr
      | error error =>
        obtain ⟨hfiles, hprinted⟩ := (job.run_ends files).honest.failed error hr
        rw [hfiles, hprinted]
        exact .failed asks hr

/-- Only a status of zero leaves a trace. -/
theorem run_traceless (h : (run args files).status ≠ 0) :
    (run args files).printed = [] ∧ (run args files).files = files := by
  have ends := run_ends args files
  generalize run args files = outcome at ends h
  cases ends with
  | refused | failed => exact ⟨rfl, rfl⟩
  | version | help | rendered => exact absurd rfl h

theorem status_eq_two_iff : (run args files).status = 2 ↔ ∀ command, ¬ Asks args command := by
  have ends := run_ends args files
  generalize run args files = outcome at ends
  cases ends with
  | refused h => exact iff_of_true rfl h
  | version asks | help asks | rendered asks | failed asks =>
    exact iff_of_false (by simp) fun h => h _ asks

/-- A run changes only what it reports: a rendering is decided by its first stage that fails and
then leaves no trace, and otherwise saves the comment and a line feed, or prints the same where no
output is asked for. The program adds the status to this for arguments that ask for a rendering. It
refuses those that ask for nothing, and touches nothing then. -/
theorem run_honest (files : FileSystem) :
    (∀ job : Job, job.Honest files (job.run files)) ∧
    (∀ (job : Job) (stage : Job.Stage) (error : Error),
      job.error? files stage = some error → error.kind = stage.kind) ∧
    (∀ (job : Job) (path : Text),
      (Job.run { job with output := none } files).result = .ok () →
      (Job.run { job with output := some path } files).result = .ok () →
      FileSystem.Saved files (Job.run { job with output := some path } files).files path
        (Job.run { job with output := none } files).printed) ∧
    (∀ (args : List Text) (job : Job), Asks args (.render job) →
      ((run args files).status = 0 ↔ (job.run files).result = .ok ()) ∧
      ((run args files).status = 1 ↔ ∃ error, (job.run files).result = .error error) ∧
      (run args files).printed = (job.run files).printed ∧
      (run args files).files = (job.run files).files) ∧
    ∀ args : List Text,
      ((run args files).status = 2 ↔ ∀ command, ¬ Asks args command) ∧
      ((run args files).status ≠ 0 →
        (run args files).printed = [] ∧ (run args files).files = files) := by
  refine ⟨fun job => (job.run_ends files).honest, fun _ _ _ => Job.error?_kind,
    fun _ _ => Job.saved_of_printed, ?_, fun _ => ⟨status_eq_two_iff, run_traceless⟩⟩
  intro args job h
  rw [run_of_render (command?_eq_some_iff.mpr h)]
  cases (job.run files).result <;> simp

end JavaComments.Program
