import JavaComments.Job
import JavaComments.Proofs.FileSystem.Saved

namespace JavaComments

inductive Error.Kind where
  | io
  | json
  | invalidArgs
deriving DecidableEq

def Error.kind : Error → Kind
  | file _ => .io
  | request _ => .json
  | arguments _ => .invalidArgs

namespace Job

variable {job : Job} {files : FileSystem} {outcome : Outcome}

theorem isConflicting_iff :
    job.isConflicting = true ↔ job.raw = true ∧ (0 < job.indent ∨ job.noEscape = true) := by
  simp [isConflicting]

/-- The ways in which a rendering ends, each with all that is left of it. -/
inductive Ends (job : Job) (files : FileSystem) : Outcome → Prop
  | unread {fault : FileSystem.Fault} : files.read job.input = .error fault →
      Ends job files ⟨.error (.file (.read job.input fault)), [], files, [.reading job.input]⟩
  | conflicting {text : Text} : files.read job.input = .ok text → job.isConflicting = true →
      Ends job files ⟨.error (.arguments .rawWithLayout), [], files, [.reading job.input]⟩
  | refused {text : Text} {refusal : Json.Refusal} : files.read job.input = .ok text →
      job.isConflicting = false → Request.parse text = .error refusal →
      Ends job files ⟨.error (.request refusal), [], files, [.reading job.input]⟩
  | unwritten {text path : Text} {request : Request} {fault : FileSystem.Fault} :
      files.read job.input = .ok text → job.isConflicting = false →
      Request.parse text = .ok request → job.output = some path →
      files.write path (job.write request ++ ['\n']) = .error fault →
      Ends job files ⟨.error (.file (.write path fault)), [], files,
        .reading job.input :: request.events⟩
  | printed {text : Text} {request : Request} : files.read job.input = .ok text →
      job.isConflicting = false → Request.parse text = .ok request → job.output = none →
      Ends job files ⟨.ok (), job.write request ++ ['\n'], files,
        .reading job.input :: request.events⟩
  | saved {text path : Text} {request : Request} {after : FileSystem} :
      files.read job.input = .ok text → job.isConflicting = false →
      Request.parse text = .ok request → job.output = some path →
      files.write path (job.write request ++ ['\n']) = .ok after →
      Ends job files ⟨.ok (), [], after, .reading job.input :: request.events ++ [.written path]⟩

theorem request_eq_ok_iff {text : Text} {request : Request} :
    job.request text = .ok request ↔
      job.isConflicting = false ∧ Request.parse text = .ok request := by
  unfold Job.request
  split
  next hc => simp [hc]
  next hc => simp [hc, Json.mapError_eq_ok_iff]

theorem request_eq_error_iff {text : Text} {error : Error} :
    job.request text = .error error ↔
      (job.isConflicting = true ∧ .arguments .rawWithLayout = error) ∨
      (job.isConflicting = false ∧
        ∃ refusal, Request.parse text = .error refusal ∧ .request refusal = error) := by
  unfold Job.request
  split
  next hc => simp [hc]
  next hc => simp [hc, Json.mapError_eq_error_iff]

theorem run_ends (job : Job) (files : FileSystem) : Ends job files (job.run files) := by
  rw [run, plan, Plan.run, Plan.run]
  cases hread : files.read job.input with
  | error fault => exact .unread hread
  | ok text =>
    dsimp only
    cases hr : job.request text with
    | error error =>
      rcases request_eq_error_iff.mp hr with ⟨hc, rfl⟩ | ⟨hc, refusal, hp, rfl⟩
      · exact .conflicting hread hc
      · exact .refused hread hc hp
    | ok request =>
      obtain ⟨hc, hp⟩ := request_eq_ok_iff.mp hr
      dsimp only
      rw [Plan.run]
      cases ho : job.output with
      | none =>
        have ends := Ends.printed hread hc hp ho
        simpa [Plan.run, Plan.Outcome.behind] using ends
      | some path =>
        dsimp only
        rw [Plan.run]
        cases hw : files.write path (job.write request ++ ['\n']) with
        | error fault =>
          have ends := Ends.unwritten hread hc hp ho hw
          simpa [Plan.run, Plan.Outcome.behind] using ends
        | ok after =>
          have ends := Ends.saved hread hc hp ho hw
          simpa [Plan.run, Plan.Outcome.behind] using ends

/-- The stages of a rendering. -/
inductive Stage where
  | reading
  | options
  | parsing
  | writing
deriving DecidableEq

/-- The stages in their order. -/
def Stage.all : List Stage := [reading, options, parsing, writing]

def Stage.kind : Stage → Error.Kind
  | reading => .io
  | options => .invalidArgs
  | parsing => .json
  | writing => .io

/-- What the stage by itself fails with; one that is given nothing does not fail. -/
def error? (job : Job) (files : FileSystem) : Stage → Option Error
  | .reading =>
    match files.read job.input with
    | .error fault => some (.file (.read job.input fault))
    | .ok _ => none
  | .options =>
    if job.raw = true ∧ (0 < job.indent ∨ job.noEscape = true) then
      some (.arguments .rawWithLayout)
    else none
  | .parsing =>
    match (files.read job.input).map Request.parse with
    | .ok (.error refusal) => some (.request refusal)
    | _ => none
  | .writing =>
    match (files.read job.input).map job.compose, job.output with
    | .ok (.ok written), some path =>
      match files.write path (written ++ ['\n']) with
      | .error fault => some (.file (.write path fault))
      | .ok _ => none
    | _, _ => none

theorem error?_kind {stage : Stage} {error : Error} (h : job.error? files stage = some error) :
    error.kind = stage.kind := by
  revert h
  fun_cases error? job files stage with
  | case1 | case3 | case5 | case7 =>
    intro h
    cases h
    rfl
  | _ => simp

/-- What a rendering leaves behind is no more and no less than what its result says. -/
structure Honest (job : Job) (files : FileSystem) (outcome : Outcome) : Prop where
  decided : outcome.result =
    match Stage.all.findSome? (job.error? files) with
    | some error => .error error
    | none => .ok ()
  failed : ∀ error, outcome.result = .error error → outcome.files = files ∧ outcome.printed = []
  succeeded : outcome.result = .ok () → ∃ text written, files.read job.input = .ok text ∧
    job.compose text = .ok written ∧
    match job.output with
    | some path =>
      FileSystem.Saved files outcome.files path (written ++ ['\n']) ∧ outcome.printed = []
    | none => outcome.files = files ∧ outcome.printed = written ++ ['\n']

theorem compose_eq_ok {text : Text} {request : Request} (hc : job.isConflicting = false)
    (hp : Request.parse text = .ok request) : job.compose text = .ok (job.write request) := by
  rw [compose, request_eq_ok_iff.mpr ⟨hc, hp⟩]
  rfl

theorem Ends.honest (h : Ends job files outcome) : Honest job files outcome := by
  cases h with
  | unread hread => exact ⟨by simp [Stage.all, error?, hread], by simp, by simp⟩
  | conflicting hread hc =>
    rw [isConflicting_iff] at hc
    exact ⟨by simp [Stage.all, error?, hread, hc], by simp, by simp⟩
  | refused hread hc hp =>
    rw [← Bool.not_eq_true, isConflicting_iff] at hc
    exact ⟨by simp [Stage.all, error?, hread, hc, hp, Except.map], by simp, by simp⟩
  | unwritten hread hc hp ho hw =>
    have hw' := compose_eq_ok hc hp
    rw [← Bool.not_eq_true, isConflicting_iff] at hc
    exact ⟨by simp [Stage.all, error?, hread, hc, hp, hw', ho, hw, Except.map], by simp, by simp⟩
  | @printed text request hread hc hp ho =>
    have written := compose_eq_ok hc hp
    rw [← Bool.not_eq_true, isConflicting_iff] at hc
    refine ⟨by simp [Stage.all, error?, hread, hc, hp, ho, Except.map], by simp, ?_⟩
    intro _
    exact ⟨text, job.write request, hread, written, by simp [ho]⟩
  | @saved text path request after hread hc hp ho hw =>
    have written := compose_eq_ok hc hp
    rw [← Bool.not_eq_true, isConflicting_iff] at hc
    refine ⟨by simp [Stage.all, error?, hread, hc, hp, written, ho, hw, Except.map], by simp, ?_⟩
    intro _
    have saved := FileSystem.saved_of_write hw
    exact ⟨text, job.write request, hread, written, by simp [ho, saved]⟩

/-- What a rendering saves is what it prints where no output is asked for. -/
theorem saved_of_printed {path : Text}
    (hp : (run { job with output := none } files).result = .ok ())
    (hs : (run { job with output := some path } files).result = .ok ()) :
    FileSystem.Saved files (run { job with output := some path } files).files path
      (run { job with output := none } files).printed := by
  obtain ⟨text, written, hread, hcompose, _, hprinted⟩ := (run_ends _ files).honest.succeeded hp
  obtain ⟨text', written', hread', hcompose', hsaved, _⟩ := (run_ends _ files).honest.succeeded hs
  cases hread.symm.trans hread'
  cases hcompose.symm.trans hcompose'
  rw [hprinted]
  exact hsaved

end Job

end JavaComments
