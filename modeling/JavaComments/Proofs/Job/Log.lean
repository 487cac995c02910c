import JavaComments.Proofs.JavaDoc.Summary
import JavaComments.Proofs.Job.Compose
import JavaComments.Proofs.Request.Replay

namespace JavaComments

namespace Request

/-- The sizes of the sections of a request. A clause without a type and an empty notice count as
absent. -/
def tally (request : Request) : Event :=
  .building (request.body.map Fragment.count).sum request.params.length
    (request.throws.any fun clause => !clause.type.isEmpty)
    (request.deprecated.any fun notice => !notice.isEmpty)

theorem events_eq_tally (request : Request) : request.events = [request.tally] := by
  have holds := Builder.holds_ofCalls request.calls
  rw [events_eq, builder, holds.summary_eq, calls_fragments, calls_params, last?_throws,
    last?_notice, tally]

end Request

namespace Event

def isBuilding : Event → Bool
  | building .. => true
  | _ => false

def isWritten : Event → Bool
  | written _ => true
  | _ => false

theorem isPrefixOf_line_building (event : Event) :
    "DEBUG Building JavaDoc: ".toList.isPrefixOf event.line = event.isBuilding := by
  cases event <;> rfl

theorem isPrefixOf_line_written (event : Event) :
    "INFO Rendered comment written to ".toList.isPrefixOf event.line = event.isWritten := by
  cases event <;> rfl

end Event

namespace Job

variable {job : Job} {files : FileSystem} {outcome : Outcome} {request : Request}

/-- A rendering comes to build a request: its input is read, its options do not conflict, and what
was read is that request. -/
def Builds (job : Job) (files : FileSystem) (request : Request) : Prop :=
  ∃ text, files.read job.input = .ok text ∧ ¬ job.Conflicts ∧ Request.parse text = .ok request

/-- A rendering comes to save a comment and a line feed at the path that it was given, and they can
be written there. -/
def Saves (job : Job) (files : FileSystem) (path content : Text) : Prop :=
  job.output = some path ∧ ∃ request, job.Builds files request ∧
    content = job.write request ++ ['\n'] ∧ ∃ after, files.write path content = .ok after

theorem Builds.unique {other : Request} (h : job.Builds files request)
    (ho : job.Builds files other) : request = other := by
  obtain ⟨text, hread, -, hp⟩ := h
  obtain ⟨text', hread', -, hp'⟩ := ho
  cases hread.symm.trans hread'
  cases hp.symm.trans hp'
  rfl

/-- The log of a rendering: the input, then the tally if a request is built, then the path if a
comment is saved, which is then in the file there; otherwise no file has changed. -/
structure Told (job : Job) (files : FileSystem) (outcome : Outcome) (built saved : List Event) :
    Prop where
  events : outcome.events = .reading job.input :: built ++ saved
  building : ∀ request, job.Builds files request → built = [request.tally]
  unbuilt : (∀ request, ¬ job.Builds files request) → built = []
  saving : ∀ path content, job.Saves files path content →
    saved = [.written path] ∧ FileSystem.Saved files outcome.files path content
  unsaved : (∀ path content, ¬ job.Saves files path content) →
    saved = [] ∧ outcome.files = files

theorem told_of_not_builds (h : ∀ request, ¬ job.Builds files request)
    (he : outcome.events = [.reading job.input]) (hf : outcome.files = files) :
    Told job files outcome [] [] where
  events := he
  building := fun request hb => absurd hb (h request)
  unbuilt := fun _ => rfl
  saving := by
    intro path content hs
    obtain ⟨-, request, hb, -⟩ := hs
    exact absurd hb (h request)
  unsaved := fun _ => ⟨rfl, hf⟩

theorem told_of_builds (h : job.Builds files request)
    (hs : ∀ path content, ¬ job.Saves files path content)
    (he : outcome.events = .reading job.input :: request.events) (hf : outcome.files = files) :
    Told job files outcome [request.tally] [] where
  events := by
    rw [he, request.events_eq_tally]
    rfl
  building := fun other hb => by rw [h.unique hb]
  unbuilt := fun hb => absurd h (hb request)
  saving := fun path content h => absurd h (hs path content)
  unsaved := fun _ => ⟨rfl, hf⟩

theorem told_of_saves {path : Text} {after : FileSystem} (h : job.Builds files request)
    (ho : job.output = some path)
    (hw : files.write path (job.write request ++ ['\n']) = .ok after)
    (he : outcome.events = .reading job.input :: request.events ++ [.written path])
    (hf : outcome.files = after) : Told job files outcome [request.tally] [.written path] where
  events := by rw [he, request.events_eq_tally]
  building := fun other hb => by rw [h.unique hb]
  unbuilt := fun hb => absurd h (hb request)
  saving := by
    intro path' content hs
    obtain ⟨ho', other, hb, rfl, -⟩ := hs
    cases h.unique hb
    cases ho.symm.trans ho'
    rw [hf]
    exact ⟨rfl, FileSystem.saved_of_write hw⟩
  unsaved := fun hs => absurd ⟨ho, request, h, rfl, after, hw⟩ (hs path _)

theorem Ends.told (h : Ends job files outcome) :
    ∃ built saved, Told job files outcome built saved := by
  cases h with
  | unread hread =>
    refine ⟨[], [], told_of_not_builds ?_ rfl rfl⟩
    intro request hb
    obtain ⟨text, hread', -⟩ := hb
    cases hread.symm.trans hread'
  | conflicting hread hc =>
    refine ⟨[], [], told_of_not_builds ?_ rfl rfl⟩
    intro request hb
    obtain ⟨text, -, hc', -⟩ := hb
    exact hc' (isConflicting_iff.mp hc)
  | refused hread hc hp =>
    refine ⟨[], [], told_of_not_builds ?_ rfl rfl⟩
    intro request hb
    obtain ⟨text, hread', -, hp'⟩ := hb
    cases hread.symm.trans hread'
    cases hp.symm.trans hp'
  | @unwritten text path request fault hread hc hp ho hw =>
    have builds : job.Builds files request := ⟨text, hread, not_conflicts_iff.mpr hc, hp⟩
    refine ⟨[request.tally], [], told_of_builds builds ?_ rfl rfl⟩
    intro path' content hs
    obtain ⟨ho', other, hb, rfl, after, hw'⟩ := hs
    cases builds.unique hb
    cases ho.symm.trans ho'
    cases hw.symm.trans hw'
  | @printed text request hread hc hp ho =>
    have builds : job.Builds files request := ⟨text, hread, not_conflicts_iff.mpr hc, hp⟩
    refine ⟨[request.tally], [], told_of_builds builds ?_ rfl rfl⟩
    intro path content hs
    cases ho.symm.trans hs.1
  | @saved text path request after hread hc hp ho hw =>
    have builds : job.Builds files request := ⟨text, hread, not_conflicts_iff.mpr hc, hp⟩
    exact ⟨[request.tally], [.written path], told_of_saves builds ho hw rfl rfl⟩

/-- How far a rendering comes: it stops before a comment is built, it builds one that goes into no
file, or it saves one. -/
inductive Progress where
  | stopped
  | built
  | saved
deriving DecidableEq

/-- How far a rendering came, as the lines of its log tell. -/
def Progress.ofLog (log : List Text) : Progress :=
  if log.any "INFO Rendered comment written to ".toList.isPrefixOf then .saved
  else if log.any "DEBUG Building JavaDoc: ".toList.isPrefixOf then .built
  else .stopped

/-- How far a rendering came, as its result tells when the path that was asked for is known. -/
def Progress.ofResult (output : Option Text) : Except Error Unit → Progress
  | .error (.file (.write _ _)) => .built
  | .error _ => .stopped
  | .ok () => if output.isSome then .saved else .built

theorem Progress.ofLog_line (events : List Event) : Progress.ofLog (events.map Event.line) =
    if events.any Event.isWritten then .saved
    else if events.any Event.isBuilding then .built
    else .stopped := by
  rw [ofLog, List.any_map, List.any_map]
  simp only [Function.comp_def, Event.isPrefixOf_line_written, Event.isPrefixOf_line_building]

theorem Ends.progress (h : Ends job files outcome) :
    Progress.ofLog (outcome.events.map Event.line) =
      Progress.ofResult job.output outcome.result := by
  rw [Progress.ofLog_line]
  cases h with
  | unread | conflicting | refused => rfl
  | @unwritten text path request fault hread hc hp ho hw =>
    rw [request.events_eq_tally]
    rfl
  | @printed text request hread hc hp ho =>
    rw [request.events_eq_tally, ho]
    rfl
  | @saved text path request after hread hc hp ho hw =>
    rw [request.events_eq_tally, ho]
    rfl

/-- The log of a rendering tells the truth: the input is named first, a request is tallied exactly
if it is built, a path is named exactly if the comment was saved there, and nothing else is logged.
So the lines alone tell how far the rendering came. -/
theorem run_log_truthful (job : Job) (files : FileSystem) :
    (∃ built saved, Told job files (job.run files) built saved) ∧
      Progress.ofLog ((job.run files).events.map Event.line) =
        Progress.ofResult job.output (job.run files).result := by
  have ends := job.run_ends files
  exact ⟨ends.told, ends.progress⟩

end Job

end JavaComments
