import JavaComments.Proofs.JavaDoc.Lineage
import JavaComments.Proofs.JavaDoc.Lines
import JavaComments.Proofs.JavaDoc.Summary

namespace JavaComments

theorem Text.lines_of_tag {tag : Text} (h : '\n' ∉ tag) (text : Text) :
    ∃ first others, lines (tag ++ text) = (tag ++ first) :: others := by
  induction tag with
  | nil => exact List.exists_cons_of_ne_nil (lines_ne_nil text)
  | cons c tag ih =>
    rw [List.mem_cons, not_or] at h
    obtain ⟨first, others, hl⟩ := ih h.2
    refine ⟨first, others, ?_⟩
    rw [List.cons_append, lines_cons_of_ne (Ne.symm h.1), hl, List.modifyHead_cons,
      List.cons_append]

/-- An entry that begins with a tag is there exactly if a line of it begins so. -/
theorem Text.isSome_iff_line_of_tag {α : Type} {tag : Text} {entry : α → Text} (h : '\n' ∉ tag)
    (tagged : ∀ x, ∃ text, entry x = tag ++ text) (x? : Option α) :
    x?.isSome = true ↔ ∃ line ∈ (x?.map entry).toList.flatMap lines, tag <+: line := by
  cases x? with
  | none => simp
  | some x =>
    obtain ⟨text, ht⟩ := tagged x
    obtain ⟨first, others, hl⟩ := lines_of_tag h text
    have mem : tag ++ first ∈ (entry x).lines := by
      rw [ht, hl]
      exact List.mem_cons_self
    exact iff_of_true rfl ⟨tag ++ first, by simpa using mem, List.prefix_append tag first⟩

/-- A line of the log of a builder. -/
def debugLine (message : Text) : Text := "DEBUG ".toList ++ message

namespace Call

/-- What a call logs behind the calls before it: one line if it gives a `@throws` clause and the
last clause before it has a type, and no line otherwise. -/
def logged (before : List Call) : Call → List Text
  | .throws clause =>
    match last? throws? before with
    | some old =>
      if old.type = [] then []
      else [debugLine ("Replacing @throws ".toList ++ old.type ++ " with @throws ".toList ++
        clause.type)]
    | none => []
  | _ => []

/-- The lines that the description and the parameters contribute to a comment. -/
def frontLines (calls : List Call) : List Text :=
  (calls.flatMap described ++ calls.flatMap documented).flatMap Text.lines

/-- The lines that the clause in effect contributes to a comment. -/
def throwsLines (calls : List Call) : List Text :=
  ((last? throws? calls).bind throwsEntry?).toList.flatMap Text.lines

/-- The lines that the notice in effect contributes to a comment. -/
def noticeLines (calls : List Call) : List Text :=
  ((last? notice? calls).bind noticeEntry?).toList.flatMap Text.lines

theorem flatMap_lines_entries (calls : List Call) :
    (entries calls).flatMap Text.lines =
      frontLines calls ++ throwsLines calls ++ noticeLines calls := by
  rw [entries, List.flatMap_append, List.flatMap_append]
  rfl

end Call

namespace Builder

variable {calls : List Call} {b : Builder}

theorem Holds.logged (h : Holds calls b) (call : Call) :
    (b.event? call).toList.map Event.line = call.logged calls := by
  cases call with
  | throws clause =>
    rw [h.event?_throws, Call.logged]
    cases Call.last? Call.throws? calls with
    | none => rfl
    | some old =>
      by_cases untyped : old.type = []
      · simp [untyped]
      · have typed : old.type.isEmpty = false := by simpa using untyped
        simp only [Option.filter_some, typed, if_neg untyped]
        rfl
  | _ => rfl

/-- Every call of a history logs what the calls before it say. -/
theorem Holds.map_line_replay {before : List Call} (h : Holds before b) (calls : List Call) :
    (b.replay calls).map (List.map Event.line) =
      calls.mapIdx fun i call => call.logged (before ++ calls.take i) := by
  induction calls generalizing before b with
  | nil => rfl
  | cons call calls ih =>
    have later (i : Nat) :
        before ++ (call :: calls).take (i + 1) = before ++ [call] ++ calls.take i := by
      rw [List.take_succ_cons, List.append_cons]
    rw [replay, List.map_cons, h.logged, ih (h.apply call), List.mapIdx_cons, List.take_zero,
      List.append_nil]
    simp only [later]

/-- There is a clause in effect exactly if a line with its tag is contributed. -/
theorem Holds.isSome_throws_iff (h : Holds calls b) : b.throws.isSome = true ↔
    ∃ line ∈ Call.throwsLines calls, "@throws ".toList <+: line := by
  rw [Call.throwsLines, ← h.throwsEntry_eq]
  have tagged (clause : Throws) : ∃ text, clause.entry = "@throws ".toList ++ text :=
    ⟨clause.type ++ ' ' :: clause.description, List.append_assoc ..⟩
  exact Text.isSome_iff_line_of_tag (by decide) tagged b.throws

theorem Holds.isSome_deprecated_iff (h : Holds calls b) : b.deprecated.isSome = true ↔
    ∃ line ∈ Call.noticeLines calls, "@deprecated ".toList <+: line := by
  rw [Call.noticeLines, ← h.noticeEntry_eq]
  have tagged (notice : Text) : ∃ text, deprecatedEntry notice = "@deprecated ".toList ++ text :=
    ⟨notice, rfl⟩
  exact Text.isSome_iff_line_of_tag (by decide) tagged b.deprecated

theorem Holds.lines_build (h : Holds calls b) : b.build.lines =
    if Call.entries calls = [] then [[]]
    else Call.frontLines calls ++ Call.throwsLines calls ++ Call.noticeLines calls := by
  rw [JavaDoc.lines, build, h.entries_eq, ← Call.flatMap_lines_entries]
  split
  next absent => rw [absent]; rfl
  next present => exact Text.lines_unlines_eq_flatMap present

/-- The log of a comment in the making follows from the calls. Each call logs what those before it
say, and nothing else. The line that is logged in the end counts the entries of the description and
the parameters, and its flags tell whether the comment, whose lines are those of its sections, has a
line with the tag from the clause and from the notice in effect. -/
theorem log_follows_calls (calls : List Call) :
    (empty.replay calls).flatten = empty.events calls ∧
    (empty.replay calls).map (List.map Event.line) =
      (calls.mapIdx fun i call => call.logged (calls.take i)) ∧
    (ofCalls calls).build.lines = (if Call.entries calls = [] then [[]]
      else Call.frontLines calls ++ Call.throwsLines calls ++ Call.noticeLines calls) ∧
    ∃ throws deprecated : Bool,
      (ofCalls calls).summary.line =
        debugLine ("Building JavaDoc: ".toList ++
          Text.ofNat ((calls.filterMap Call.fragment?).map Fragment.count).sum ++
          " body lines, ".toList ++ Text.ofNat (calls.filterMap Call.param?).length ++
          " params, throws: ".toList ++ Text.ofBool throws ++
          ", deprecated: ".toList ++ Text.ofBool deprecated) ∧
      (throws = true ↔ ∃ line ∈ Call.throwsLines calls, "@throws ".toList <+: line) ∧
      (deprecated = true ↔ ∃ line ∈ Call.noticeLines calls, "@deprecated ".toList <+: line) := by
  have holds := holds_ofCalls calls
  refine ⟨flatten_replay empty calls, holds_empty.map_line_replay calls, holds.lines_build, _, _,
    ?_, holds.isSome_throws_iff, holds.isSome_deprecated_iff⟩
  rw [summary, length_bodyEntries, holds.body, holds.params]
  rfl

/-- A clause is reported as replaced by the call that clears it, and not by the one behind. -/
example : (empty.replay [.throws ⟨['A'], []⟩, .deprecated ['n'], .throws ⟨[], []⟩,
    .throws ⟨['B'], []⟩]) = [[], [], [.replacingThrows ['A'] []], []] := rfl

end Builder

end JavaComments
