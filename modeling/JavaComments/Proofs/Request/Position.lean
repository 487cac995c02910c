import JavaComments.Proofs.Json.Position
import JavaComments.Proofs.Json.Unread.Record
import JavaComments.Request.Reader

namespace JavaComments

theorem Text.utf8_append (front back : Text) : utf8 (front ++ back) = utf8 front ++ utf8 back :=
  List.flatMap_append

theorem Text.utf8_replicate_lf (n : Nat) : utf8 (List.replicate n '\n') = List.replicate n 10 := by
  induction n with
  | zero => rfl
  | succ n ih =>
    rw [List.replicate_succ, List.replicate_succ, ← ih]
    rfl

namespace Request

open Json

theorem fragmentVariants_bounded : ∀ entry ∈ fragmentVariants, Bounded entry.reader.run := by
  simp only [fragmentVariants, List.forall_mem_cons]
  exact ⟨map_bounded string_bounded _, map_bounded string_bounded _, map_bounded string_bounded _,
    map_bounded (list_bounded string_bounded) _, map_bounded (list_bounded string_bounded) _,
    by simp⟩

theorem paramRecord_bounded : Bounded paramRecord.reader.run := by
  unfold paramRecord
  exact twoTexts_bounded

theorem throwsRecord_bounded : Bounded throwsRecord.reader.run := by
  unfold throwsRecord
  exact twoTexts_bounded

theorem record_bounded : Bounded record.reader.run := by
  apply Record.reader_bounded
  unfold record
  simp only
  rw [List.forall_mem_cons, List.forall_mem_cons, List.forall_mem_cons, List.forall_mem_singleton]
  exact ⟨map_bounded (list_bounded (choice_bounded fragmentVariants_bounded)) _,
    map_bounded (list_bounded paramRecord_bounded) _,
    map_bounded (optional_bounded throwsRecord_bounded) _,
    map_bounded (optional_bounded string_bounded) _⟩

variable {text blank : Text} {failure : Failure}

/-- A text is refused at a place within it. -/
theorem document_unread_le (h : document text = .error failure) :
    failure.unread ≤ text.byteLength := by
  have read := record_bounded text
  unfold document at h
  split at h
  next heq => rw [heq] at read; cases h; exact read
  next request rest heq =>
    rw [heq] at read
    split at h
    next => cases h
    next =>
      cases h
      have behind := byteLength_skipBlanks_le rest
      exact Nat.le_trans (Nat.sub_le _ _) (Nat.le_trans behind read)

/-- Blanks in front of a text are passed over before anything else. -/
theorem document_append (h : Blank blank) (text : Text) :
    document (blank ++ text) = document text := by
  have passed : record.reader.run (blank ++ text) = record.reader.run text := by
    show record.read (blank ++ text) = record.read text
    rw [Record.read, Record.read, skipBlanks_append h]
  rw [document, document, passed]

/-- A text is refused, and what is said goes for the position behind its first `offset` bytes. -/
def RefusedAt (text said : Text) (offset : Nat) : Prop :=
  offset ≤ text.byteLength ∧ ∃ (refusal : Refusal) (position : Position),
    parse text = .error refusal ∧ position.Behind text.utf8 offset ∧
    refusal.message = said ++ " at line ".toList ++ Text.ofNat position.line ++
      " column ".toList ++ Text.ofNat position.column

theorem parse_eq_error_iff {refusal : Refusal} : parse text = .error refusal ↔
    ∃ failure, document text = .error failure ∧ .ofFailure text failure = refusal :=
  mapError_eq_error_iff

theorem refusedAt_iff {said : Text} {offset : Nat} : RefusedAt text said offset ↔
    ∃ failure, document text = .error failure ∧ said = failure.reason.message ∧
      offset + failure.unread = text.byteLength := by
  have placed (unread : Nat) : (Position.ofOffset text.utf8 (text.byteLength - unread)).Behind
      text.utf8 (text.byteLength - unread) :=
    Position.behind_ofOffset (Text.length_utf8 text ▸ Nat.sub_le _ _)
  constructor
  · rintro ⟨hle, refusal, position, hp, behind, message⟩
    obtain ⟨failure, hd, rfl⟩ := parse_eq_error_iff.mp hp
    have within := document_unread_le hd
    obtain ⟨hsaid, rfl⟩ := message_inj message
    have same := behind.offset_unique (placed failure.unread) (Text.length_utf8 text ▸ hle)
      (Text.length_utf8 text ▸ Nat.sub_le _ _)
    exact ⟨failure, hd, hsaid.symm, by omega⟩
  · rintro ⟨failure, hd, rfl, hoffset⟩
    obtain rfl : offset = text.byteLength - failure.unread := by omega
    exact ⟨Nat.sub_le _ _, _, _, parse_eq_error_iff.mpr ⟨failure, hd, rfl⟩, placed _, rfl⟩

/-- Every refusal is placed within the text, and moves with it: blanks in front of a text change
neither what it spells nor what is said of it, and put the position off by as many bytes. So line
feeds in front of it move the position down by as many lines, in its column. -/
theorem refusal_moves_with_text (text : Text) :
    (∀ refusal, parse text = .error refusal → ∃ said offset, RefusedAt text said offset) ∧
    (∀ blank, Blank blank →
      (∀ request, parse (blank ++ text) = .ok request ↔ parse text = .ok request) ∧
      ∀ said offset, RefusedAt text said offset ↔
        RefusedAt (blank ++ text) said (offset + blank.byteLength)) ∧
    ∀ n, parse (List.replicate n '\n' ++ text) = (parse text).mapError fun refusal =>
      ⟨refusal.reason, refusal.position.line + n, refusal.position.column⟩ := by
  refine ⟨?_, ?_, ?_⟩
  · intro refusal h
    obtain ⟨failure, hd, rfl⟩ := parse_eq_error_iff.mp h
    have within := document_unread_le hd
    exact ⟨_, text.byteLength - failure.unread, refusedAt_iff.mpr ⟨failure, hd, rfl, by omega⟩⟩
  · intro blank hb
    have same := document_append hb text
    refine ⟨?_, ?_⟩
    · intro request
      rw [parse, parse, mapError_eq_ok_iff, mapError_eq_ok_iff, same]
    · intro said offset
      rw [refusedAt_iff, refusedAt_iff, same, Text.byteLength_append]
      have moved (unread : Nat) : offset + unread = text.byteLength ↔
          offset + blank.byteLength + unread = blank.byteLength + text.byteLength := by omega
      simp only [moved]
  · intro n
    have blank : Blank (List.replicate n '\n') := by
      intro c hc
      rw [List.eq_of_mem_replicate hc]
      decide
    have same := document_append blank text
    have length : Text.byteLength (List.replicate n '\n') = n := by
      rw [← Text.length_utf8, Text.utf8_replicate_lf, List.length_replicate]
    rw [parse, parse, same]
    cases hd : document text with
    | ok request => rfl
    | error failure =>
      have within := document_unread_le hd
      have offset : n + text.byteLength - failure.unread =
          text.byteLength - failure.unread + n := by omega
      have moved := Position.ofOffset_replicate n text.utf8 (text.byteLength - failure.unread)
      show Except.error (Refusal.ofFailure _ failure) = Except.error _
      rw [Refusal.ofFailure, Text.utf8_append, Text.utf8_replicate_lf, Text.byteLength_append,
        length, offset, moved]
      rfl

/-- Two line feeds in front move a refusal from the second line to the fourth. -/
example : parse "[[],\n ,".toList = .error ⟨.expectedValue, 2, 2⟩ ∧
    parse "\n\n[[],\n ,".toList = .error ⟨.expectedValue, 4, 2⟩ := by decide +kernel

end Request

end JavaComments
