import JavaComments.Proofs.Json.Stable.Record
import JavaComments.Proofs.Request.Grammar

namespace JavaComments.Request

open Json

theorem fragmentVariants_stable : ∀ entry ∈ fragmentVariants, Stable entry.reader.run := by
  simp only [fragmentVariants, List.forall_mem_cons]
  exact ⟨map_stable string_stable _, map_stable string_stable _, map_stable string_stable _,
    map_stable (list_stable string_stable) _, map_stable (list_stable string_stable) _, by simp⟩

theorem paramRecord_stable : Stable paramRecord.reader.run := by
  unfold paramRecord
  exact twoTexts_stable

theorem throwsRecord_stable : Stable throwsRecord.reader.run := by
  unfold throwsRecord
  exact twoTexts_stable

theorem record_stable : Stable record.reader.run := by
  apply Record.reader_stable
  unfold record
  simp only
  rw [List.forall_mem_cons, List.forall_mem_cons, List.forall_mem_cons, List.forall_mem_singleton]
  exact ⟨map_stable (list_stable (choice_stable fragmentVariants_stable)) _,
    map_stable (list_stable paramRecord_stable) _,
    map_stable (optional_stable throwsRecord_stable) _,
    map_stable (optional_stable string_stable) _⟩

theorem parse_of_fault {text : Text} {fault : Fault} (h : record.reader.run text = .error fault) :
    parse text = .error (.ofFailure text fault.failure) := by
  rw [parse, document, h]
  rfl

theorem refusal_isEnd_message {text : Text} {failure : Failure} (h : failure.reason.isEnd = true) :
    "EOF while parsing".toList <+: (Refusal.ofFailure text failure).message := by
  unfold Refusal.message
  rw [List.append_assoc, List.append_assoc, List.append_assoc]
  exact (Reason.isEnd_message h).trans (List.prefix_append _ _)

variable {before value after cut more : Text} {request : Request}

/-- What stands before the cut is read as it was before, and a cut into the blanks leaves blanks. -/
theorem parse_cut_behind (hb : Blank before) (hv : RequestSpelling request value)
    (ha : Blank after) (happ : cut ++ more = before ++ value ++ after)
    (hcut : before ++ value <+: cut) : parse cut = .ok request := by
  obtain ⟨kept, rfl⟩ := hcut
  rw [List.append_assoc, List.append_cancel_left_eq] at happ
  have hk : Blank kept := (blank_append_iff.mp (happ ▸ ha)).1
  exact parse_eq_ok_iff.mpr (document_eq_ok_iff.mpr ⟨before, value, kept, hb, hv, hk, rfl⟩)

theorem parse_cut_within (hb : Blank before) (hv : RequestSpelling request value)
    (happ : cut ++ more = before ++ value ++ after) (hcut : ¬ before ++ value <+: cut) :
    ∃ refusal, parse cut = .error refusal ∧ "EOF while parsing".toList <+: refusal.message := by
  have run : record.reader.run (cut ++ more) = .ok (request, after) :=
    request_reads.run_iff.mpr ⟨before, value, hb, hv, happ⟩
  have outlasts := record_stable cut more
  rw [run] at outlasts
  rcases outlasts.of_ok with ⟨⟨_, rest⟩, _, hrest⟩ | ⟨fault, hf, hend⟩
  · -- The value would be read to its end, so that it stands before the cut.
    obtain ⟨rfl, rfl⟩ := Prod.mk.inj hrest
    rw [← List.append_assoc, List.append_cancel_right_eq] at happ
    exact absurd ⟨rest, happ.symm⟩ hcut
  · exact ⟨_, parse_of_fault hf, refusal_isEnd_message hend⟩

/-- A text that spells a request is read as that request when it is cut behind the closing bracket
of its value, and is refused as one that ended too early when it is cut anywhere before. So a text
that is refused for another reason does not begin one that is accepted. -/
theorem parse_prefix (text : Text) :
    (∀ request, parse text = .ok request →
      ∃ before value after, text = before ++ value ++ after ∧
        Blank before ∧ RequestSpelling request value ∧ Blank after ∧
        ∀ cut, cut <+: text →
          (before ++ value <+: cut → parse cut = .ok request) ∧
          (¬ before ++ value <+: cut → ∃ refusal, parse cut = .error refusal ∧
            "EOF while parsing".toList <+: refusal.message)) ∧
    (∀ refusal, parse text = .error refusal →
      ¬ "EOF while parsing".toList <+: refusal.message →
      ∀ more request, parse (text ++ more) ≠ .ok request) := by
  have parts {text : Text} {request : Request} (h : parse text = .ok request) :
      Document request text := document_eq_ok_iff.mp (parse_eq_ok_iff.mp h)
  refine ⟨?_, ?_⟩
  · intro request h
    obtain ⟨before, value, after, hb, hv, ha, htext⟩ := parts h
    refine ⟨before, value, after, htext, hb, hv, ha, ?_⟩
    rintro cut ⟨more, hmore⟩
    have happ := hmore.trans htext
    exact ⟨parse_cut_behind hb hv ha happ, parse_cut_within hb hv happ⟩
  · intro refusal h hmessage more request hmore
    obtain ⟨before, value, after, hb, hv, ha, happ⟩ := parts hmore
    by_cases hcut : before ++ value <+: text
    · rw [parse_cut_behind hb hv ha happ hcut] at h
      cases h
    · obtain ⟨_, herror, heof⟩ := parse_cut_within hb hv happ hcut
      cases h.symm.trans herror
      exact hmessage heof

end JavaComments.Request
