import JavaComments.Proofs.JavaDoc.Sections
import JavaComments.Proofs.Request.RoundTrip

namespace JavaComments.Request

/-- The request that says what calls say, section by section; the last clause and the last notice
are kept even where they only clear. -/
def ofCalls (calls : List Call) : Request where
  body := calls.filterMap Call.fragment?
  params := calls.filterMap Call.param?
  throws := Call.last? Call.throws? calls
  deprecated := Call.last? Call.notice? calls

theorem calls_fragments (request : Request) :
    request.calls.filterMap Call.fragment? = request.body := by
  simp [calls, Function.comp_def, Call.fragment?]

theorem calls_params (request : Request) :
    request.calls.filterMap Call.param? = request.params := by
  simp [calls, Function.comp_def, Call.param?]

theorem calls_throws (request : Request) :
    request.calls.filterMap Call.throws? = request.throws.toList := by
  simp [calls, Function.comp_def, Call.throws?]

theorem calls_notices (request : Request) :
    request.calls.filterMap Call.notice? = request.deprecated.toList := by
  simp [calls, Function.comp_def, Call.notice?]

theorem last?_throws (request : Request) :
    Call.last? Call.throws? request.calls = request.throws := by
  rw [Call.last?, calls_throws]
  cases request.throws <;> rfl

theorem last?_notice (request : Request) :
    Call.last? Call.notice? request.calls = request.deprecated := by
  rw [Call.last?, calls_notices]
  cases request.deprecated <;> rfl

/-- A replay of what calls say comes to the same as the calls. -/
theorem builder_ofCalls (calls : List Call) : (ofCalls calls).builder = Builder.ofCalls calls := by
  have replayed : Builder.Holds calls (ofCalls calls).builder := by
    refine (Builder.holds_ofCalls (ofCalls calls).calls).congr ?_ ?_ ?_ ?_
    · rw [calls_fragments, ofCalls]
    · rw [calls_params, ofCalls]
    · rw [last?_throws, ofCalls]
    · rw [last?_notice, ofCalls]
  exact replayed.unique (Builder.holds_ofCalls calls)

/-- A replay logs nothing but what it comes to. -/
theorem events_eq (request : Request) : request.events = [request.builder.summary] := by
  have once : (([] ++ request.calls).filterMap Call.throws?).length ≤ 1 := by
    rw [List.nil_append, calls_throws]
    cases request.throws <;> simp
  rw [events, Builder.holds_empty.events_eq_nil once, List.nil_append]

/-- Calls that are written down as a request and read again make the same comment, with the same
line in the log. No replay of a request replaces a clause. -/
theorem parse_print_ofCalls (calls : List Call) :
    (∃ request, parse (ofCalls calls).print = .ok request ∧
      request.build = (Builder.ofCalls calls).build ∧
      request.events = [(Builder.ofCalls calls).summary]) ∧
      ∀ (request : Request) (old new : Text), .replacingThrows old new ∉ request.events := by
  constructor
  · have read : parse (ofCalls calls).print = .ok (ofCalls calls) :=
      parse_eq_ok_iff.mpr (document_eq_ok_iff.mpr (ofCalls calls).print_written.padded)
    exact ⟨ofCalls calls, read, by rw [build, builder_ofCalls], by rw [events_eq, builder_ofCalls]⟩
  · intro request old new hm
    rw [events_eq, List.mem_singleton, Builder.summary] at hm
    cases hm

end JavaComments.Request
