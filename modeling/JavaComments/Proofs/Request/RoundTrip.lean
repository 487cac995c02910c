import JavaComments.Proofs.Json.Printer
import JavaComments.Proofs.Request.Grammar
import JavaComments.Request.Printer

namespace JavaComments

open Json

theorem Fragment.print_written (fragment : Fragment) :
    Written (FragmentSpelling fragment) fragment.print := by
  cases fragment with
  | comment text => exact writeVariant_written _ (writeString_written text)
  | paragraph text => exact writeVariant_written _ (writeString_written text)
  | sampleCode code => exact writeVariant_written _ (writeString_written code)
  | orderedList items =>
    exact writeVariant_written _ (writeList_written writeString_written items)
  | unorderedList items =>
    exact writeVariant_written _ (writeList_written writeString_written items)

theorem Param.print_written (param : Param) : Written (ParamSpelling param) param.print :=
  writeObject_written
    (.cons ⟨rfl, writeString_written param.name⟩
      (.cons ⟨rfl, writeString_written param.description⟩ .nil))

theorem Throws.print_written (clause : Throws) : Written (ThrowsSpelling clause) clause.print :=
  writeObject_written
    (.cons ⟨rfl, writeString_written clause.type⟩
      (.cons ⟨rfl, writeString_written clause.description⟩ .nil))

namespace Request

theorem print_written (request : Request) : Written (RequestSpelling request) request.print :=
  writeObject_written
    (.cons ⟨rfl, writeList_written Fragment.print_written request.body⟩
      (.cons ⟨rfl, writeList_written Param.print_written request.params⟩
        (.cons ⟨rfl, writeOptional_written Throws.print_written request.throws⟩
          (.cons ⟨rfl, writeOptional_written writeString_written request.deprecated⟩ .nil))))

/-- A request that is written and read again is the same, whatever its texts are, and what is
written has no byte below the space. -/
theorem parse_print (request : Request) :
    parse request.print = .ok request ∧ ∀ b ∈ request.print.utf8, 0x20 ≤ b := by
  have written := request.print_written
  refine ⟨?_, written.utf8_ge⟩
  rw [parse, mapError_eq_ok_iff, document_eq_ok_iff]
  exact written.padded

end Request

end JavaComments
