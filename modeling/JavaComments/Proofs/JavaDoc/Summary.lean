import JavaComments.Proofs.JavaDoc.Sections
import Mathlib.Algebra.GroupWithZero.Nat

namespace JavaComments

/-- How many entries a fragment adds to the description. -/
def Fragment.count : Fragment → Nat
  | comment _ => 1
  | paragraph _ => 1
  | sampleCode code => code.count '\n' + 3
  | orderedList items => items.length + 2
  | unorderedList items => items.length + 2

theorem length_listEntries (opening : Text) (items : List Text) (closing : Text) :
    (listEntries opening items closing).length = items.length + 2 := by
  simp [listEntries]

theorem Fragment.length_entries (fragment : Fragment) :
    fragment.entries.length = fragment.count := by
  cases fragment with
  | comment | paragraph => rfl
  | sampleCode code => simp [entries, count, Text.length_codeLines]
  | orderedList items | unorderedList items => exact length_listEntries _ items _

namespace Builder

variable {calls : List Call} {b : Builder}

theorem length_bodyEntries (b : Builder) :
    b.bodyEntries.length = (b.body.map Fragment.count).sum := by
  rw [bodyEntries, List.length_flatMap]
  simp [Fragment.length_entries]

/-- The summary counts what the calls come to. -/
theorem Holds.summary_eq (h : Holds calls b) : b.summary =
    .building ((calls.filterMap Call.fragment?).map Fragment.count).sum
      (calls.filterMap Call.param?).length
      ((Call.last? Call.throws? calls).any fun clause => !clause.type.isEmpty)
      ((Call.last? Call.notice? calls).any fun notice => !notice.isEmpty) := by
  rw [summary, length_bodyEntries, h.body, h.params, h.throws, h.deprecated,
    Option.isSome_filter, Option.isSome_filter]

end Builder

end JavaComments
