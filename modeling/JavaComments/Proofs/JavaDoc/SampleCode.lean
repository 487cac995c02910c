import JavaComments.Comment.Layout
import JavaComments.Proofs.JavaDoc.Entries
import JavaComments.Proofs.Text.Breaks

namespace JavaComments.Builder

open Text

theorem bodyEntries_apply_body (b : Builder) (fragment : Fragment) :
    (b.apply (.body fragment)).bodyEntries = b.bodyEntries ++ fragment.entries := by
  simp [bodyEntries, apply]

/-- A fragment shows in a comment through its entries alone. -/
theorem build_congr_fragment {fragment other : Fragment} (h : other.entries = fragment.entries)
    (before after : List Call) :
    (ofCalls (before ++ .body other :: after)).build =
      (ofCalls (before ++ .body fragment :: after)).build := by
  have same : Call.entries (before ++ .body other :: after) =
      Call.entries (before ++ .body fragment :: after) := by
    simp only [Call.entries, Call.last?, List.flatMap_append, List.flatMap_cons,
      List.filterMap_append, List.filterMap_cons, described_body, h]
    rfl
  rw [build, build, (holds_ofCalls _).entries_eq, (holds_ofCalls _).entries_eq, same]

/-- Sample code is cut at its line feeds, with the carriage return directly before one taken away
and nothing else. So where no line ends in a carriage return, the same lines may come with either
break behind each of them, and the comment is the same. -/
theorem sample_code_lines :
    (∀ (code : Text) (b : Builder), (b.apply (.body (.sampleCode code))).bodyEntries =
      b.bodyEntries ++ (["<pre><code>".toList] ++ code.codeLines ++ ["</code></pre>".toList])) ∧
    (∀ code : Text, code.codeLines = code.bareBreaks.lines ∧
      code.codeLines.length = code.count '\n' + 1 ∧ (∀ line ∈ code.codeLines, '\n' ∉ line) ∧
      ∃ ended last, (∀ e ∈ ended, e.2.Ends e.1) ∧ '\n' ∉ last ∧ code = withBreaks ended last ∧
        code.codeLines = ended.map Prod.fst ++ [last]) ∧
    ∀ (ls : List Text) (last : Text),
      (∀ line ∈ ls, '\n' ∉ line ∧ line.getLast? ≠ some '\r') → '\n' ∉ last →
      ∀ ended others : List (Text × Break),
        ended.map Prod.fst = ls → others.map Prod.fst = ls →
        (withBreaks ended last).codeLines = ls ++ [last] ∧
        ∀ before after : List Call,
          let one :=
            (ofCalls (before ++ .body (.sampleCode (withBreaks ended last)) :: after)).build
          let other :=
            (ofCalls (before ++ .body (.sampleCode (withBreaks others last)) :: after)).build
          other = one ∧ ∀ layout : Layout, layout.javadoc other = layout.javadoc one := by
  refine ⟨?_, ?_, ?_⟩
  · intro code b
    exact bodyEntries_apply_body b (.sampleCode code)
  · intro code
    refine ⟨codeLines_eq code, length_codeLines code, ?_, ?_⟩
    · rw [codeLines_eq]
      exact fun line hl => lf_not_mem_line hl
    · obtain ⟨ended, last, he, hl, hc⟩ := exists_withBreaks code
      exact ⟨ended, last, he, hl, hc, hc ▸ codeLines_withBreaks he hl⟩
  · intro ls last plain hl ended others he ho
    have cut : (withBreaks ended last).codeLines = ls ++ [last] :=
      codeLines_withBreaks_of_plain plain hl he
    refine ⟨cut, ?_⟩
    intro before after one other
    have built : other = one := by
      apply build_congr_fragment
      rw [Fragment.entries, Fragment.entries, cut, codeLines_withBreaks_of_plain plain hl ho]
    exact ⟨built, fun layout => by rw [built]⟩

theorem sample_code_lines_mixed :
    (∀ line ∈ ["a();".toList, []], '\n' ∉ line ∧ line.getLast? ≠ some '\r') ∧
    '\n' ∉ "b();\r".toList ∧
    codeLines "a();\r\n\nb();\r".toList = ["a();".toList, [], "b();\r".toList] ∧
    (ofCalls [.body (.sampleCode "a();\n\r\nb();\r".toList)]).build =
      (ofCalls [.body (.sampleCode "a();\r\n\nb();\r".toList)]).build := by
  have plain : ∀ line ∈ ["a();".toList, []], '\n' ∉ line ∧ line.getLast? ≠ some '\r' := by decide
  have last : '\n' ∉ "b();\r".toList := by decide
  have cut := sample_code_lines.2.2 _ _ plain last
    [("a();".toList, .crlf), ([], .lf)] [("a();".toList, .lf), ([], .crlf)] rfl rfl
  exact ⟨plain, last, cut.1, (cut.2 [] []).1⟩

end JavaComments.Builder
