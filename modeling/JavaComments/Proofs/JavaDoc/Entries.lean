import JavaComments.Proofs.JavaDoc.Sections
import Mathlib.Data.List.Basic

namespace JavaComments

namespace Call

/-- What a call adds to the description. -/
def described : Call → List Text
  | .body (.comment text) => [text]
  | .body (.paragraph text) => ["<p> ".toList ++ text]
  | .body (.sampleCode code) =>
    ["<pre><code>".toList] ++ code.bareBreaks.lines ++ ["</code></pre>".toList]
  | .body (.orderedList items) =>
    ["<ol>".toList] ++ items.map ("<li> ".toList ++ ·) ++ ["</ol>".toList]
  | .body (.unorderedList items) =>
    ["<ul>".toList] ++ items.map ("<li> ".toList ++ ·) ++ ["</ul>".toList]
  | _ => []

/-- What a call adds to the parameters. -/
def documented : Call → List Text
  | .param p => ["@param ".toList ++ p.name ++ [' '] ++ p.description]
  | _ => []

def throwsEntry? (clause : Throws) : Option Text :=
  if clause.type = [] then none
  else some ("@throws ".toList ++ clause.type ++ [' '] ++ clause.description)

def noticeEntry? (notice : Text) : Option Text :=
  if notice = [] then none else some ("@deprecated ".toList ++ notice)

/-- The entries of a comment that is made by calls: the description and the parameters in the order
of their calls, then the clause and the notice that were given last, if they say anything. -/
def entries (calls : List Call) : List Text :=
  calls.flatMap described ++ calls.flatMap documented ++
    ((last? throws? calls).bind throwsEntry?).toList ++
    ((last? notice? calls).bind noticeEntry?).toList

end Call

namespace Builder

variable {calls : List Call} {b : Builder}

theorem described_body (fragment : Fragment) :
    Call.described (.body fragment) = fragment.entries := by
  cases fragment with
  | sampleCode code => simp [Call.described, Fragment.entries, Text.codeLines_eq]
  | _ => rfl

theorem Holds.bodyEntries_eq (h : Holds calls b) :
    b.bodyEntries = calls.flatMap Call.described := by
  rw [bodyEntries, h.body, List.filterMap_eq_flatMap_toList, List.flatMap_assoc]
  congr
  funext call
  cases call with
  | body fragment => simp [Call.fragment?, described_body]
  | _ => rfl

theorem Holds.paramEntries_eq (h : Holds calls b) :
    b.params.map Param.entry = calls.flatMap Call.documented := by
  rw [h.params, List.map_filterMap, List.filterMap_eq_flatMap_toList]
  congr
  funext call
  cases call with
  | param p => exact congrArg ([·]) (List.append_cons _ _ _)
  | _ => rfl

theorem throwsEntry?_eq (clause : Throws) :
    Call.throwsEntry? clause = if clause.type.isEmpty then none else some clause.entry := by
  have spaced : clause.entry =
      "@throws ".toList ++ clause.type ++ [' '] ++ clause.description := List.append_cons _ _ _
  exact if_congr List.isEmpty_iff.symm rfl (congrArg some spaced.symm)

theorem Holds.throwsEntry_eq (h : Holds calls b) :
    b.throws.map Throws.entry = (Call.last? Call.throws? calls).bind Call.throwsEntry? := by
  rw [h.throws]
  cases Call.last? Call.throws? calls with
  | none => rfl
  | some clause =>
    rw [Option.bind_some, throwsEntry?_eq, Option.filter_some]
    cases clause.type.isEmpty <;> rfl

theorem noticeEntry?_eq (notice : Text) :
    Call.noticeEntry? notice = if notice.isEmpty then none else some (deprecatedEntry notice) :=
  if_congr List.isEmpty_iff.symm rfl rfl

theorem Holds.noticeEntry_eq (h : Holds calls b) :
    b.deprecated.map deprecatedEntry = (Call.last? Call.notice? calls).bind Call.noticeEntry? := by
  rw [h.deprecated]
  cases Call.last? Call.notice? calls with
  | none => rfl
  | some notice =>
    rw [Option.bind_some, noticeEntry?_eq, Option.filter_some]
    cases notice.isEmpty <;> rfl

theorem Holds.entries_eq (h : Holds calls b) : b.entries = Call.entries calls := by
  rw [entries, h.bodyEntries_eq, h.paramEntries_eq, Call.entries, ← h.throwsEntry_eq,
    ← h.noticeEntry_eq, Option.toList_map, Option.toList_map]

/-- A comment is its entries, one line feed between neighbours. So calls of different sections may
come in any order, and no clause or notice matters but the last one. -/
theorem build_ofCalls (calls : List Call) :
    (ofCalls calls).build.text = Text.unlines (Call.entries calls) ∧
      ∀ others : List Call,
        others.filterMap Call.fragment? = calls.filterMap Call.fragment? →
        others.filterMap Call.param? = calls.filterMap Call.param? →
        Call.last? Call.throws? others = Call.last? Call.throws? calls →
        Call.last? Call.notice? others = Call.last? Call.notice? calls →
        (ofCalls others).build = (ofCalls calls).build := by
  have holds := holds_ofCalls calls
  refine ⟨by rw [build, holds.entries_eq], ?_⟩
  intro others hbody hparams hthrows hnotice
  have same : Holds calls (ofCalls others) :=
    (holds_ofCalls others).congr hbody hparams hthrows hnotice
  rw [same.unique holds]

end Builder

end JavaComments
