import JavaComments.Proofs.Json.Record
import JavaComments.Request.Reader

namespace JavaComments

open Json

def FragmentSpelling : Fragment → Text → Prop
  | .comment text => Enclosed '{' '}' [MemberSpelling "comment".toList (StringSpelling text)]
  | .paragraph text => Enclosed '{' '}' [MemberSpelling "paragraph".toList (StringSpelling text)]
  | .sampleCode code => Enclosed '{' '}' [MemberSpelling "sample_code".toList (StringSpelling code)]
  | .orderedList items =>
    Enclosed '{' '}' [MemberSpelling "ordered_list".toList (ListSpelling StringSpelling items)]
  | .unorderedList items =>
    Enclosed '{' '}' [MemberSpelling "unordered_list".toList (ListSpelling StringSpelling items)]

def ParamSpelling (param : Param) : Text → Prop :=
  RecordSpelling
    [⟨"name".toList, StringSpelling param.name, False⟩,
      ⟨"description".toList, StringSpelling param.description, False⟩]

/-- A clause may leave out a description that is empty. -/
def ThrowsSpelling (clause : Throws) : Text → Prop :=
  RecordSpelling
    [⟨"type".toList, StringSpelling clause.type, False⟩,
      ⟨"description".toList, StringSpelling clause.description, clause.description = []⟩]

/-- A request may leave out the sections that are empty. -/
def RequestSpelling (request : Request) : Text → Prop :=
  RecordSpelling
    [⟨"body".toList, ListSpelling FragmentSpelling request.body, request.body = []⟩,
      ⟨"params".toList, ListSpelling ParamSpelling request.params, request.params = []⟩,
      ⟨"throws".toList, OptionSpelling ThrowsSpelling request.throws, request.throws = none⟩,
      ⟨"deprecated".toList, OptionSpelling StringSpelling request.deprecated,
        request.deprecated = none⟩]

namespace Request

/-- The kinds of fragments, each with the values it has and their spellings. -/
def fragmentKinds : List (Entry Fragment × (Fragment → Text → Prop)) :=
  [(⟨"comment".toList, string.map .comment⟩, fun fragment spelled =>
      ∃ text, .comment text = fragment ∧ StringSpelling text spelled),
    (⟨"paragraph".toList, string.map .paragraph⟩, fun fragment spelled =>
      ∃ text, .paragraph text = fragment ∧ StringSpelling text spelled),
    (⟨"sample_code".toList, string.map .sampleCode⟩, fun fragment spelled =>
      ∃ code, .sampleCode code = fragment ∧ StringSpelling code spelled),
    (⟨"ordered_list".toList, (list string).map .orderedList⟩, fun fragment spelled =>
      ∃ items, .orderedList items = fragment ∧ ListSpelling StringSpelling items spelled),
    (⟨"unordered_list".toList, (list string).map .unorderedList⟩, fun fragment spelled =>
      ∃ items, .unorderedList items = fragment ∧ ListSpelling StringSpelling items spelled)]

theorem not_enclosed_false {opening closing : Char} {key spelled : Text} :
    ¬ Enclosed opening closing [MemberSpelling key fun _ => False] spelled := by
  intro hx
  obtain ⟨_, hs, _⟩ := hx
  obtain ⟨_, _, _, _, _, _, _, _, h, _⟩ :=
    (separated_iff_listed.mp hs).exists_spelled _ List.mem_cons_self
  exact h

theorem fragmentSpelling_iff {fragment : Fragment} {spelled : Text} :
    (∃ kind ∈ fragmentKinds,
      Enclosed '{' '}' [MemberSpelling kind.1.key (kind.2 fragment)] spelled) ↔
      FragmentSpelling fragment spelled := by
  cases fragment <;>
    simp [fragmentKinds, FragmentSpelling, not_enclosed_false]

theorem fragment_reads : (choice fragmentVariants).Reads FragmentSpelling := by
  have hk : ((fragmentKinds.map Prod.fst).map Entry.key).Nodup := by
    decide
  have h : ∀ kind ∈ fragmentKinds, kind.1.reader.Reads kind.2 := by
    simp only [fragmentKinds, List.forall_mem_cons]
    exact ⟨map_reads string_reads _, map_reads string_reads _, map_reads string_reads _,
      map_reads (list_reads string_reads) _, map_reads (list_reads string_reads) _, by simp⟩
  have reads := choice_reads hk h
  simp only [fragmentSpelling_iff] at reads
  exact reads

theorem param_reads : paramRecord.reader.Reads ParamSpelling := by
  have reads : paramRecord.reader.Reads _ :=
    twoTexts_reads Param.name Param.description (by decide) (by rintro x y ⟨⟩; simp)
  simp only [reduceCtorEq] at reads
  exact reads

theorem throws_reads : throwsRecord.reader.Reads ThrowsSpelling := by
  have reads : throwsRecord.reader.Reads _ :=
    twoTexts_reads Throws.type Throws.description (by decide) (by rintro x y ⟨⟩; simp)
  simp only [Option.some.injEq, eq_comm (a := [])] at reads
  exact reads

theorem string_not_null (text spelled : Text) (h : StringSpelling text spelled) :
    spelled.head? ≠ some 'n' := by
  obtain ⟨tail, rfl⟩ := h.begins
  simp

theorem throws_not_null (clause : Throws) (spelled : Text) (h : ThrowsSpelling clause spelled) :
    spelled.head? ≠ some 'n' := by
  rcases h with ⟨_, _, _, _, h⟩ | ⟨_, _, _, _, h⟩
  · obtain ⟨tail, rfl⟩ := enclosed_begins h
    simp
  · obtain ⟨tail, rfl⟩ := enclosed_begins h
    simp

/-- The slots of a request are its sections. -/
def slots : List (Slot Request Request) :=
  [.putting "body".toList (list (choice fragmentVariants)) (ListSpelling FragmentSpelling)
      (fun body r => { r with body := body }) fun r value => value.body = r.body,
    .putting "params".toList (list paramRecord.reader) (ListSpelling ParamSpelling)
      (fun params r => { r with params := params }) fun r value => value.params = r.params,
    .putting "throws".toList (optional throwsRecord.reader) (OptionSpelling ThrowsSpelling)
      (fun throws r => { r with throws := throws }) fun r value => value.throws = r.throws,
    .putting "deprecated".toList (optional string) (OptionSpelling StringSpelling)
      (fun deprecated r => { r with deprecated := deprecated }) fun r value =>
        value.deprecated = r.deprecated]

theorem record_hasSlots : record.HasSlots slots where
  fields := rfl
  nodup := by
    have keys : slots.map Slot.key =
        ["body".toList, "params".toList, "throws".toList, "deprecated".toList] := rfl
    rw [keys]
    decide
  reads := by
    simp only [slots, List.forall_mem_cons]
    exact ⟨Slot.putting_reads (list_reads fragment_reads),
      Slot.putting_reads (list_reads param_reads),
      Slot.putting_reads (optional_reads throws_reads throws_not_null),
      Slot.putting_reads (optional_reads string_reads string_not_null), by simp⟩
  settles := by
    simp only [slots, List.forall_mem_cons]
    exact ⟨Slot.forall_putting fun _ _ _ => .rfl, Slot.forall_putting fun _ _ _ => .rfl,
      Slot.forall_putting fun _ _ _ => .rfl, Slot.forall_putting fun _ _ _ => .rfl, by simp⟩
  apart := by
    simp only [slots, List.pairwise_cons, List.forall_mem_cons]
    refine ⟨⟨?_, ?_, ?_, by simp⟩, ⟨?_, ?_, by simp⟩, ⟨?_, by simp⟩, by simp⟩
    all_goals
      exact ⟨Slot.forall_putting fun _ _ _ => .rfl, Slot.forall_putting fun _ _ _ => .rfl⟩
  finish := by
    rintro ⟨body, params, throws, deprecated⟩ ⟨body', params', throws', deprecated'⟩
    change Except.ok _ = Except.ok _ ↔ _
    simp [slots, eq_comm]

theorem request_reads : record.reader.Reads RequestSpelling := by
  have fields : ∀ request : Request, slots.map (·.field {} request) =
      [⟨"body".toList, ListSpelling FragmentSpelling request.body, request.body = []⟩,
        ⟨"params".toList, ListSpelling ParamSpelling request.params, request.params = []⟩,
        ⟨"throws".toList, OptionSpelling ThrowsSpelling request.throws, request.throws = none⟩,
        ⟨"deprecated".toList, OptionSpelling StringSpelling request.deprecated,
          request.deprecated = none⟩] := by
    intro request
    simp only [slots, List.map_cons, List.map_nil]
    rw [Slot.putting_field fun _ => eq_comm, Slot.putting_field fun _ => eq_comm,
      Slot.putting_field fun _ => eq_comm, Slot.putting_field fun _ => eq_comm]
  have start : record.start = {} := rfl
  have reads := Record.reader_reads record_hasSlots
  simp only [start, fields] at reads
  exact reads

/-- The texts that spell a request: blanks may stand around it. -/
def Document (request : Request) : Text → Prop := Padded (RequestSpelling request)

theorem document_eq_ok_iff {text : Text} {request : Request} :
    document text = .ok request ↔ Document request text := by
  have read : document text = .ok request ↔
      ∃ rest, record.reader.run text = .ok (request, rest) ∧ skipBlanks rest = [] := by
    unfold document
    split
    next heq => simp [heq]
    next heq => split <;> simp_all
  rw [read]
  constructor
  · intro hx
    obtain ⟨rest, hr, hb⟩ := hx
    obtain ⟨before, spelled, hbefore, hs, rfl⟩ := request_reads.run_iff.mp hr
    exact ⟨before, spelled, rest, hbefore, hs, skipBlanks_eq_nil_iff.mp hb, rfl⟩
  · intro hx
    obtain ⟨before, spelled, after, hbefore, hs, hafter, rfl⟩ := hx
    exact ⟨after, request_reads.run_iff.mpr ⟨before, spelled, hbefore, hs, rfl⟩,
      skipBlanks_eq_nil_iff.mpr hafter⟩

theorem parse_eq_ok_iff {text : Text} {request : Request} :
    parse text = .ok request ↔ document text = .ok request := mapError_eq_ok_iff

/-- The reader accepts exactly the texts that spell a request, and takes each for the request that
it spells. -/
theorem parse_eq_ok_iff_document (text : Text) (request : Request) :
    parse text = .ok request ↔ Document request text := by
  rw [parse, mapError_eq_ok_iff, document_eq_ok_iff]

end Request

end JavaComments
