import JavaComments.Json.Reader
import JavaComments.Proofs.Json.Quoted
import Mathlib.Data.List.TakeWhile

namespace JavaComments.Json

variable {α β : Type} {s rest : Text}

theorem isBlank_iff {c : Char} :
    isBlank c = true ↔ c = ' ' ∨ c = '\t' ∨ c = '\n' ∨ c = '\r' := by
  simp [isBlank, or_assoc]

theorem blank_nil : Blank [] := by simp [Blank]

theorem blank_append_iff {front back : Text} :
    Blank (front ++ back) ↔ Blank front ∧ Blank back := by
  simp only [Blank, List.forall_mem_append]

theorem exists_skipBlanks (s : Text) : ∃ blank, Blank blank ∧ s = blank ++ skipBlanks s := by
  refine ⟨s.takeWhile isBlank, ?_, List.takeWhile_append_dropWhile.symm⟩
  intro c hc
  exact isBlank_iff.mp (List.mem_takeWhile_imp hc)

theorem skipBlanks_append {blank : Text} (h : Blank blank) (s : Text) :
    skipBlanks (blank ++ s) = skipBlanks s :=
  List.dropWhile_append_of_pos fun c hc => isBlank_iff.mpr (h c hc)

theorem skipBlanks_eq_cons_iff {c : Char} (hc : isBlank c = false) :
    skipBlanks s = c :: rest ↔ ∃ blank, Blank blank ∧ s = blank ++ c :: rest := by
  constructor
  · intro h
    obtain ⟨blank, hb, hs⟩ := exists_skipBlanks s
    exact ⟨blank, hb, by rw [← h, ← hs]⟩
  · intro hx
    obtain ⟨blank, hb, rfl⟩ := hx
    rw [skipBlanks_append hb, skipBlanks_cons_token hc]

theorem skipBlanks_eq_nil_iff : skipBlanks s = [] ↔ Blank s := by
  simp only [skipBlanks, List.dropWhile_eq_nil_iff, isBlank_iff, Blank]

theorem colon_eq_ok_iff :
    colon s = .ok rest ↔ ∃ blank, Blank blank ∧ s = blank ++ ':' :: rest := by
  rw [← skipBlanks_eq_cons_iff (by decide)]
  unfold colon
  split <;> simp_all

/-- Beyond blanks, the reader takes exactly what spells its value. -/
structure Reader.Reads (reader : Reader α) (spelling : α → Text → Prop) : Prop where
  begins : ∀ {value spelled}, spelling value spelled →
    ∃ c tail, spelled = c :: tail ∧ isBlank c = false ∧ c ≠ ']'
  run_iff : ∀ {s value rest}, reader.run s = .ok (value, rest) ↔
    ∃ blank spelled, Blank blank ∧ spelling value spelled ∧ s = blank ++ spelled ++ rest

theorem string_reads : string.Reads StringSpelling where
  begins := by
    intro text spelled h
    obtain ⟨tail, rfl⟩ := h.begins
    exact ⟨'"', tail, rfl, by decide⟩
  run_iff := by
    intro s text rest
    change readString s = _ ↔ _
    constructor
    · intro h
      unfold readString at h
      split at h
      next => simp at h
      next tail heq =>
        obtain ⟨spelled, hs, rfl⟩ := contents_eq_ok_iff.mp (mapError_eq_ok_iff.mp h)
        obtain ⟨blank, hb, rfl⟩ := (skipBlanks_eq_cons_iff (by decide)).mp heq
        exact ⟨blank, '"' :: spelled, hb, hs, by simp⟩
      next => simp at h
    · intro h
      obtain ⟨blank, spelled, hb, hs, rfl⟩ := h
      obtain ⟨tail, rfl⟩ := hs.begins
      have hq : skipBlanks (blank ++ '"' :: tail ++ rest) = '"' :: (tail ++ rest) :=
        (skipBlanks_eq_cons_iff (by decide)).mpr ⟨blank, hb, by simp⟩
      have hc : contents (tail ++ rest) = .ok (text, rest) :=
        contents_eq_ok_iff.mpr ⟨tail, hs, rfl⟩
      rw [readString, hq]
      exact mapError_eq_ok_iff.mpr hc

theorem map_reads {reader : Reader α} {spelling : α → Text → Prop} (h : reader.Reads spelling)
    (f : α → β) :
    (reader.map f).Reads fun b spelled => ∃ a, f a = b ∧ spelling a spelled where
  begins := by
    rintro _ _ ⟨a, _, hs⟩
    exact h.begins hs
  run_iff := by
    intro s b rest
    change (reader.run s).map _ = _ ↔ _
    rw [map_eq_ok_iff]
    constructor
    · intro hx
      obtain ⟨⟨a, tail⟩, hr, he⟩ := hx
      cases he
      obtain ⟨blank, spelled, hb, hs, rfl⟩ := h.run_iff.mp hr
      exact ⟨blank, spelled, hb, ⟨a, rfl, hs⟩, rfl⟩
    · intro hx
      obtain ⟨blank, spelled, hb, ⟨a, rfl, hs⟩, rfl⟩ := hx
      exact ⟨(a, rest), h.run_iff.mpr ⟨blank, spelled, hb, hs, rfl⟩, rfl⟩

theorem optional_reads {reader : Reader α} {spelling : α → Text → Prop} (h : reader.Reads spelling)
    (hn : ∀ value spelled, spelling value spelled → spelled.head? ≠ some 'n') :
    (optional reader).Reads (OptionSpelling spelling) where
  begins {value spelled} hs := by
    cases value with
    | none => exact ⟨'n', "ull".toList, hs, by decide⟩
    | some value => exact h.begins hs
  run_iff := by
    intro s value rest
    change readOptional reader s = _ ↔ _
    constructor
    · intro hr
      obtain ⟨blank, hb, hs⟩ := exists_skipBlanks s
      unfold readOptional at hr
      split at hr
      next => simp at hr
      next tail heq =>
        obtain ⟨tail', hw, he⟩ := map_eq_ok_iff.mp hr
        cases he
        have ht := word_eq_ok_iff.mp (mapError_eq_ok_iff.mp hw)
        exact ⟨blank, "null".toList, hb, rfl, by rw [hs, heq, ht]; simp⟩
      next =>
        obtain ⟨⟨inner, tail⟩, hi, he⟩ := map_eq_ok_iff.mp hr
        cases he
        obtain ⟨blank', spelled, hb', hp, ht⟩ := h.run_iff.mp hi
        exact ⟨blank ++ blank', spelled, blank_append_iff.mpr ⟨hb, hb'⟩, hp, by
          rw [hs, ht]; simp⟩
    · intro hx
      obtain ⟨blank, spelled, hb, hs, rfl⟩ := hx
      rw [readOptional, List.append_assoc, skipBlanks_append hb]
      cases value with
      | none =>
        cases hs
        have hw : word "ull".toList ("ull".toList ++ rest) = .ok rest := word_eq_ok_iff.mpr rfl
        change (((word "ull".toList ("ull".toList ++ rest)).mapError Fault.placed).map _) = _
        rw [hw]
        rfl
      | some value =>
        obtain ⟨c, tail, rfl, token, _⟩ := h.begins hs
        have hi : reader.run (c :: tail ++ rest) = .ok (value, rest) :=
          h.run_iff.mpr ⟨[], c :: tail, blank_nil, hs, rfl⟩
        have letter : c ≠ 'n' := by simpa using hn value _ hs
        rw [List.cons_append, skipBlanks_cons_token token, ← List.cons_append]
        split
        next heq => simp at heq
        next heq => simp [letter] at heq
        next =>
          rw [hi]
          rfl

/-- A colon and a value, as they stand behind a key. -/
theorem Reader.Reads.behind_colon_iff {reader : Reader α} {spelling : α → Text → Prop}
    (h : reader.Reads spelling) {value : α} :
    (∃ start, colon s = .ok start ∧ reader.run start = .ok (value, rest)) ↔
      ∃ before after spelled, Blank before ∧ Blank after ∧ spelling value spelled ∧
        s = before ++ ':' :: after ++ spelled ++ rest := by
  constructor
  · intro hx
    obtain ⟨start, hc, hr⟩ := hx
    obtain ⟨before, hb, rfl⟩ := colon_eq_ok_iff.mp hc
    obtain ⟨after, spelled, ha, hs, rfl⟩ := h.run_iff.mp hr
    exact ⟨before, after, spelled, hb, ha, hs, by simp⟩
  · intro hx
    obtain ⟨before, after, spelled, hb, ha, hs, rfl⟩ := hx
    have hc : colon (before ++ ':' :: after ++ spelled ++ rest) = .ok (after ++ spelled ++ rest) :=
      colon_eq_ok_iff.mpr ⟨before, hb, by simp⟩
    exact ⟨after ++ spelled ++ rest, hc, h.run_iff.mpr ⟨after, spelled, ha, hs, rfl⟩⟩

end JavaComments.Json
