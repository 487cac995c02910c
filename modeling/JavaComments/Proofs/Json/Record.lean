import JavaComments.Proofs.Json.Object
import JavaComments.Proofs.Json.Tuple

namespace JavaComments.Json

variable {σ α : Type}

namespace Record

variable {record : Record σ α} {slots : List (Slot σ α)}

/-- A record with slots reads exactly the objects and lists that spell its values. -/
theorem reader_reads (h : record.HasSlots slots) :
    record.reader.Reads fun value => RecordSpelling (slots.map (·.field record.start value)) where
  begins := by
    rintro value _ (⟨_, _, _, _, hs⟩ | ⟨_, _, _, _, hs⟩)
    · obtain ⟨tail, rfl⟩ := enclosed_begins hs
      exact ⟨'{', tail, rfl, by decide⟩
    · obtain ⟨tail, rfl⟩ := enclosed_begins hs
      exact ⟨'[', tail, rfl, by decide⟩
  run_iff := by
    intro s value rest
    change record.read s = _ ↔ _
    constructor
    · intro hr
      unfold read at hr
      split at hr
      next => simp at hr
      next heq =>
        obtain ⟨spelled, hs, rfl⟩ := h.object_closed_iff.mp (enclosed_eq_ok_iff.mp hr)
        obtain ⟨blank, hb, rfl⟩ := (skipBlanks_eq_cons_iff (by decide)).mp heq
        exact ⟨blank, '{' :: spelled, hb, .inl hs, by simp⟩
      next heq =>
        obtain ⟨spelled, hs, rfl⟩ := h.tuple_closed_iff.mp (enclosed_eq_ok_iff.mp hr)
        obtain ⟨blank, hb, rfl⟩ := (skipBlanks_eq_cons_iff (by decide)).mp heq
        exact ⟨blank, '[' :: spelled, hb, .inr hs, by simp⟩
      next => simp at hr
    · intro hx
      obtain ⟨blank, spelled, hb, hs, rfl⟩ := hx
      rw [read, List.append_assoc, skipBlanks_append hb]
      rcases hs with hs | hs
      · obtain ⟨tail, rfl⟩ : ∃ tail, spelled = '{' :: tail := by
          obtain ⟨_, _, _, _, he⟩ := hs
          exact enclosed_begins he
        rw [List.cons_append, skipBlanks_cons_token (by decide)]
        exact enclosed_eq_ok_iff.mpr (h.object_closed_iff.mpr ⟨tail, hs, rfl⟩)
      · obtain ⟨tail, rfl⟩ : ∃ tail, spelled = '[' :: tail := by
          obtain ⟨_, _, _, _, he⟩ := hs
          exact enclosed_begins he
        rw [List.cons_append, skipBlanks_cons_token (by decide)]
        exact enclosed_eq_ok_iff.mpr (h.tuple_closed_iff.mpr ⟨tail, hs, rfl⟩)

end Record

section TwoTexts

variable {name first second : Text} {default? : Option Text} {make : Text → Text → α}

/-- The slots of two texts that can be taken out of the value again. -/
def twoTextsSlots (first second : Text) (default? : Option Text) (left right : α → Text) :
    List (Slot TwoTexts α) :=
  [.putting first string StringSpelling (fun text state => { state with first := some text })
      fun state value => state.first = some (left value),
    .putting second string StringSpelling (fun text state => { state with second := some text })
      fun state value => state.second.or default? = some (right value)]

theorem twoTexts_hasSlots {left right : α → Text} (hne : first ≠ second)
    (hmake : ∀ x y value, make x y = value ↔ x = left value ∧ y = right value) :
    (twoTexts name first second default? make).HasSlots
      (twoTextsSlots first second default? left right) where
  fields := rfl
  nodup := by simpa [twoTextsSlots] using hne
  reads := by
    simp only [twoTextsSlots, List.forall_mem_cons]
    exact ⟨Slot.putting_reads string_reads, Slot.putting_reads string_reads, by simp⟩
  settles := by
    simp only [twoTextsSlots, List.forall_mem_cons]
    exact ⟨Slot.forall_putting fun _ _ _ => .rfl, Slot.forall_putting fun _ _ _ => .rfl, by simp⟩
  apart := by
    simp only [twoTextsSlots, List.pairwise_cons, List.forall_mem_cons]
    exact ⟨⟨⟨Slot.forall_putting fun _ _ _ => .rfl, Slot.forall_putting fun _ _ _ => .rfl⟩,
      by simp⟩, by simp⟩
  finish := by
    rintro ⟨x, y⟩ value
    simp only [twoTextsSlots, List.forall_mem_cons, Slot.putting_settled, twoTexts]
    cases x with
    | none => simp
    | some x => cases y.or default? <;> simp [hmake]

/-- A record of two texts reads their spellings. The second may be left out if it is the default. -/
theorem twoTexts_reads (left right : α → Text) (hne : first ≠ second)
    (hmake : ∀ x y value, make x y = value ↔ x = left value ∧ y = right value) :
    (twoTexts name first second default? make).reader.Reads fun value => RecordSpelling
      [⟨first, StringSpelling (left value), False⟩,
        ⟨second, StringSpelling (right value), default? = some (right value)⟩] := by
  have h : (twoTexts name first second default? make).HasSlots
      (twoTextsSlots first second default? left right) := twoTexts_hasSlots hne hmake
  have fields : ∀ value, (twoTextsSlots first second default? left right).map (·.field {} value) =
      [⟨first, StringSpelling (left value), False⟩,
        ⟨second, StringSpelling (right value), default? = some (right value)⟩] := by
    intro value
    rw [twoTextsSlots, List.map_cons, List.map_cons, List.map_nil,
      Slot.putting_field (b := left value) (by simp),
      Slot.putting_field (b := right value) (by simp)]
    simp
  have start : (twoTexts name first second default? make).start = {} := rfl
  simpa only [start, fields] using Record.reader_reads h

end TwoTexts

end JavaComments.Json
