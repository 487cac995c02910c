import JavaComments.Proofs.Json.Sequence
import JavaComments.Proofs.Json.Slot

namespace JavaComments.Json.Record

variable {σ α : Type} {s rest : Text} {record : Record σ α} {slots : List (Slot σ α)}

theorem positions_sound {slots : List (Slot σ α)}
    (h : ∀ slot ∈ slots, slot.entry.reader.Reads slot.spelling) {present count : Nat}
    {state final : σ} {inner : Text}
    (hp : positions present state s (slots.map Slot.entry) = .ok ((final, count), inner))
    (hc : closeList inner = ⟨rest, none⟩) :
    ∃ read absent, read.map Prod.fst ++ absent = slots ∧ final = applied state read ∧
      ∃ spelled, Listed (present = 0) (read.map fun x => x.1.spelling x.2) spelled ∧
        s = spelled ++ ']' :: rest := by
  induction slots generalizing present state s with
  | nil =>
    cases hp
    exact ⟨[], [], rfl, rfl, closeList_eq_iff.mp hc⟩
  | cons slot slots ih =>
    obtain ⟨hslot, hslots⟩ := List.forall_mem_cons.mp h
    rw [List.map_cons, positions] at hp
    split at hp
    next => simp at hp
    next tail hn =>
      cases hp
      obtain ⟨blank, tail', hb, hs, rfl⟩ := nextItem_done_iff.mp hn
      cases closeList_bracket.symm.trans hc
      exact ⟨[], slot :: slots, rfl, rfl, blank, hb, hs⟩
    next start hn =>
      split at hp
      next => simp at hp
      next update tail hv =>
        obtain ⟨read, absent, rfl, rfl, spelled, hl, rfl⟩ := ih hslots hp
        obtain ⟨lead, hlead, hs⟩ := nextItem_element_sound hn
        obtain ⟨blank, written, hb, hu, rfl⟩ := hslot.run_iff.mp hv
        exact ⟨(slot, update) :: read, absent, rfl, rfl, _,
          ⟨lead ++ blank, written, spelled, hlead.append hb, hu, hl, rfl⟩, by rw [hs]; simp⟩

theorem positions_complete {slots : List (Slot σ α)}
    (h : ∀ slot ∈ slots, slot.entry.reader.Reads slot.spelling) {present : Nat}
    {read : List (Slot σ α × (σ → σ))} {absent : List (Slot σ α)} {spelled : Text}
    (hp : read.map Prod.fst ++ absent = slots)
    (hl : Listed (present = 0) (read.map fun x => x.1.spelling x.2) spelled) (state : σ) :
    ∃ count inner, positions present state (spelled ++ ']' :: rest) (slots.map Slot.entry) =
        .ok ((applied state read, count), inner) ∧ closeList inner = ⟨rest, none⟩ := by
  induction read generalizing present state spelled slots with
  | nil =>
    cases slots with
    | nil => exact ⟨present, _, rfl, closeList_eq_iff.mpr ⟨spelled, hl, rfl⟩⟩
    | cons slot slots =>
      have hn : nextItem (present = 0) (spelled ++ ']' :: rest) = .ok (.done (']' :: rest)) :=
        nextItem_done_iff.mpr ⟨spelled, rest, hl, rfl, rfl⟩
      refine ⟨present, ']' :: rest, ?_, closeList_bracket⟩
      rw [List.map_cons, positions, hn]
      rfl
  | cons x read ih =>
    subst hp
    obtain ⟨hslot, hslots⟩ := List.forall_mem_cons.mp h
    obtain ⟨lead, written, tail, hlead, hu, ht, rfl⟩ := hl
    obtain ⟨c, written, rfl, token, hne⟩ := hslot.begins hu
    have later : Listed (present + 1 = 0) (read.map fun x => x.1.spelling x.2) tail := by
      simpa using ht
    obtain ⟨count, inner, hi, hc⟩ := ih hslots rfl later (x.2 state)
    have hn := nextItem_element_complete hlead token hne (written ++ (tail ++ ']' :: rest))
    have hr : x.1.entry.reader.run (c :: (written ++ (tail ++ ']' :: rest))) =
        .ok (x.2, tail ++ ']' :: rest) :=
      hslot.run_iff.mpr ⟨[], c :: written, blank_nil, hu, by simp⟩
    refine ⟨count, inner, ?_, hc⟩
    have shape : lead ++ c :: written ++ tail ++ ']' :: rest =
        lead ++ c :: (written ++ (tail ++ ']' :: rest)) := by simp
    rw [shape, List.map_cons, List.cons_append, List.map_cons, positions, hn]
    simp only [hr]
    exact hi

theorem tuple_eq_ok_iff {value : α} :
    record.tuple s = .ok (value, rest) ↔
      ∃ state count, positions 0 record.start s record.fields = .ok ((state, count), rest) ∧
        record.finish state = .ok value := by
  rw [tuple, bind_eq_ok_iff]
  constructor
  · intro hx
    obtain ⟨⟨⟨state, count⟩, tail⟩, hp, h⟩ := hx
    dsimp only at h
    split at h
    next heq => cases h; exact ⟨state, count, hp, heq⟩
    next => simp at h
  · intro hx
    obtain ⟨state, count, hp, hf⟩ := hx
    exact ⟨((state, count), rest), hp, by simp only [hf]⟩

namespace HasSlots

theorem spelt_of_value {read : List (Slot σ α × (σ → σ))} {absent : List (Slot σ α)}
    (hp : read.map Prod.fst ++ absent = slots) {first : Bool} {spelled : Text}
    (hl : Listed first (read.map fun x => x.1.spelling x.2) spelled) : Spelt slots read := by
  intro x hx
  subst hp
  exact ⟨List.mem_append_left _ (List.mem_map_of_mem hx),
    hl.exists_spelled _ (List.mem_map_of_mem hx)⟩

/-- The list that stands for a record is one that spells the value. -/
theorem tuple_closed_iff (h : record.HasSlots slots) {value : α} :
    (∃ inner, record.tuple s = .ok (value, inner) ∧ closeList inner = ⟨rest, none⟩) ↔
      ∃ spelled, TupleSpelling (slots.map (·.field record.start value)) ('[' :: spelled) ∧
        s = spelled ++ rest := by
  constructor
  · intro hx
    obtain ⟨inner, ht, hc⟩ := hx
    obtain ⟨state, count, hp, hf⟩ := tuple_eq_ok_iff.mp ht
    rw [h.fields] at hp
    obtain ⟨read, absent, hslots, rfl, spelled, hl, rfl⟩ := positions_sound h.reads hp hc
    obtain ⟨hread, habsent⟩ :=
      (h.finish_applied_iff (spelt_of_value hslots hl) (.of_eq hslots) value).mp hf
    have fields : Listed true ((read.map Prod.fst).map fun slot =>
        (slot.field record.start value).value) spelled :=
      listed_exists_iff.mpr ⟨read, rfl, hread, hl⟩
    have order : (read.map Prod.fst).map (·.field record.start value) ++
        absent.map (·.field record.start value) = slots.map (·.field record.start value) := by
      rw [← List.map_append, hslots]
    have inside : Separated
        (((read.map Prod.fst).map (·.field record.start value)).map Field.value) spelled := by
      rw [List.map_map]
      exact separated_iff_listed.mpr fields
    have tuple : TupleSpelling (slots.map (·.field record.start value))
        ('[' :: (spelled ++ [']'])) :=
      ⟨_, _, order, List.forall_mem_map.mpr habsent, spelled, inside, rfl⟩
    exact ⟨spelled ++ [']'], tuple, by simp⟩
  · intro hx
    obtain ⟨spelled, ⟨present, absent, hp, habsent, inner, hl, he⟩, rfl⟩ := hx
    obtain ⟨left, right, hslots, rfl, rfl⟩ := List.append_eq_map_iff.mp hp
    rw [List.cons_append, List.cons_inj_right] at he
    rw [List.map_map, separated_iff_listed] at hl
    obtain ⟨read, rfl, hread, hl⟩ := listed_exists_iff.mp hl
    have hf := (h.finish_applied_iff (spelt_of_value hslots.symm hl) (.of_eq hslots.symm) value).mpr
      ⟨hread, List.forall_mem_map.mp habsent⟩
    have first : Listed ((0 : Nat) = 0) (read.map fun x => x.1.spelling x.2) inner := hl
    obtain ⟨count, tail, hpos, hc⟩ := positions_complete h.reads hslots.symm first record.start
    rw [← h.fields] at hpos
    exact ⟨tail, tuple_eq_ok_iff.mpr ⟨_, count, by rw [he]; simpa using hpos, hf⟩, hc⟩

end HasSlots

end JavaComments.Json.Record
