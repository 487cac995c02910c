import JavaComments.Json.Sequence
import JavaComments.Proofs.Json.Reader

namespace JavaComments.Json

variable {α : Type} {s rest : Text}

theorem closeList_eq_iff :
    closeList s = ⟨rest, none⟩ ↔ ∃ blank, Blank blank ∧ s = blank ++ ']' :: rest := by
  rw [← skipBlanks_eq_cons_iff (by decide)]
  unfold closeList
  split
  next heq => simp [heq]
  next heq => simp [heq]
  next heq => split <;> simp [heq]
  next _ hne _ => simpa using hne rest

theorem closeList_bracket : closeList (']' :: rest) = ⟨rest, none⟩ :=
  closeList_eq_iff.mpr ⟨[], blank_nil, rfl⟩

theorem closeObject_brace : closeObject ('}' :: rest) = ⟨rest, none⟩ := rfl

/-- What stands before a part: blanks, and a comma among them unless the part is the first. -/
def Lead : Bool → Text → Prop
  | true, lead => Blank lead
  | false, lead => ∃ gap blank, Blank gap ∧ Blank blank ∧ lead = gap ++ ',' :: blank

theorem Lead.append {first : Bool} {lead blank : Text} (h : Lead first lead) (hb : Blank blank) :
    Lead first (lead ++ blank) := by
  cases first with
  | true => exact blank_append_iff.mpr ⟨h, hb⟩
  | false =>
    obtain ⟨gap, blank', hg, hb', rfl⟩ := h
    exact ⟨gap, blank' ++ blank, hg, blank_append_iff.mpr ⟨hb', hb⟩, by simp⟩

/-- Parts up to a closer, with those before them behind or not. -/
def Listed : Bool → List (Text → Prop) → Text → Prop
  | _, [], spelled => Blank spelled
  | first, part :: parts, spelled => ∃ lead inner tail, Lead first lead ∧ part inner ∧
      Listed false parts tail ∧ spelled = lead ++ inner ++ tail

theorem listed_false_cons_iff {part : Text → Prop} {parts : List (Text → Prop)} {spelled : Text} :
    Listed false (part :: parts) spelled ↔
      ∃ gap tail, Blank gap ∧ Listed true (part :: parts) tail ∧ spelled = gap ++ ',' :: tail := by
  constructor
  · intro hx
    obtain ⟨_, inner, tail, ⟨gap, blank, hg, hb, rfl⟩, hp, ht, rfl⟩ := hx
    exact ⟨gap, blank ++ inner ++ tail, hg, ⟨blank, inner, tail, hb, hp, ht, rfl⟩, by simp⟩
  · intro hx
    obtain ⟨gap, _, hg, ⟨blank, inner, tail, hb, hp, ht, rfl⟩, rfl⟩ := hx
    exact ⟨gap ++ ',' :: blank, inner, tail, ⟨gap, blank, hg, hb, rfl⟩, hp, ht, by simp⟩

theorem separated_iff_listed {parts : List (Text → Prop)} {spelled : Text} :
    Separated parts spelled ↔ Listed true parts spelled := by
  constructor
  · intro h
    induction h with
    | nil hb => exact hb
    | single hp =>
      obtain ⟨before, inner, after, hb, hp, ha, rfl⟩ := hp
      exact ⟨before, inner, after, hb, hp, ha, rfl⟩
    | cons hp _ ih =>
      obtain ⟨before, inner, after, hb, hp, ha, rfl⟩ := hp
      exact ⟨before, inner, _, hb, hp, listed_false_cons_iff.mpr ⟨after, _, ha, ih, rfl⟩, by simp⟩
  · intro h
    induction parts generalizing spelled with
    | nil => exact .nil h
    | cons part parts ih =>
      obtain ⟨before, inner, tail, hb, hp, ht, rfl⟩ := h
      cases parts with
      | nil => exact .single ⟨before, inner, tail, hb, hp, ht, rfl⟩
      | cons next parts =>
        obtain ⟨after, rest, ha, hr, rfl⟩ := listed_false_cons_iff.mp ht
        have padded : Padded part (before ++ inner ++ after) :=
          ⟨before, inner, after, hb, hp, ha, rfl⟩
        simpa using Separated.cons padded (ih hr)

/-- Parts with a choice in each of them are parts for some choices. -/
theorem listed_exists_iff {ι β : Type} {choose : ι → β → Prop} {part : ι → β → Text → Prop}
    {first : Bool} {is : List ι} {spelled : Text} :
    Listed first (is.map fun i spelled => ∃ b, choose i b ∧ part i b spelled) spelled ↔
      ∃ read : List (ι × β), read.map Prod.fst = is ∧ (∀ x ∈ read, choose x.1 x.2) ∧
        Listed first (read.map fun x => part x.1 x.2) spelled := by
  induction is generalizing first spelled with
  | nil =>
    constructor
    · intro h
      exact ⟨[], rfl, by simp, h⟩
    · intro hx
      obtain ⟨read, hr, _, h⟩ := hx
      rw [List.map_eq_nil_iff] at hr
      rwa [hr] at h
  | cons i is ih =>
    constructor
    · intro hx
      obtain ⟨lead, inner, tail, hlead, ⟨b, hc, hp⟩, ht, rfl⟩ := hx
      obtain ⟨read, rfl, hread, hl⟩ := ih.mp ht
      exact ⟨(i, b) :: read, rfl, List.forall_mem_cons.mpr ⟨hc, hread⟩,
        ⟨lead, inner, tail, hlead, hp, hl, rfl⟩⟩
    · intro hx
      obtain ⟨read, hr, hread, h⟩ := hx
      obtain ⟨⟨_, b⟩, read, rfl, rfl, rfl⟩ := List.map_eq_cons_iff.mp hr
      obtain ⟨hc, hread⟩ := List.forall_mem_cons.mp hread
      obtain ⟨lead, inner, tail, hlead, hp, hl, rfl⟩ := h
      exact ⟨lead, inner, tail, hlead, ⟨b, hc, hp⟩, ih.mpr ⟨read, rfl, hread, hl⟩, rfl⟩

theorem Listed.exists_spelled {first : Bool} {parts : List (Text → Prop)} {spelled : Text}
    (h : Listed first parts spelled) : ∀ part ∈ parts, ∃ inner, part inner := by
  induction parts generalizing first spelled with
  | nil => simp
  | cons part parts ih =>
    obtain ⟨lead, inner, tail, _, hp, ht, _⟩ := h
    exact List.forall_mem_cons.mpr ⟨⟨inner, hp⟩, ih ht⟩

theorem nextItem_done_iff {first : Bool} :
    nextItem first s = .ok (.done rest) ↔
      ∃ blank tail, Blank blank ∧ s = blank ++ rest ∧ rest = ']' :: tail := by
  constructor
  · intro h
    unfold nextItem at h
    split at h
    next => simp at h
    next tail heq =>
      cases h
      obtain ⟨blank, hb, hs⟩ := (skipBlanks_eq_cons_iff (by decide)).mp heq
      exact ⟨blank, tail, hb, hs, rfl⟩
    next =>
      split at h
      next => simp at h
      next =>
        split at h
        next => split at h <;> simp at h
        next => simp at h
  · intro hx
    obtain ⟨blank, tail, hb, rfl, rfl⟩ := hx
    have hs : skipBlanks (blank ++ ']' :: tail) = ']' :: tail :=
      (skipBlanks_eq_cons_iff (by decide)).mpr ⟨blank, hb, rfl⟩
    simp [nextItem, hs]

theorem nextItem_element_sound {first : Bool} {start : Text}
    (h : nextItem first s = .ok (.element start)) :
    ∃ lead, Lead first lead ∧ s = lead ++ start := by
  obtain ⟨blank, hb, hs⟩ := exists_skipBlanks s
  unfold nextItem at h
  split at h
  next => simp at h
  next => simp at h
  next c tail _ heq =>
    split at h
    next hf =>
      cases h
      exact ⟨blank, by rwa [hf], by rw [hs, heq]⟩
    next hf =>
      split at h
      next hc =>
        obtain ⟨blank', hb', ht⟩ := exists_skipBlanks tail
        split at h
        next => simp at h
        next => simp at h
        next =>
          cases h
          rw [Bool.not_eq_true] at hf
          exact ⟨blank ++ ',' :: blank', by rw [hf]; exact ⟨blank, blank', hb, hb', rfl⟩, by
            rw [hs, heq, hc, List.append_assoc, List.cons_append, ← ht]⟩
      next => simp at h

theorem nextItem_element_complete {first : Bool} {lead : Text} {c : Char} (h : Lead first lead)
    (hc : isBlank c = false) (hne : c ≠ ']') (tail : Text) :
    nextItem first (lead ++ c :: tail) = .ok (.element (c :: tail)) := by
  cases first with
  | true =>
    rw [nextItem, skipBlanks_append h, skipBlanks_cons_token hc]
    simp
  | false =>
    obtain ⟨gap, blank, hg, hb, rfl⟩ := h
    rw [nextItem, List.append_assoc, skipBlanks_append hg, List.cons_append,
      skipBlanks_cons_token (by decide)]
    simp [skipBlanks_append hb, skipBlanks_cons_token hc, hne]

theorem items_done {element : Reader α} {first : Bool} (h : nextItem first s = .ok (.done rest)) :
    items element first s = .ok ([], rest) := by
  rw [items]
  split
  next heq => cases h.symm.trans heq
  next heq => cases h.symm.trans heq; rfl
  next heq => cases h.symm.trans heq

theorem items_element {element : Reader α} {first : Bool} {start : Text} {value : α}
    (hn : nextItem first s = .ok (.element start)) (he : element.run start = .ok (value, rest)) :
    items element first s =
      (items element false rest).map fun (values, rest) => (value :: values, rest) := by
  rw [items]
  split
  next heq => cases hn.symm.trans heq
  next heq => cases hn.symm.trans heq
  next heq =>
    cases hn.symm.trans heq
    split
    next heq => cases he.symm.trans heq
    next heq => cases he.symm.trans heq; rfl

/-- Elements are read up to the bracket exactly where they are listed before it. -/
theorem items_closed_iff {element : Reader α} {spelling : α → Text → Prop}
    (h : element.Reads spelling) {first : Bool} {values : List α} :
    (∃ inner, items element first s = .ok (values, inner) ∧ closeList inner = ⟨rest, none⟩) ↔
      ∃ spelled, Listed first (values.map spelling) spelled ∧ s = spelled ++ ']' :: rest := by
  constructor
  · intro hx
    obtain ⟨inner, hi, hc⟩ := hx
    fun_induction items element first s generalizing values with
    | case1 => simp at hi
    | case2 first s tail hn =>
      cases hi
      obtain ⟨blank, tail', hb, hs, rfl⟩ := nextItem_done_iff.mp hn
      cases closeList_bracket.symm.trans hc
      exact ⟨blank, hb, hs⟩
    | case3 => simp at hi
    | case4 first s start hn value tail he ih =>
      obtain ⟨⟨more, tail'⟩, hm, hp⟩ := map_eq_ok_iff.mp hi
      cases hp
      obtain ⟨spelled, hl, ht⟩ := ih hm
      obtain ⟨lead, hlead, hs⟩ := nextItem_element_sound hn
      obtain ⟨blank, written, hb, hv, hstart⟩ := h.run_iff.mp he
      have listed : Listed first ((value :: more).map spelling)
          (lead ++ blank ++ written ++ spelled) :=
        ⟨lead ++ blank, written, spelled, hlead.append hb, hv, hl, rfl⟩
      exact ⟨_, listed, by rw [hs, hstart, ht]; simp⟩
  · intro hx
    obtain ⟨spelled, hl, rfl⟩ := hx
    induction values generalizing first spelled with
    | nil =>
      have hn : nextItem first (spelled ++ ']' :: rest) = .ok (.done (']' :: rest)) :=
        nextItem_done_iff.mpr ⟨spelled, rest, hl, rfl, rfl⟩
      exact ⟨']' :: rest, items_done hn, closeList_bracket⟩
    | cons value values ih =>
      obtain ⟨lead, written, spelled, hlead, hv, ht, rfl⟩ := hl
      obtain ⟨c, written, rfl, token, hc⟩ := h.begins hv
      obtain ⟨inner, hi, hclose⟩ := ih spelled ht
      have hn := nextItem_element_complete hlead token hc (written ++ (spelled ++ ']' :: rest))
      have he : element.run (c :: (written ++ (spelled ++ ']' :: rest))) =
          .ok (value, spelled ++ ']' :: rest) :=
        h.run_iff.mpr ⟨[], c :: written, blank_nil, hv, by simp⟩
      refine ⟨inner, ?_, hclose⟩
      have shape : lead ++ c :: written ++ spelled ++ ']' :: rest =
          lead ++ c :: (written ++ (spelled ++ ']' :: rest)) := by simp
      rw [shape, items_element hn he, hi]
      rfl

theorem enclosed_begins {opening closing : Char} {parts : List (Text → Prop)} {spelled : Text}
    (h : Enclosed opening closing parts spelled) : ∃ tail, spelled = opening :: tail := by
  obtain ⟨inner, _, rfl⟩ := h
  exact ⟨inner ++ [closing], rfl⟩

theorem list_reads {element : Reader α} {spelling : α → Text → Prop} (h : element.Reads spelling) :
    (list element).Reads (ListSpelling spelling) where
  begins hs := by
    obtain ⟨tail, rfl⟩ := enclosed_begins hs
    exact ⟨'[', tail, rfl, by decide⟩
  run_iff := by
    intro s values rest
    change readList element s = _ ↔ _
    constructor
    · intro hr
      unfold readList at hr
      split at hr
      next => simp at hr
      next tail heq =>
        obtain ⟨inner, hi⟩ := enclosed_eq_ok_iff.mp hr
        obtain ⟨spelled, hl, rfl⟩ := (items_closed_iff h).mp ⟨inner, hi⟩
        obtain ⟨blank, hb, rfl⟩ := (skipBlanks_eq_cons_iff (by decide)).mp heq
        exact ⟨blank, '[' :: spelled ++ [']'], hb,
          ⟨spelled, separated_iff_listed.mpr hl, rfl⟩, by simp⟩
      next => simp at hr
    · intro hx
      obtain ⟨blank, _, hb, ⟨spelled, hl, rfl⟩, rfl⟩ := hx
      have hs : skipBlanks (blank ++ ('[' :: spelled ++ [']']) ++ rest) =
          '[' :: (spelled ++ ']' :: rest) :=
        (skipBlanks_eq_cons_iff (by decide)).mpr ⟨blank, hb, by simp⟩
      rw [readList, hs]
      exact enclosed_eq_ok_iff.mpr
        ((items_closed_iff h).mpr ⟨spelled, separated_iff_listed.mp hl, rfl⟩)

end JavaComments.Json
