import JavaComments.Proofs.Json.Choice
import JavaComments.Proofs.Json.Slot

namespace JavaComments.Json

variable {σ α : Type} {s rest : Text}

theorem memberKey_eq_ok_iff {key : Text} :
    memberKey s = .ok (.key key rest) ↔
      ∃ spelled, StringSpelling key spelled ∧ s = spelled ++ rest := by
  constructor
  · intro h
    unfold memberKey at h
    split at h
    next tail =>
      obtain ⟨⟨text, tail'⟩, hc, he⟩ := map_eq_ok_iff.mp h
      cases he
      obtain ⟨spelled, hs, rfl⟩ := contents_eq_ok_iff.mp hc
      exact ⟨'"' :: spelled, hs, rfl⟩
    next => simp at h
  · intro h
    obtain ⟨spelled, hs, rfl⟩ := h
    obtain ⟨tail, rfl⟩ := hs.begins
    have hc : contents (tail ++ rest) = .ok (key, rest) := contents_eq_ok_iff.mpr ⟨tail, hs, rfl⟩
    exact map_eq_ok_iff.mpr ⟨(key, rest), hc, rfl⟩

theorem nextMember_done_iff {first : Bool} :
    nextMember first s = .ok (.done rest) ↔
      ∃ blank tail, Blank blank ∧ s = blank ++ rest ∧ rest = '}' :: tail := by
  constructor
  · intro h
    unfold nextMember at h
    split at h
    next => simp at h
    next tail heq =>
      cases h
      obtain ⟨blank, hb, hs⟩ := (skipBlanks_eq_cons_iff (by decide)).mp heq
      exact ⟨blank, tail, hb, hs, rfl⟩
    next =>
      split at h
      next => exact absurd h memberKey_ne_done
      next =>
        split at h
        next =>
          split at h
          next => simp at h
          next => simp at h
          next => exact absurd h memberKey_ne_done
        next => simp at h
  · intro hx
    obtain ⟨blank, tail, hb, rfl, rfl⟩ := hx
    have hs : skipBlanks (blank ++ '}' :: tail) = '}' :: tail :=
      (skipBlanks_eq_cons_iff (by decide)).mpr ⟨blank, hb, rfl⟩
    simp [nextMember, hs]

theorem nextMember_key_sound {first : Bool} {key : Text}
    (h : nextMember first s = .ok (.key key rest)) :
    ∃ lead name, Lead first lead ∧ StringSpelling key name ∧ s = lead ++ name ++ rest := by
  obtain ⟨blank, hb, hs⟩ := exists_skipBlanks s
  unfold nextMember at h
  split at h
  next => simp at h
  next => simp at h
  next c tail _ heq =>
    split at h
    next hf =>
      obtain ⟨name, hn, ht⟩ := memberKey_eq_ok_iff.mp h
      exact ⟨blank, name, by rwa [hf], hn, by rw [hs, heq, ht, List.append_assoc]⟩
    next hf =>
      split at h
      next hc =>
        obtain ⟨blank', hb', ht⟩ := exists_skipBlanks tail
        split at h
        next => simp at h
        next => simp at h
        next =>
          obtain ⟨name, hn, hr⟩ := memberKey_eq_ok_iff.mp h
          rw [Bool.not_eq_true] at hf
          exact ⟨blank ++ ',' :: blank', name, by rw [hf]; exact ⟨blank, blank', hb, hb', rfl⟩, hn,
            by rw [hs, heq, hc, ht, hr]; simp⟩
      next => simp at h

theorem nextMember_key_complete {first : Bool} {lead key name : Text} (h : Lead first lead)
    (hn : StringSpelling key name) (rest : Text) :
    nextMember first (lead ++ name ++ rest) = .ok (.key key rest) := by
  obtain ⟨tail, rfl⟩ := hn.begins
  have hk : memberKey ('"' :: (tail ++ rest)) = .ok (.key key rest) :=
    memberKey_eq_ok_iff.mpr ⟨'"' :: tail, hn, rfl⟩
  cases first with
  | true =>
    rw [nextMember, List.append_assoc, skipBlanks_append h, List.cons_append,
      skipBlanks_cons_token (by decide)]
    simpa using hk
  | false =>
    obtain ⟨gap, blank, hg, hb, rfl⟩ := h
    rw [nextMember, List.append_assoc, List.append_assoc, skipBlanks_append hg, List.cons_append,
      skipBlanks_cons_token (by decide)]
    have token : skipBlanks (blank ++ '"' :: (tail ++ rest)) = '"' :: (tail ++ rest) :=
      (skipBlanks_eq_cons_iff (by decide)).mpr ⟨blank, hb, rfl⟩
    simpa [token] using hk

namespace Record

variable {record : Record σ α} {slots : List (Slot σ α)}

theorem members_done {seen : List Text} {state : σ}
    (h : nextMember seen.isEmpty s = .ok (.done rest)) :
    record.members seen state s = .ok (state, rest) := by
  rw [members]
  split
  next heq => cases h.symm.trans heq
  next heq => cases h.symm.trans heq; rfl
  next heq => cases h.symm.trans heq

theorem members_key {seen : List Text} {state : σ} {field : Entry (σ → σ)} {update : σ → σ}
    {tail start : Text} (hn : nextMember seen.isEmpty s = .ok (.key field.key tail))
    (hf : Entry.find? record.fields field.key = some field) (hk : field.key ∉ seen)
    (hc : colon tail = .ok start) (hv : field.reader.run start = .ok (update, rest)) :
    record.members seen state s = record.members (field.key :: seen) (update state) rest := by
  rw [members]
  split
  next heq => cases hn.symm.trans heq
  next heq => cases hn.symm.trans heq
  next heq =>
    cases hn.symm.trans heq
    split
    next heq => cases hf.symm.trans heq
    next heq =>
      cases hf.symm.trans heq
      rw [if_neg hk]
      split
      next heq => cases hc.symm.trans heq
      next heq =>
        cases hc.symm.trans heq
        split
        next heq => cases hv.symm.trans heq
        next heq => cases hv.symm.trans heq; rfl

namespace HasSlots

theorem find?_iff (h : record.HasSlots slots) {key : Text} {field : Entry (σ → σ)} :
    Entry.find? record.fields key = some field ↔
      ∃ slot ∈ slots, slot.entry = field ∧ slot.key = key := by
  have hn : (record.fields.map Entry.key).Nodup := by
    rw [h.fields, List.map_map]
    exact h.nodup
  rw [find?_eq_some_iff hn, h.fields, List.mem_map]
  constructor
  · intro hx
    obtain ⟨⟨slot, hs, rfl⟩, hk⟩ := hx
    exact ⟨slot, hs, rfl, hk⟩
  · intro hx
    obtain ⟨slot, hs, rfl, hk⟩ := hx
    exact ⟨⟨slot, hs, rfl⟩, hk⟩

def member (x : Slot σ α × (σ → σ)) : Text → Prop := MemberSpelling x.1.key (x.1.spelling x.2)

theorem members_sound (h : record.HasSlots slots) {seen : List Text} {state final : σ}
    {inner : Text} (hm : record.members seen state s = .ok (final, inner))
    (hc : closeObject inner = ⟨rest, none⟩) :
    ∃ read absent, (read.map Prod.fst ++ absent).Perm (unseen slots seen) ∧
      final = applied state read ∧
      ∃ spelled, Listed seen.isEmpty (read.map member) spelled ∧ s = spelled ++ '}' :: rest := by
  -- A key that is read leaves the unseen slots, so none is read twice.
  fun_induction members record seen state s with
  | case1 => simp at hm
  | case2 seen state s tail hn =>
    cases hm
    obtain ⟨blank, tail', hb, hs, rfl⟩ := nextMember_done_iff.mp hn
    cases closeObject_brace.symm.trans hc
    exact ⟨[], unseen slots seen, .rfl, rfl, blank, hb, hs⟩
  | case3 => simp at hm
  | case4 => simp at hm
  | case5 => simp at hm
  | case6 => simp at hm
  | case7 seen state s key tail hn field hf hk start hcolon update tail' hv ih =>
    obtain ⟨slot, hslot, rfl, rfl⟩ := h.find?_iff.mp hf
    obtain ⟨read, absent, hp, rfl, spelled, hl, rfl⟩ := ih hm
    obtain ⟨lead, name, hlead, hname, hs⟩ := nextMember_key_sound hn
    obtain ⟨before, after, written, hb, ha, hu, rfl⟩ :=
      (h.reads slot hslot).behind_colon_iff.mp ⟨start, hcolon, hv⟩
    have perm : (slot :: read.map Prod.fst ++ absent).Perm (unseen slots seen) :=
      (hp.cons slot).trans (h.unseen_perm hslot (by assumption))
    have spelt : member (slot, update) (name ++ before ++ ':' :: after ++ written) :=
      ⟨name, before, after, written, hname, hb, ha, hu, rfl⟩
    exact ⟨(slot, update) :: read, absent, perm, rfl, _,
      ⟨lead, _, spelled, hlead, spelt, hl, rfl⟩, by rw [hs]; simp⟩

theorem members_complete (h : record.HasSlots slots) {read : List (Slot σ α × (σ → σ))}
    {absent : List (Slot σ α)} {seen : List Text} {spelled : Text}
    (hp : (read.map Prod.fst ++ absent).Perm (unseen slots seen))
    (hl : Listed seen.isEmpty (read.map member) spelled) (state : σ) :
    record.members seen state (spelled ++ '}' :: rest) = .ok (applied state read, '}' :: rest) := by
  induction read generalizing seen state spelled with
  | nil => exact members_done (nextMember_done_iff.mpr ⟨spelled, rest, hl, rfl, rfl⟩)
  | cons x read ih =>
    obtain ⟨lead, _, tail, hlead, hmember, ht, rfl⟩ := hl
    obtain ⟨name, before, after, written, hname, hb, ha, hu, rfl⟩ := hmember
    have hx : x.1 ∈ slots ∧ x.1.key ∉ seen := by
      have : x.1 ∈ unseen slots seen := hp.subset (by simp)
      exact mem_unseen_iff.mp this
    have perm : (read.map Prod.fst ++ absent).Perm (unseen slots (x.1.key :: seen)) :=
      List.Perm.cons_inv (hp.trans (h.unseen_perm hx.1 hx.2).symm)
    have hv : ∃ start,
        colon (before ++ ':' :: after ++ written ++ (tail ++ '}' :: rest)) = .ok start ∧
          x.1.entry.reader.run start = .ok (x.2, tail ++ '}' :: rest) :=
      (h.reads x.1 hx.1).behind_colon_iff.mpr ⟨before, after, written, hb, ha, hu, rfl⟩
    obtain ⟨start, hc, hr⟩ := hv
    have hn := nextMember_key_complete hlead hname
      (before ++ ':' :: after ++ written ++ (tail ++ '}' :: rest))
    have shape : lead ++ (name ++ before ++ ':' :: after ++ written) ++ tail ++ '}' :: rest =
        lead ++ name ++ (before ++ ':' :: after ++ written ++ (tail ++ '}' :: rest)) := by simp
    rw [shape, members_key hn (h.find?_iff.mpr ⟨x.1, hx.1, rfl, rfl⟩) hx.2 hc hr]
    exact ih perm ht (x.2 state)

theorem object_eq_ok_iff {value : α} :
    record.object s = .ok (value, rest) ↔
      ∃ state, record.members [] record.start s = .ok (state, rest) ∧
        record.finish state = .ok value := by
  rw [object, bind_eq_ok_iff]
  constructor
  · intro hx
    obtain ⟨⟨state, tail⟩, hm, h⟩ := hx
    dsimp only at h
    split at h
    next heq => cases h; exact ⟨state, hm, heq⟩
    next => simp at h
  · intro hx
    obtain ⟨state, hm, hf⟩ := hx
    exact ⟨(state, rest), hm, by simp only [hf]⟩

theorem unseen_nil (slots : List (Slot σ α)) : unseen slots [] = slots := by
  simp [unseen]

theorem exists_slots_of_perm {ι β : Type} {f : ι → β} {items : List ι} {front back : List β}
    (h : (front ++ back).Perm (items.map f)) :
    ∃ left right : List ι,
      (left ++ right).Perm items ∧ front = left.map f ∧ back = right.map f := by
  have hf : List.Forall₂ (fun b i => b = f i) (items.map f) items :=
    List.forall₂_map_left_iff.mpr (List.forall₂_same.mpr fun _ _ => rfl)
  obtain ⟨order, ho, hp⟩ := List.perm_comp_forall₂ h hf
  have he : front ++ back = order.map f := by
    rw [← List.forall₂_eq_eq_eq]
    exact List.forall₂_map_right_iff.mpr ho
  obtain ⟨left, right, rfl, hl, hr⟩ := List.append_eq_map_iff.mp he
  exact ⟨left, right, hp, hl.symm, hr.symm⟩

theorem field_member (slot : Slot σ α) (start : σ) (value : α) :
    (slot.field start value).member = fun spelled =>
      ∃ update, slot.settled (update start) value ∧ member (slot, update) spelled := by
  funext spelled
  apply propext
  constructor
  · intro hx
    obtain ⟨name, before, after, inner, hn, hb, ha, ⟨update, hs, hu⟩, he⟩ := hx
    exact ⟨update, hs, name, before, after, inner, hn, hb, ha, hu, he⟩
  · intro hx
    obtain ⟨update, hs, name, before, after, inner, hn, hb, ha, hu, he⟩ := hx
    exact ⟨name, before, after, inner, hn, hb, ha, ⟨update, hs, hu⟩, he⟩

theorem spelt_of_member {read : List (Slot σ α × (σ → σ))}
    {absent : List (Slot σ α)} (hp : (read.map Prod.fst ++ absent).Perm slots) {first : Bool}
    {spelled : Text} (hl : Listed first (read.map member) spelled) : Spelt slots read := by
  intro x hx
  obtain ⟨_, _, _, _, inner, _, _, _, hu, _⟩ := hl.exists_spelled _ (List.mem_map_of_mem hx)
  exact ⟨hp.subset (List.mem_append_left _ (List.mem_map_of_mem hx)), inner, hu⟩

/-- The object that a record reads is one that spells the value. -/
theorem object_closed_iff (h : record.HasSlots slots) {value : α} :
    (∃ inner, record.object s = .ok (value, inner) ∧ closeObject inner = ⟨rest, none⟩) ↔
      ∃ spelled, ObjectSpelling (slots.map (·.field record.start value)) ('{' :: spelled) ∧
        s = spelled ++ rest := by
  constructor
  · intro hx
    obtain ⟨inner, ho, hc⟩ := hx
    obtain ⟨state, hm, hf⟩ := object_eq_ok_iff.mp ho
    obtain ⟨read, absent, hp, rfl, spelled, hl, rfl⟩ := h.members_sound hm hc
    rw [unseen_nil] at hp
    obtain ⟨hread, habsent⟩ := (h.finish_applied_iff (spelt_of_member hp hl) hp value).mp hf
    have fields : Listed true ((read.map Prod.fst).map fun slot =>
        (slot.field record.start value).member) spelled := by
      simp only [field_member]
      exact listed_exists_iff.mpr ⟨read, rfl, hread, hl⟩
    have perm : ((read.map Prod.fst).map (·.field record.start value) ++
        absent.map (·.field record.start value)).Perm (slots.map (·.field record.start value)) := by
      rw [← List.map_append]
      exact hp.map _
    have inside : Separated
        (((read.map Prod.fst).map (·.field record.start value)).map Field.member) spelled := by
      rw [List.map_map]
      exact separated_iff_listed.mpr fields
    have object : ObjectSpelling (slots.map (·.field record.start value))
        ('{' :: (spelled ++ ['}'])) :=
      ⟨_, _, perm, List.forall_mem_map.mpr habsent, spelled, inside, rfl⟩
    exact ⟨spelled ++ ['}'], object, by simp⟩
  · intro hx
    obtain ⟨spelled, ⟨present, absent, hp, habsent, inner, hl, he⟩, rfl⟩ := hx
    obtain ⟨left, right, hslots, rfl, rfl⟩ := exists_slots_of_perm hp
    rw [List.cons_append, List.cons_inj_right] at he
    rw [List.map_map, separated_iff_listed] at hl
    have fields : Listed true
        (left.map fun slot => (slot.field record.start value).member) inner := hl
    simp only [field_member] at fields
    obtain ⟨read, rfl, hread, hl⟩ := listed_exists_iff.mp fields
    have hf := (h.finish_applied_iff (spelt_of_member hslots hl) hslots value).mpr
      ⟨hread, List.forall_mem_map.mp habsent⟩
    rw [← unseen_nil slots] at hslots
    have hm : record.members [] record.start (inner ++ '}' :: rest) =
        .ok (applied record.start read, '}' :: rest) :=
      h.members_complete hslots hl record.start
    refine ⟨'}' :: rest, object_eq_ok_iff.mpr ⟨_, ?_, hf⟩, closeObject_brace⟩
    rw [he]
    simpa using hm

end HasSlots

end Record

end JavaComments.Json
