import JavaComments.Json.Record
import JavaComments.Proofs.Json.Reader
import Mathlib.Data.List.Nodup
import Mathlib.Data.List.Pairwise
import Mathlib.Data.List.Perm.Basic

namespace JavaComments.Json

variable {σ α : Type}

/-- A field of a record: the spellings of the updates that its values make, and when a state has
what a value of the record needs in this place. -/
structure Slot (σ α : Type) where
  entry : Entry (σ → σ)
  spelling : (σ → σ) → Text → Prop
  settled : σ → α → Prop

def Slot.key (slot : Slot σ α) : Text := slot.entry.key

/-- The slot of a field whose values are put in the state, one at a time. -/
def Slot.putting {β : Type} (key : Text) (reader : Reader β) (spelling : β → Text → Prop)
    (put : β → σ → σ) (settled : σ → α → Prop) : Slot σ α where
  entry := ⟨key, reader.map put⟩
  spelling update spelled := ∃ b, put b = update ∧ spelling b spelled
  settled := settled

section Putting

variable {β : Type} {key : Text} {reader : Reader β} {spelling : β → Text → Prop} {put : β → σ → σ}
  {settled : σ → α → Prop}

@[simp] theorem Slot.putting_key :
    (Slot.putting key reader spelling put settled).key = key := rfl

@[simp] theorem Slot.putting_settled :
    (Slot.putting key reader spelling put settled).settled = settled := rfl

theorem Slot.putting_reads (h : reader.Reads spelling) :
    (Slot.putting key reader spelling put settled).entry.reader.Reads
      (Slot.putting key reader spelling put settled).spelling :=
  map_reads h put

theorem Slot.forall_putting {p : (σ → σ) → Prop} (h : ∀ b, p (put b)) :
    ∀ update spelled, (Slot.putting key reader spelling put settled).spelling update spelled →
      p update := by
  rintro _ _ ⟨b, rfl, _⟩
  exact h b

end Putting

/-- What the field spells, and when it may be left out, in a spelling of the value. -/
def Slot.field (slot : Slot σ α) (start : σ) (value : α) : Field where
  key := slot.key
  value spelled := ∃ update, slot.settled (update start) value ∧ slot.spelling update spelled
  optional := slot.settled start value

/-- A field that is settled by one thing alone spells this. -/
theorem Slot.putting_field {β : Type} {key : Text} {reader : Reader β} {spelling : β → Text → Prop}
    {put : β → σ → σ} {settled : σ → α → Prop} {start : σ} {value : α} {b : β}
    (h : ∀ b', settled (put b' start) value ↔ b' = b) :
    (Slot.putting key reader spelling put settled).field start value =
      ⟨key, spelling b, settled start value⟩ := by
  have spelled : (fun spelled => ∃ update, settled (update start) value ∧
      ∃ b', put b' = update ∧ spelling b' spelled) = spelling b := by
    funext spelled
    apply propext
    constructor
    · intro hx
      obtain ⟨_, hs, b', rfl, hb⟩ := hx
      rwa [(h b').mp hs] at hb
    · intro hb
      exact ⟨put b, (h b).mpr rfl, b, rfl, hb⟩
  exact congrArg (Field.mk key · (settled start value)) spelled

/-- The updates of neither field have a part in settling the other. -/
def Slot.Apart (slot other : Slot σ α) : Prop :=
  (∀ update spelled, slot.spelling update spelled → ∀ state value,
    other.settled (update state) value ↔ other.settled state value) ∧
  ∀ update spelled, other.spelling update spelled → ∀ state value,
    slot.settled (update state) value ↔ slot.settled state value

instance : Std.Symm (@Slot.Apart σ α) := ⟨fun _ _ h => h.symm⟩

/-- The slots are the fields of a record. Each is settled by its own update and no other, and a
value is made of a state in which all of them are settled. -/
structure Record.HasSlots (record : Record σ α) (slots : List (Slot σ α)) : Prop where
  fields : record.fields = slots.map Slot.entry
  nodup : (slots.map Slot.key).Nodup
  reads : ∀ slot ∈ slots, slot.entry.reader.Reads slot.spelling
  settles : ∀ slot ∈ slots, ∀ update spelled, slot.spelling update spelled → ∀ state value,
    slot.settled (update state) value ↔ slot.settled (update record.start) value
  apart : slots.Pairwise Slot.Apart
  finish : ∀ state value, record.finish state = .ok value ↔ ∀ slot ∈ slots, slot.settled state value

namespace Record

/-- The state after the updates that were read, the first one first. -/
def applied (state : σ) (read : List (Slot σ α × (σ → σ))) : σ :=
  read.foldl (fun state x => x.2 state) state

/-- The slots whose keys are not among those seen. -/
def unseen (slots : List (Slot σ α)) (seen : List Text) : List (Slot σ α) :=
  slots.filter fun slot => !seen.contains slot.key

theorem mem_unseen_iff {slots : List (Slot σ α)} {seen : List Text} {slot : Slot σ α} :
    slot ∈ unseen slots seen ↔ slot ∈ slots ∧ slot.key ∉ seen := by
  simp [unseen]

namespace HasSlots

variable {record : Record σ α} {slots : List (Slot σ α)} {read : List (Slot σ α × (σ → σ))}

theorem eq_of_key_eq (h : record.HasSlots slots) {slot other : Slot σ α} (hs : slot ∈ slots)
    (ho : other ∈ slots) (hk : slot.key = other.key) : slot = other :=
  List.inj_on_of_nodup_map h.nodup hs ho hk

theorem nodup_unseen (h : record.HasSlots slots) (seen : List Text) :
    (unseen slots seen).Nodup :=
  (List.Nodup.of_map _ h.nodup).filter _

theorem unseen_perm (h : record.HasSlots slots) {slot : Slot σ α} {seen : List Text}
    (hs : slot ∈ slots) (hk : slot.key ∉ seen) :
    (slot :: unseen slots (slot.key :: seen)).Perm (unseen slots seen) := by
  have fresh : slot ∉ unseen slots (slot.key :: seen) := by simp [mem_unseen_iff]
  have nodup := List.nodup_cons.mpr ⟨fresh, h.nodup_unseen (slot.key :: seen)⟩
  apply (List.perm_ext_iff_of_nodup nodup (h.nodup_unseen seen)).mpr
  intro other
  simp only [List.mem_cons, mem_unseen_iff, not_or]
  constructor
  · intro ho
    rcases ho with rfl | ⟨ho, _, hseen⟩
    · exact ⟨hs, hk⟩
    · exact ⟨ho, hseen⟩
  · intro hx
    obtain ⟨ho, hseen⟩ := hx
    by_cases he : other.key = slot.key
    · exact .inl (h.eq_of_key_eq ho hs he)
    · exact .inr ⟨ho, he, hseen⟩

/-- What was read is spelt somewhere. -/
def Spelt (slots : List (Slot σ α)) (read : List (Slot σ α × (σ → σ))) : Prop :=
  ∀ x ∈ read, x.1 ∈ slots ∧ ∃ spelled, x.1.spelling x.2 spelled

theorem settled_applied_of_absent (h : record.HasSlots slots) (hr : Spelt slots read)
    {slot : Slot σ α} (hs : slot ∈ slots) (hk : slot.key ∉ read.map (·.1.key)) (state : σ)
    (value : α) : slot.settled (applied state read) value ↔ slot.settled state value := by
  induction read generalizing state with
  | nil => rfl
  | cons x read ih =>
    obtain ⟨⟨hx, spelled, hu⟩, hrest⟩ := List.forall_mem_cons.mp hr
    rw [List.map_cons, List.mem_cons, not_or] at hk
    have apart := h.apart.forall hx hs fun he => hk.1 (by rw [he])
    rw [applied, List.foldl_cons, ← applied, ih hrest hk.2, apart.1 x.2 spelled hu]

theorem settled_applied_of_mem (h : record.HasSlots slots) (hr : Spelt slots read)
    (hn : (read.map (·.1.key)).Nodup) {x : Slot σ α × (σ → σ)} (hx : x ∈ read) (state : σ)
    (value : α) :
    x.1.settled (applied state read) value ↔ x.1.settled (x.2 record.start) value := by
  induction read generalizing state with
  | nil => cases hx
  | cons y read ih =>
    obtain ⟨⟨hy, spelled, hu⟩, hrest⟩ := List.forall_mem_cons.mp hr
    rw [List.map_cons, List.nodup_cons] at hn
    rw [applied, List.foldl_cons, ← applied]
    rcases List.mem_cons.mp hx with rfl | hx
    · rw [h.settled_applied_of_absent hrest hy hn.1, h.settles x.1 hy x.2 spelled hu]
    · exact ih hrest hn.2 hx (y.2 state)

/-- A value is made in the end exactly when it agrees with what was read and with the defaults. -/
theorem finish_applied_iff (h : record.HasSlots slots) (hr : Spelt slots read)
    {absent : List (Slot σ α)} (hp : (read.map Prod.fst ++ absent).Perm slots) (value : α) :
    record.finish (applied record.start read) = .ok value ↔
      (∀ x ∈ read, x.1.settled (x.2 record.start) value) ∧
        ∀ slot ∈ absent, slot.settled record.start value := by
  have hn : ((read.map Prod.fst ++ absent).map Slot.key).Nodup :=
    (hp.map Slot.key).nodup_iff.mpr h.nodup
  rw [List.map_append, List.map_map, List.nodup_append] at hn
  obtain ⟨hread, _, apart⟩ := hn
  -- A slot was read or is absent: its own update settles it, or nothing has since the start.
  have split : (∀ slot ∈ slots, slot.settled (applied record.start read) value) ↔
      ∀ slot ∈ read.map Prod.fst ++ absent, slot.settled (applied record.start read) value :=
    forall_congr' fun slot => by rw [hp.mem_iff]
  rw [h.finish, split, List.forall_mem_append, List.forall_mem_map]
  refine and_congr (forall₂_congr fun x hx => ?_) (forall₂_congr fun slot hs => ?_)
  · exact h.settled_applied_of_mem hr hread hx record.start value
  · have hk : slot.key ∉ read.map (·.1.key) := by
      intro hk
      exact apart _ hk _ (List.mem_map_of_mem hs) rfl
    have hslot : slot ∈ slots := hp.subset (List.mem_append_right _ hs)
    exact h.settled_applied_of_absent hr hslot hk record.start value

end HasSlots

end Record

end JavaComments.Json
