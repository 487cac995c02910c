import JavaComments.Proofs.Json.Stable.Record
import JavaComments.Proofs.Json.Unread.Sequence

namespace JavaComments.Json

section

variable {α : Type} {variants : List (Entry α)}

theorem closeVariant_bounded : Bounded closeVariant := by
  intro s
  have hs := byteLength_skipBlanks_le s
  unfold closeVariant
  split
  next => exact leaves_atEnd _ _
  next heq => exact byteLength_le_of_skipBlanks heq
  next => exact (leaves_before _ _).mono hs

theorem variantName_bounded : Bounded (variantName variants) := by
  intro s
  refine (contents_bounded s).bind fun (key, rest) _ => ?_
  dsimp only
  split
  next => exact Nat.le_refl _
  next => exact leaves_before _ _

theorem variant_bounded (h : ∀ entry ∈ variants, Bounded entry.reader.run) :
    Bounded (variant variants) := by
  intro s
  have hs := byteLength_skipBlanks_le s
  unfold variant
  split
  next => exact leaves_atEnd (β := α × Text) _ _
  next heq => exact (leaves_after (β := α × Text) _ _).mono (heq ▸ hs)
  next rest heq =>
    have behind := byteLength_le_of_skipBlanks heq
    refine ((variantName_bounded rest).mono behind).placed.bind fun (entry, rest) hn => ?_
    have bounded := h entry (variantName_mem (mapError_eq_ok_iff.mp hn))
    refine (colon_bounded rest).placed.bind fun rest _ => ?_
    refine (bounded rest).bind fun (value, rest) _ => ?_
    refine (closeVariant_bounded rest).placed.bind fun rest _ => ?_
    exact Nat.le_refl _
  next => exact (leaves_after (β := α × Text) _ _).mono hs

theorem bareVariant_bounded : Bounded (bareVariant variants) := by
  intro s
  exact (variantName_bounded s).placed.bind fun _ _ => Nat.le_refl _

theorem choice_bounded (h : ∀ entry ∈ variants, Bounded entry.reader.run) :
    Bounded (choice variants).run := by
  intro s
  have hs := byteLength_skipBlanks_le s
  show Leaves s.byteLength (readChoice variants s)
  unfold readChoice
  split
  next => exact leaves_atEnd (β := α × Text) _ _
  next rest heq => exact (variant_bounded h rest).mono (byteLength_le_of_skipBlanks heq)
  next rest heq => exact (bareVariant_bounded rest).mono (byteLength_le_of_skipBlanks heq)
  next => exact (leaves_after (β := α × Text) _ _).mono hs

end

theorem memberKey_bounded : Bounded memberKey := by
  intro s
  unfold memberKey
  split
  next rest =>
    exact ((contents_bounded rest).mono (byteLength_le_cons _ rest)).map fun _ => Nat.le_refl _
  next => exact leaves_after _ _

theorem nextMember_bounded (first : Bool) : Bounded (nextMember first) := by
  intro s
  have hs := byteLength_skipBlanks_le s
  unfold nextMember
  split
  next => exact leaves_atEnd _ _
  next heq => exact heq ▸ hs
  next c rest _ heq =>
    rw [heq] at hs
    split
    next => exact (memberKey_bounded _).mono hs
    next =>
      split
      next =>
        have behind := byteLength_next_le heq
        split
        next => exact leaves_atEnd _ _
        next heq' => exact (leaves_after _ _).mono (heq' ▸ behind)
        next => exact (memberKey_bounded _).mono behind
      next => exact (leaves_after _ _).mono hs

namespace Record

variable {σ α : Type} {record : Record σ α}

theorem members_bounded (h : ∀ field ∈ record.fields, Bounded field.reader.run) (seen : List Text)
    (state : σ) : Bounded (record.members seen state) := by
  intro s
  fun_induction members record seen state s with
  | case1 seen state s failure hn => exact (nextMember_bounded _).of_eq hn
  | case2 seen state s rest hn => exact (nextMember_bounded _).of_eq hn
  | case3 seen state s key rest hn => exact (nextMember_bounded _).of_eq hn
  | case4 seen state s key rest hn => exact (nextMember_bounded _).of_eq hn
  | case5 seen state s key rest hn field hf hk failure hc =>
    exact (colon_bounded.of_eq hc).mono ((nextMember_bounded _).of_eq hn)
  | case6 seen state s key rest hn field hf hk start hc fault hv =>
    have start_le := Nat.le_trans (colon_bounded.of_eq hc) ((nextMember_bounded _).of_eq hn)
    exact ((h field (List.mem_of_find?_eq_some hf)).of_eq hv).mono start_le
  | case7 seen state s key rest hn field hf hk start hc update tail hv ih =>
    have start_le := Nat.le_trans (colon_bounded.of_eq hc) ((nextMember_bounded _).of_eq hn)
    have tail_le := (h field (List.mem_of_find?_eq_some hf)).of_eq hv
    exact ih.mono (Nat.le_trans tail_le start_le)

theorem object_bounded (h : ∀ field ∈ record.fields, Bounded field.reader.run) :
    Bounded record.object := by
  intro s
  refine (members_bounded h [] record.start s).bind fun (state, rest) _ => ?_
  dsimp only
  split
  next => exact Nat.le_refl _
  next => exact Nat.le_refl _

theorem positions_bounded {fields : List (Entry (σ → σ))}
    (h : ∀ field ∈ fields, Bounded field.reader.run) (present : Nat) (state : σ) :
    Bounded fun s => positions present state s fields := by
  intro s
  induction fields generalizing present state s with
  | nil => exact Nat.le_refl _
  | cons field fields ih =>
    dsimp only
    rw [positions_cons]
    obtain ⟨bounded, h⟩ := List.forall_mem_cons.mp h
    refine (nextItem_bounded _ s).placed.bind fun item _ => ?_
    cases item with
    | done rest => exact Nat.le_refl _
    | element start =>
      refine (bounded start).bind fun (update, rest) _ => ?_
      exact ih h (present + 1) (update state) rest

theorem tuple_bounded (h : ∀ field ∈ record.fields, Bounded field.reader.run) :
    Bounded record.tuple := by
  intro s
  refine (positions_bounded h 0 record.start s).bind fun ((state, present), rest) _ => ?_
  dsimp only
  split
  next => exact Nat.le_refl _
  next => exact Nat.le_refl _

theorem reader_bounded (h : ∀ field ∈ record.fields, Bounded field.reader.run) :
    Bounded record.reader.run := by
  intro s
  show Leaves s.byteLength (record.read s)
  unfold read
  split
  next => exact leaves_atEnd (β := α × Text) _ _
  next rest heq =>
    exact ((object_bounded h rest).mono (byteLength_le_of_skipBlanks heq)).enclosed
      closeObject_leaves
  next rest heq =>
    exact ((tuple_bounded h rest).mono (byteLength_le_of_skipBlanks heq)).enclosed closeList_leaves
  next => exact leaves_mismatch (.record record.name) rfl

end Record

theorem twoTexts_bounded {α : Type} {name first second : Text} {default? : Option Text}
    {make : Text → Text → α} : Bounded (twoTexts name first second default? make).reader.run := by
  apply Record.reader_bounded
  simp only [twoTexts, List.forall_mem_cons]
  exact ⟨map_bounded string_bounded _, map_bounded string_bounded _, by simp⟩

end JavaComments.Json
