import JavaComments.Json.Choice
import JavaComments.Proofs.Json.Stable.Sequence

namespace JavaComments.Json

section

variable {α : Type} {variants : List (Entry α)}

theorem closeVariant_stable : Stable closeVariant := by
  intro s more
  unfold closeVariant
  cases h : skipBlanks s with
  | nil => exact .ended rfl _
  | cons c rest =>
    rw [skipBlanks_append_of_cons h]
    rcases eq_or_ne c '\x7d' with rfl | hc
    · exact .stands rest
    · simp only [hc, List.cons.injEq, false_and, imp_self, implies_true]
      exact .failed _ _

theorem variantName_stable : Stable (variantName variants) := by
  intro s more
  refine (contents_stable s more).bind fun (key, rest) _ => ?_
  dsimp only [Pending.extend]
  split
  next variant _ => exact .stands (variant, rest)
  next => exact .failed _ _

/-- A name that is read is that of a variant, so what is said of the variants goes for its value. -/
theorem variantName_mem {s rest : Text} {entry : Entry α}
    (h : variantName variants s = .ok (entry, rest)) : entry ∈ variants := by
  obtain ⟨⟨key, tail⟩, _, h⟩ := bind_eq_ok_iff.mp h
  dsimp only at h
  split at h
  next hf => cases h; exact List.mem_of_find?_eq_some hf
  next => simp at h

theorem variant_stable (h : ∀ entry ∈ variants, Stable entry.reader.run) :
    Stable (variant variants) := by
  intro s more
  unfold variant
  cases hs : skipBlanks s with
  | nil => exact .ended rfl _
  | cons c rest =>
    rw [skipBlanks_append_of_cons hs]
    rcases eq_or_ne c '\x7d' with rfl | hb
    · exact .failed _ _
    rcases eq_or_ne c '"' with rfl | hq
    · refine (variantName_stable rest more).placed.bind fun (entry, rest) hn => ?_
      have stable := h entry (variantName_mem (mapError_eq_ok_iff.mp hn))
      refine (colon_stable rest more).placed.bind fun rest _ => ?_
      refine (stable rest more).bind fun (value, rest) _ => ?_
      refine (closeVariant_stable rest more).placed.bind fun rest _ => ?_
      exact .stands (value, rest)
    · simp only [hb, hq, List.cons.injEq, false_and, imp_self, implies_true]
      exact .failed _ _

theorem bareVariant_stable : Stable (bareVariant variants) := by
  intro s more
  exact (variantName_stable s more).placed.bind fun _ _ => .failed _ _

theorem choice_stable (h : ∀ entry ∈ variants, Stable entry.reader.run) :
    Stable (choice variants).run := by
  intro s more
  change Outlasts more (readChoice variants s) (readChoice variants (s ++ more))
  unfold readChoice
  cases hs : skipBlanks s with
  | nil => exact .ended rfl _
  | cons c rest =>
    rw [skipBlanks_append_of_cons hs]
    rcases eq_or_ne c '\x7b' with rfl | hb
    · exact variant_stable h rest more
    rcases eq_or_ne c '"' with rfl | hq
    · exact bareVariant_stable rest more
    · simp only [hb, hq, List.cons.injEq, false_and, imp_self, implies_true]
      exact .failed _ _

end

theorem memberKey_stable {c : Char} {rest more : Text} :
    Outlasts more (memberKey (c :: rest)) (memberKey (c :: (rest ++ more))) := by
  unfold memberKey
  rcases eq_or_ne c '"' with rfl | hc
  · exact (contents_stable rest more).map fun _ => rfl
  · simp only [hc, List.cons.injEq, false_and, imp_self, implies_true]
    exact .failed _ _

theorem nextMember_stable (first : Bool) : Stable (nextMember first) := by
  intro s more
  unfold nextMember
  cases h : skipBlanks s with
  | nil => exact .ended rfl _
  | cons c rest =>
    rw [skipBlanks_append_of_cons h]
    rcases eq_or_ne c '\x7d' with rfl | hb
    · exact .stands (Member.done ('\x7d' :: rest))
    simp only
    split
    next => exact memberKey_stable
    next =>
      split
      next =>
        cases h : skipBlanks rest with
        | nil => exact .ended rfl _
        | cons d rest =>
          rw [skipBlanks_append_of_cons h]
          rcases eq_or_ne d '\x7d' with rfl | hd
          · exact .failed _ _
          · simp only [hd, List.cons.injEq, false_and, imp_self, implies_true]
            exact memberKey_stable
      next => exact .failed _ _

namespace Record

variable {σ α : Type} {record : Record σ α}

/-- One round of the reading, as readings in turn. -/
theorem members_eq (seen : List Text) (state : σ) (s : Text) :
    record.members seen state s =
      (nextMember seen.isEmpty s).mapError Fault.placed >>= fun member =>
      match member with
      | .done rest => .ok (state, rest)
      | .key key rest =>
        match Entry.find? record.fields key with
        | none => .error (.pending (.unknownField key (record.fields.map Entry.key)) rest)
        | some field =>
          if key ∈ seen then .error (.pending (.duplicateField key) rest)
          else (colon rest).mapError Fault.placed >>= fun start =>
            field.reader.run start >>= fun (update, rest) =>
              record.members (key :: seen) (update state) rest := by
  rw [members]
  split
  next hn => rw [hn]; rfl
  next hn => rw [hn]; rfl
  next key rest hn =>
    rw [hn]
    change _ = match Entry.find? record.fields key with
      | none => _
      | some field => if key ∈ seen then _ else _
    cases Entry.find? record.fields key with
    | none => rfl
    | some field =>
      dsimp only
      by_cases hk : key ∈ seen
      · rw [if_pos hk, if_pos hk]
      · rw [if_neg hk, if_neg hk]
        cases colon rest with
        | error failure => rfl
        | ok start =>
          change _ = field.reader.run start >>= _
          dsimp only
          cases field.reader.run start <;> rfl

theorem members_stable (h : ∀ field ∈ record.fields, Stable field.reader.run) (seen : List Text)
    (state : σ) : Stable (record.members seen state) := by
  intro s more
  induction hn : s.length using Nat.strongRecOn generalizing seen state s with
  | ind n ih =>
    rw [members_eq, members_eq]
    refine (nextMember_stable _ s more).placed.bind fun member hm => ?_
    cases member with
    | done rest => exact .stands (state, rest)
    | key key rest =>
      dsimp only [Pending.extend]
      split
      next => exact .failed _ _
      next field hf =>
        split
        next => exact .failed _ _
        next =>
          refine (colon_stable rest more).placed.bind fun start hc => ?_
          have stable := h field (List.mem_of_find?_eq_some hf)
          refine (stable start more).bind fun read hv => ?_
          obtain ⟨update, last⟩ := read
          have := nextMember_shorter (mapError_eq_ok_iff.mp hm)
          have := colon_shorter (mapError_eq_ok_iff.mp hc)
          have := field.reader.shorter hv
          exact ih last.length (by omega) (key :: seen) (update state) last rfl

theorem object_stable (h : ∀ field ∈ record.fields, Stable field.reader.run) :
    Stable record.object := by
  intro s more
  refine (members_stable h [] record.start s more).bind fun (state, rest) _ => ?_
  dsimp only [Pending.extend]
  split
  next value _ => exact .stands (value, rest)
  next => exact .failed _ _

theorem positions_cons (present : Nat) (state : σ) (s : Text) (field : Entry (σ → σ))
    (fields : List (Entry (σ → σ))) :
    positions present state s (field :: fields) =
      (nextItem (present = 0) s).mapError Fault.placed >>= fun item =>
        match item with
        | .done rest => .ok ((state, present), rest)
        | .element start => field.reader.run start >>= fun (update, rest) =>
          positions (present + 1) (update state) rest fields := by
  rw [positions]
  cases nextItem (present = 0) s with
  | error failure => rfl
  | ok item =>
    cases item with
    | done rest => rfl
    | element start =>
      change _ = field.reader.run start >>= _
      dsimp only
      cases field.reader.run start <;> rfl

theorem positions_stable {fields : List (Entry (σ → σ))}
    (h : ∀ field ∈ fields, Stable field.reader.run) (present : Nat) (state : σ) :
    Stable fun s => positions present state s fields := by
  intro s more
  induction fields generalizing present state s with
  | nil => exact .stands ((state, present), s)
  | cons field fields ih =>
    dsimp only
    rw [positions_cons, positions_cons]
    obtain ⟨stable, h⟩ := List.forall_mem_cons.mp h
    refine (nextItem_stable _ s more).placed.bind fun item _ => ?_
    cases item with
    | done rest => exact .stands ((state, present), rest)
    | element start =>
      refine (stable start more).bind fun (update, rest) _ => ?_
      exact ih h (present + 1) (update state) rest

theorem tuple_stable (h : ∀ field ∈ record.fields, Stable field.reader.run) :
    Stable record.tuple := by
  intro s more
  refine (positions_stable h 0 record.start s more).bind fun ((state, present), rest) _ => ?_
  dsimp only [Pending.extend]
  split
  next value _ => exact .stands (value, rest)
  next => exact .failed _ _

theorem reader_stable (h : ∀ field ∈ record.fields, Stable field.reader.run) :
    Stable record.reader.run := by
  intro s more
  change Outlasts more (record.read s) (record.read (s ++ more))
  unfold read
  cases hs : skipBlanks s with
  | nil => exact .ended rfl _
  | cons c rest =>
    rw [skipBlanks_append_of_cons hs]
    rcases eq_or_ne c '\x7b' with rfl | hb
    · exact (object_stable h rest more).enclosed closeObject_stable
    rcases eq_or_ne c '[' with rfl | hl
    · exact (tuple_stable h rest more).enclosed closeList_stable
    · simp only [hb, hl, List.cons.injEq, false_and, imp_self, implies_true]
      exact .failed _ _

end Record

theorem twoTexts_stable {α : Type} {name first second : Text} {default? : Option Text}
    {make : Text → Text → α} : Stable (twoTexts name first second default? make).reader.run := by
  apply Record.reader_stable
  simp only [twoTexts, List.forall_mem_cons]
  exact ⟨map_stable string_stable _, map_stable string_stable _, by simp⟩

end JavaComments.Json
