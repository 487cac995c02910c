import JavaComments.Json.Printer
import JavaComments.Proofs.Json.Grammar
import JavaComments.Text.Utf8
import Mathlib.Data.List.Forall2

namespace JavaComments.Json

/-- The text is a spelling in which no control character below the space stands for itself. -/
structure Written (part : Text → Prop) (text : Text) : Prop where
  spelled : part text
  noControl : ∀ c ∈ text, 0x20 ≤ c.toNat

/-- In UTF-8, control characters below the space are the only ones with bytes below it. -/
theorem byte_ge_of_char_ge {c : Char} (h : 0x20 ≤ c.toNat) :
    ∀ b ∈ String.utf8EncodeChar c, 0x20 ≤ b := by
  intro b hb
  have hv : 0x20 ≤ c.val.toNat := h
  have byte : ∀ n, 0x20 ≤ n → n < 256 → 0x20 ≤ UInt8.ofNat n := by
    intro n hl hu
    rw [UInt8.le_iff_toNat_le, UInt8.toNat_ofNat', Nat.mod_eq_of_lt hu]
    exact hl
  unfold String.utf8EncodeChar at hb
  dsimp only at hb
  split at hb
  next =>
    rw [List.mem_singleton.mp hb]
    exact byte _ hv (by omega)
  next =>
    split at hb
    next =>
      simp only [List.mem_cons, List.not_mem_nil, or_false] at hb
      rcases hb with rfl | rfl <;> exact byte _ (by omega) (by omega)
    next =>
      split at hb
      next =>
        simp only [List.mem_cons, List.not_mem_nil, or_false] at hb
        rcases hb with rfl | rfl | rfl <;> exact byte _ (by omega) (by omega)
      next =>
        simp only [List.mem_cons, List.not_mem_nil, or_false] at hb
        rcases hb with rfl | rfl | rfl | rfl <;> exact byte _ (by omega) (by omega)

theorem Written.utf8_ge {part : Text → Prop} {text : Text} (h : Written part text) :
    ∀ b ∈ text.utf8, 0x20 ≤ b := by
  intro b hb
  obtain ⟨c, hc, hb⟩ := List.mem_flatMap.mp hb
  exact byte_ge_of_char_ge (h.noControl c hc) b hb

theorem hexByte_written {c : Char} (h : c.toNat < 0x20) :
    Written (CharSpelling c) ("\\u00".toList ++ hexByte c.toNat) where
  spelled := by
    have unit : HexUnit ('0' :: '0' :: hexByte c.toNat) c.toNat :=
      ⟨'0', '0', _, _, 0, 0, _, _, rfl, .inl rfl, .inl rfl, isHexDigit_digitChar (by omega),
        isHexDigit_digitChar (by omega), by omega⟩
    exact .unit unit
  noControl := by
    have digit : ∀ n < 16, 0x20 ≤ (Nat.digitChar n).toNat := by decide
    intro d hd
    rcases List.mem_append.mp hd with hd | hd
    · have front : ∀ d ∈ "\\u00".toList, 0x20 ≤ d.toNat := by simp
      exact front d hd
    · simp only [hexByte, List.mem_cons, List.not_mem_nil, or_false] at hd
      rcases hd with rfl | rfl <;> exact digit _ (by omega)

theorem writtenChar_written (c : Char) : Written (CharSpelling c) (writtenChar c) := by
  unfold writtenChar
  split
  next => exact ⟨.letter (by decide), by simp⟩
  next => exact ⟨.letter (by decide), by simp⟩
  next => exact ⟨.letter (by decide), by simp⟩
  next => exact ⟨.letter (by decide), by simp⟩
  next => exact ⟨.letter (by decide), by simp⟩
  next => exact ⟨.letter (by decide), by simp⟩
  next => exact ⟨.letter (by decide), by simp⟩
  next hq hb _ _ _ _ _ =>
    split
    next hc => exact hexByte_written hc
    next hc => exact ⟨.plain (by omega) hq hb, by simpa using hc⟩

theorem writeString_written (text : Text) : Written (StringSpelling text) (writeString text) where
  spelled := by
    refine ⟨text.map writtenChar, ?_, by rw [writeString, List.flatMap_def]⟩
    exact List.forall₂_map_right_iff.mpr
      (List.forall₂_same.mpr fun c _ => (writtenChar_written c).spelled)
  noControl := by
    intro c hc
    simp only [writeString, List.cons_append, List.mem_cons, List.mem_append, List.mem_flatMap,
      List.not_mem_nil, or_false] at hc
    rcases hc with rfl | ⟨d, _, hd⟩ | rfl
    · decide
    · exact (writtenChar_written d).noControl c hd
    · decide

theorem Written.padded {part : Text → Prop} {text : Text} (h : Written part text) :
    Padded part text :=
  ⟨[], text, [], by simp [Blank], h.spelled, by simp [Blank], by simp⟩

theorem commaSeparated_written {parts : List (Text → Prop)} {texts : List Text}
    (h : List.Forall₂ Written parts texts) : Written (Separated parts) (commaSeparated texts) := by
  induction h with
  | nil => exact ⟨.nil (by simp [Blank, commaSeparated]), by simp [commaSeparated]⟩
  | cons hp hps ih =>
    cases hps with
    | nil => simpa [commaSeparated] using ⟨Separated.single hp.padded, hp.noControl⟩
    | @cons _ text' _ texts =>
      have shape : ∀ text, commaSeparated (text :: text' :: texts) =
          text ++ ',' :: commaSeparated (text' :: texts) := by
        intro text
        simp [commaSeparated]
      rw [shape]
      refine ⟨.cons hp.padded ih.spelled, ?_⟩
      intro c hc
      rw [List.mem_append, List.mem_cons] at hc
      rcases hc with hc | rfl | hc
      · exact hp.noControl c hc
      · decide
      · exact ih.noControl c hc

theorem enclosed_written {opening closing : Char} (ho : 0x20 ≤ opening.toNat)
    (hc : 0x20 ≤ closing.toNat) {parts : List (Text → Prop)} {texts : List Text}
    (h : List.Forall₂ Written parts texts) :
    Written (Enclosed opening closing parts) (opening :: commaSeparated texts ++ [closing]) where
  spelled := ⟨_, (commaSeparated_written h).spelled, rfl⟩
  noControl := by
    intro c hm
    simp only [List.cons_append, List.mem_cons, List.mem_append, List.not_mem_nil, or_false] at hm
    rcases hm with rfl | hm | rfl
    · exact ho
    · exact (commaSeparated_written h).noControl c hm
    · exact hc

theorem writeList_written {α : Type} {spelling : α → Text → Prop} {write : α → Text}
    (h : ∀ value, Written (spelling value) (write value)) (values : List α) :
    Written (ListSpelling spelling values) (writeList (values.map write)) := by
  have parts : List.Forall₂ Written (values.map spelling) (values.map write) := by
    rw [List.forall₂_map_left_iff, List.forall₂_map_right_iff]
    exact List.forall₂_same.mpr fun value _ => h value
  exact enclosed_written (by decide) (by decide) parts

theorem member_written (key : Text) {value : Text → Prop} {text : Text} (h : Written value text) :
    Written (MemberSpelling key value) (writeString key ++ ':' :: text) where
  spelled := ⟨writeString key, [], [], text, (writeString_written key).spelled, by simp [Blank],
    by simp [Blank], h.spelled, by simp⟩
  noControl := by
    intro c hc
    rw [List.mem_append, List.mem_cons] at hc
    rcases hc with hc | rfl | hc
    · exact (writeString_written key).noControl c hc
    · decide
    · exact h.noControl c hc

/-- An object with one member is not a record, so it is written on its own account. -/
theorem writeVariant_written (key : Text) {value : Text → Prop} {text : Text}
    (h : Written value text) :
    Written (Enclosed '{' '}' [MemberSpelling key value]) (writeObject [(key, text)]) :=
  enclosed_written (by decide) (by decide) (.cons (member_written key h) .nil)

/-- An object with every field of a record in turn spells the record. -/
theorem writeObject_written {fields : List Field} {members : List (Text × Text)}
    (h : List.Forall₂ (fun field member => field.key = member.1 ∧ Written field.value member.2)
      fields members) : Written (RecordSpelling fields) (writeObject members) := by
  have parts : List.Forall₂ Written (fields.map Field.member)
      (members.map fun member => writeString member.1 ++ ':' :: member.2) := by
    rw [List.forall₂_map_left_iff, List.forall₂_map_right_iff]
    refine h.imp ?_
    intro field member hm
    rw [← hm.1]
    exact member_written field.key hm.2
  have enclosed : Written (Enclosed '{' '}' (fields.map Field.member)) (writeObject members) :=
    enclosed_written (by decide) (by decide) parts
  exact ⟨.inl ⟨fields, [], by simp, by simp, enclosed.spelled⟩, enclosed.noControl⟩

theorem writeOptional_written {α : Type} {spelling : α → Text → Prop} {write : α → Text}
    (h : ∀ value, Written (spelling value) (write value)) (value? : Option α) :
    Written (OptionSpelling spelling value?) (writeOptional write value?) := by
  cases value? with
  | none =>
    have null : ∀ c ∈ "null".toList, 0x20 ≤ c.toNat := by simp
    exact ⟨rfl, null⟩
  | some value => exact ⟨(h value).spelled, (h value).noControl⟩

end JavaComments.Json
