import JavaComments.CommandLine
import Mathlib.Data.List.Induction

namespace JavaComments.CommandLine

/-- A number may be written with a plus sign, and with any zeros before its digits. -/
def Numeral (n : Nat) (written : Text) : Prop :=
  ∃ sign zeros, (sign = [] ∨ sign = ['+']) ∧
    written = sign ++ (List.replicate zeros '0' ++ Text.ofNat n)

theorem exists_digitChar {c : Char} (h : c.isDigit = true) : ∃ d < 10, c = d.digitChar := by
  have bounds : 48 ≤ c.toNat ∧ c.toNat ≤ 57 := by
    simpa [Char.isDigit, UInt32.le_iff_toNat_le] using h
  refine ⟨c.toNat - 48, by omega, ?_⟩
  apply Char.toNat_inj.mp
  rw [Nat.toNat_digitChar_of_lt_ten (by omega)]
  omega

theorem isDigit_ofNat {n : Nat} {c : Char} (h : c ∈ Text.ofNat n) : c.isDigit = true :=
  Nat.isDigit_of_mem_toDigits (by decide) (by decide) h

/-- Digits are the digits of the number that they make, behind zeros. -/
theorem exists_zeros {digits : Text} (hne : digits ≠ []) (hd : ∀ c ∈ digits, c.isDigit = true) :
    ∃ zeros, digits =
      List.replicate zeros '0' ++ Text.ofNat (Nat.ofDigitChars 10 digits 0) := by
  induction digits using List.reverseRecOn with
  | nil => exact absurd rfl hne
  | append_singleton digits c ih =>
    obtain ⟨d, hlt, rfl⟩ := exists_digitChar (hd c (by simp))
    rw [Nat.ofDigitChars_append, Nat.ofDigitChars_cons_digitChar_of_lt_ten hlt,
      Nat.ofDigitChars_nil]
    cases digits with
    | nil => exact ⟨0, by simp [Text.ofNat, Nat.toDigits_of_lt_base hlt]⟩
    | cons e digits =>
      obtain ⟨zeros, hz⟩ := ih (by simp) fun c hc => hd c (List.mem_append_left _ hc)
      generalize Nat.ofDigitChars 10 (e :: digits) 0 = n at hz
      by_cases hn : 0 < n
      · have appended : Text.ofNat (10 * n + d) = Text.ofNat n ++ [d.digitChar] := by
          rw [Text.ofNat, ← Nat.toDigits_append_toDigits (by decide) hn hlt,
            Nat.toDigits_of_lt_base hlt]
          rfl
        exact ⟨zeros, by rw [appended, hz, List.append_assoc]⟩
      · -- what came before is zeros alone
        obtain rfl : n = 0 := by omega
        refine ⟨zeros + 1, ?_⟩
        rw [hz, List.replicate_succ', Nat.mul_zero, Nat.zero_add, Text.ofNat, Text.ofNat,
          Nat.toDigits_of_lt_base hlt]
        rfl

theorem numeral_iff {n : Nat} {written : Text} :
    Numeral n written ↔ ∃ digits, (written = digits ∨ written = '+' :: digits) ∧ digits ≠ [] ∧
      (∀ c ∈ digits, c.isDigit = true) ∧ Nat.ofDigitChars 10 digits 0 = n := by
  constructor
  · intro h
    obtain ⟨sign, zeros, hsign, rfl⟩ := h
    refine ⟨List.replicate zeros '0' ++ Text.ofNat n, ?_, ?_, ?_, ?_⟩
    · rcases hsign with rfl | rfl
      · exact .inl rfl
      · exact .inr rfl
    · simp [Text.ofNat, Nat.toDigits_ne_nil]
    · intro c hc
      rcases List.mem_append.mp hc with hc | hc
      · rw [List.eq_of_mem_replicate hc]
        rfl
      · exact isDigit_ofNat hc
    · rw [Nat.ofDigitChars_append, Nat.ofDigitChars_replicate_zero, Nat.mul_zero]
      exact Nat.ofDigitChars_ten_toDigits
  · intro h
    obtain ⟨digits, hw, hne, hd, rfl⟩ := h
    obtain ⟨zeros, hz⟩ := exists_zeros hne hd
    rcases hw with rfl | rfl
    · exact ⟨[], zeros, .inl rfl, hz⟩
    · exact ⟨['+'], zeros, .inr rfl, congrArg ('+' :: ·) hz⟩

theorem eq_unsigned_or_eq_plus (value : Text) :
    value = (if value.head? = some '+' then value.tail else value) ∨
      value = '+' :: (if value.head? = some '+' then value.tail else value) := by
  split
  next h =>
    obtain ⟨tail, rfl⟩ := List.head?_eq_some_iff.mp h
    exact .inr rfl
  next => exact .inl rfl

theorem unsigned_eq {value digits : Text} (hd : ∀ c ∈ digits, c.isDigit = true)
    (h : value = digits ∨ value = '+' :: digits) :
    (if value.head? = some '+' then value.tail else value) = digits := by
  rcases h with rfl | rfl
  · apply if_neg
    intro h
    cases hd '+' (List.mem_of_head? h)
  · rfl

theorem foldl_digits_eq (digits : Text) :
    digits.foldl (fun n c => n * 10 + (c.toNat - '0'.toNat)) 0 = Nat.ofDigitChars 10 digits 0 := by
  simp only [Nat.ofDigitChars_eq_foldl, Nat.mul_comm]

theorem no_digits_iff (digits : Text) :
    (digits.isEmpty || !digits.all Char.isDigit) = true ↔
      ¬ (digits ≠ [] ∧ ∀ c ∈ digits, c.isDigit = true) := by
  rw [Bool.or_eq_true, List.isEmpty_iff, Bool.not_eq_true', ← Bool.not_eq_true, List.all_eq_true]
  tauto

/-- An indent is any numeral of a number with 64 bits. -/
theorem indent?_eq_some_iff {value : Text} {setting : Setting} :
    indent? value = some setting ↔
      ∃ n < UInt64.size, Numeral n value ∧ setting = .indent n := by
  unfold indent?
  dsimp only
  rw [foldl_digits_eq]
  constructor
  · intro h
    have hsigned := eq_unsigned_or_eq_plus value
    generalize (if value.head? = some '+' then value.tail else value) = digits at h hsigned
    split at h
    next => cases h
    next hd =>
      obtain ⟨hne, hd⟩ := not_not.mp (mt (no_digits_iff digits).mpr hd)
      split at h
      next hlt =>
        cases Option.some.inj h
        exact ⟨_, hlt, numeral_iff.mpr ⟨digits, hsigned, hne, hd, rfl⟩, rfl⟩
      next => cases h
  · intro h
    obtain ⟨n, hlt, hn, rfl⟩ := h
    obtain ⟨digits, hw, hne, hd, rfl⟩ := numeral_iff.mp hn
    rw [unsigned_eq hd hw, if_neg (mt (no_digits_iff digits).mp (not_not.mpr ⟨hne, hd⟩)),
      if_pos hlt]

end JavaComments.CommandLine
