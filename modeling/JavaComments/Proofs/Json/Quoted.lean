import JavaComments.Proofs.Json.Grammar

namespace JavaComments.Json

theorem letterEscape?_eq_some_iff {l c : Char} :
    letterEscape? l = some c ↔ (l, c) ∈ escapeLetters := by
  simp only [escapeLetters, List.mem_cons, Prod.mk.injEq, List.not_mem_nil, or_false]
  constructor
  · intro h
    unfold letterEscape? at h
    split at h <;> cases h <;> simp
  · rintro (⟨rfl, rfl⟩ | ⟨rfl, rfl⟩ | ⟨rfl, rfl⟩ | ⟨rfl, rfl⟩ | ⟨rfl, rfl⟩ | ⟨rfl, rfl⟩ |
      ⟨rfl, rfl⟩ | ⟨rfl, rfl⟩) <;> rfl

theorem letter_ne_u {l c : Char} (h : (l, c) ∈ escapeLetters) : l ≠ 'u' := by
  rintro rfl
  simp [escapeLetters] at h

/-- A code unit outside the surrogates is that of a character. -/
theorem toNat_ofNat_of_unit {unit : Nat} (h : unit < 0xD800 ∨ 0xDFFF < unit ∧ unit < 0x110000) :
    (Char.ofNat unit).toNat = unit := by
  rw [Char.ofNat, dif_pos h]
  rfl

theorem toNat_pairedChar {high low : Nat} (hh : high < 0x400) (hl : low < 0x400) :
    (pairedChar (0xD800 + high) (0xDC00 + low)).toNat = 0x10000 + 0x400 * high + low := by
  rw [pairedChar, toNat_ofNat_of_unit]
  all_goals omega

theorem isHighSurrogate_iff {unit : Nat} :
    isHighSurrogate unit = true ↔ ∃ high < 0x400, unit = 0xD800 + high := by
  rw [isHighSurrogate, Bool.and_eq_true, decide_eq_true_iff, decide_eq_true_iff]
  constructor
  · intro h
    exact ⟨unit - 0xD800, by omega, by omega⟩
  · intro hx
    obtain ⟨high, hh, rfl⟩ := hx
    omega

theorem isLowSurrogate_iff {unit : Nat} :
    isLowSurrogate unit = true ↔ ∃ low < 0x400, unit = 0xDC00 + low := by
  rw [isLowSurrogate, Bool.and_eq_true, decide_eq_true_iff, decide_eq_true_iff]
  constructor
  · intro h
    exact ⟨unit - 0xDC00, by omega, by omega⟩
  · intro hx
    obtain ⟨low, hl, rfl⟩ := hx
    omega

theorem unicodeEscape_sound {s rest : Text} {c : Char} (h : unicodeEscape s = .ok (c, rest)) :
    ∃ spelled, CharSpelling c ('\\' :: 'u' :: spelled) ∧ s = spelled ++ rest := by
  obtain ⟨⟨unit, tail⟩, hunit, h⟩ := bind_eq_ok_iff.mp h
  obtain ⟨digits, hd, hs⟩ := hexUnit?_eq_some_iff.mp (hexUnit_eq_ok_iff.mp hunit)
  dsimp only at h
  split at h
  next => simp at h
  next hlow =>
    split at h
    next hhigh =>
      obtain ⟨r₁, h₁, h⟩ := bind_eq_ok_iff.mp h
      obtain ⟨r₂, h₂, h⟩ := bind_eq_ok_iff.mp h
      obtain ⟨⟨second, last⟩, h₃, h⟩ := bind_eq_ok_iff.mp h
      obtain ⟨digits', hd', hs'⟩ := hexUnit?_eq_some_iff.mp (hexUnit_eq_ok_iff.mp h₃)
      rw [pairMark_eq_ok_iff] at h₁ h₂
      dsimp only at h
      split at h
      next hlow' =>
        obtain ⟨high, hh, rfl⟩ := isHighSurrogate_iff.mp hhigh
        obtain ⟨low, hl, rfl⟩ := isLowSurrogate_iff.mp hlow'
        obtain ⟨rfl, rfl⟩ := Prod.mk.inj (Except.ok.inj h)
        exact ⟨digits ++ '\\' :: 'u' :: digits',
          .pair hd hd' hh hl (toNat_pairedChar hh hl), by simp [hs, h₁, h₂, hs']⟩
      next => simp at h
    next hhigh =>
      have outside : ∀ n < 0x800, unit ≠ 0xD800 + n := by
        intro n hn hu
        by_cases hs : n < 0x400
        · exact hhigh (isHighSurrogate_iff.mpr ⟨n, hs, hu⟩)
        · exact hlow (isLowSurrogate_iff.mpr ⟨n - 0x400, by omega, by omega⟩)
      have hc : (Char.ofNat unit).toNat = unit := by
        apply toNat_ofNat_of_unit
        have := hd.lt
        have := outside (unit - 0xD800)
        omega
      cases h
      exact ⟨digits, .unit (hc.symm ▸ hd), hs⟩

theorem not_surrogate (c : Char) : ∀ n < 0x800, c.toNat ≠ 0xD800 + n := by
  intro n hn h
  have hv : c.toNat < 0xD800 ∨ 0xDFFF < c.toNat ∧ c.toNat < 0x110000 := c.valid
  omega

theorem hexUnit_append {digits : Text} {unit : Nat} (h : HexUnit digits unit) (rest : Text) :
    hexUnit (digits ++ rest) = .ok (unit, rest) :=
  hexUnit_eq_ok_iff.mpr (hexUnit?_eq_some_iff.mpr ⟨digits, h, rfl⟩)

theorem unicodeEscape_unit {digits : Text} {c : Char} (h : HexUnit digits c.toNat) (rest : Text) :
    unicodeEscape (digits ++ rest) = .ok (c, rest) := by
  have hl : isLowSurrogate c.toNat = false := by
    rw [Bool.eq_false_iff, ne_eq, isLowSurrogate_iff]
    intro hx
    obtain ⟨low, hl, hu⟩ := hx
    exact not_surrogate c (0x400 + low) (by omega) (by omega)
  have hh : isHighSurrogate c.toNat = false := by
    rw [Bool.eq_false_iff, ne_eq, isHighSurrogate_iff]
    intro hx
    obtain ⟨high, hh, hu⟩ := hx
    exact not_surrogate c high (by omega) hu
  rw [unicodeEscape, hexUnit_append h]
  simp [bind, Except.bind, hl, hh]

theorem unicodeEscape_pair {first second : Text} {high low : Nat} {c : Char}
    (hf : HexUnit first (0xD800 + high)) (hs : HexUnit second (0xDC00 + low)) (hh : high < 0x400)
    (hl : low < 0x400) (hc : c.toNat = 0x10000 + 0x400 * high + low) (rest : Text) :
    unicodeEscape (first ++ '\\' :: 'u' :: second ++ rest) = .ok (c, rest) := by
  have isHigh : isHighSurrogate (0xD800 + high) = true := isHighSurrogate_iff.mpr ⟨high, hh, rfl⟩
  have isLow : isLowSurrogate (0xDC00 + low) = true := isLowSurrogate_iff.mpr ⟨low, hl, rfl⟩
  have notLow : isLowSurrogate (0xD800 + high) = false := by
    rw [Bool.eq_false_iff, ne_eq, isLowSurrogate_iff]
    intro hx
    obtain ⟨n, hn, hu⟩ := hx
    omega
  have paired : pairedChar (0xD800 + high) (0xDC00 + low) = c := by
    rw [← Char.toNat_inj, toNat_pairedChar hh hl, hc]
  have mark : ∀ m t, pairMark m (m :: t) = .ok t := fun m t => pairMark_eq_ok_iff.mpr rfl
  rw [unicodeEscape, List.append_assoc, hexUnit_append hf]
  simp [bind, Except.bind, isHigh, isLow, notLow, mark, hexUnit_append hs, paired]

theorem escape_sound {s rest : Text} {c : Char} (h : escape s = .ok (c, rest)) :
    ∃ spelled, CharSpelling c ('\\' :: spelled) ∧ s = spelled ++ rest := by
  unfold escape at h
  split at h
  next => simp at h
  next d tail =>
    split at h
    next hu =>
      obtain ⟨spelled, hs, ht⟩ := unicodeEscape_sound h
      exact ⟨'u' :: spelled, hs, by rw [hu, ht, List.cons_append]⟩
    next =>
      split at h
      next hl =>
        cases h
        exact ⟨[d], .letter (letterEscape?_eq_some_iff.mp hl), rfl⟩
      next => simp at h

theorem piece_sound {s rest : Text} {c : Char} (h : piece s = .ok (some c, rest)) :
    ∃ spelled, CharSpelling c spelled ∧ s = spelled ++ rest := by
  unfold piece at h
  split at h
  next => simp at h
  next d tail =>
    split at h
    next => simp at h
    next hq =>
      split at h
      next hb =>
        obtain ⟨⟨e, t⟩, he, h⟩ := map_eq_ok_iff.mp h
        cases h
        obtain ⟨spelled, hs, ht⟩ := escape_sound he
        exact ⟨'\\' :: spelled, hs, by rw [hb, ht, List.cons_append]⟩
      next hb =>
        split at h
        next => simp at h
        next hc =>
          cases h
          exact ⟨[c], .plain (by omega) hq hb, rfl⟩

theorem piece_backslash (s : Text) :
    piece ('\\' :: s) = (escape s).map fun (d, rest) => (some d, rest) := by
  rw [piece, if_neg (by decide), if_pos rfl]

theorem piece_complete {c : Char} {spelled : Text} (h : CharSpelling c spelled) (rest : Text) :
    piece (spelled ++ rest) = .ok (some c, rest) := by
  cases h with
  | plain hc hq hb =>
    rw [List.singleton_append, piece, if_neg hq, if_neg hb, if_neg (by omega)]
  | letter hl =>
    rw [List.cons_append, piece_backslash, List.singleton_append, escape, if_neg (letter_ne_u hl),
      letterEscape?_eq_some_iff.mpr hl]
    rfl
  | unit hd =>
    rw [List.cons_append, piece_backslash, List.cons_append, escape, if_pos rfl,
      unicodeEscape_unit hd]
    rfl
  | @pair first second _ _ hf hs hh hl hc =>
    change piece ('\\' :: 'u' :: (first ++ '\\' :: 'u' :: second ++ rest)) = _
    rw [piece_backslash, escape, if_pos rfl, unicodeEscape_pair hf hs hh hl hc]
    rfl

theorem piece_none_iff {s rest : Text} : piece s = .ok (none, rest) ↔ s = '"' :: rest := by
  constructor
  · intro h
    unfold piece at h
    split at h
    next => simp at h
    next =>
      split at h
      next hq => cases h; rw [hq]
      next =>
        split at h
        next =>
          obtain ⟨_, _, h⟩ := map_eq_ok_iff.mp h
          simp at h
        next => split at h <;> simp at h
  · rintro rfl
    rfl

/-- What is read up to the closing quote is appended to what was read before. -/
theorem contentsAfter_eq_ok_iff {read s text rest : Text} :
    contentsAfter read s = .ok (text, rest) ↔
      ∃ tail pieces, text = read.reverse ++ tail ∧ List.Forall₂ CharSpelling tail pieces ∧
        s = pieces.flatten ++ '"' :: rest := by
  constructor
  · intro h
    fun_induction contentsAfter read s with
    | case1 => simp at h
    | case2 read s tail hp =>
      cases h
      exact ⟨[], [], by simp, .nil, piece_none_iff.mp hp⟩
    | case3 read s c tail hp ih =>
      obtain ⟨more, pieces, rfl, hf, rfl⟩ := ih h
      obtain ⟨spelled, hs, rfl⟩ := piece_sound hp
      exact ⟨c :: more, spelled :: pieces, by simp, .cons hs hf, by simp⟩
  · intro hx
    obtain ⟨tail, pieces, rfl, hf, rfl⟩ := hx
    induction hf generalizing read with
    | nil =>
      have hp : piece ('"' :: rest) = .ok (none, rest) := piece_none_iff.mpr rfl
      simp only [List.flatten_nil, List.nil_append, List.append_nil]
      rw [contentsAfter]
      split <;> simp_all
    | @cons c spelled tail pieces hs _ ih =>
      have hp := piece_complete hs (pieces.flatten ++ '"' :: rest)
      rw [List.flatten_cons, List.append_assoc, contentsAfter]
      split
      next heq => simp [hp] at heq
      next heq => simp [hp] at heq
      next heq =>
        cases hp.symm.trans heq
        rw [ih]
        simp

theorem StringSpelling.begins {text spelled : Text} (h : StringSpelling text spelled) :
    ∃ tail, spelled = '"' :: tail := by
  obtain ⟨pieces, _, rfl⟩ := h
  exact ⟨pieces.flatten ++ ['"'], rfl⟩

/-- What is read behind an opening quote is spelt by the string that this quote begins. -/
theorem contents_eq_ok_iff {s text rest : Text} :
    contents s = .ok (text, rest) ↔ ∃ spelled, StringSpelling text ('"' :: spelled) ∧
      s = spelled ++ rest := by
  rw [contents, contentsAfter_eq_ok_iff]
  constructor
  · intro hx
    obtain ⟨tail, pieces, rfl, hf, rfl⟩ := hx
    exact ⟨pieces.flatten ++ ['"'], ⟨pieces, hf, rfl⟩, by simp⟩
  · intro hx
    obtain ⟨spelled, ⟨pieces, hf, he⟩, rfl⟩ := hx
    rw [List.cons_append, List.cons_inj_right] at he
    exact ⟨text, pieces, rfl, hf, by simp [he]⟩

end JavaComments.Json
