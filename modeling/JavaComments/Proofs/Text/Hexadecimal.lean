import JavaComments.Json.Quoted
import Mathlib.Tactic.IntervalCases

namespace JavaComments

/-- A digit and its value below sixteen, in either case. -/
def IsHexDigit (c : Char) (value : Nat) : Prop :=
  "0123456789abcdef".toList[value]? = some c ∨ "0123456789ABCDEF".toList[value]? = some c

/-- Four digits and the code unit that they stand for. -/
def HexUnit (digits : Text) (unit : Nat) : Prop :=
  ∃ a b c d w x y z, digits = [a, b, c, d] ∧
    IsHexDigit a w ∧ IsHexDigit b x ∧ IsHexDigit c y ∧ IsHexDigit d z ∧
    unit = 0x1000 * w + 0x100 * x + 0x10 * y + z

theorem IsHexDigit.lt {c : Char} {value : Nat} (h : IsHexDigit c value) : value < 16 := by
  rcases h with h | h
  · exact (List.getElem?_eq_some_iff.mp h).1
  · exact (List.getElem?_eq_some_iff.mp h).1

theorem isHexDigit_digitChar {n : Nat} (h : n < 16) : IsHexDigit (Nat.digitChar n) n := by
  left
  interval_cases n <;> rfl

theorem isHexDigit_of_hexDigit? {c : Char} {value : Nat} (h : Json.hexDigit? c = some value) :
    IsHexDigit c value := by
  obtain ⟨n, hn, rfl⟩ : ∃ n, c.toNat = n ∧ c = Char.ofNat n := ⟨c.toNat, rfl, by simp⟩
  -- Each of the three ranges is left to a check of its few members.
  have between {a b : Char} (hr : a ≤ Char.ofNat n ∧ Char.ofNat n ≤ b) :
      a.toNat ≤ n ∧ n ≤ b.toNat := hn ▸ hr
  unfold Json.hexDigit? at h
  split at h
  next hr =>
    obtain ⟨hl, hu⟩ := between hr
    cases h
    simp only [Char.reduceToNat] at hl hu
    interval_cases n <;> exact .inl rfl
  next =>
    split at h
    next hr =>
      obtain ⟨hl, hu⟩ := between hr
      cases h
      simp only [Char.reduceToNat] at hl hu
      interval_cases n <;> exact .inl rfl
    next =>
      split at h
      next hr =>
        obtain ⟨hl, hu⟩ := between hr
        cases h
        simp only [Char.reduceToNat] at hl hu
        interval_cases n <;> exact .inr rfl
      next => simp at h

theorem hexDigit?_eq_some_iff {c : Char} {value : Nat} :
    Json.hexDigit? c = some value ↔ IsHexDigit c value := by
  refine ⟨isHexDigit_of_hexDigit?, ?_⟩
  intro h
  have bound := h.lt
  unfold IsHexDigit at h
  interval_cases value <;> rcases h with h | h <;> cases h <;> rfl

theorem HexUnit.lt {digits : Text} {unit : Nat} (h : HexUnit digits unit) : unit < 0x10000 := by
  obtain ⟨_, _, _, _, w, x, y, z, _, hw, hx, hy, hz, rfl⟩ := h
  have := hw.lt
  have := hx.lt
  have := hy.lt
  have := hz.lt
  omega

theorem HexUnit.exists_isHexDigit {digits : Text} {unit : Nat} (h : HexUnit digits unit) {c : Char}
    (hc : c ∈ digits) : ∃ value, IsHexDigit c value := by
  obtain ⟨_, _, _, _, w, x, y, z, rfl, hw, hx, hy, hz, _⟩ := h
  simp only [List.mem_cons, List.not_mem_nil, or_false] at hc
  rcases hc with rfl | rfl | rfl | rfl
  · exact ⟨w, hw⟩
  · exact ⟨x, hx⟩
  · exact ⟨y, hy⟩
  · exact ⟨z, hz⟩

theorem IsHexDigit.utf8Size {c : Char} {value : Nat} (h : IsHexDigit c value) :
    c.utf8Size = 1 := by
  have bound := h.lt
  unfold IsHexDigit at h
  interval_cases value <;> rcases h with h | h <;> cases h <;> rfl

theorem HexUnit.byteLength {digits : Text} {unit : Nat} (h : HexUnit digits unit) :
    digits.byteLength = 4 := by
  obtain ⟨_, _, _, _, w, x, y, z, rfl, hw, hx, hy, hz, _⟩ := h
  simp [hw.utf8Size, hx.utf8Size, hy.utf8Size, hz.utf8Size]

theorem hexUnit?_eq_some_iff {s rest : Text} {unit : Nat} :
    Json.hexUnit? s = some (unit, rest) ↔ ∃ digits, HexUnit digits unit ∧ s = digits ++ rest := by
  constructor
  · intro h
    unfold Json.hexUnit? at h
    split at h
    next a b c d tail =>
      simp only [Option.bind_eq_bind, Option.bind_eq_some_iff, Option.pure_def, Option.some.injEq,
        Prod.mk.injEq, hexDigit?_eq_some_iff] at h
      obtain ⟨w, hw, x, hx, y, hy, z, hz, hu, rfl⟩ := h
      exact ⟨[a, b, c, d], ⟨a, b, c, d, w, x, y, z, rfl, hw, hx, hy, hz, by omega⟩, rfl⟩
    next => simp at h
  · intro h
    obtain ⟨_, ⟨a, b, c, d, w, x, y, z, rfl, hw, hx, hy, hz, rfl⟩, rfl⟩ := h
    rw [← hexDigit?_eq_some_iff] at hw hx hy hz
    simp only [List.cons_append, List.nil_append, Json.hexUnit?, hw, hx, hy, hz,
      Option.bind_eq_bind, Option.bind_some, Option.pure_def, Option.some.injEq, Prod.mk.injEq,
      and_true]
    omega

end JavaComments
