import JavaComments.Proofs.Comment.BlockEnd
import JavaComments.Proofs.Text.Hexadecimal
import JavaComments.Proofs.Text.Lines
import Mathlib.Data.List.TakeWhile

namespace JavaComments

/-- A UTF-16 unit of a Java source, and whether a Unicode escape spells it there. -/
structure CodeUnit where
  value : Nat
  escaped : Bool
deriving DecidableEq

namespace CodeUnit

def raw (value : Nat) : CodeUnit := ⟨value, false⟩

/-- The units of a character that stands for itself. -/
def ofChar (c : Char) : List CodeUnit :=
  if c.toNat < 0x10000 then [raw c.toNat]
  else
    [raw (0xD800 + (c.toNat - 0x10000) / 0x400), raw (0xDC00 + (c.toNat - 0x10000) % 0x400)]

theorem ofChar_of_lt {c : Char} (h : c.toNat < 0x10000) : ofChar c = [raw c.toNat] := if_pos h

theorem ofChar_ne_nil (c : Char) : ofChar c ≠ [] := by
  unfold ofChar
  split <;> simp

theorem mem_ofChar {c d : Char} (hd : d.toNat < 0xD800) {escaped : Bool}
    (h : ⟨d.toNat, escaped⟩ ∈ ofChar c) : c = d := by
  unfold ofChar raw at h
  split at h
  next =>
    rw [List.mem_singleton, CodeUnit.mk.injEq] at h
    exact Char.toNat_inj.mp h.1.symm
  next =>
    simp only [List.mem_cons, CodeUnit.mk.injEq, List.not_mem_nil, or_false] at h
    omega

end CodeUnit

namespace Text

/-- What follows the backslash of a Unicode escape: letters `u`, at least one, and four digits. -/
def IsUnicodeEscape (text : Text) (unit : Nat) : Prop :=
  ∃ n digits, HexUnit digits unit ∧ text = List.replicate (n + 1) 'u' ++ digits

theorem IsUnicodeEscape.not_mem {text : Text} {unit : Nat} (h : IsUnicodeEscape text unit)
    {c : Char} (hu : c ≠ 'u') (hd : Json.hexDigit? c = none) : c ∉ text := by
  obtain ⟨n, digits, hdigits, rfl⟩ := h
  intro hc
  rcases List.mem_append.mp hc with hc | hc
  · exact hu (List.eq_of_mem_replicate hc)
  · obtain ⟨value, hv⟩ := hdigits.exists_isHexDigit hc
    rw [← hexDigit?_eq_some_iff, hd] at hv
    cases hv

def unicodeEscape? : Text → Option (Nat × Text)
  | [] => none
  | c :: rest => if c = 'u' then Json.hexUnit? (rest.dropWhile (· = 'u')) else none

theorem unicodeEscape?_eq_some_iff {s rest : Text} {unit : Nat} :
    unicodeEscape? s = some (unit, rest) ↔
      ∃ front, IsUnicodeEscape front unit ∧ s = front ++ rest := by
  constructor
  · intro h
    cases s with
    | nil => simp [unicodeEscape?] at h
    | cons c s =>
      simp only [unicodeEscape?] at h
      split at h
      next hc =>
        obtain ⟨digits, hd, hs⟩ := hexUnit?_eq_some_iff.mp h
        let marks := s.takeWhile (· = 'u')
        have hm : marks = List.replicate marks.length 'u' :=
          List.eq_replicate_of_mem fun d hd => by simpa using List.mem_takeWhile_imp hd
        refine ⟨'u' :: marks ++ digits, ⟨marks.length, digits, hd, ?_⟩, ?_⟩
        · rw [List.replicate_succ, ← hm]
        · rw [hc, List.append_assoc, ← hs, List.cons_append, List.takeWhile_append_dropWhile]
      next => simp at h
  · intro hx
    obtain ⟨_, ⟨n, digits, hd, rfl⟩, rfl⟩ := hx
    have drop : (List.replicate n 'u' ++ digits ++ rest).dropWhile (· = 'u') = digits ++ rest := by
      obtain ⟨a, _, _, _, w, _, _, _, rfl, ha, _⟩ := hd
      have first : a ≠ 'u' := by
        rintro rfl
        rw [← hexDigit?_eq_some_iff] at ha
        cases ha
      rw [List.append_assoc, List.dropWhile_append_of_pos (by simp)]
      simp [first]
    simp only [List.replicate_succ, List.cons_append, unicodeEscape?, if_pos, drop]
    exact hexUnit?_eq_some_iff.mpr ⟨digits, hd, rfl⟩

theorem unicodeEscape?_shorter {s rest : Text} {unit : Nat}
    (h : unicodeEscape? s = some (unit, rest)) : rest.length < s.length := by
  obtain ⟨_, ⟨n, digits, _, rfl⟩, rfl⟩ := unicodeEscape?_eq_some_iff.mp h
  simp only [List.length_append, List.length_replicate]
  omega

/-- How Java reads a text as UTF-16 units, from left to right. A backslash begins an escape when
an even number of backslashes, not an `odd` one, stands directly before it. -/
def codeUnitsFrom (odd : Bool) (text : Text) : List CodeUnit :=
  match text with
  | [] => []
  | c :: rest =>
    if c = '\\' then
      if odd then .raw 0x5C :: codeUnitsFrom false rest
      else match _h : unicodeEscape? rest with
        | some (unit, rest) => ⟨unit, true⟩ :: codeUnitsFrom false rest
        | none => .raw 0x5C :: codeUnitsFrom true rest
    else CodeUnit.ofChar c ++ codeUnitsFrom false rest
termination_by text.length
decreasing_by
  · simp
  · exact Nat.lt_succ_of_lt (unicodeEscape?_shorter _h)
  · simp
  · simp

def codeUnits (text : Text) : List CodeUnit := text.codeUnitsFrom false

@[simp] theorem codeUnitsFrom_nil (odd : Bool) : codeUnitsFrom odd [] = [] := by
  rw [codeUnitsFrom]

theorem codeUnitsFrom_odd (rest : Text) :
    codeUnitsFrom true ('\\' :: rest) = .raw 0x5C :: rest.codeUnits := by
  rw [codeUnitsFrom, if_pos rfl, if_pos rfl, codeUnits]

theorem codeUnits_escape {rest tail : Text} {unit : Nat}
    (h : unicodeEscape? rest = some (unit, tail)) :
    codeUnits ('\\' :: rest) = ⟨unit, true⟩ :: tail.codeUnits := by
  rw [codeUnits, codeUnitsFrom, if_pos rfl, if_neg (by decide), codeUnits]
  split
  next heq => cases h.symm.trans heq; rfl
  next heq => cases h.symm.trans heq

theorem codeUnits_backslash {rest : Text} (h : unicodeEscape? rest = none) :
    codeUnits ('\\' :: rest) = .raw 0x5C :: rest.codeUnitsFrom true := by
  rw [codeUnits, codeUnitsFrom, if_pos rfl, if_neg (by decide)]
  split
  next heq => cases h.symm.trans heq
  next => rfl

theorem codeUnitsFrom_cons_of_ne {c : Char} (hc : c ≠ '\\') (odd : Bool) (rest : Text) :
    codeUnitsFrom odd (c :: rest) = CodeUnit.ofChar c ++ rest.codeUnits := by
  rw [codeUnitsFrom, if_neg hc, codeUnits]

theorem codeUnitsFrom_of_ne {c : Char} (hc : c ≠ '\\') (odd : Bool) (rest : Text) :
    codeUnitsFrom odd (c :: rest) = codeUnits (c :: rest) := by
  rw [codeUnits, codeUnitsFrom_cons_of_ne hc, codeUnitsFrom_cons_of_ne hc]

theorem codeUnits_cons_of_lt {c : Char} (hc : c ≠ '\\') (hl : c.toNat < 0x10000) (rest : Text) :
    codeUnits (c :: rest) = .raw c.toNat :: rest.codeUnits := by
  rw [codeUnits, codeUnitsFrom_cons_of_ne hc, CodeUnit.ofChar_of_lt hl, List.singleton_append]

theorem codeUnits_append_of_plain {front : Text}
    (h : ∀ c ∈ front, c ≠ '\\' ∧ c.toNat < 0x10000) (back : Text) :
    codeUnits (front ++ back) = front.map (fun c => .raw c.toNat) ++ back.codeUnits := by
  induction front with
  | nil => rfl
  | cons c front ih =>
    obtain ⟨hb, hl⟩ := h c List.mem_cons_self
    have hf : ∀ d ∈ front, d ≠ '\\' ∧ d.toNat < 0x10000 :=
      fun d hd => h d (List.mem_cons_of_mem c hd)
    rw [List.cons_append, codeUnits_cons_of_lt hb hl, ih hf, List.map_cons, List.cons_append]

/-- No escape reaches over a character that has no part in one. -/
theorem unicodeEscape?_append_cons {c : Char} (hu : c ≠ 'u') (hd : Json.hexDigit? c = none)
    (front back : Text) :
    unicodeEscape? (front ++ c :: back) =
      (unicodeEscape? front).map fun (unit, rest) => (unit, rest ++ c :: back) := by
  ext ⟨unit, rest⟩
  simp only [unicodeEscape?_eq_some_iff, Option.map_eq_some_iff, Prod.exists, Prod.mk.injEq]
  constructor
  · intro hx
    obtain ⟨escape, he, heq⟩ := hx
    rcases List.append_eq_append_iff.mp heq with ⟨extra, rfl, hr⟩ | ⟨tail, rfl, rfl⟩
    · cases extra with
      | nil => exact ⟨unit, [], ⟨front, by simpa using he, by simp⟩, rfl, hr⟩
      | cons d extra =>
        cases hr
        exact absurd (by simp) (he.not_mem hu hd)
    · exact ⟨unit, tail, ⟨escape, he, rfl⟩, rfl, rfl⟩
  · intro hx
    obtain ⟨_, tail, ⟨escape, he, rfl⟩, rfl, rfl⟩ := hx
    exact ⟨escape, he, by simp⟩

/-- A blank begins no escape and ends none that is unfinished. -/
theorem codeUnitsFrom_append_cons {c : Char} (hc : c = ' ' ∨ c = '\n') (odd : Bool)
    (front back : Text) :
    codeUnitsFrom odd (front ++ c :: back) = codeUnitsFrom odd front ++ codeUnits (c :: back) := by
  have hb : c ≠ '\\' := by rcases hc with rfl | rfl <;> decide
  have hu : c ≠ 'u' := by rcases hc with rfl | rfl <;> decide
  have hd : Json.hexDigit? c = none := by rcases hc with rfl | rfl <;> decide
  fun_induction codeUnitsFrom odd front with
  | case1 odd => rw [List.nil_append, codeUnits, codeUnitsFrom_cons_of_ne hb,
      codeUnitsFrom_cons_of_ne hb, List.nil_append]
  | case2 rest ih =>
    rw [List.cons_append, codeUnitsFrom_odd, codeUnits, ih, List.cons_append]
  | case3 odd rest heven unit tail he ih =>
    cases Bool.eq_false_of_not_eq_true heven
    have h := unicodeEscape?_append_cons hu hd rest back
    rw [he, Option.map_some] at h
    rw [List.cons_append, ← codeUnits, codeUnits_escape h, codeUnits, ih, List.cons_append]
  | case4 odd rest heven he ih =>
    cases Bool.eq_false_of_not_eq_true heven
    have h := unicodeEscape?_append_cons hu hd rest back
    rw [he, Option.map_none] at h
    rw [List.cons_append, ← codeUnits, codeUnits_backslash h, ih, List.cons_append]
  | case5 odd d rest hne ih =>
    rw [List.cons_append, codeUnitsFrom_cons_of_ne hne, codeUnits, ih, List.append_assoc]

end Text

end JavaComments
