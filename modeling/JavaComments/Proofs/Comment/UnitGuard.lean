import JavaComments.Proofs.Comment.CodeUnit

namespace JavaComments

namespace CodeUnit

def asterisk : Nat := 0x2A

def solidus : Nat := 0x2F

/-- Writes `*&#47;` for a star and a slash that both stand for themselves. -/
def guarded : List CodeUnit → List CodeUnit
  | ⟨0x2A, false⟩ :: ⟨0x2F, false⟩ :: rest =>
    "*&#47;".toList.map (fun c => raw c.toNat) ++ guarded rest
  | unit :: rest => unit :: guarded rest
  | [] => []

@[simp] theorem guarded_nil : guarded [] = [] := rfl

theorem guarded_asterisk_solidus (rest : List CodeUnit) :
    guarded (raw asterisk :: raw solidus :: rest) =
      "*&#47;".toList.map (fun c => raw c.toNat) ++ guarded rest := rfl

theorem guarded_cons {unit : CodeUnit} {rest : List CodeUnit}
    (h : ¬ (unit = raw asterisk ∧ rest.head? = some (raw solidus))) :
    guarded (unit :: rest) = unit :: guarded rest := by
  rw [guarded.eq_def]
  split
  next heq => cases heq; exact absurd ⟨rfl, rfl⟩ h
  next heq => cases heq; rfl
  next heq => cases heq

theorem head?_guarded (units : List CodeUnit) : (guarded units).head? = units.head? := by
  fun_cases guarded units <;> rfl

/-- A star and a slash stand side by side, and one of them at least is spelt by an escape. -/
def HidesBlockEnd (units : List CodeUnit) : Prop :=
  ∃ a b, [⟨asterisk, a⟩, ⟨solidus, b⟩] <:+: units ∧ (a || b) = true

theorem hidesBlockEnd_cons_iff {unit : CodeUnit} {rest : List CodeUnit} :
    HidesBlockEnd (unit :: rest) ↔
      (∃ a b, unit = ⟨asterisk, a⟩ ∧ rest.head? = some ⟨solidus, b⟩ ∧ (a || b) = true) ∨
        HidesBlockEnd rest := by
  simp only [HidesBlockEnd, pair_infix_cons_iff, or_and_right, exists_or, and_assoc]

/-- Guarding leaves exactly the block ends that an escape takes part in. -/
theorem blockEnd_guarded_iff (units : List CodeUnit) :
    [asterisk, solidus] <:+: (guarded units).map value ↔ HidesBlockEnd units := by
  fun_induction guarded units with
  | case1 rest ih =>
    rw [hidesBlockEnd_cons_iff, hidesBlockEnd_cons_iff, ← ih]
    simp [asterisk, solidus, raw, pair_infix_cons_iff]
  | case2 unit rest h ih =>
    rw [hidesBlockEnd_cons_iff, List.map_cons, pair_infix_cons_iff, ih, List.head?_map,
      head?_guarded]
    apply or_congr_left
    constructor
    · intro hx
      obtain ⟨hu, hr⟩ := hx
      obtain ⟨next, hn, hv⟩ := Option.map_eq_some_iff.mp hr
      obtain ⟨tail, rfl⟩ := List.head?_eq_some_iff.mp hn
      refine ⟨unit.escaped, next.escaped, by rw [← hu], by rw [← hv]; rfl, ?_⟩
      by_contra hplain
      rw [Bool.or_eq_true, not_or, Bool.not_eq_true, Bool.not_eq_true] at hplain
      exact h tail (by rw [← hplain.1, ← asterisk, ← hu]) (by rw [← hplain.2, ← solidus, ← hv])
    · intro hx
      obtain ⟨a, b, rfl, hr, _⟩ := hx
      simp [hr]
  | case3 => simp [HidesBlockEnd]

end CodeUnit

namespace Text

open CodeUnit

theorem unicodeEscape?_escapeBlockEnd (text : Text) :
    unicodeEscape? text.escapeBlockEnd =
      (unicodeEscape? text).map fun (unit, rest) => (unit, rest.escapeBlockEnd) := by
  ext ⟨unit, rest⟩
  simp only [unicodeEscape?_eq_some_iff, Option.map_eq_some_iff, Prod.exists, Prod.mk.injEq]
  constructor
  · intro hx
    obtain ⟨front, hf, heq⟩ := hx
    obtain ⟨tail, rfl, hr⟩ :=
      (escapeBlockEnd_eq_append_iff (hf.not_mem (by decide) (by decide))).mp heq
    exact ⟨unit, tail, ⟨front, hf, rfl⟩, rfl, hr⟩
  · intro hx
    obtain ⟨_, tail, ⟨front, hf, rfl⟩, rfl, rfl⟩ := hx
    exact ⟨front, hf, (escapeBlockEnd_eq_append_iff (hf.not_mem (by decide) (by decide))).mpr
      ⟨tail, rfl, rfl⟩⟩

theorem head?_codeUnits_slash {text : Text} (h : text.codeUnits.head? = some (raw solidus)) :
    text.head? = some '/' := by
  cases text with
  | nil => simp [codeUnits] at h
  | cons c rest =>
    by_cases hc : c = '\\'
    · subst hc
      cases he : unicodeEscape? rest with
      | none =>
        rw [codeUnits_backslash he] at h
        simp [raw, solidus] at h
      | some read =>
        rw [codeUnits_escape he] at h
        simp [raw] at h
    · rw [codeUnits, codeUnitsFrom_cons_of_ne hc, List.head?_append] at h
      cases hu : ofChar c with
      | nil => exact absurd hu (ofChar_ne_nil c)
      | cons unit units =>
        rw [hu] at h
        simp only [List.head?_cons, Option.some_or, Option.some.injEq] at h
        have hs : ⟨'/'.toNat, false⟩ ∈ ofChar c := by
          rw [hu, h]
          exact List.mem_cons_self
        rw [mem_ofChar (by decide) hs, List.head?_cons]

theorem guarded_ofChar_append {c : Char} {rest : Text} (h : ¬ (c = '*' ∧ rest.head? = some '/')) :
    guarded (ofChar c ++ rest.codeUnits) = ofChar c ++ guarded rest.codeUnits := by
  unfold ofChar
  split
  next =>
    apply guarded_cons
    intro hx
    obtain ⟨hc, hr⟩ := hx
    exact h ⟨Char.toNat_inj.mp (CodeUnit.mk.inj hc).1, head?_codeUnits_slash hr⟩
  next =>
    have surrogate : ∀ n, 0xD800 ≤ n → raw n ≠ raw asterisk := by
      intro n hn he
      have := (CodeUnit.mk.inj he).1
      unfold asterisk at this
      omega
    simp only [List.cons_append, List.nil_append]
    rw [guarded_cons fun h => surrogate _ (by omega) h.1,
      guarded_cons fun h => surrogate _ (by omega) h.1]

/-- As Java reads it, escaping a text guards its units. -/
theorem codeUnitsFrom_escapeBlockEnd (odd : Bool) (text : Text) :
    text.escapeBlockEnd.codeUnitsFrom odd = guarded (text.codeUnitsFrom odd) := by
  -- The induction follows Java's reading, which takes a Unicode escape as a whole: no star and no
  -- slash has a part in one, so no block end is written out there.
  fun_induction codeUnitsFrom odd text with
  | case1 odd => rw [escapeBlockEnd_nil, codeUnitsFrom_nil, guarded_nil]
  | case2 rest ih =>
    rw [escapeBlockEnd_cons_of_ne (by decide), codeUnitsFrom_odd, codeUnits, ih,
      guarded_cons (by simp [raw, asterisk])]
  | case3 odd rest heven unit tail he ih =>
    cases Bool.eq_false_of_not_eq_true heven
    have h := unicodeEscape?_escapeBlockEnd rest
    rw [he, Option.map_some] at h
    rw [escapeBlockEnd_cons_of_ne (by decide), ← codeUnits, codeUnits_escape h, codeUnits, ih,
      guarded_cons (by simp [raw])]
  | case4 odd rest heven he ih =>
    cases Bool.eq_false_of_not_eq_true heven
    have h := unicodeEscape?_escapeBlockEnd rest
    rw [he, Option.map_none] at h
    rw [escapeBlockEnd_cons_of_ne (by decide), ← codeUnits, codeUnits_backslash h, ih,
      guarded_cons (by simp [raw, asterisk])]
  | case5 odd c rest hc ih =>
    by_cases h : c = '*' ∧ rest.head? = some '/'
    · obtain ⟨rfl, hr⟩ := h
      obtain ⟨(tail : Text), rfl⟩ := List.head?_eq_some_iff.mp hr
      have star : ofChar '*' = [raw asterisk] := rfl
      have slash : ∀ t : Text, codeUnitsFrom false ('/' :: t) = raw solidus :: t.codeUnits :=
        fun t => codeUnits_cons_of_lt (c := '/') (by decide) (by decide) t
      have rest : tail.escapeBlockEnd.codeUnits = guarded tail.codeUnits := by
        rw [escapeBlockEnd_cons_of_ne (by decide), slash, slash,
          guarded_cons (by simp [raw, asterisk, solidus]), List.cons_inj_right] at ih
        exact ih
      rw [star, slash, List.singleton_append, guarded_asterisk_solidus, ← rest,
        escapeBlockEnd_star_slash, ← codeUnits_append_of_plain (by simp)]
      exact codeUnitsFrom_of_ne (by decide) odd _
    · rw [escapeBlockEnd_cons h, codeUnitsFrom_cons_of_ne hc, codeUnits, ih]
      exact (guarded_ofChar_append h).symm

end Text

end JavaComments
