import JavaComments.Json.Choice
import JavaComments.Proofs.Json.Sequence

namespace JavaComments.Json

variable {α : Type} {s rest : Text}

theorem find?_eq_some_iff {entries : List (Entry α)} (h : (entries.map Entry.key).Nodup)
    {key : Text} {entry : Entry α} :
    Entry.find? entries key = some entry ↔ entry ∈ entries ∧ entry.key = key := by
  constructor
  · intro hf
    exact ⟨List.mem_of_find?_eq_some hf, by simpa using List.find?_some hf⟩
  · intro hx
    obtain ⟨hm, rfl⟩ := hx
    unfold Entry.find?
    induction entries with
    | nil => cases hm
    | cons other entries ih =>
      rw [List.map_cons, List.nodup_cons] at h
      rcases List.mem_cons.mp hm with rfl | hm
      · simp
      · have hk : other.key ≠ entry.key := fun he => h.1 (he ▸ List.mem_map_of_mem hm)
        rw [List.find?_cons_of_neg (by simpa using hk), ih h.2 hm]

theorem closeVariant_eq_ok_iff :
    closeVariant s = .ok rest ↔ ∃ blank, Blank blank ∧ s = blank ++ '}' :: rest := by
  rw [← skipBlanks_eq_cons_iff (by decide)]
  unfold closeVariant
  split <;> simp_all

theorem variantName_eq_ok_iff {variants : List (Entry α)} (h : (variants.map Entry.key).Nodup)
    {entry : Entry α} :
    variantName variants s = .ok (entry, rest) ↔ entry ∈ variants ∧
      ∃ spelled, StringSpelling entry.key ('"' :: spelled) ∧ s = spelled ++ rest := by
  constructor
  · intro hn
    obtain ⟨⟨key, tail⟩, hc, hn⟩ := bind_eq_ok_iff.mp hn
    dsimp only at hn
    split at hn
    next found hf =>
      cases hn
      obtain ⟨hm, rfl⟩ := (find?_eq_some_iff h).mp hf
      exact ⟨hm, contents_eq_ok_iff.mp hc⟩
    next => simp at hn
  · intro hx
    obtain ⟨hm, hs⟩ := hx
    have found : Entry.find? variants entry.key = some entry :=
      (find?_eq_some_iff h).mpr ⟨hm, rfl⟩
    refine bind_eq_ok_iff.mpr ⟨(entry.key, rest), contents_eq_ok_iff.mpr hs, ?_⟩
    simp only [found]

section Kinds

/-! Each kind of value has a variant that reads it, with the spellings of its values. -/

variable {kinds : List (Entry α × (α → Text → Prop))}

theorem variant_sound (hk : ((kinds.map Prod.fst).map Entry.key).Nodup)
    (h : ∀ kind ∈ kinds, kind.1.reader.Reads kind.2) {value : α}
    (hr : variant (kinds.map Prod.fst) s = .ok (value, rest)) :
    ∃ kind ∈ kinds, ∃ inner, Separated [MemberSpelling kind.1.key (kind.2 value)] inner ∧
      s = inner ++ '}' :: rest := by
  unfold variant at hr
  split at hr
  next => simp at hr
  next => simp at hr
  next name hname =>
    obtain ⟨⟨entry, r₁⟩, h₁, hr⟩ := bind_eq_ok_iff.mp hr
    obtain ⟨r₂, h₂, hr⟩ := bind_eq_ok_iff.mp hr
    obtain ⟨⟨v, r₃⟩, h₃, hr⟩ := bind_eq_ok_iff.mp hr
    obtain ⟨r₄, h₄, hr⟩ := bind_eq_ok_iff.mp hr
    cases hr
    rw [mapError_eq_ok_iff] at h₁ h₂ h₄
    obtain ⟨hm, spelled, hkey, rfl⟩ := (variantName_eq_ok_iff hk).mp h₁
    obtain ⟨kind, hkind, rfl⟩ := List.mem_map.mp hm
    obtain ⟨before, after, written, hb, ha, hv, rfl⟩ :=
      (h kind hkind).behind_colon_iff.mp ⟨r₂, h₂, h₃⟩
    obtain ⟨front, hfront, rfl⟩ := (skipBlanks_eq_cons_iff (by decide)).mp hname
    obtain ⟨back, hback, rfl⟩ := closeVariant_eq_ok_iff.mp h₄
    have member : MemberSpelling kind.1.key (kind.2 value)
        ('"' :: spelled ++ before ++ ':' :: after ++ written) :=
      ⟨'"' :: spelled, before, after, written, hkey, hb, ha, hv, rfl⟩
    exact ⟨kind, hkind, _, .single ⟨front, _, back, hfront, member, hback, rfl⟩, by simp⟩
  next => simp at hr

theorem variant_complete (hk : ((kinds.map Prod.fst).map Entry.key).Nodup)
    (h : ∀ kind ∈ kinds, kind.1.reader.Reads kind.2) {kind : Entry α × (α → Text → Prop)}
    (hkind : kind ∈ kinds) {value : α} {inner : Text}
    (hs : Separated [MemberSpelling kind.1.key (kind.2 value)] inner) :
    variant (kinds.map Prod.fst) (inner ++ '}' :: rest) = .ok (value, rest) := by
  cases hs with
  | single hp =>
    obtain ⟨front, _, back, hfront, ⟨name, before, after, written, hkey, hb, ha, hv, rfl⟩, hback,
      rfl⟩ := hp
    obtain ⟨tail, rfl⟩ := hkey.begins
    have hn : variantName (kinds.map Prod.fst)
        (tail ++ (before ++ ':' :: after ++ written ++ (back ++ '}' :: rest))) =
        .ok (kind.1, before ++ ':' :: after ++ written ++ (back ++ '}' :: rest)) :=
      (variantName_eq_ok_iff hk).mpr ⟨List.mem_map_of_mem hkind, tail, hkey, rfl⟩
    have hv : ∃ start,
        colon (before ++ ':' :: after ++ written ++ (back ++ '}' :: rest)) = .ok start ∧
          kind.1.reader.run start = .ok (value, back ++ '}' :: rest) :=
      (h kind hkind).behind_colon_iff.mpr ⟨before, after, written, hb, ha, hv, rfl⟩
    obtain ⟨start, hc, hr⟩ := hv
    have hclose : closeVariant (back ++ '}' :: rest) = .ok rest :=
      closeVariant_eq_ok_iff.mpr ⟨back, hback, rfl⟩
    have hq : skipBlanks (front ++ ('"' :: tail ++ before ++ ':' :: after ++ written) ++ back ++
        '}' :: rest) = '"' :: (tail ++
        (before ++ ':' :: after ++ written ++ (back ++ '}' :: rest))) :=
      (skipBlanks_eq_cons_iff (by decide)).mpr ⟨front, hfront, by simp⟩
    rw [variant, hq]
    simp only [hn, hc, hr, hclose, Except.mapError, bind, Except.bind]

theorem choice_reads (hk : ((kinds.map Prod.fst).map Entry.key).Nodup)
    (h : ∀ kind ∈ kinds, kind.1.reader.Reads kind.2) :
    (choice (kinds.map Prod.fst)).Reads fun value spelled => ∃ kind ∈ kinds,
      Enclosed '{' '}' [MemberSpelling kind.1.key (kind.2 value)] spelled where
  begins := by
    rintro _ _ ⟨_, _, hs⟩
    obtain ⟨tail, rfl⟩ := enclosed_begins hs
    exact ⟨'{', tail, rfl, by decide⟩
  run_iff := by
    intro s value rest
    change readChoice _ s = _ ↔ _
    constructor
    · intro hr
      unfold readChoice at hr
      split at hr
      next => simp at hr
      next heq =>
        obtain ⟨kind, hkind, inner, hs, rfl⟩ := variant_sound hk h hr
        obtain ⟨blank, hb, rfl⟩ := (skipBlanks_eq_cons_iff (by decide)).mp heq
        exact ⟨blank, _, hb, ⟨kind, hkind, inner, hs, rfl⟩, by simp⟩
      next => exact absurd hr bareVariant_ne_ok
      next => simp at hr
    · intro hx
      obtain ⟨blank, _, hb, ⟨kind, hkind, inner, hs, rfl⟩, rfl⟩ := hx
      have hs' : skipBlanks (blank ++ ('{' :: inner ++ ['}']) ++ rest) =
          '{' :: (inner ++ '}' :: rest) :=
        (skipBlanks_eq_cons_iff (by decide)).mpr ⟨blank, hb, by simp⟩
      rw [readChoice, hs']
      exact variant_complete hk h hkind hs

end Kinds

end JavaComments.Json
