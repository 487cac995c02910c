import JavaComments.Proofs.Json.Stable.Quoted

namespace JavaComments.Json

section

variable {α β : Type} {more : Text}

theorem string_stable : Stable string.run := by
  intro s more
  change Outlasts more (readString s) (readString (s ++ more))
  unfold readString
  cases h : skipBlanks s with
  | nil => exact .ended rfl _
  | cons c rest =>
    rw [skipBlanks_append_of_cons h]
    rcases eq_or_ne c '"' with rfl | hc
    · exact (contents_stable rest more).placed
    · simp only [hc, List.cons.injEq, false_and, imp_self, implies_true]
      exact .failed _ _

theorem map_stable {reader : Reader α} (h : Stable reader.run) (f : α → β) :
    Stable (reader.map f).run :=
  fun s more => (h s more).map fun _ => rfl

theorem optional_stable {reader : Reader α} (h : Stable reader.run) :
    Stable (optional reader).run := by
  intro s more
  change Outlasts more (readOptional reader s) (readOptional reader (s ++ more))
  unfold readOptional
  cases hs : skipBlanks s with
  | nil => exact .ended rfl _
  | cons c rest =>
    rw [skipBlanks_append_of_cons hs]
    rcases eq_or_ne c 'n' with rfl | hc
    · exact (word_stable _ rest more).placed.map fun _ => rfl
    · simp only [hc, List.cons.injEq, false_and, imp_self, implies_true]
      exact (h (c :: rest) more).map fun _ => rfl

/-- An attempt to close as a reading of its own. -/
def Closing.result (closing : Closing) : Except Failure Text :=
  match closing.failure? with
  | none => .ok closing.rest
  | some failure => .error failure

theorem closeList_stable : Stable fun s => (closeList s).result := by
  intro s more
  dsimp only
  unfold closeList
  cases h : skipBlanks s with
  | nil => exact .ended rfl _
  | cons c rest =>
    rw [skipBlanks_append_of_cons h]
    rcases eq_or_ne c ']' with rfl | hb
    · exact .stands rest
    rcases eq_or_ne c ',' with rfl | hc
    · -- Behind a comma every attempt to close fails; what follows only chooses how.
      simp only
      split <;> split <;> exact Outlasts.failed (ε := Failure) (β := Text) _ _
    · simp only [hb, hc, List.cons.injEq, false_and, imp_self, implies_true]
      exact .failed _ _

theorem closeObject_stable : Stable fun s => (closeObject s).result := by
  intro s more
  dsimp only
  unfold closeObject
  cases h : skipBlanks s with
  | nil => exact .ended rfl _
  | cons c rest =>
    rw [skipBlanks_append_of_cons h]
    rcases eq_or_ne c '\x7d' with rfl | hb
    · exact .stands rest
    rcases eq_or_ne c ',' with rfl | hc
    · exact .failed _ _
    · simp only [hb, hc, List.cons.injEq, false_and, imp_self, implies_true]
      exact .failed _ _

theorem enclosed_ok (close : Text → Closing) (value : α) (rest : Text) :
    enclosed close (.ok (value, rest)) =
      ((close rest).result.mapError Fault.placed).map (value, ·) := by
  cases h : close rest with
  | mk _ failure? =>
    cases failure? <;> simp only [enclosed, h] <;> rfl

/-- The place that closing gives to a fault does not change its reason. -/
theorem Outlasts.enclosed {close : Text → Closing} (hc : Stable fun s => (close s).result)
    {short long : Except Fault (α × Text)} (h : Outlasts more short long) :
    Outlasts more (Json.enclosed close short) (Json.enclosed close long) := by
  cases h with
  | stands read =>
    obtain ⟨value, rest⟩ := read
    dsimp only [Pending.extend]
    rw [enclosed_ok, enclosed_ok]
    exact (hc rest more).placed.map fun _ => rfl
  | @ended fault h long =>
    cases fault with
    | placed failure => exact .ended h _
    | pending reason rest =>
      have placed : Curable.isEnd (Fault.placed (.before reason (close rest).rest)) = true := h
      exact .ended placed _
  | failed fault fault' =>
    cases fault <;> cases fault' <;> exact Outlasts.failed (ε := Fault) (β := α × Text) _ _

theorem nextItem_stable (first : Bool) : Stable (nextItem first) := by
  intro s more
  unfold nextItem
  cases h : skipBlanks s with
  | nil => exact .ended rfl _
  | cons c rest =>
    rw [skipBlanks_append_of_cons h]
    rcases eq_or_ne c ']' with rfl | hb
    · exact .stands (Item.done (']' :: rest))
    simp only
    split
    next => exact .stands (Item.element (c :: rest))
    next =>
      split
      next =>
        cases h : skipBlanks rest with
        | nil => exact .ended rfl _
        | cons d rest =>
          rw [skipBlanks_append_of_cons h]
          rcases eq_or_ne d ']' with rfl | hd
          · exact .failed _ _
          · simp only [hd, List.cons.injEq, false_and, imp_self, implies_true]
            exact .stands (Item.element (d :: rest))
      next => exact .failed _ _

/-- One round of the reading, as readings in turn. -/
theorem items_eq (element : Reader α) (first : Bool) (s : Text) :
    items element first s = (nextItem first s).mapError Fault.placed >>= fun item =>
      match item with
      | .done rest => .ok ([], rest)
      | .element start => element.run start >>= fun (value, rest) =>
        (items element false rest).map fun (values, rest) => (value :: values, rest) := by
  rw [items]
  split
  next hn => rw [hn]; rfl
  next hn => rw [hn]; rfl
  next start hn =>
    rw [hn]
    change _ = element.run start >>= _
    split
    next he => rw [he]; rfl
    next he => rw [he]; rfl

theorem items_stable {element : Reader α} (h : Stable element.run) (first : Bool) :
    Stable (items element first) := by
  intro s more
  induction hn : s.length using Nat.strongRecOn generalizing first s with
  | ind n ih =>
    rw [items_eq, items_eq]
    refine (nextItem_stable first s more).placed.bind fun item hi => ?_
    cases item with
    | done rest => exact .stands ([], rest)
    | element start =>
      refine (h start more).bind fun (value, rest) he => ?_
      have shorter : rest.length < n := hn ▸ Nat.lt_of_lt_of_le (element.shorter he)
        (nextItem_element_le (mapError_eq_ok_iff.mp hi))
      exact (ih rest.length shorter false rest rfl).map fun _ => rfl

theorem list_stable {element : Reader α} (h : Stable element.run) : Stable (list element).run := by
  intro s more
  change Outlasts more (readList element s) (readList element (s ++ more))
  unfold readList
  cases hs : skipBlanks s with
  | nil => exact .ended rfl _
  | cons c rest =>
    rw [skipBlanks_append_of_cons hs]
    rcases eq_or_ne c '[' with rfl | hc
    · exact (items_stable h true rest more).enclosed closeList_stable
    · simp only [hc, List.cons.injEq, false_and, imp_self, implies_true]
      exact .failed _ _

end

end JavaComments.Json
