namespace JavaComments.Json

variable {ε ε' α β : Type}

theorem bind_eq_ok_iff {x : Except ε α} {f : α → Except ε β} {b : β} :
    x >>= f = .ok b ↔ ∃ a, x = .ok a ∧ f a = .ok b := by
  cases x <;> simp [bind, Except.bind]

theorem map_eq_ok_iff {x : Except ε α} {f : α → β} {b : β} :
    x.map f = .ok b ↔ ∃ a, x = .ok a ∧ f a = b := by
  cases x <;> simp [Except.map]

theorem mapError_eq_ok_iff {x : Except ε α} {f : ε → ε'} {a : α} :
    x.mapError f = .ok a ↔ x = .ok a := by
  cases x <;> constructor <;> intro h <;> cases h <;> rfl

theorem mapError_eq_error_iff {x : Except ε α} {f : ε → ε'} {error : ε'} :
    x.mapError f = .error error ↔ ∃ cause, x = .error cause ∧ f cause = error := by
  constructor
  · intro h
    cases x with
    | ok a => cases h
    | error cause => exact ⟨cause, rfl, Except.error.inj h⟩
  · rintro ⟨cause, rfl, rfl⟩
    rfl

end JavaComments.Json
