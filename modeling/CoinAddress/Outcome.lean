/-!
# Outcomes

When a computation that may fail gives a result, read from the steps that it is made of.
-/

namespace CoinAddress.Outcome

variable {ε ε' α β : Type} {x : Except ε α}

/-- Two steps succeed if the first one does and the second one does on its result. -/
theorem bind_eq_ok_iff {f : α → Except ε β} {b : β} :
    x >>= f = .ok b ↔ ∃ a, x = .ok a ∧ f a = .ok b := by
  constructor
  · intro eq
    cases x with
    | error e => cases eq
    | ok a => exact ⟨a, rfl, eq⟩
  · rintro ⟨a, rfl, eq⟩
    exact eq

/-- Two steps fail if the first one does, or if the second one does on its result. -/
theorem bind_eq_error_iff {f : α → Except ε β} {e : ε} :
    x >>= f = .error e ↔ x = .error e ∨ ∃ a, x = .ok a ∧ f a = .error e := by
  cases x with
  | error e' =>
    refine ⟨fun eq => .inl (congrArg _ (Except.error.inj eq)), ?_⟩
    rintro (eq | ⟨_, eq, _⟩)
    · exact congrArg _ (Except.error.inj eq)
    · cases eq
  | ok a =>
    refine ⟨fun eq => .inr ⟨a, rfl, eq⟩, ?_⟩
    rintro (eq | ⟨a', eq, failure⟩)
    · cases eq
    · cases eq
      exact failure

/-- A mapped result comes from a result. -/
theorem map_eq_ok_iff {f : α → β} {b : β} : x.map f = .ok b ↔ ∃ a, x = .ok a ∧ f a = b := by
  constructor
  · intro eq
    cases x with
    | error e => cases eq
    | ok a => exact ⟨a, rfl, Except.ok.inj eq⟩
  · rintro ⟨a, rfl, rfl⟩
    rfl

/-- Renaming errors changes no result. -/
theorem mapError_eq_ok_iff {f : ε → ε'} {a : α} : x.mapError f = .ok a ↔ x = .ok a := by
  constructor
  · intro eq
    cases x with
    | error e => cases eq
    | ok a' => rw [Except.ok.inj eq]
  · rintro rfl
    rfl

/-- A renamed error comes from an error. -/
theorem mapError_eq_error_iff {f : ε → ε'} {e' : ε'} :
    x.mapError f = .error e' ↔ ∃ e, x = .error e ∧ f e = e' := by
  constructor
  · intro eq
    cases x with
    | error e => exact ⟨e, rfl, Except.error.inj eq⟩
    | ok a => cases eq
  · rintro ⟨e, rfl, rfl⟩
    rfl

end CoinAddress.Outcome
