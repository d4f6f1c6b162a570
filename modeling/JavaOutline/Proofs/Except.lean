/-!
# Results of computations that can fail

Readings, loads and checks all either succeed or fail with some cause. These laws say when one that is
made up of others succeeds.
-/

namespace JavaOutline

variable {ε δ α β : Type}

/-- One computation after another succeeds if both do. -/
theorem bind_eq_ok_iff {first : Except ε α} {next : α → Except ε β} {result : β} :
    (first >>= next) = .ok result ↔ ∃ value, first = .ok value ∧ next value = .ok result := by
  cases first with
  | error cause => simp [bind, Except.bind]
  | ok value => simp [bind, Except.bind]

/-- A change of the causes of failure does not change a success. -/
@[simp] theorem mapError_eq_ok_iff {change : ε → δ} {computed : Except ε α} {result : α} :
    computed.mapError change = .ok result ↔ computed = .ok result := by
  cases computed with
  | error cause =>
    constructor
    · intro h
      cases h
    · intro h
      cases h
  | ok value =>
    constructor
    · intro h
      cases h
      rfl
    · intro h
      cases h
      rfl

end JavaOutline
