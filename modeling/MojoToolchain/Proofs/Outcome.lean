/-!
# Computations that may fail

A computation that may fail succeeds when its parts do, and fails as the first of them that does.
-/

namespace MojoToolchain

variable {ε α β : Type}

/-- A computation that may fail succeeds when its first part and what follows it do. -/
theorem bind_eq_ok (x : Except ε α) (f : α → Except ε β) (b : β) :
  (x >>= f) = .ok b ↔ ∃ a, x = .ok a ∧ f a = .ok b
  := by
  cases x with
  | error e => simp [Bind.bind, Except.bind]
  | ok a => simp [Bind.bind, Except.bind]

/-- A computation that may fail fails as its first part or as what follows it. -/
theorem bind_eq_error (x : Except ε α) (f : α → Except ε β) (e : ε) :
  (x >>= f) = .error e ↔ x = .error e ∨ ∃ a, x = .ok a ∧ f a = .error e
  := by
  cases x with
  | error e' => simp [Bind.bind, Except.bind]
  | ok a => simp [Bind.bind, Except.bind]

theorem map_eq_ok (x : Except ε α) (f : α → β) (b : β) :
  x.map f = .ok b ↔ ∃ a, x = .ok a ∧ f a = b
  := by
  cases x with
  | error e => simp [Except.map]
  | ok a => simp [Except.map]

theorem map_eq_error (x : Except ε α) (f : α → β) (e : ε) :
  x.map f = .error e ↔ x = .error e
  := by
  cases x with
  | error e' => simp [Except.map]
  | ok a => simp [Except.map]

end MojoToolchain
