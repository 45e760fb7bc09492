import RowQuery.Failure

/-!
# Successful computations taken apart
-/

namespace RowQuery

variable {ε α β : Type} {x : Except ε α} {b : β}

theorem error_ne_ok {e : ε} {a : α} : Except.error e ≠ .ok a := by
  intro h
  cases h

theorem ok_bind (a : α) (f : α → Except ε β) : (Except.ok a >>= f) = f a := rfl

theorem bind_eq_ok {f : α → Except ε β} : (x >>= f) = .ok b ↔ ∃ a, x = .ok a ∧ f a = .ok b := by
  cases x with
  | error e => exact ⟨fun h => (nomatch h), fun ⟨_, h, _⟩ => (nomatch h)⟩
  | ok a => exact ⟨fun h => ⟨a, rfl, h⟩, fun ⟨_, ha, h⟩ => by cases ha; exact h⟩

theorem bind_eq_error {f : α → Except ε β} {e : ε} :
    (x >>= f) = .error e ↔ x = .error e ∨ ∃ a, x = .ok a ∧ f a = .error e := by
  cases x with
  | error e' => exact ⟨fun h => .inl (by cases h; rfl), by rintro (h | ⟨a, h, -⟩) <;> cases h; rfl⟩
  | ok a => exact ⟨fun h => .inr ⟨a, rfl, h⟩, by rintro (h | ⟨a, h, h'⟩) <;> cases h; exact h'⟩

theorem map_eq_ok {f : α → β} : x.map f = .ok b ↔ ∃ a, x = .ok a ∧ f a = b := by
  cases x with
  | error e => exact ⟨fun h => (nomatch h), fun ⟨_, h, _⟩ => (nomatch h)⟩
  | ok a =>
    exact ⟨fun h => ⟨a, rfl, Except.ok.inj h⟩, fun ⟨_, ha, h⟩ => by cases ha; rw [← h]; rfl⟩

namespace Run

variable {δ : Type} {f : ε → δ} {y : Run ε α}

theorem mapError_eq_ok_iff {a : α} : mapError f y = .ok a ↔ y = .ok a := by
  cases y <;> simp [mapError]

theorem mapError_eq_fail_iff {d : δ} : mapError f y = fail d ↔ ∃ cause, y = fail cause ∧ d = f cause := by
  rcases y with (cause | o) | a
  · simp [mapError, fail, Failure.map, eq_comm]
  · simp [mapError, fail, Failure.map]
  · simp [mapError, fail]

theorem mapError_eq_overflow_iff {o : Overflow} :
    mapError f y = .error (.overflow o) ↔ y = .error (.overflow o) := by
  rcases y with (cause | o) | a <;> simp [mapError, Failure.map]

end Run

/-- Whether a computation ends in a value of a kind can be found out by running it. -/
instance decidableExistsOk {p : α → Prop} [DecidablePred p] : Decidable (∃ a, x = .ok a ∧ p a) :=
  match x with
  | .ok a => decidable_of_iff (p a) ⟨fun h => ⟨a, rfl, h⟩, fun ⟨_, ha, h⟩ => Except.ok.inj ha ▸ h⟩
  | .error _ => isFalse fun ⟨_, h, _⟩ => error_ne_ok h

/-- Whether it fails in a given way can be found out so as well. -/
instance decidableEqError [DecidableEq ε] {e : ε} : Decidable (x = .error e) :=
  match x with
  | .ok _ => isFalse fun h => error_ne_ok h.symm
  | .error _ => decidable_of_iff _ ⟨congrArg Except.error, Except.error.inj⟩

end RowQuery
