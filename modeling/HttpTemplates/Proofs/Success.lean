/-!
# Success

A computation that may fail succeeds exactly if each of its steps does. `bind_eq_ok_iff` takes such
a computation apart at its first step, so that proofs about parsing, encoding and expansion need not
look at the steps that fail. `SameOutcome` compares two computations in which the same steps fail.
-/

namespace HttpTemplates

variable {ε α β : Type}

theorem bind_eq_ok_iff {x : Except ε α} {f : α → Except ε β} {b : β} :
    (x >>= f) = .ok b ↔ ∃ a, x = .ok a ∧ f a = .ok b := by
  cases x with
  | error e => simp [bind, Except.bind]
  | ok a => simp [bind, Except.bind]

theorem map_eq_ok_iff {x : Except ε α} {f : α → β} {b : β} :
    x.map f = .ok b ↔ ∃ a, x = .ok a ∧ f a = b := by
  cases x with
  | error e => simp [Except.map]
  | ok a => simp [Except.map]

/-- Reporting an error in another way does not change what succeeds. -/
theorem mapError_eq_ok_iff {ε' : Type} {x : Except ε α} {f : ε → ε'} {a : α} :
    x.mapError f = .ok a ↔ x = .ok a := by
  cases x with
  | error e => exact ⟨fun h => absurd h (by rintro ⟨⟩), fun h => absurd h (by rintro ⟨⟩)⟩
  | ok b =>
      exact ⟨fun h => congrArg Except.ok (Except.ok.inj h),
        fun h => congrArg Except.ok (Except.ok.inj h)⟩

theorem bind_ok (a : α) (f : α → Except ε β) : (Except.ok a >>= f) = f a := rfl

/-- Two computations with the same first step are related as their further steps are. -/
theorem bind_eq_map_bind {γ : Type} {x : Except ε α} {f : α → Except ε γ} {f' : α → Except ε β}
    {g : β → γ} (h : ∀ a, f a = (f' a).map g) : (x >>= f) = (x >>= f').map g := by
  cases x with
  | error e => rfl
  | ok a => exact h a

/-- The same, where the first steps are related in this way too. -/
theorem map_bind_eq_map_bind {γ δ : Type} {x : Except ε α} {y : Except ε δ} {f : δ → Except ε γ}
    {f' : α → Except ε β} {g : β → γ} {g' : α → δ} (hx : y = x.map g')
    (h : ∀ a, f (g' a) = (f' a).map g) : (y >>= f) = (x >>= f').map g := by
  rw [hx]
  cases x with
  | error e => rfl
  | ok a => exact h a

theorem exists_error_iff {x : Except ε α} : (∃ e, x = .error e) ↔ ¬ ∃ a, x = .ok a := by
  cases x <;> simp

theorem toOption_eq_some_iff {x : Except ε α} {a : α} : x.toOption = some a ↔ x = .ok a := by
  cases x with
  | error e => simp [Except.toOption]
  | ok b => simp [Except.toOption]

/-- A computation whose result passes a test succeeds. -/
theorem exists_ok_of_any {x : Except ε α} {p : α → Bool} (h : x.toOption.any p = true) :
    ∃ a, x = .ok a ∧ p a = true := by
  cases x with
  | error e => exact absurd h (by simp [Except.toOption])
  | ok a => exact ⟨a, rfl, by simpa [Except.toOption] using h⟩

/-! ### Two computations -/

/-- Two computations fail with the same error, or they succeed with related results. -/
inductive SameOutcome (R : α → β → Prop) : Except ε α → Except ε β → Prop
  /-- Both fail with this error. -/
  | error (e : ε) : SameOutcome R (.error e) (.error e)
  /-- Both succeed. -/
  | ok {a : α} {b : β} (h : R a b) : SameOutcome R (.ok a) (.ok b)

theorem SameOutcome.refl {R : α → α → Prop} (hR : ∀ a, R a a) (x : Except ε α) :
    SameOutcome R x x := by
  cases x with
  | error e => exact .error e
  | ok a => exact .ok (hR a)

/-- Two computations have the same outcome if their first steps have, and so have the further steps
from related results. -/
theorem SameOutcome.bind {γ δ : Type} {R : α → β → Prop} {S : γ → δ → Prop} {x : Except ε α}
    {y : Except ε β} {f : α → Except ε γ} {g : β → Except ε δ} (h : SameOutcome R x y)
    (hstep : ∀ a b, R a b → SameOutcome S (f a) (g b)) : SameOutcome S (x >>= f) (y >>= g) := by
  cases h with
  | error e => exact .error e
  | ok h => exact hstep _ _ h

end HttpTemplates
