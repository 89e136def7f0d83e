import QueryDoc.Error

/-!
Taking successful results apart.

Compiling and decoding are chains of steps in `Result`; a proof about a success goes
backwards through the chain, and a chain that succeeded had each of its steps succeed. These
lemmas say so once for `bind`, `map` and `pure`.
-/

namespace QueryDoc.Result

variable {ε α β : Type}

theorem bind_eq_ok {x : Except ε α} {f : α → Except ε β} {b : β} :
    x >>= f = .ok b ↔ ∃ a, x = .ok a ∧ f a = .ok b := by
  cases x <;> simp [bind, Except.bind]

theorem map_eq_ok {x : Except ε α} {f : α → β} {b : β} :
    f <$> x = .ok b ↔ ∃ a, x = .ok a ∧ f a = b := by
  cases x <;> simp [Functor.map, Except.map]

@[simp] theorem ok_bind (a : α) (f : α → Except ε β) : (Except.ok a >>= f) = f a := rfl

theorem mapError_eq_ok {ε ε' : Type} {x : Except ε α} {f : ε → ε'} {a : α} :
    x.mapError f = .ok a ↔ x = .ok a := by
  cases x with
  | error e => constructor <;> intro h <;> injection h
  | ok v => constructor <;> intro h <;> injection h with h <;> subst h <;> rfl

theorem pure_eq_ok {a b : α} : (pure a : Except ε α) = .ok b ↔ a = b := by
  simp [pure, Except.pure]

/-- A traversal that succeeds gives one result for each item. -/
theorem length_of_mapM_ok {γ : Type} {f : α → Except ε γ} :
    ∀ {l : List α} {r : List γ}, l.mapM f = .ok r → r.length = l.length
  | [], r, h => by
    cases h
    rfl
  | a :: l, r, h => by
    rw [List.mapM_cons] at h
    cases hfa : f a with
    | error e =>
      rw [hfa] at h
      cases h
    | ok b =>
      cases hl : l.mapM f with
      | error e =>
        rw [hfa, hl] at h
        cases h
      | ok bs =>
        rw [hfa, hl] at h
        cases h
        simp [length_of_mapM_ok hl]

end QueryDoc.Result
