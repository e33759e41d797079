/-!
# Steps one after the other

What it takes for partial steps one after the other to give a result, and which of many steps is the
last to have a say.
-/

namespace HttpStub

variable {ε α β : Type}

/-- A bind gives a result if and only if `x` does and `f` gives one for that. -/
theorem bind_eq_ok_iff {x : Except ε α} {f : α → Except ε β} {b : β} :
    x >>= f = .ok b ↔ ∃ a, x = .ok a ∧ f a = .ok b := by
  constructor
  · intro h
    cases x with
    | error e => cases h
    | ok a => exact ⟨a, rfl, h⟩
  · rintro ⟨a, rfl, h⟩
    exact h

/-- The direction of `bind_eq_ok_iff` that takes a run apart by `obtain`. -/
theorem bind_eq_ok {x : Except ε α} {f : α → Except ε β} {b : β} (h : x >>= f = .ok b) :
    ∃ a, x = .ok a ∧ f a = .ok b :=
  bind_eq_ok_iff.1 h

/-- A mapped step gives a result if and only if `x` does and `f` takes it there. -/
theorem map_eq_ok_iff {x : Except ε α} {f : α → β} {b : β} :
    x.map f = .ok b ↔ ∃ a, x = .ok a ∧ f a = b := by
  cases x <;> simp [Except.map]

/-- The last hit of `f` among many steps is the last one behind the first step, or else that of the
first step. -/
theorem findSome?_reverse_cons (f : α → Option β) (step : α) (steps : List α) :
    (step :: steps).reverse.findSome? f = (steps.reverse.findSome? f).or (f step) := by
  rw [List.reverse_cons, List.findSome?_append, List.findSome?_singleton]

end HttpStub
