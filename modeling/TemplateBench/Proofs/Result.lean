/-!
Results that may be errors.

* `bind_eq_ok_iff`: a sequence of two steps succeeds if both do.
* `map_eq_ok_iff`, `map_eq_error_iff`: what a success is mapped to is a success, and an error stays.
* `ok_of_mapError`: a success is not changed by what is made of an error.
* `exists_ok`: whether a result is a success with some property can be computed.
-/
namespace TemplateBench

variable {ε α β : Type}

theorem bind_eq_ok_iff {x : Except ε α} {f : α → Except ε β} {b : β} :
    x >>= f = .ok b ↔ ∃ a, x = .ok a ∧ f a = .ok b := by
  cases x with
  | error e =>
    constructor
    · intro h
      cases h
    · rintro ⟨a, h, _⟩
      cases h
  | ok a =>
    constructor
    · intro h
      exact ⟨a, rfl, h⟩
    · rintro ⟨a', ha, h⟩
      cases ha
      exact h

theorem map_eq_ok_iff {x : Except ε α} {f : α → β} {b : β} :
    x.map f = .ok b ↔ ∃ a, x = .ok a ∧ f a = b := by
  cases x with
  | error e => simp [Except.map]
  | ok a => simp [Except.map]

theorem map_eq_error_iff {x : Except ε α} {f : α → β} {e : ε} :
    x.map f = .error e ↔ x = .error e := by
  cases x with
  | error e' => simp [Except.map]
  | ok a => simp [Except.map]

theorem ok_of_mapError {ε' : Type} {x : Except ε α} {f : ε → ε'} {a : α}
    (h : x.mapError f = .ok a) : x = .ok a := by
  cases x with
  | error e => cases h
  | ok b =>
    cases h
    rfl

theorem eq_ok_of_toOption {result : Except ε α} {a : α} (h : result.toOption = some a) :
    result = .ok a := by
  cases result with
  | error e => cases h
  | ok b => rw [Option.some.inj h]

theorem eq_ok_getD [Inhabited α] {result : Except ε α} (h : result.toOption.isSome = true) :
    result = .ok (result.toOption.getD default) := by
  obtain ⟨a, ha⟩ := Option.isSome_iff_exists.mp h
  rw [ha]
  exact eq_ok_of_toOption ha

/-- Whether a result is a success with some property can be computed. -/
theorem exists_ok {result : Except ε α} {p : α → Prop} [DecidablePred p]
    (h : result.toOption.any (fun a => decide (p a)) = true) : ∃ a, result = .ok a ∧ p a := by
  obtain ⟨a, ha, hp⟩ := (Option.any_eq_true _ _).mp h
  exact ⟨a, eq_ok_of_toOption ha, of_decide_eq_true hp⟩

end TemplateBench
