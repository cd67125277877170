/-!
# Operations that can refuse

What it takes for an operation that can refuse to succeed: each of its parts does, and none of its
checks refuses. A check in the middle of an operation jumps over the rest; `throw_ite` brings it to
the form of a condition with an error, in which `ite_error_eq_ok` takes it apart.
-/

namespace CallScript.Refusal

variable {α β ε δ : Type}

theorem throw_ite {c : Prop} [Decidable c] (e : ε) (jump : Unit → Except ε α) :
    (if c then (do let r ← throw e; jump r) else jump ()) = if c then .error e else jump () := by
  split <;> rfl

theorem ite_error_eq_ok {c : Prop} [Decidable c] {e : ε} {result : Except ε α} {a : α} :
    (if c then .error e else result) = .ok a ↔ ¬c ∧ result = .ok a := by
  by_cases refused : c <;> simp [refused]

theorem bind_eq_ok {result : Except ε α} {next : α → Except ε β} {b : β} :
    result >>= next = .ok b ↔ ∃ a, result = .ok a ∧ next a = .ok b := by
  cases result with
  | error e => simp [bind, Except.bind]
  | ok a => simp [bind, Except.bind]

theorem mapError_eq_ok {change : ε → δ} {result : Except ε α} {a : α} :
    result.mapError change = .ok a ↔ result = .ok a := by
  cases result with
  | error e => exact iff_of_false nofun nofun
  | ok value => exact ⟨fun h => by cases h; rfl, fun h => by cases h; rfl⟩

theorem toOption_eq_some {result : Except ε α} {a : α} :
    result.toOption = some a ↔ result = .ok a := by
  cases result <;> simp [Except.toOption]

end CallScript.Refusal
