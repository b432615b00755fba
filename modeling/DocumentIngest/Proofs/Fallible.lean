import Mathlib.Data.List.Forall2

/-!
# Steps that can fail

How a chain of steps that can fail ended tells how each of them ended.
-/

namespace DocumentIngest

namespace Fallible

variable {ε δ α β : Type}

theorem bind_eq_ok_iff {step : Except ε α} {next : α → Except ε β} {result : β} :
    (step >>= next) = .ok result ↔ ∃ value, step = .ok value ∧ next value = .ok result := by
  cases step <;> simp [bind, Except.bind]

theorem bind_eq_error_iff {step : Except ε α} {next : α → Except ε β} {fault : ε} :
    (step >>= next) = .error fault ↔
      step = .error fault ∨ ∃ value, step = .ok value ∧ next value = .error fault := by
  cases step <;> simp [bind, Except.bind]

theorem map_eq_ok_iff {step : Except ε α} {f : α → β} {result : β} :
    step.map f = .ok result ↔ ∃ value, step = .ok value ∧ f value = result := by
  cases step <;> simp [Except.map]

theorem map_eq_error_iff {step : Except ε α} {f : α → β} {fault : ε} :
    step.map f = .error fault ↔ step = .error fault := by
  cases step <;> simp [Except.map]

theorem mapError_eq_ok_iff {step : Except ε α} {f : ε → δ} {result : α} :
    step.mapError f = .ok result ↔ step = .ok result := by
  cases step with
  | ok value =>
      constructor <;>
        · intro same
          cases same
          rfl
  | error fault => exact ⟨nofun, nofun⟩

theorem toOption_bind (step : Except ε α) (next : α → Except ε β) :
    (step >>= next).toOption = step.toOption.bind fun value => (next value).toOption := by
  cases step <;> rfl

theorem toOption_map (step : Except ε α) (f : α → β) :
    (step.map f).toOption = step.toOption.map f := by
  cases step <;> rfl

theorem toOption_mapError (step : Except ε α) (f : ε → δ) :
    (step.mapError f).toOption = step.toOption := by
  cases step <;> rfl

/-- A check passes if computing it says so, whatever its faults are. -/
theorem eq_ok_of_isOk {check : Except ε Unit} (passes : check.isOk = true) :
    check = .ok () := by
  cases check with
  | ok _ => rfl
  | error fault => simp [Except.isOk, Except.toBool] at passes

theorem eq_ok_of_toOption {check : Except ε α} {result : α}
    (computes : check.toOption = some result) : check = .ok result := by
  cases check with
  | ok value => exact congrArg Except.ok (Option.some.inj computes)
  | error fault => simp [Except.toOption] at computes

/-- Steps for all items of a list come to a list of results if each comes to one. -/
theorem exists_results_iff {run : α → Except ε β} {items : List α} :
    (∃ results, List.Forall₂ (fun item result => run item = .ok result) items results) ↔
      ∀ item ∈ items, ∃ result, run item = .ok result := by
  induction items with
  | nil => exact iff_of_true ⟨[], .nil⟩ nofun
  | cons item rest ih =>
      rw [List.forall_mem_cons, ← ih]
      constructor
      · rintro ⟨_, _ | ⟨first, others⟩⟩
        exact ⟨⟨_, first⟩, _, others⟩
      · rintro ⟨⟨result, first⟩, results, others⟩
        exact ⟨result :: results, .cons first others⟩

end Fallible

end DocumentIngest
