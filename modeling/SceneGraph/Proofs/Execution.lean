/-!
Programs that can fail, and programs that carry a state besides: the outcome and the state they
leave when run from a state. A failure keeps the state that it finds.
-/
namespace SceneGraph

theorem bind_error {ε α β : Type} {first : Except ε α} {next : α → Except ε β} {error : ε}
    (failed : (first >>= next) = .error error) :
    first = .error error ∨ ∃ value, first = .ok value ∧ next value = .error error := by
  cases first with
  | error fault => exact .inl (congrArg Except.error (Except.error.inj failed))
  | ok value => exact .inr ⟨value, rfl, failed⟩

theorem bind_ok {ε α β : Type} {first : Except ε α} {next : α → Except ε β} {result : β}
    (success : (first >>= next) = .ok result) :
    ∃ value, first = .ok value ∧ next value = .ok result := by
  cases first with
  | error fault => cases success
  | ok value => exact ⟨value, rfl, success⟩

theorem map_ok {ε α β : Type} {first : Except ε α} {next : α → β} {result : β}
    (success : first.map next = .ok result) : ∃ value, first = .ok value ∧ next value = result := by
  cases first with
  | error fault => cases success
  | ok value => exact ⟨value, rfl, Except.ok.inj success⟩

variable {ε σ α β : Type} {program : ExceptT ε (StateM σ) α} {next : α → ExceptT ε (StateM σ) β}
  {before after : σ}

theorem run_bind_ok {value : α} (ran : program.run.run before = (.ok value, after)) :
    (program >>= next).run.run before = (next value).run.run after := by
  rw [ExceptT.run_bind, StateT.run_bind, ran]
  rfl

theorem run_bind_error {error : ε} (ran : program.run.run before = (.error error, after)) :
    (program >>= next).run.run before = (.error error, after) := by
  rw [ExceptT.run_bind, StateT.run_bind, ran]
  rfl

/-- A sequence that succeeds is two programs that succeed one after the other. -/
theorem run_bind_success {result : β}
    (ran : (program >>= next).run.run before = (.ok result, after)) :
    ∃ value middle, program.run.run before = (.ok value, middle) ∧
      (next value).run.run middle = (.ok result, after) := by
  cases begun : program.run.run before with
  | mk outcome middle =>
  cases outcome with
  | error error =>
    rw [run_bind_error begun] at ran
    cases ran
  | ok value =>
    rw [run_bind_ok begun] at ran
    exact ⟨value, middle, rfl, ran⟩

end SceneGraph
