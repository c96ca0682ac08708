import EraRewards.Service.Node

/-!
# Running steps with failures

Transactions and actions are steps on a state that may fail.  One equation for each way in which
steps are built says what a step answers and which state it leaves, so that no other proof looks
into the construction of steps.
-/

namespace EraRewards
namespace Effect

variable {ε ε' σ α β : Type}

/-- Checks that follow one another succeed if each of them does. -/
theorem ok_of_bind {check : Except ε α} {next : α → Except ε β} {result : β}
    (passed : (check >>= next) = .ok result) :
    ∃ middle, check = .ok middle ∧ next middle = .ok result := by
  cases check with
  | error failure => cases passed
  | ok middle => exact ⟨middle, rfl, passed⟩

theorem ok_bind (middle : α) (next : α → Except ε β) :
    ((Except.ok middle : Except ε α) >>= next) = next middle :=
  rfl

theorem bind_eq_ok_iff {check : Except ε α} {next : α → Except ε β} {result : β} :
    (check >>= next) = .ok result ↔ ∃ middle, check = .ok middle ∧ next middle = .ok result :=
  ⟨ok_of_bind, fun ⟨_, passed, followed⟩ => by rw [passed]; exact followed⟩

/-- Checks that follow one another fail where the first of them does. -/
theorem error_of_bind {check : Except ε α} {next : α → Except ε β} {failure : ε}
    (failed : (check >>= next) = .error failure) :
    check = .error failure ∨ ∃ middle, check = .ok middle ∧ next middle = .error failure := by
  cases check with
  | error first => exact .inl (congrArg Except.error (Except.error.inj failed))
  | ok middle => exact .inr ⟨middle, rfl, failed⟩

theorem ok_of_mapError {f : ε → ε'} {check : Except ε α} {result : α}
    (passed : check.mapError f = .ok result) : check = .ok result := by
  cases check with
  | error failure => cases passed
  | ok middle => exact congrArg Except.ok (Except.ok.inj passed)

theorem error_of_mapError {f : ε → ε'} {check : Except ε α} {failure : ε'}
    (failed : check.mapError f = .error failure) :
    ∃ first, check = .error first ∧ f first = failure := by
  cases check with
  | error first => exact ⟨first, rfl, Except.error.inj failed⟩
  | ok middle => cases failed

theorem ok_of_map {f : α → β} {outcome : Except ε α} {result : β}
    (answered : outcome.map f = .ok result) : ∃ first, outcome = .ok first ∧ f first = result := by
  cases outcome with
  | error failure => cases answered
  | ok first => exact ⟨first, rfl, Except.ok.inj answered⟩

theorem error_of_map {f : α → β} {outcome : Except ε α} {failure : ε}
    (failed : outcome.map f = .error failure) : outcome = .error failure := by
  cases outcome with
  | error first => exact congrArg Except.error (Except.error.inj failed)
  | ok result => cases failed

theorem ok_of_toOption {outcome : Except ε α} {result : α}
    (answered : outcome.toOption = some result) : outcome = .ok result := by
  cases outcome with
  | error failure => cases answered
  | ok found => rw [Option.some.inj answered]

theorem run_bind (step : ExceptT ε (StateM σ) α) (next : α → ExceptT ε (StateM σ) β) (state : σ) :
    (step >>= next).run.run state =
      match step.run.run state with
      | (.ok result, state) => (next result).run.run state
      | (.error failure, state) => (.error failure, state) := by
  change (match step.run.run state with
    | (outcome, state) => (ExceptT.bindCont next outcome : StateM σ (Except ε β)) state) = _
  rcases step.run.run state with ⟨_ | _, _⟩ <;> rfl

/-- Steps that follow one another succeed if each of them does. -/
theorem ok_of_run_bind {step : ExceptT ε (StateM σ) α} {next : α → ExceptT ε (StateM σ) β}
    {state after : σ} {result : β} (passed : (step >>= next).run.run state = (.ok result, after)) :
    ∃ middle between, step.run.run state = (.ok middle, between) ∧
      (next middle).run.run between = (.ok result, after) := by
  rw [run_bind] at passed
  rcases first : step.run.run state with ⟨_ | middle, between⟩
  · rw [first] at passed
    cases passed
  · rw [first] at passed
    exact ⟨middle, between, rfl, passed⟩

theorem run_map (f : α → β) (step : ExceptT ε (StateM σ) α) (state : σ) :
    (f <$> step).run.run state =
      ((step.run.run state).1.map f, (step.run.run state).2) := by
  rw [← bind_pure_comp, run_bind]
  rcases step.run.run state with ⟨_ | _, _⟩ <;> rfl

theorem run_pure (result : α) (state : σ) :
    (pure result : ExceptT ε (StateM σ) α).run.run state = (.ok result, state) := rfl

theorem run_get (state : σ) :
    (get : ExceptT ε (StateM σ) σ).run.run state = (.ok state, state) := rfl

theorem run_modify (f : σ → σ) (state : σ) :
    (modify f : ExceptT ε (StateM σ) Unit).run.run state = (.ok (), f state) := rfl

theorem run_mk (f : σ → Except ε α × σ) (state : σ) :
    (ExceptT.mk f : ExceptT ε (StateM σ) α).run.run state = f state := rfl

theorem run_lift (outcome : Except Failure α) (state : σ) :
    (liftM outcome : ExceptT Failure (StateM σ) α).run.run state = (outcome, state) := rfl

theorem run_liftLedger (outcome : Except LedgerError α) (state : σ) :
    (liftM outcome : ExceptT Failure (StateM σ) α).run.run state =
      (outcome.mapError .ledger, state) := rfl

theorem ok_of_run_lift {outcome : Except Failure α} {state after : σ} {result : α}
    (passed : (liftM outcome : ExceptT Failure (StateM σ) α).run.run state = (.ok result, after)) :
    outcome = .ok result ∧ after = state := by
  rw [run_lift] at passed
  exact ⟨congrArg Prod.fst passed, (congrArg Prod.snd passed).symm⟩

theorem ok_of_run_liftLedger {outcome : Except LedgerError α} {state after : σ} {result : α}
    (passed : (liftM outcome : ExceptT Failure (StateM σ) α).run.run state = (.ok result, after)) :
    outcome = .ok result ∧ after = state := by
  rw [run_liftLedger] at passed
  exact ⟨ok_of_mapError (congrArg Prod.fst passed), (congrArg Prod.snd passed).symm⟩

theorem run_adapt (f : ε → ε') (step : ExceptT ε (StateM σ) α) (state : σ) :
    (step.adapt f).run.run state =
      ((step.run.run state).1.mapError f, (step.run.run state).2) := rfl

end Effect
end EraRewards
