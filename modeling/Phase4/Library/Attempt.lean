import Mathlib

namespace Phase4.Library

universe u

variable {State Error α β : Type u}

/-! ## Fallible stateful steps

A step changes a state and may fail. A failed step keeps the changes made before it failed,
so what a failure leaves behind can be stated. -/

def Attempt (State Error α : Type u) : Type u := State → Except Error α × State

namespace Attempt

def pure (value : α) : Attempt State Error α := fun state => (.ok value, state)

def bind (step : Attempt State Error α) (rest : α → Attempt State Error β) :
    Attempt State Error β := fun state =>
  match step state with
  | (.ok value, next) => rest value next
  | (.error error, next) => (.error error, next)

instance : Monad (Attempt State Error) where
  pure := Attempt.pure
  bind := Attempt.bind

def fail (error : Error) : Attempt State Error α := fun state => (.error error, state)

def update (change : State → State) : Attempt State Error PUnit := fun state =>
  (.ok ⟨⟩, change state)

def read : Attempt State Error State := fun state => (.ok state, state)

def lift (result : Except Error α) : Attempt State Error α := fun state => (result, state)

def onError (step : Attempt State Error α) (cleanUp : State → State) : Attempt State Error α :=
  fun state =>
    match step state with
    | (.ok value, next) => (.ok value, next)
    | (.error error, next) => (.error error, cleanUp next)

theorem run_bind (step : Attempt State Error α) (rest : α → Attempt State Error β)
    (state : State) : (step >>= rest) state =
      match step state with
      | (.ok value, next) => rest value next
      | (.error error, next) => (.error error, next) := rfl

theorem run_bind_ok {step : Attempt State Error α} {rest : α → Attempt State Error β}
    {state last : State} {result : β} : (step >>= rest) state = (.ok result, last) ↔
      ∃ value next, step state = (.ok value, next) ∧ rest value next = (.ok result, last) := by
  rw [run_bind]
  rcases step state with ⟨value | error, next⟩ <;> simp

theorem run_ok {step : Attempt State Error α} {state : State}
    (succeeds : (step state).1.isOk = true) : ∃ value, step state = (.ok value, (step state).2) := by
  revert succeeds
  rcases step state with ⟨error | value, next⟩
  · rintro ⟨⟩
  · exact fun _ => ⟨value, rfl⟩

theorem run_error {step : Attempt State Error α} {state : State}
    (fails : (step state).1.isOk = false) : ∃ error, step state = (.error error, (step state).2) := by
  revert fails
  rcases step state with ⟨error | value, next⟩
  · exact fun _ => ⟨error, rfl⟩
  · rintro ⟨⟩

/-- From every state with `before`, a success gives `after` and a failure gives `failed`. -/
def Holds (before : State → Prop) (step : Attempt State Error α) (after : α → State → Prop)
    (failed : Error → State → Prop) : Prop :=
  ∀ state, before state → ∀ result next, step state = (result, next) →
    match result with
    | .ok value => after value next
    | .error error => failed error next

namespace Holds
variable {before : State → Prop} {after : β → State → Prop}
  {failed : Error → State → Prop} {step : Attempt State Error α}

theorem pure {value : β} (holds : ∀ state, before state → after value state) :
    Holds before (Attempt.pure value : Attempt State Error β) after failed := by
  rintro state here result next ⟨⟩
  exact holds state here

theorem bind {between : α → State → Prop} {rest : α → Attempt State Error β}
    (first : Holds before step between failed)
    (second : ∀ value, Holds (between value) (rest value) after failed) :
    Holds before (step >>= rest) after failed := by
  intro state here result last run
  rw [run_bind] at run
  cases stepped : step state with
  | mk outcome next =>
      have stage := first state here outcome next stepped
      rw [stepped] at run
      cases outcome with
      | ok value => exact second value next stage result last run
      | error error =>
          cases run
          exact stage

theorem fail {error : Error} (holds : ∀ state, before state → failed error state) :
    Holds before (Attempt.fail error : Attempt State Error β) after failed := by
  rintro state here result next ⟨⟩
  exact holds state here

theorem update {change : State → State} {after : PUnit → State → Prop}
    (holds : ∀ state, before state → after ⟨⟩ (change state)) :
    Holds before (Attempt.update change : Attempt State Error PUnit) after failed := by
  rintro state here result next ⟨⟩
  exact holds state here

theorem read {after : State → State → Prop}
    (holds : ∀ state, before state → after state state) :
    Holds before (Attempt.read : Attempt State Error State) after failed := by
  rintro state here result next ⟨⟩
  exact holds state here

theorem lift {value : Except Error β} (ok : ∀ state, before state → ∀ given, value = .ok given →
      after given state)
    (error : ∀ state, before state → ∀ error, value = .error error → failed error state) :
    Holds before (Attempt.lift value : Attempt State Error β) after failed := by
  rintro state here result next ⟨⟩
  cases value with
  | ok given => exact ok state here given rfl
  | error problem => exact error state here problem rfl

theorem onError {between : Error → State → Prop} {step : Attempt State Error β}
    {cleanUp : State → State} (holds : Holds before step after between)
    (cleaned : ∀ error state, between error state → failed error (cleanUp state)) :
    Holds before (step.onError cleanUp) after failed := by
  intro state here result last run
  unfold Attempt.onError at run
  cases stepped : step state with
  | mk outcome next =>
      have stage := holds state here outcome next stepped
      rw [stepped] at run
      cases outcome with
      | ok value =>
          cases run
          exact stage
      | error error =>
          cases run
          exact cleaned error next stage

theorem forget {after : α → State → Prop} (holds : Holds before step after failed) :
    Holds before step after fun _ _ => True := by
  intro state here result next run
  have stage := holds state here result next run
  cases result with
  | ok value => exact stage
  | error error => trivial

end Holds

/-- The invariant holds after the step as well, also when it fails. -/
abbrev Keeps (invariant : State → Prop) (step : Attempt State Error α) : Prop :=
  Holds invariant step (fun _ => invariant) fun _ => invariant

namespace Keeps
variable {invariant : State → Prop}

theorem pure (value : α) :
    Keeps invariant (Attempt.pure value : Attempt State Error α) :=
  Holds.pure fun _ kept => kept

theorem bind {step : Attempt State Error α} {rest : α → Attempt State Error β}
    (first : Keeps invariant step) (second : ∀ value, Keeps invariant (rest value)) :
    Keeps invariant (step >>= rest) :=
  Holds.bind first second

theorem fail (error : Error) : Keeps invariant (Attempt.fail error : Attempt State Error α) :=
  Holds.fail fun _ kept => kept

theorem read : Keeps invariant (Attempt.read : Attempt State Error State) :=
  Holds.read fun _ kept => kept

theorem lift (result : Except Error α) :
    Keeps invariant (Attempt.lift result : Attempt State Error α) :=
  Holds.lift (fun _ kept _ _ => kept) fun _ kept _ _ => kept

theorem update {change : State → State} (kept : ∀ state, invariant state → invariant (change state)) :
    Keeps invariant (Attempt.update change : Attempt State Error PUnit) :=
  Holds.update kept

end Keeps
end Attempt
end Phase4.Library
