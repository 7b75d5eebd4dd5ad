import Mathlib

namespace Phase4.Library

/-! ## Parking

A thread loops as long as a flag asks it to wait, and parks between two looks at the flag. An
unpark leaves a token, which the next return from parking takes. Parking may also return for no
reason, and that leaves the token where it is. -/

inductive WaiterAt where
  | checking
  | parking
  | left
deriving DecidableEq, Repr

structure Waiter where
  position : WaiterAt
  token : Bool
deriving DecidableEq, Repr

inductive WaiterAction where
  | check
  | park
  | wake
deriving DecidableEq, Repr

namespace Waiter

def step (waits : Bool) (waiter : Waiter) : WaiterAction → Option Waiter
  | .check =>
      if waiter.position = .checking then
        some { waiter with position := if waits then .parking else .left }
      else none
  | .park =>
      if waiter.position = .parking ∧ waiter.token = true then
        some { position := .checking, token := false }
      else none
  | .wake =>
      if waiter.position = .parking then some { waiter with position := .checking } else none

def unpark (waiter : Waiter) : Waiter := { waiter with token := true }

/-- Never asleep without a token. -/
def Woken (waiter : Waiter) : Prop := waiter.position = .parking → waiter.token = true

/-- The turns a waiter has left when nothing asks it to wait. -/
def turns (waiter : Waiter) : Nat :=
  match waiter.position with
  | .parking => 2
  | .checking => 1
  | .left => 0

variable {waiter next : Waiter} {action : WaiterAction}

theorem woken_unpark (waiter : Waiter) : waiter.unpark.Woken := fun _ => rfl

theorem turns_unpark (waiter : Waiter) : waiter.unpark.turns = waiter.turns := rfl

theorem turns_le (waiter : Waiter) : waiter.turns ≤ 2 := by
  unfold turns
  split <;> decide

theorem woken_step (moved : waiter.step false action = some next) :
    next.Woken ∧ next.turns + 1 = waiter.turns := by
  cases action with
  | check =>
      simp only [Waiter.step, Bool.false_eq_true, if_false] at moved
      split_ifs at moved with here
      cases moved
      exact ⟨nofun, by simp [turns, here]⟩
  | park =>
      simp only [Waiter.step] at moved
      split_ifs at moved with here
      cases moved
      exact ⟨nofun, by simp [turns, here.1]⟩
  | wake =>
      simp only [Waiter.step] at moved
      split_ifs at moved with here
      cases moved
      exact ⟨nofun, by simp [turns, here]⟩

theorem Woken.goes_on (woken : waiter.Woken) (stays : waiter.position ≠ .left) (waits : Bool) :
    ∃ action next, waiter.step waits action = some next := by
  cases here : waiter.position with
  | checking => exact ⟨.check, _, if_pos here⟩
  | parking => exact ⟨.park, _, if_pos ⟨here, woken here⟩⟩
  | left => exact absurd here stays

end Waiter
end Phase4.Library
