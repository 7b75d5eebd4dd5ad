import Mathlib

namespace Phase4.Library

/-! ## Pacing

A loop counts one for every interval, by a deadline that only ever moves on by the interval. It
may come late to a deadline and then catches up. -/

structure Pace where
  start : Nat
  interval : Nat
  count : Nat
deriving DecidableEq, Repr

namespace Pace

def deadline (pace : Pace) : Nat := pace.start + (pace.count + 1) * pace.interval

def beat (pace : Pace) : Pace := { pace with count := pace.count + 1 }

/-- The intervals that have passed. -/
def due (pace : Pace) (clock : Nat) : Nat := (clock - pace.start) / pace.interval

/-- Never early. -/
def Kept (pace : Pace) (clock : Nat) : Prop := pace.start + pace.count * pace.interval ≤ clock

variable {pace : Pace} {clock later : Nat}

theorem deadline_beat (pace : Pace) : pace.beat.deadline = pace.deadline + pace.interval := by
  rw [deadline, deadline, beat, Nat.add_mul (pace.count + 1), Nat.one_mul, Nat.add_assoc]

theorem kept_new (start interval : Nat) : (Pace.mk start interval 0).Kept start := by
  rw [Kept, Nat.zero_mul, Nat.add_zero]

theorem kept_beat (reached : pace.deadline ≤ clock) : pace.beat.Kept clock := reached

theorem Kept.mono (kept : pace.Kept clock) (forward : clock ≤ later) : pace.Kept later :=
  Nat.le_trans kept forward

theorem Kept.count_le_due (kept : pace.Kept clock) (positive : 0 < pace.interval) :
    pace.count ≤ pace.due clock := by
  rw [due, Nat.le_div_iff_mul_le positive]
  exact Nat.le_sub_of_add_le (by rw [Nat.add_comm]; exact kept)

theorem due_lt_of_early (positive : 0 < pace.interval) (early : clock < pace.deadline) :
    pace.due clock < pace.count + 1 := by
  rw [due, Nat.div_lt_iff_lt_mul positive]
  rw [deadline] at early
  have here : 0 < (pace.count + 1) * pace.interval := Nat.mul_pos (Nat.succ_pos _) positive
  omega

/-- A look at the clock that finds nothing due has caught up. -/
theorem due_le_of_early (positive : 0 < pace.interval) (early : clock < pace.deadline) :
    pace.due clock ≤ pace.count := Nat.le_of_lt_succ (due_lt_of_early positive early)

theorem due_mono (pace : Pace) (forward : clock ≤ later) : pace.due clock ≤ pace.due later :=
  Nat.div_le_div_right (Nat.sub_le_sub_right forward _)

end Pace
end Phase4.Library
