import Mathlib

namespace Phase4.Library

variable {α : Type*}

/-! ## Bounded queues -/

@[ext]
structure Fifo (α : Type*) where
  capacity : Nat
  items : List α
  bounded : items.length ≤ capacity

namespace Fifo

def empty (capacity : Nat) : Fifo α := ⟨capacity, [], Nat.zero_le _⟩

def vacant (fifo : Fifo α) : Nat := fifo.capacity - fifo.items.length

/-- Pushes as many items as fit, in one step. -/
def pushSlice (fifo : Fifo α) (data : List α) : Fifo α where
  capacity := fifo.capacity
  items := fifo.items ++ data.take fifo.vacant
  bounded := by
    have := fifo.bounded
    simp only [List.length_append, List.length_take, vacant]
    omega

def popSlice (fifo : Fifo α) (count : Nat) : List α × Fifo α :=
  (fifo.items.take count, {
    capacity := fifo.capacity
    items := fifo.items.drop count
    bounded := by
      have := fifo.bounded
      simp only [List.length_drop]
      omega })

variable (fifo : Fifo α)

theorem pushSlice_items {data : List α} (fits : data.length ≤ fifo.vacant) :
    (fifo.pushSlice data).items = fifo.items ++ data := by
  show fifo.items ++ data.take fifo.vacant = fifo.items ++ data
  rw [List.take_of_length_le fits]

theorem pushSlice_vacant {data : List α} (fits : data.length ≤ fifo.vacant) :
    (fifo.pushSlice data).vacant = fifo.vacant - data.length := by
  have items := fifo.pushSlice_items fits
  show fifo.capacity - (fifo.pushSlice data).items.length = _
  rw [items, List.length_append, vacant]
  omega

@[simp] theorem pushSlice_nil : fifo.pushSlice [] = fifo :=
  Fifo.ext rfl (by simp [pushSlice])

theorem pushSlice_pushSlice (first second : List α) :
    (fifo.pushSlice first).pushSlice second = fifo.pushSlice (first ++ second) := by
  have room : (fifo.pushSlice first).vacant = fifo.vacant - first.length := by
    simp only [vacant, pushSlice, List.length_append, List.length_take]
    omega
  refine Fifo.ext rfl ?_
  change fifo.items ++ first.take fifo.vacant ++ second.take (fifo.pushSlice first).vacant =
    fifo.items ++ (first ++ second).take fifo.vacant
  rw [room, List.take_append, List.append_assoc]

@[simp] theorem popSlice_items (count : Nat) :
    (fifo.popSlice count).1 ++ (fifo.popSlice count).2.items = fifo.items :=
  List.take_append_drop _ _

theorem vacant_le_popSlice (count : Nat) : fifo.vacant ≤ (fifo.popSlice count).2.vacant := by
  simp only [vacant, popSlice, List.length_drop]
  omega

end Fifo
end Phase4.Library
