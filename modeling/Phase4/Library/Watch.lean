import Mathlib

namespace Phase4.Library

/-! ## Watch channels

A watch channel keeps the last value sent and counts the sends. A receiver remembers the
count it saw last, and waits until the two differ. -/

structure Watch (α : Type) where
  value : α
  version : Nat
deriving DecidableEq, Repr

namespace Watch
variable {α : Type}

def new (value : α) : Watch α := ⟨value, 0⟩

/-- `send_replace`, which hands back `watch.value`. -/
def send (watch : Watch α) (value : α) : Watch α := ⟨value, watch.version + 1⟩

@[simp] theorem new_value (value : α) : (new value).value = value := rfl

@[simp] theorem new_version (value : α) : (new value).version = 0 := rfl

@[simp] theorem send_value (watch : Watch α) (value : α) : (watch.send value).value = value := rfl

@[simp] theorem send_version (watch : Watch α) (value : α) :
    (watch.send value).version = watch.version + 1 := rfl

end Watch
end Phase4.Library
