import Mathlib

namespace Phase4.Library

/-! ## Programs of atomic operations

A program asks for one atomic operation at a time and continues with the answer. What an
operation does to the shared state, and what other threads do between two operations, is
left to the system the program runs in. -/

inductive Program (Op : Type) (Answer : Op → Type) (α : Type) where
  | done (result : α)
  | call (op : Op) (next : Answer op → Program Op Answer α)

namespace Program
variable {Op : Type} {Answer : Op → Type} {α β γ : Type}

def bind : Program Op Answer α → (α → Program Op Answer β) → Program Op Answer β
  | .done result, f => f result
  | .call op next, f => .call op fun answer => (next answer).bind f

instance : Monad (Program Op Answer) where
  pure := .done
  bind := bind

@[simp] theorem pure_eq (a : α) : (pure a : Program Op Answer α) = .done a := rfl

@[simp] theorem bind_eq (program : Program Op Answer α) (f : α → Program Op Answer β) :
    program.bind f = program >>= f := rfl

@[simp] theorem done_bind (a : α) (f : α → Program Op Answer β) :
    (Program.done a : Program Op Answer α) >>= f = f a := rfl

@[simp] theorem call_bind (op : Op) (next : Answer op → Program Op Answer α)
    (f : α → Program Op Answer β) :
    Program.call op next >>= f = .call op fun answer => next answer >>= f := rfl

@[simp] theorem bind_assoc (program : Program Op Answer α) (f : α → Program Op Answer β)
    (g : β → Program Op Answer γ) :
    program >>= f >>= g = program >>= fun a => f a >>= g := by
  induction program with
  | done a => rfl
  | call op next ih =>
      simp only [call_bind]
      congr 1
      funext answer
      exact ih answer

@[simp] theorem bind_done (program : Program Op Answer α) : program >>= .done = program := by
  induction program with
  | done a => rfl
  | call op next ih =>
      simp only [call_bind]
      congr 1
      funext answer
      exact ih answer

def perform (op : Op) : Program Op Answer (Answer op) := .call op .done

@[simp] theorem perform_bind (op : Op) (f : Answer op → Program Op Answer β) :
    perform op >>= f = .call op f := rfl

def run {σ : Type} (apply : (op : Op) → σ → Answer op × σ) :
    Program Op Answer α → σ → α × σ
  | .done result, state => (result, state)
  | .call op next, state =>
      let (answer, after) := apply op state
      (next answer).run apply after

@[simp] theorem run_done {σ : Type} (apply : (op : Op) → σ → Answer op × σ) (a : α) (state : σ) :
    (Program.done a : Program Op Answer α).run apply state = (a, state) := rfl

@[simp] theorem run_call {σ : Type} (apply : (op : Op) → σ → Answer op × σ) (op : Op)
    (next : Answer op → Program Op Answer α) (state : σ) :
    (Program.call op next).run apply state =
      (next (apply op state).1).run apply (apply op state).2 := rfl

theorem run_bind {σ : Type} (apply : (op : Op) → σ → Answer op × σ)
    (program : Program Op Answer α) (f : α → Program Op Answer β) (state : σ) :
    (program >>= f).run apply state =
      (f (program.run apply state).1).run apply (program.run apply state).2 := by
  induction program generalizing state with
  | done a => rfl
  | call op next ih => simpa using ih _ _

end Program
end Phase4.Library
