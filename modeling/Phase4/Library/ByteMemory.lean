import Phase4.Library.Program

namespace Phase4.Library

/-! ## Words in byte memory

A word is a run of bytes read and written as one little-endian number. -/

abbrev Memory := Nat → BitVec 8

structure Word where
  offset : Nat
  width : Nat
deriving DecidableEq, Repr

def Word.Disjoint (a b : Word) : Prop :=
  a.offset + a.width ≤ b.offset ∨ b.offset + b.width ≤ a.offset

instance (a b : Word) : Decidable (a.Disjoint b) := inferInstanceAs (Decidable (_ ∨ _))

theorem Word.Disjoint.symm {a b : Word} (h : a.Disjoint b) : b.Disjoint a := Or.symm h

def loadBytes (memory : Memory) (offset : Nat) : Nat → Nat
  | 0 => 0
  | width + 1 => (memory offset).toNat + 256 * loadBytes memory (offset + 1) width

namespace Memory

def load (memory : Memory) (word : Word) : Nat := loadBytes memory word.offset word.width

def store (memory : Memory) (word : Word) (value : Nat) : Memory := fun address =>
  if word.offset ≤ address ∧ address < word.offset + word.width then
    BitVec.ofNat 8 (value / 256 ^ (address - word.offset))
  else memory address

private theorem loadBytes_store_inside (memory : Memory) (word : Word) (value i n : Nat)
    (inside : i + n ≤ word.width) :
    loadBytes (memory.store word value) (word.offset + i) n = value / 256 ^ i % 256 ^ n := by
  induction n generalizing i with
  | zero => simp [loadBytes, Nat.mod_one]
  | succ n ih =>
      have here : word.offset ≤ word.offset + i ∧ word.offset + i < word.offset + word.width := by
        omega
      have later := ih (i + 1) (by omega)
      rw [← Nat.add_assoc] at later
      rw [loadBytes, later, store, if_pos here, Nat.add_sub_cancel_left, BitVec.toNat_ofNat,
        pow_succ' 256 n, Nat.mod_mul, pow_succ 256 i, Nat.div_div_eq_div_mul]

@[simp] theorem load_store_self (memory : Memory) (word : Word) (value : Nat) :
    (memory.store word value).load word = value % 256 ^ word.width := by
  simpa [load] using loadBytes_store_inside memory word value 0 word.width (by omega)

theorem load_lt (memory : Memory) (word : Word) : memory.load word < 256 ^ word.width := by
  have bytes (offset n : Nat) : loadBytes memory offset n < 256 ^ n := by
    induction n generalizing offset with
    | zero => simp [loadBytes]
    | succ n ih =>
        have low : (memory offset).toNat < 256 := (memory offset).isLt
        have high := ih (offset + 1)
        rw [loadBytes, pow_succ']
        omega
  exact bytes word.offset word.width

private theorem loadBytes_congr {a b : Memory} (offset n : Nat)
    (agree : ∀ i < n, a (offset + i) = b (offset + i)) :
    loadBytes a offset n = loadBytes b offset n := by
  induction n generalizing offset with
  | zero => rfl
  | succ n ih =>
      have first : a offset = b offset := agree 0 (by omega)
      have rest : loadBytes a (offset + 1) n = loadBytes b (offset + 1) n := by
        apply ih
        intro i bound
        rw [Nat.add_assoc, Nat.add_comm 1 i]
        exact agree (i + 1) (by omega)
      rw [loadBytes, loadBytes, first, rest]

theorem load_store_disjoint {written read : Word} (apart : written.Disjoint read)
    (memory : Memory) (value : Nat) : (memory.store written value).load read = memory.load read := by
  apply loadBytes_congr
  intro i bound
  rw [store, if_neg]
  rcases apart with h | h <;> omega

theorem store_outside {word : Word} {address : Nat}
    (outside : address < word.offset ∨ word.offset + word.width ≤ address)
    (memory : Memory) (value : Nat) : memory.store word value address = memory address := by
  rw [store, if_neg]
  omega

end Memory

/-! ## Programs over byte memory -/

inductive MemoryOp where
  | load (word : Word)
  | store (word : Word) (value : Nat)
deriving DecidableEq, Repr

abbrev MemoryOp.Answer : MemoryOp → Type
  | .load _ => Nat
  | .store _ _ => Unit

abbrev MemoryProgram := Program MemoryOp MemoryOp.Answer

def MemoryOp.apply : (op : MemoryOp) → Memory → op.Answer × Memory
  | .load word, memory => (memory.load word, memory)
  | .store word value, memory => ((), memory.store word value)

@[simp] theorem MemoryOp.apply_load (word : Word) (memory : Memory) :
    (MemoryOp.load word).apply memory = (memory.load word, memory) := rfl

@[simp] theorem MemoryOp.apply_store (word : Word) (value : Nat) (memory : Memory) :
    (MemoryOp.store word value).apply memory = ((), memory.store word value) := rfl

def load (word : Word) : MemoryProgram Nat := Program.perform (MemoryOp.load word)

def store (word : Word) (value : Nat) : MemoryProgram Unit :=
  Program.perform (MemoryOp.store word value)

def loadAll : List Word → MemoryProgram (List Nat)
  | [] => .done []
  | word :: rest => do
      let value ← load word
      let values ← loadAll rest
      return value :: values

def storeAll : List (Word × Nat) → MemoryProgram Unit
  | [] => .done ()
  | (word, value) :: rest => do
      store word value
      storeAll rest

@[simp] theorem load_bind {α : Type} (word : Word) (f : Nat → MemoryProgram α) :
    load word >>= f = .call (.load word) f := rfl

@[simp] theorem store_bind {α : Type} (word : Word) (value : Nat) (f : Unit → MemoryProgram α) :
    store word value >>= f = .call (.store word value) f := rfl

theorem loadAll_bind_congr {α : Type} {words : List Word} {f g : List Nat → MemoryProgram α}
    (agree : ∀ values, values.length = words.length → f values = g values) :
    loadAll words >>= f = loadAll words >>= g := by
  induction words generalizing f g with
  | nil => exact agree [] rfl
  | cons word rest ih =>
      simp only [loadAll, load_bind, Program.call_bind, Program.bind_assoc, Program.pure_eq,
        Program.done_bind]
      congr 1
      funext value
      apply ih
      intro values length
      exact agree (value :: values) (by simp [length])

theorem loadAll_append (before after : List Word) :
    loadAll (before ++ after) = do
      let front ← loadAll before
      let back ← loadAll after
      return front ++ back := by
  induction before with
  | nil => simp [loadAll]
  | cons word rest ih => simp [loadAll, ih]

theorem storeAll_append (before after : List (Word × Nat)) :
    storeAll (before ++ after) = storeAll before >>= fun _ => storeAll after := by
  induction before with
  | nil => rfl
  | cons entry rest ih => simp [storeAll, ih]

/-! ### Programs run without interruption -/

def Memory.storeEach (memory : Memory) (entries : List (Word × Nat)) : Memory :=
  entries.foldl (fun memory entry => memory.store entry.1 entry.2) memory

theorem run_loadAll (words : List Word) (memory : Memory) :
    (loadAll words).run MemoryOp.apply memory = (words.map memory.load, memory) := by
  induction words with
  | nil => rfl
  | cons word rest ih =>
      rw [loadAll, load_bind, Program.run_call, Program.run_bind, MemoryOp.apply_load, ih]
      rfl

theorem run_storeAll (entries : List (Word × Nat)) (memory : Memory) :
    (storeAll entries).run MemoryOp.apply memory = ((), memory.storeEach entries) := by
  induction entries generalizing memory with
  | nil => rfl
  | cons entry rest ih =>
      rw [storeAll, store_bind, Program.run_call, ih]
      rfl

theorem load_storeEach_disjoint {entries : List (Word × Nat)} {word : Word}
    (apart : ∀ entry ∈ entries, entry.1.Disjoint word) (memory : Memory) :
    (memory.storeEach entries).load word = memory.load word := by
  induction entries generalizing memory with
  | nil => rfl
  | cons entry rest ih =>
      have later := ih (fun other member => apart other (List.mem_cons_of_mem _ member))
        (memory.store entry.1 entry.2)
      exact later.trans (Memory.load_store_disjoint (apart entry List.mem_cons_self) _ _)

theorem storeEach_outside {entries : List (Word × Nat)} {address : Nat}
    (outside : ∀ entry ∈ entries,
      address < entry.1.offset ∨ entry.1.offset + entry.1.width ≤ address) (memory : Memory) :
    memory.storeEach entries address = memory address := by
  induction entries generalizing memory with
  | nil => rfl
  | cons entry rest ih =>
      have later := ih (fun other member => outside other (List.mem_cons_of_mem _ member))
        (memory.store entry.1 entry.2)
      exact later.trans (Memory.store_outside (outside entry List.mem_cons_self) _ _)

theorem load_storeEach {entries : List (Word × Nat)}
    (separate : entries.Pairwise fun a b => a.1.Disjoint b.1)
    (fits : ∀ entry ∈ entries, entry.2 < 256 ^ entry.1.width) (memory : Memory) :
    ∀ entry ∈ entries, (memory.storeEach entries).load entry.1 = entry.2 := by
  induction entries generalizing memory with
  | nil => simp
  | cons first rest ih =>
      obtain ⟨apart, separate⟩ := List.pairwise_cons.mp separate
      intro entry member
      rcases List.mem_cons.mp member with rfl | later
      · have kept := load_storeEach_disjoint (fun other among => (apart other among).symm)
          (memory.store entry.1 entry.2)
        apply kept.trans
        rw [Memory.load_store_self]
        exact Nat.mod_eq_of_lt (fits entry List.mem_cons_self)
      · exact ih separate (fun other among => fits other (List.mem_cons_of_mem _ among)) _ entry
          later

/-! ### Programs among other writers -/

/-- The result and the operations of a program whose step at `time` meets `memories time`. -/
def observe {α : Type} (memories : Nat → Memory) :
    MemoryProgram α → Nat → α × List MemoryOp
  | .done result, _ => (result, [])
  | .call op next, time =>
      let rest := observe memories (next (op.apply (memories time)).1) (time + 1)
      (rest.1, op :: rest.2)

section
variable {α β : Type} (memories : Nat → Memory)

@[simp] theorem observe_done (result : α) (time : Nat) :
    observe memories (.done result : MemoryProgram α) time = (result, []) := rfl

@[simp] theorem observe_load (word : Word) (next : Nat → MemoryProgram α) (time : Nat) :
    observe memories (.call (.load word) next) time =
      ((observe memories (next ((memories time).load word)) (time + 1)).1,
        .load word :: (observe memories (next ((memories time).load word)) (time + 1)).2) := rfl

theorem observe_bind (program : MemoryProgram α) (f : α → MemoryProgram β) (time : Nat) :
    ∃ later, observe memories (program >>= f) time =
      ((observe memories (f (observe memories program time).1) later).1,
        (observe memories program time).2 ++
          (observe memories (f (observe memories program time).1) later).2) := by
  induction program generalizing time with
  | done result => exact ⟨time, rfl⟩
  | call op next ih =>
      obtain ⟨later, rest⟩ := ih (op.apply (memories time)).1 (time + 1)
      refine ⟨later, ?_⟩
      rw [Program.call_bind, observe, rest]
      rfl

theorem observe_loadAll (words : List Word) (time : Nat) :
    (observe memories (loadAll words) time).1.length = words.length ∧
      (observe memories (loadAll words) time).2 = words.map .load := by
  induction words generalizing time with
  | nil => exact ⟨rfl, rfl⟩
  | cons word rest ih =>
      obtain ⟨later, ran⟩ := observe_bind memories (loadAll rest)
        (fun values => .done ((memories time).load word :: values)) (time + 1)
      obtain ⟨length, loads⟩ := ih (time + 1)
      simp only [loadAll, load_bind, observe_load, Program.pure_eq, ran, observe_done,
        List.append_nil, loads, List.map_cons, List.length_cons, length, and_self]

end

/-- `program` comes to `target` by loads of fixed words alone, each answered as in `base`. -/
inductive Reaches {α : Type} (fixed : List Word) (base : Memory) :
    MemoryProgram α → MemoryProgram α → Prop
  | here (target : MemoryProgram α) : Reaches fixed base target target
  | load {word : Word} {next : Nat → MemoryProgram α} {target : MemoryProgram α}
      (member : word ∈ fixed) (rest : Reaches fixed base (next (base.load word)) target) :
      Reaches fixed base (.call (.load word) next) target

theorem Reaches.call {α : Type} {fixed : List Word} {base memory : Memory} {op : MemoryOp}
    {next : op.Answer → MemoryProgram α} {target : MemoryProgram α}
    (reaches : Reaches fixed base (.call op next) target)
    (unchanged : ∀ word ∈ fixed, memory.load word = base.load word) :
    target = .call op next ∨
      (op.apply memory).2 = memory ∧ Reaches fixed base (next (op.apply memory).1) target := by
  cases reaches with
  | here => exact Or.inl rfl
  | load member rest =>
      refine Or.inr ⟨rfl, ?_⟩
      rw [MemoryOp.apply_load, unchanged _ member]
      exact rest

theorem Reaches.followed {α β : Type} {fixed : List Word} {base : Memory} {result : α}
    {first : MemoryProgram α} {rest : α → MemoryProgram β} {target : MemoryProgram β}
    (ends : Reaches fixed base first (.done result))
    (continues : Reaches fixed base (rest result) target) :
    Reaches fixed base (first >>= rest) target := by
  generalize last : (Program.done result : MemoryProgram α) = finish at ends
  induction ends with
  | here => rwa [← last]
  | load member _ ih => exact .load member (ih last)

theorem Reaches.run {α : Type} {fixed : List Word} {base memory : Memory}
    {program target : MemoryProgram α} (reaches : Reaches fixed base program target)
    (unchanged : ∀ word ∈ fixed, memory.load word = base.load word) :
    program.run MemoryOp.apply memory = target.run MemoryOp.apply memory := by
  induction reaches with
  | here => rfl
  | load member _ ih =>
      rw [Program.run_call, MemoryOp.apply_load, unchanged _ member]
      exact ih

theorem Reaches.done {α : Type} {fixed : List Word} {base : Memory} {result : α}
    {target : MemoryProgram α} (reaches : Reaches fixed base (.done result) target) :
    target = .done result := by
  cases reaches
  rfl

end Phase4.Library
