import Phase4.Library.ByteMemory

namespace Phase4.Library

/-! ## Sequence locks

One writer overwrites a list of words between two stores to a sequence word, which is odd
while it writes. A reader copies the words and keeps the copy when the sequence was even
and has not moved. Values are published in order and the `k`-th leaves the sequence at `2k`. -/

structure SeqlockLayout where
  sequence : Word
  words : List Word
  sequence_width : sequence.width = 8
  words_disjoint : words.Pairwise Word.Disjoint
  sequence_disjoint : ∀ word ∈ words, sequence.Disjoint word

namespace SeqlockLayout
variable (layout : SeqlockLayout) {α β : Type}

def write (values : List Nat) : MemoryProgram Unit := do
  let stable ← load layout.sequence
  store layout.sequence ((stable + 1) % 2 ^ 64)
  storeAll (layout.words.zip values)
  store layout.sequence ((stable + 2) % 2 ^ 64)

def validate (result : Nat → List Nat → α) (retry : MemoryProgram α) (before : Nat)
    (values : List Nat) : MemoryProgram α := do
  let again ← load layout.sequence
  if again % 2 ^ 64 = before then .done (result before values) else retry

def attempts (result : Nat → List Nat → α) (failed : α) : Nat → MemoryProgram α
  | 0 => .done failed
  | n + 1 => do
      let loaded ← load layout.sequence
      let before := loaded % 2 ^ 64
      if before = 0 then .done failed
      else if before % 2 = 0 then
        loadAll layout.words >>=
          layout.validate result (attempts result failed n) before
      else attempts result failed n

def Holds (memory : Memory) (values : List Nat) : Prop :=
  values.length = layout.words.length ∧
    ∀ entry ∈ layout.words.zip values, memory.load entry.1 = entry.2

def Fits (values : List Nat) : Prop :=
  values.length = layout.words.length ∧
    ∀ entry ∈ layout.words.zip values, entry.2 < 256 ^ entry.1.width

def Latest (published : List (List Nat)) (memory : Memory) : Prop :=
  ∀ values, published.getLast? = some values → layout.Holds memory values

variable {layout}

theorem load_sequence_store (memory : Memory) {value : Nat} (bound : value < 2 ^ 64) :
    (memory.store layout.sequence value).load layout.sequence = value := by
  rw [Memory.load_store_self, layout.sequence_width]
  exact Nat.mod_eq_of_lt bound

theorem load_sequence_mod (memory : Memory) :
    memory.load layout.sequence % 2 ^ 64 = memory.load layout.sequence := by
  have bound := memory.load_lt layout.sequence
  rw [layout.sequence_width] at bound
  exact Nat.mod_eq_of_lt bound

theorem load_word_store_sequence (memory : Memory) (value : Nat) {word : Word}
    (member : word ∈ layout.words) :
    (memory.store layout.sequence value).load word = memory.load word :=
  Memory.load_store_disjoint (layout.sequence_disjoint word member) memory value

theorem load_sequence_store_word (memory : Memory) (value : Nat) {word : Word}
    (member : word ∈ layout.words) :
    (memory.store word value).load layout.sequence = memory.load layout.sequence :=
  Memory.load_store_disjoint (layout.sequence_disjoint word member).symm memory value

theorem holds_store_sequence {memory : Memory} {values : List Nat} (value : Nat)
    (holds : layout.Holds memory values) :
    layout.Holds (memory.store layout.sequence value) values := by
  refine ⟨holds.1, fun entry member => ?_⟩
  rw [load_word_store_sequence memory value (List.of_mem_zip member).1]
  exact holds.2 entry member

theorem zip_disjoint {values : List Nat} (length : values.length = layout.words.length) :
    (layout.words.zip values).Pairwise fun a b => a.1.Disjoint b.1 := by
  apply List.pairwise_map.mp
  rw [List.map_fst_zip length.ge]
  exact layout.words_disjoint

/-! ### Without interruption -/

theorem write_law {memory : Memory} {k : Nat} (even : memory.load layout.sequence = 2 * k)
    (bound : k + 1 < 2 ^ 63) {values : List Nat} (fits : layout.Fits values) :
    ∃ after, (layout.write values).run MemoryOp.apply memory = ((), after) ∧
      after.load layout.sequence = 2 * (k + 1) ∧ layout.Holds after values ∧
      (∀ word, (∀ own, own = layout.sequence ∨ own ∈ layout.words → own.Disjoint word) →
        after.load word = memory.load word) ∧
      ∀ address, (∀ own, own = layout.sequence ∨ own ∈ layout.words →
          address < own.offset ∨ own.offset + own.width ≤ address) →
        after address = memory address := by
  have up : (2 * k + 1) % 2 ^ 64 = 2 * k + 1 := Nat.mod_eq_of_lt (by omega)
  have down : (2 * k + 2) % 2 ^ 64 = 2 * (k + 1) := Nat.mod_eq_of_lt (by omega)
  have entries {entry : Word × Nat} (member : entry ∈ layout.words.zip values) :
      entry.1 ∈ layout.words := (List.of_mem_zip member).1
  let opened := memory.store layout.sequence (2 * k + 1)
  refine ⟨(opened.storeEach (layout.words.zip values)).store layout.sequence (2 * (k + 1)), ?_,
    load_sequence_store _ (by omega), ?_, ?_, ?_⟩
  · simp only [write, load_bind, store_bind, Program.run_call, Program.run_bind,
      MemoryOp.apply_load, MemoryOp.apply_store, even, up, down, run_storeAll]
    rfl
  · refine holds_store_sequence _ ⟨fits.1, ?_⟩
    exact load_storeEach (zip_disjoint fits.1) fits.2 opened
  · intro word apart
    rw [Memory.load_store_disjoint (apart _ (.inl rfl)),
      load_storeEach_disjoint (fun entry member => apart _ (.inr (entries member))),
      Memory.load_store_disjoint (apart _ (.inl rfl))]
  · intro address outside
    rw [Memory.store_outside (outside _ (.inl rfl)),
      storeEach_outside (fun entry member => outside _ (.inr (entries member)))]
    exact Memory.store_outside (outside _ (.inl rfl)) _ _

theorem attempts_law {memory : Memory} {k : Nat}
    (even : memory.load layout.sequence = 2 * (k + 1)) {values : List Nat}
    (holds : layout.Holds memory values) (result : Nat → List Nat → α) (failed : α) (n : Nat) :
    (layout.attempts result failed (n + 1)).run MemoryOp.apply memory =
      (result (2 * (k + 1)) values, memory) := by
  have copied : layout.words.map memory.load = values := by
    apply List.ext_getElem (by rw [List.length_map, holds.1])
    intro i inWords inValues
    rw [List.length_map] at inWords
    rw [List.getElem_map]
    refine holds.2 (layout.words[i], values[i]) (List.mem_iff_getElem.mpr ⟨i, ?_, ?_⟩)
    · rw [List.length_zip]
      exact lt_min inWords inValues
    · simp
  have stable : memory.load layout.sequence % 2 ^ 64 = memory.load layout.sequence :=
    load_sequence_mod memory
  rw [even] at stable
  simp only [attempts, load_bind, Program.run_call, MemoryOp.apply_load, even, stable]
  rw [if_neg (by omega), if_pos (by omega), Program.run_bind, run_loadAll, copied]
  simp only [validate, load_bind, Program.run_call, MemoryOp.apply_load, even, stable, if_true,
    Program.run_done]

theorem attempts_unset {memory : Memory} (unset : memory.load layout.sequence = 0)
    (result : Nat → List Nat → α) (failed : α) (n : Nat) :
    (layout.attempts result failed n).run MemoryOp.apply memory = (failed, memory) := by
  cases n with
  | zero => rfl
  | succ n => simp [attempts, Program.run_call, unset]

/-! ### Among writers of any kind -/

/-- One attempt looks at the sequence and, if it is even, copies the words and looks again. -/
def Pass (layout : SeqlockLayout) (pass : List Word) : Prop :=
  pass = [layout.sequence] ∨ pass = layout.sequence :: layout.words ++ [layout.sequence]

/-- Whatever the memory does, `n` attempts make at most `n` passes, and what they return was
read between two looks at an even sequence that is not 0. -/
theorem observe_attempts (memories : Nat → Memory) (result : Nat → List Nat → α) (failed : α)
    (n time : Nat) :
    ∃ passes : List (List Word), passes.length ≤ n ∧ (∀ pass ∈ passes, layout.Pass pass) ∧
      (observe memories (layout.attempts result failed n) time).2 = passes.flatten.map .load ∧
      ((observe memories (layout.attempts result failed n) time).1 = failed ∨
        ∃ before values, before ≠ 0 ∧ before % 2 = 0 ∧ before < 2 ^ 64 ∧
          values.length = layout.words.length ∧
          (observe memories (layout.attempts result failed n) time).1 = result before values) := by
  induction n generalizing time with
  | zero => exact ⟨[], le_rfl, by simp, rfl, .inl rfl⟩
  | succ n ih =>
      rw [attempts, load_bind, observe_load]
      have bound : (memories time).load layout.sequence % 2 ^ 64 < 2 ^ 64 := Nat.mod_lt _ (by norm_num)
      generalize (memories time).load layout.sequence % 2 ^ 64 = before at bound
      by_cases unset : before = 0
      · refine ⟨[[layout.sequence]], by simp, by simp [Pass], ?_, .inl ?_⟩
        all_goals simp [unset]
      · by_cases even : before % 2 = 0
        · simp only [if_neg unset, if_pos even]
          obtain ⟨later, ran⟩ := observe_bind memories (loadAll layout.words)
            (layout.validate result (layout.attempts result failed n) before) (time + 1)
          obtain ⟨length, loads⟩ := observe_loadAll memories layout.words (time + 1)
          rw [ran, loads]
          generalize (observe memories (loadAll layout.words) (time + 1)).1 = values at length
          rw [validate, load_bind, observe_load]
          by_cases same : (memories later).load layout.sequence % 2 ^ 64 = before
          · rw [if_pos same]
            refine ⟨[layout.sequence :: layout.words ++ [layout.sequence]], by simp,
              by simp [Pass], by simp, .inr ⟨before, values, unset, even, bound, length, rfl⟩⟩
          · rw [if_neg same]
            obtain ⟨passes, few, shaped, looked, returned⟩ := ih (later + 1)
            refine ⟨(layout.sequence :: layout.words ++ [layout.sequence]) :: passes,
              by simpa using few, ?_, by simp [looked], returned⟩
            intro pass member
            rcases List.mem_cons.mp member with rfl | member
            · exact .inr rfl
            · exact shaped pass member
        · simp only [if_neg unset, if_neg even]
          obtain ⟨passes, few, shaped, looked, returned⟩ := ih (time + 1)
          refine ⟨[layout.sequence] :: passes, by simpa using few, ?_, by simp [looked], returned⟩
          intro pass member
          rcases List.mem_cons.mp member with rfl | member
          · exact .inl rfl
          · exact shaped pass member

/-! ### The writer -/

inductive WriterAt (layout : SeqlockLayout) (memory : Memory) :
    List (List Nat) → Nat → MemoryProgram β → Prop
  | idle (published : List (List Nat)) (b : β)
      (even : memory.load layout.sequence = 2 * published.length)
      (latest : layout.Latest published memory) :
      WriterAt layout memory published published.length (.done b)
  | entering (earlier : List (List Nat)) (values : List Nat) (b : β)
      (even : memory.load layout.sequence = 2 * earlier.length)
      (latest : layout.Latest earlier memory) :
      WriterAt layout memory (earlier ++ [values]) earlier.length
        (layout.write values >>= fun _ => .done b)
  | opening (earlier : List (List Nat)) (values : List Nat) (b : β)
      (even : memory.load layout.sequence = 2 * earlier.length)
      (latest : layout.Latest earlier memory) :
      WriterAt layout memory (earlier ++ [values]) earlier.length (do
        store layout.sequence (2 * earlier.length + 1)
        storeAll (layout.words.zip values)
        store layout.sequence (2 * earlier.length + 2)
        .done b)
  | writing (earlier : List (List Nat)) (values : List Nat) (b : β)
      (front back : List (Word × Nat))
      (odd : memory.load layout.sequence = 2 * earlier.length + 1)
      (split : layout.words.zip values = front ++ back)
      (stored : ∀ entry ∈ front, memory.load entry.1 = entry.2) :
      WriterAt layout memory (earlier ++ [values]) earlier.length (do
        storeAll back
        store layout.sequence (2 * earlier.length + 2)
        .done b)

namespace WriterAt
variable {memory : Memory} {published : List (List Nat)} {completed : Nat}
  {program : MemoryProgram β}

theorem completed_le (here : WriterAt layout memory published completed program) :
    completed ≤ published.length := by
  cases here <;> simp

theorem latest_of_even (here : WriterAt layout memory published completed program)
    (even : memory.load layout.sequence % 2 = 0) :
    memory.load layout.sequence = 2 * completed ∧
      layout.Latest (published.take completed) memory := by
  cases here with
  | idle published b even latest => exact ⟨even, by simpa using latest⟩
  | entering earlier values b even latest => exact ⟨even, by simpa using latest⟩
  | opening earlier values b even latest => exact ⟨even, by simpa using latest⟩
  | writing earlier values b front back odd => omega

theorem start {b : β} (here : WriterAt layout memory published completed (.done b)) (b' : β)
    (values : List Nat) :
    completed = published.length ∧
      WriterAt layout memory (published ++ [values]) published.length
        (layout.write values >>= fun _ => .done b') := by
  generalize shape : (Program.done b : MemoryProgram β) = program at here
  cases here with
  | idle published c even latest => exact ⟨rfl, .entering published values b' even latest⟩
  | entering => cases shape
  | opening => cases shape
  | writing earlier values c front back =>
      cases back <;> simp [storeAll, store, Program.perform] at shape

theorem skip {b b' : β} (here : WriterAt layout memory published completed (.done b)) :
    WriterAt layout memory published completed (.done b') := by
  generalize shape : (Program.done b : MemoryProgram β) = program at here
  cases here with
  | idle published c even latest => exact .idle published b' even latest
  | entering => cases shape
  | opening => cases shape
  | writing earlier values c front back =>
      cases back <;> simp [storeAll, store, Program.perform] at shape

theorem untouched {op : MemoryOp} {next : op.Answer → MemoryProgram β} {word : Word}
    (here : WriterAt layout memory published completed (.call op next))
    (apart : ∀ own, own = layout.sequence ∨ own ∈ layout.words → own.Disjoint word) :
    (op.apply memory).2.load word = memory.load word := by
  generalize shape : Program.call op next = program at here
  cases here with
  | idle => cases shape
  | entering => cases shape; rfl
  | opening => cases shape; exact Memory.load_store_disjoint (apart _ (Or.inl rfl)) _ _
  | writing earlier values b front back odd split =>
      cases back with
      | nil => cases shape; exact Memory.load_store_disjoint (apart _ (Or.inl rfl)) _ _
      | cons entry rest =>
          cases shape
          have member : entry ∈ layout.words.zip values := by simp [split]
          exact Memory.load_store_disjoint (apart _ (Or.inr (List.of_mem_zip member).1)) _ _

private theorem stored_after {values : List Nat} {front back : List (Word × Nat)}
    {word : Word} {value : Nat}
    (split : layout.words.zip values = front ++ (word, value) :: back)
    (fits : layout.Fits values)
    (stored : ∀ entry ∈ front, memory.load entry.1 = entry.2) :
    ∀ entry ∈ front ++ [(word, value)], (memory.store word value).load entry.1 = entry.2 := by
  intro entry member
  have apart := layout.zip_disjoint fits.1
  rw [split, List.pairwise_append] at apart
  rcases List.mem_append.mp member with earlier | here
  · have away := apart.2.2 entry earlier (word, value) (by simp)
    rw [Memory.load_store_disjoint away.symm]
    exact stored entry earlier
  · rw [List.mem_singleton.mp here, Memory.load_store_self]
    exact Nat.mod_eq_of_lt (fits.2 (word, value) (by simp [split]))

theorem step {op : MemoryOp} {next : op.Answer → MemoryProgram β}
    (here : WriterAt layout memory published completed (.call op next))
    (fits : ∀ values ∈ published, layout.Fits values) (bound : published.length < 2 ^ 63) :
    memory.load layout.sequence ≤ (op.apply memory).2.load layout.sequence ∧
      ((∃ b, next (op.apply memory).1 = .done b ∧
          WriterAt layout (op.apply memory).2 published (completed + 1) (.done b)) ∨
        (∃ later after, next (op.apply memory).1 = .call later after) ∧
          WriterAt layout (op.apply memory).2 published completed (next (op.apply memory).1)) := by
  generalize shape : Program.call op next = program at here
  cases here with
  | idle => cases shape
  | entering earlier values b even latest =>
      cases shape
      rw [List.length_append, List.length_singleton] at bound
      refine ⟨le_rfl, Or.inr ⟨⟨_, _, rfl⟩, ?_⟩⟩
      have up : (2 * earlier.length + 1) % 2 ^ 64 = 2 * earlier.length + 1 :=
        Nat.mod_eq_of_lt (by omega)
      have down : (2 * earlier.length + 2) % 2 ^ 64 = 2 * earlier.length + 2 :=
        Nat.mod_eq_of_lt (by omega)
      simp only [MemoryOp.apply_load, Program.bind_eq, Program.done_bind, Program.bind_assoc,
        even, up, down]
      exact .opening earlier values b even latest
  | opening earlier values b even latest =>
      cases shape
      rw [List.length_append, List.length_singleton] at bound
      have odd : (memory.store layout.sequence (2 * earlier.length + 1)).load layout.sequence =
          2 * earlier.length + 1 := load_sequence_store memory (by omega)
      refine ⟨by simp only [MemoryOp.apply_store, odd, even]; omega, Or.inr ⟨?_, ?_⟩⟩
      · cases h : layout.words.zip values with
        | nil => exact ⟨_, _, rfl⟩
        | cons entry rest => exact ⟨_, _, rfl⟩
      · exact .writing earlier values b [] (layout.words.zip values) odd rfl (by simp)
  | writing earlier values b front back odd split stored =>
      rw [List.length_append, List.length_singleton] at bound
      have fitting : layout.Fits values := fits values (by simp)
      cases back with
      | nil =>
          cases shape
          have even : (memory.store layout.sequence (2 * earlier.length + 2)).load
              layout.sequence = 2 * earlier.length + 2 := load_sequence_store memory (by omega)
          refine ⟨by simp only [MemoryOp.apply_store, even, odd]; omega, Or.inl ⟨b, rfl, ?_⟩⟩
          have length : earlier.length + 1 = (earlier ++ [values]).length := by simp
          rw [length]
          refine .idle _ b (by rw [MemoryOp.apply_store, even, ← length]; omega) ?_
          intro last found
          rw [List.getLast?_append, List.getLast?_singleton, Option.some_or] at found
          cases found
          refine holds_store_sequence _ ⟨fitting.1, fun entry member => stored entry ?_⟩
          simpa [split] using member
      | cons entry rest =>
          obtain ⟨word, value⟩ := entry
          cases shape
          have place : (word, value) ∈ layout.words.zip values := by simp [split]
          have member : word ∈ layout.words := (List.of_mem_zip place).1
          have same : (memory.store word value).load layout.sequence =
              memory.load layout.sequence := load_sequence_store_word memory value member
          refine ⟨by rw [MemoryOp.apply_store, same], Or.inr ⟨?_, ?_⟩⟩
          · cases rest with
            | nil => exact ⟨_, _, rfl⟩
            | cons entry rest => exact ⟨_, _, rfl⟩
          · refine .writing earlier values b (front ++ [(word, value)]) rest ?_ ?_ ?_
            · rw [MemoryOp.apply_store, same, odd]
            · simpa using split
            · exact stored_after split fitting stored

end WriterAt

/-! ### A reader -/

/-- Where a reader stands. `turn` is the sequence now, and `current k` says that the `k`-th
publish was the latest completed one at some instant of this call. -/
inductive ReaderAt (layout : SeqlockLayout) (result : Nat → List Nat → α) (failed : α)
    (published : List (List Nat)) (turn : Nat) (current : Nat → Prop) :
    MemoryProgram α → Prop
  | attempting (n : Nat) : ReaderAt layout result failed published turn current
      (layout.attempts result failed n)
  | reading (n k : Nat) (values acc : List Nat) (front back : List Word)
      (split : layout.words = front ++ back) (copied : acc.length = front.length)
      (found : published[k]? = some values) (behind : 2 * (k + 1) ≤ turn)
      (seen : current (k + 1))
      (clean : turn = 2 * (k + 1) → acc = values.take acc.length) :
      ReaderAt layout result failed published turn current
        (loadAll back >>= fun rest =>
          layout.validate result (layout.attempts result failed n) (2 * (k + 1)) (acc ++ rest))
  | finished (k : Nat) (values : List Nat) (found : published[k]? = some values)
      (seen : current (k + 1)) :
      ReaderAt layout result failed published turn current (.done (result (2 * (k + 1)) values))

namespace ReaderAt
variable {result : Nat → List Nat → α} {failed : α} {published later : List (List Nat)}
  {turn now : Nat} {current known : Nat → Prop} {program : MemoryProgram α}

theorem mono (here : ReaderAt layout result failed published turn current program)
    (extended : published <+: later) (advanced : turn ≤ now)
    (known_of : ∀ k, current k → known k) :
    ReaderAt layout result failed later now known program := by
  have kept (k : Nat) (values : List Nat) (found : published[k]? = some values) :
      later[k]? = some values := by
    obtain ⟨rest, rfl⟩ := extended
    rw [List.getElem?_append_left (List.getElem?_eq_some_iff.mp found).1]
    exact found
  cases here with
  | attempting n => exact .attempting n
  | reading n k values acc front back split copied found behind seen clean =>
      refine .reading n k values acc front back split copied (kept k values found)
        (behind.trans advanced) (known_of _ seen) fun still => clean ?_
      omega
  | finished k values found seen =>
      exact .finished k values (kept k values found) (known_of _ seen)

theorem returned {answer : α}
    (here : ReaderAt layout result failed published turn current (.done answer)) :
    answer = failed ∨ ∃ k values, answer = result (2 * (k + 1)) values ∧
      published[k]? = some values ∧ current (k + 1) := by
  generalize shape : (Program.done answer : MemoryProgram α) = program at here
  cases here with
  | attempting n =>
      cases n with
      | zero => cases shape; exact Or.inl rfl
      | succ n => cases shape
  | reading n k values acc front back =>
      cases back <;> cases shape
  | finished k values found seen => cases shape; exact Or.inr ⟨k, values, rfl, found, seen⟩

private theorem copied_word {memory : Memory} {values acc : List Nat} {front rest : List Word}
    {word : Word} (split : layout.words = front ++ word :: rest)
    (copied : acc.length = front.length) (holds : layout.Holds memory values)
    (clean : acc = values.take acc.length) :
    acc ++ [memory.load word] = values.take (acc ++ [memory.load word]).length := by
  have inWords : acc.length < layout.words.length := by simp [split, copied]
  have inside : acc.length < values.length := holds.1 ▸ inWords
  have here : layout.words[acc.length] = word := by simp [split, copied]
  have place : (word, values[acc.length]) ∈ layout.words.zip values := by
    rw [← here]
    exact List.mem_iff_getElem.mpr ⟨acc.length, by simp [inWords, inside], by simp⟩
  rw [holds.2 _ place, List.length_append, List.length_singleton, List.take_succ_eq_append_getElem
    inside, ← clean]

theorem step {memory : Memory} {completed : Nat} {writer : MemoryProgram β} {op : MemoryOp}
    {next : op.Answer → MemoryProgram α}
    (here : ReaderAt layout result failed published (memory.load layout.sequence) current
      (.call op next))
    (other : WriterAt layout memory published completed writer) (latest : current completed) :
    (op.apply memory).2 = memory ∧
      ReaderAt layout result failed published (memory.load layout.sequence) current
        (next (op.apply memory).1) := by
  generalize shape : Program.call op next = program at here
  cases here with
  | finished => cases shape
  | attempting n =>
      cases n with
      | zero => cases shape
      | succ n =>
          cases shape
          refine ⟨rfl, ?_⟩
          simp only [MemoryOp.apply_load, Program.bind_eq, Program.done_bind, load_sequence_mod]
          split_ifs with empty even
          · exact .attempting 0
          · obtain ⟨value, holds⟩ := other.latest_of_even even
            obtain ⟨k, rfl⟩ : ∃ k, completed = k + 1 := ⟨completed - 1, by omega⟩
            have inside : k < published.length := other.completed_le
            rw [value]
            refine .reading n k published[k] [] [] layout.words rfl rfl ?_ le_rfl latest
              fun _ => rfl
            exact List.getElem?_eq_getElem inside
          · exact .attempting n
  | reading n k values acc front back split copied found behind seen clean =>
      cases back with
      | nil =>
          cases shape
          refine ⟨rfl, ?_⟩
          simp only [MemoryOp.apply_load, Program.bind_eq, Program.done_bind, load_sequence_mod,
            List.append_nil]
          split_ifs with same
          · have full : values.length ≤ acc.length := by
              obtain ⟨value, holds⟩ := other.latest_of_even (by omega)
              have last : (published.take completed).getLast? = some values := by
                rw [List.getLast?_take, if_neg (by omega),
                  show completed - 1 = k by omega, found]
                rfl
              rw [copied, (holds values last).1, split, List.append_nil]
            rw [clean same, List.take_of_length_le full]
            exact .finished k values found seen
          · exact .attempting n
      | cons word rest =>
          cases shape
          refine ⟨rfl, ?_⟩
          have grown : memory.load layout.sequence = 2 * (k + 1) → acc ++ [memory.load word] =
              values.take (acc ++ [memory.load word]).length := by
            intro still
            obtain ⟨value, holds⟩ := other.latest_of_even (by omega)
            have last : (published.take completed).getLast? = some values := by
              rw [List.getLast?_take, if_neg (by omega), show completed - 1 = k by omega, found]
              rfl
            exact copied_word split copied (holds values last) (clean still)
          have there : layout.ReaderAt result failed published (memory.load layout.sequence) current
              (loadAll rest >>= fun later => layout.validate result
                (layout.attempts result failed n) (2 * (k + 1))
                (acc ++ [memory.load word] ++ later)) :=
            .reading n k values (acc ++ [memory.load word]) (front ++ [word]) rest
              (by simpa using split) (by simp [copied]) found behind seen grown
          simpa using there

end ReaderAt
end SeqlockLayout
end Phase4.Library
