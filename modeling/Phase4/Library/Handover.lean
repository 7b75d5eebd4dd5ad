import Mathlib

namespace Phase4.Library

variable {Party Item Duty : Type*}

/-! ## Handover

Items pass one at a time through a slot that many parties share. Whoever takes an item out of
the slot has duties to perform on it, in order, and keeps it in hand until the last is done. -/

inductive Deed (Party Duty : Type*) where
  | put
  | took (party : Party)
  | did (party : Party) (duty : Duty)
deriving DecidableEq

@[ext]
structure Handover (Party Item Duty : Type*) where
  slot : Option Item
  /-- The item a party has taken, with what is left to do on it. -/
  hand : Party → Option (Item × List Duty)
  history : Item → List (Deed Party Duty)

namespace Handover

def keep (item : Item) : List Duty → Option (Item × List Duty)
  | [] => none
  | duty :: rest => some (item, duty :: rest)

section
variable [DecidableEq Party] [DecidableEq Item]

def put (state : Handover Party Item Duty) (item : Item) : Handover Party Item Duty :=
  { state with
    slot := some item
    history := Function.update state.history item [.put] }

def take (duties : Party → List Duty) (state : Handover Party Item Duty) (party : Party)
    (item : Item) : Handover Party Item Duty where
  slot := none
  hand := Function.update state.hand party (keep item (duties party))
  history := Function.update state.history item (state.history item ++ [.took party])

def perform (state : Handover Party Item Duty) (party : Party) (item : Item) (duty : Duty)
    (rest : List Duty) : Handover Party Item Duty :=
  { state with
    hand := Function.update state.hand party (keep item rest)
    history := Function.update state.history item (state.history item ++ [.did party duty]) }

inductive Step (duties : Party → List Duty) (state : Handover Party Item Duty) :
    Handover Party Item Duty → Prop where
  | stay : Step duties state state
  | put {item : Item} (empty : state.slot = none) (fresh : state.history item = []) :
      Step duties state (state.put item)
  | take {party : Party} {item : Item} (stored : state.slot = some item)
      (free : state.hand party = none) : Step duties state (state.take duties party item)
  | perform {party : Party} {item : Item} {duty : Duty} {rest : List Duty}
      (held : state.hand party = some (item, duty :: rest)) :
      Step duties state (state.perform party item duty rest)

end

def course (duties : Party → List Duty) (party : Party) : List (Deed Party Duty) :=
  .put :: .took party :: (duties party).map (.did party)

def Held (duties : Party → List Duty) (state : Handover Party Item Duty) (party : Party)
    (item : Item) (rest : List Duty) : Prop :=
  rest ≠ [] ∧ ∃ done, done ++ rest = duties party ∧
    state.history item = .put :: .took party :: done.map (.did party)

/-- Every item is untouched, in the slot, in the hand of the one party that took it, or at
the end of its course. -/
structure Accounted (duties : Party → List Duty) (state : Handover Party Item Duty) : Prop where
  slot : ∀ item, state.slot = some item → state.history item = [.put]
  hand : ∀ party item rest, state.hand party = some (item, rest) → Held duties state party item rest
  settled : ∀ item, state.history item = [] ∨ state.slot = some item ∨
    (∃ party rest, state.hand party = some (item, rest)) ∨
      ∃ party, state.history item = course duties party

section
variable {duties : Party → List Duty} {state : Handover Party Item Duty}

theorem keep_eq_some {item other : Item} {rest left : List Duty} :
    keep item rest = some (other, left) ↔ item = other ∧ rest = left ∧ left ≠ [] := by
  cases rest with
  | nil =>
      simp only [keep, reduceCtorEq, false_iff]
      rintro ⟨_, rfl, nonempty⟩
      exact nonempty rfl
  | cons duty rest =>
      simp only [keep, Option.some.injEq, Prod.mk.injEq]
      constructor
      · rintro ⟨same, rfl⟩
        exact ⟨same, rfl, by simp⟩
      · rintro ⟨same, rfl, _⟩
        exact ⟨same, rfl⟩

theorem Held.history_ne {party : Party} {item : Item} {rest : List Duty}
    (held : Held duties state party item rest) : state.history item ≠ [] := by
  obtain ⟨_, done, _, history⟩ := held
  simp [history]

theorem Held.history_ne_put {party : Party} {item : Item} {rest : List Duty}
    (held : Held duties state party item rest) : state.history item ≠ [.put] := by
  obtain ⟨_, done, _, history⟩ := held
  simp [history]

theorem Step.history_mono [DecidableEq Party] [DecidableEq Item]
    {next : Handover Party Item Duty} (moved : Step duties state next) {item : Item}
    {deed : Deed Party Duty} (member : deed ∈ state.history item) : deed ∈ next.history item := by
  cases moved with
  | stay => exact member
  | @put other empty fresh =>
      have apart : item ≠ other := by
        rintro rfl
        simp [fresh] at member
      simpa [Handover.put, apart] using member
  | @take party other stored free =>
      by_cases same : item = other
      · simpa [Handover.take, same] using .inl (same ▸ member)
      · simpa [Handover.take, same] using member
  | @perform party other duty rest held =>
      by_cases same : item = other
      · simpa [Handover.perform, same] using .inl (same ▸ member)
      · simpa [Handover.perform, same] using member

namespace Accounted

theorem holder_unique (accounted : Accounted duties state) {party other : Party} {item : Item}
    {rest left : List Duty} (here : state.hand party = some (item, rest))
    (there : state.hand other = some (item, left)) : party = other := by
  obtain ⟨_, _, _, first⟩ := accounted.hand party item rest here
  obtain ⟨_, _, _, second⟩ := accounted.hand other item left there
  rw [first] at second
  simp only [List.cons.injEq, Deed.took.injEq] at second
  exact second.2.1

theorem hand_not_slot (accounted : Accounted duties state) {party : Party} {item : Item}
    {rest : List Duty} (held : state.hand party = some (item, rest)) : state.slot ≠ some item :=
  fun stored => (accounted.hand party item rest held).history_ne_put (accounted.slot item stored)

theorem put [DecidableEq Item] (accounted : Accounted duties state) {item : Item}
    (empty : state.slot = none) (fresh : state.history item = []) :
    Accounted duties (state.put item) := by
  constructor
  · rintro other ⟨⟩
    simp [Handover.put]
  · intro party other rest held
    obtain ⟨left, done, split, history⟩ := accounted.hand party other rest held
    have apart : other ≠ item := by
      rintro rfl
      simp [fresh] at history
    exact ⟨left, done, split, by simpa [Handover.put, apart] using history⟩
  · intro other
    by_cases same : other = item
    · exact .inr (.inl (by rw [same]; rfl))
    · have before := accounted.settled other
      simp only [empty, reduceCtorEq, false_or] at before
      simpa [Handover.put, same, Ne.symm same] using before

theorem take [DecidableEq Party] [DecidableEq Item] (accounted : Accounted duties state)
    (some_duty : ∀ party, duties party ≠ []) {party : Party} {item : Item}
    (stored : state.slot = some item) (free : state.hand party = none) :
    Accounted duties (state.take duties party item) := by
  have history := accounted.slot item stored
  constructor
  · rintro other ⟨⟩
  · intro holder other rest held
    by_cases same : holder = party
    · subst same
      simp only [Handover.take, Function.update_self, keep_eq_some] at held
      obtain ⟨rfl, rfl, left⟩ := held
      exact ⟨left, [], rfl, by simp [Handover.take, history]⟩
    · simp only [Handover.take, ne_eq, same, not_false_eq_true, Function.update_of_ne] at held
      have apart : other ≠ item := by
        rintro rfl
        exact accounted.hand_not_slot held stored
      obtain ⟨left, done, split, history⟩ := accounted.hand holder other rest held
      exact ⟨left, done, split, by simpa [Handover.take, apart] using history⟩
  · intro other
    by_cases same : other = item
    · subst same
      refine .inr (.inr (.inl ⟨party, duties party, ?_⟩))
      simp [Handover.take, keep_eq_some, some_duty party]
    · rcases accounted.settled other with fresh | slot | ⟨holder, rest, held⟩ | ended
      · exact .inl (by simpa [Handover.take, same] using fresh)
      · exact absurd (Option.some.inj (slot.symm.trans stored)) same
      · have apart : holder ≠ party := by
          rintro rfl
          simp [free] at held
        exact .inr (.inr (.inl ⟨holder, rest, by simpa [Handover.take, apart] using held⟩))
      · exact .inr (.inr (.inr (by simpa [Handover.take, same] using ended)))

theorem perform [DecidableEq Party] [DecidableEq Item] (accounted : Accounted duties state)
    {party : Party} {item : Item} {duty : Duty} {rest : List Duty}
    (held : state.hand party = some (item, duty :: rest)) :
    Accounted duties (state.perform party item duty rest) := by
  obtain ⟨_, done, split, history⟩ := accounted.hand party item _ held
  have later : state.history item ++ [.did party duty] =
      .put :: .took party :: (done ++ [duty]).map (.did party) := by
    simp [history]
  have splits : (done ++ [duty]) ++ rest = duties party := by simpa using split
  constructor
  · intro other stored
    have apart : other ≠ item := by
      rintro rfl
      exact accounted.hand_not_slot held stored
    simpa [Handover.perform, apart] using accounted.slot other stored
  · intro holder other left holds
    by_cases same : holder = party
    · subst same
      simp only [Handover.perform, Function.update_self, keep_eq_some] at holds
      obtain ⟨rfl, rfl, left⟩ := holds
      exact ⟨left, done ++ [duty], splits, by simpa [Handover.perform] using later⟩
    · simp only [Handover.perform, ne_eq, same, not_false_eq_true, Function.update_of_ne] at holds
      have apart : other ≠ item := by
        rintro rfl
        exact same (accounted.holder_unique holds held)
      obtain ⟨left, done, split, history⟩ := accounted.hand holder other left holds
      exact ⟨left, done, split, by simpa [Handover.perform, apart] using history⟩
  · intro other
    by_cases same : other = item
    · subst same
      cases rest with
      | nil =>
          refine .inr (.inr (.inr ⟨party, ?_⟩))
          simpa [Handover.perform, course, ← splits] using later
      | cons following rest =>
          exact .inr (.inr (.inl ⟨party, following :: rest, by simp [Handover.perform, keep]⟩))
    · rcases accounted.settled other with fresh | stored | ⟨holder, left, holds⟩ | ended
      · exact .inl (by simpa [Handover.perform, same] using fresh)
      · exact .inr (.inl stored)
      · have apart : holder ≠ party := by
          rintro rfl
          rw [held] at holds
          cases holds
          exact same rfl
        exact .inr (.inr (.inl ⟨holder, left, by simpa [Handover.perform, apart] using holds⟩))
      · exact .inr (.inr (.inr (by simpa [Handover.perform, same] using ended)))

/-- One party at most takes an item, and only that party acts on it, in the order of its
duties. -/
theorem history_prefix [Nonempty Party] (accounted : Accounted duties state) (item : Item) :
    ∃ party, state.history item <+: course duties party := by
  rcases accounted.settled item with fresh | stored | ⟨party, rest, held⟩ | ⟨party, ended⟩
  · exact ⟨Classical.arbitrary Party, by simp [fresh]⟩
  · exact ⟨Classical.arbitrary Party, by simp [accounted.slot item stored, course]⟩
  · obtain ⟨_, done, split, history⟩ := accounted.hand party item rest held
    refine ⟨party, ?_⟩
    rw [history, course, ← split, List.map_append]
    exact ⟨rest.map (.did party), rfl⟩
  · exact ⟨party, by rw [ended]⟩

theorem taken_cases (accounted : Accounted duties state) (item : Item) :
    (∀ party, .took party ∉ state.history item ∧ ∀ duty, .did party duty ∉ state.history item) ∨
      ∃ party done, done <+: duties party ∧
        state.history item = .put :: .took party :: done.map (.did party) := by
  rcases accounted.settled item with fresh | stored | ⟨party, rest, held⟩ | ⟨party, ended⟩
  · exact .inl (by simp [fresh])
  · exact .inl (by simp [accounted.slot item stored])
  · obtain ⟨_, done, split, history⟩ := accounted.hand party item rest held
    exact .inr ⟨party, done, ⟨rest, split⟩, history⟩
  · exact .inr ⟨party, duties party, List.prefix_rfl, ended⟩

theorem took_of_did (accounted : Accounted duties state) {party : Party} {item : Item}
    {duty : Duty} (did : .did party duty ∈ state.history item) :
    duty ∈ duties party ∧ .took party ∈ state.history item ∧
      ∀ other, .took other ∈ state.history item → other = party := by
  rcases accounted.taken_cases item with untaken | ⟨taker, done, part, history⟩
  · exact absurd did ((untaken party).2 duty)
  · rw [history] at did ⊢
    simp only [List.mem_cons, reduceCtorEq, List.mem_map, Deed.did.injEq, false_or] at did
    obtain ⟨_, member, rfl, rfl⟩ := did
    exact ⟨part.subset member, by simp, by simp⟩

variable [DecidableEq Party] [DecidableEq Item]

theorem step {next : Handover Party Item Duty} (some_duty : ∀ party, duties party ≠ [])
    (accounted : Accounted duties state) (moved : Step duties state next) :
    Accounted duties next := by
  cases moved with
  | stay => exact accounted
  | @put item empty fresh => exact accounted.put empty fresh
  | @take party item stored free => exact accounted.take some_duty stored free
  | @perform party item duty rest held => exact accounted.perform held

end Accounted
end
end Handover
end Phase4.Library
