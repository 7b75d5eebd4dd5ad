import Phase4.Library.Schedule

namespace Phase4.Library

variable {State Action : Type*}

/-! ## Rounds

In a round every thread gets its turn, in any order. A thread whose action is not enabled
waits, and others may go more than once. -/

def attempt (step : State → Action → Option State) (state : State) (action : Action) : State :=
  (step state action).getD state

def attemptAll (step : State → Action → Option State) (state : State) (round : List Action) :
    State :=
  round.foldl (attempt step) state

def attemptRounds (step : State → Action → Option State) (state : State)
    (rounds : List (List Action)) : State :=
  rounds.foldl (attemptAll step) state

/-- Each round serves everybody there is when it begins. -/
def Fair (step : State → Action → Option State) (serves : State → List Action → Prop) :
    State → List (List Action) → Prop
  | _, [] => True
  | state, round :: rest => serves state round ∧ Fair step serves (attemptAll step state round) rest

section
variable {step : State → Action → Option State} {state next : State} {action : Action}

theorem attemptAll_blocked (blocked : step state action = none) (rest : List Action) :
    attemptAll step state (action :: rest) = attemptAll step state rest := by
  rw [attemptAll, List.foldl_cons, attempt, blocked]
  rfl

theorem attemptAll_moved (moved : step state action = some next) (rest : List Action) :
    attemptAll step state (action :: rest) = attemptAll step next rest := by
  rw [attemptAll, List.foldl_cons, attempt, moved]
  rfl

theorem attemptRounds_take_drop (start : State) (rounds : List (List Action)) (count : Nat) :
    attemptRounds step start rounds =
      attemptRounds step (attemptRounds step start (rounds.take count)) (rounds.drop count) := by
  conv_lhs => rw [← List.take_append_drop count rounds]
  exact List.foldl_append

end

/-- Allowed actions keep what `holds`. Each brings the state closer, or leaves the distance and
every useful action as they are. -/
structure Approaches (step : State → Action → Option State) (holds : State → Prop)
    (allowed : Action → Prop) (useful : State → Action → Prop) (distance : State → Nat) : Prop where
  kept : ∀ state action next, holds state → allowed action → step state action = some next →
    holds next
  closer : ∀ state action next, holds state → allowed action → step state action = some next →
    distance next < distance state ∨
      distance next = distance state ∧ ∀ other, useful state other → useful next other
  advances : ∀ state action, holds state → useful state action →
    ∃ next, step state action = some next ∧ distance next < distance state

namespace Approaches
variable {step : State → Action → Option State} {holds ended : State → Prop}
  {allowed : Action → Prop} {useful : State → Action → Prop} {distance : State → Nat}

theorem attemptAll_le (approaches : Approaches step holds allowed useful distance)
    (round : List Action) (may : ∀ action ∈ round, allowed action) {state : State}
    (here : holds state) : holds (attemptAll step state round) ∧
      distance (attemptAll step state round) ≤ distance state := by
  induction round generalizing state with
  | nil => exact ⟨here, le_rfl⟩
  | cons action rest ih =>
      obtain ⟨first, later⟩ := List.forall_mem_cons.mp may
      cases moved : step state action with
      | none =>
          rw [attemptAll_blocked moved]
          exact ih later here
      | some next =>
          rw [attemptAll_moved moved]
          obtain ⟨there, less⟩ := ih later (approaches.kept state action next here first moved)
          have near := approaches.closer state action next here first moved
          exact ⟨there, less.trans (near.elim le_of_lt fun same => same.1.le)⟩

theorem attemptAll_lt (approaches : Approaches step holds allowed useful distance)
    (round : List Action) (may : ∀ action ∈ round, allowed action) {state : State}
    (here : holds state) {action : Action} (served : action ∈ round)
    (helps : useful state action) : distance (attemptAll step state round) < distance state := by
  induction round generalizing state with
  | nil => cases served
  | cons first rest ih =>
      obtain ⟨mayFirst, later⟩ := List.forall_mem_cons.mp may
      obtain ⟨advanced, enabled, nearer⟩ := approaches.advances state action here helps
      cases moved : step state first with
      | none =>
          rw [attemptAll_blocked moved]
          have apart : action ≠ first := by
            rintro rfl
            rw [moved] at enabled
            cases enabled
          exact ih later here ((List.mem_cons.mp served).resolve_left apart) helps
      | some next =>
          rw [attemptAll_moved moved]
          have there := approaches.kept state first next here mayFirst moved
          rcases approaches.closer state first next here mayFirst moved with less | ⟨same, still⟩
          · exact (approaches.attemptAll_le rest later there).2.trans_lt less
          · have apart : action ≠ first := by
              rintro rfl
              rw [moved] at enabled
              cases enabled
              omega
            rw [← same]
            exact ih later there ((List.mem_cons.mp served).resolve_left apart) (still action helps)

theorem attemptAll_ended (approaches : Approaches step holds allowed useful distance)
    (stays : ∀ state action next, holds state → ended state → allowed action →
      step state action = some next → ended next)
    (round : List Action) (may : ∀ action ∈ round, allowed action) {state : State}
    (here : holds state) (finished : ended state) : ended (attemptAll step state round) := by
  induction round generalizing state with
  | nil => exact finished
  | cons action rest ih =>
      obtain ⟨first, later⟩ := List.forall_mem_cons.mp may
      cases moved : step state action with
      | none =>
          rw [attemptAll_blocked moved]
          exact ih later here finished
      | some next =>
          rw [attemptAll_moved moved]
          exact ih later (approaches.kept state action next here first moved)
            (stays state action next here finished first moved)

theorem attemptRounds_ended (approaches : Approaches step holds allowed useful distance)
    (stays : ∀ state action next, holds state → ended state → allowed action →
      step state action = some next → ended next)
    (rounds : List (List Action)) (may : ∀ round ∈ rounds, ∀ action ∈ round, allowed action)
    {state : State} (here : holds state) (finished : ended state) :
    holds (attemptRounds step state rounds) ∧ ended (attemptRounds step state rounds) := by
  induction rounds generalizing state with
  | nil => exact ⟨here, finished⟩
  | cons round rest ih =>
      obtain ⟨own, later⟩ := List.forall_mem_cons.mp may
      exact ih later (approaches.attemptAll_le round own here).1
        (approaches.attemptAll_ended stays round own here finished)

/-- If serving everybody helps until the end, it is reached after no more rounds than the
distance, also when it does not last. -/
theorem reaches (approaches : Approaches step holds allowed useful distance)
    {serves : State → List Action → Prop}
    (helped : ∀ state round, holds state → ¬ended state → serves state round →
      ∃ action ∈ round, useful state action)
    (rounds : List (List Action)) (may : ∀ round ∈ rounds, ∀ action ∈ round, allowed action)
    {start : State} (fair : Fair step serves start rounds) (here : holds start)
    (enough : distance start < rounds.length) :
    ∃ count ≤ distance start, holds (attemptRounds step start (rounds.take count)) ∧
      ended (attemptRounds step start (rounds.take count)) := by
  induction rounds generalizing start with
  | nil => exact absurd enough (Nat.not_lt_zero _)
  | cons round rest ih =>
      obtain ⟨own, later⟩ := List.forall_mem_cons.mp may
      obtain ⟨serve, fairLater⟩ := fair
      by_cases finished : ended start
      · exact ⟨0, Nat.zero_le _, here, finished⟩
      · obtain ⟨action, served, helps⟩ := helped start round here finished serve
        have nearer := approaches.attemptAll_lt round own here served helps
        rw [List.length_cons] at enough
        obtain ⟨count, few, holding, reached⟩ :=
          ih later fairLater (approaches.attemptAll_le round own here).1 (by omega)
        exact ⟨count + 1, by omega, holding, reached⟩

/-- What lasts once it is reached holds after more rounds than the distance. -/
theorem ends (approaches : Approaches step holds allowed useful distance)
    (stays : ∀ state action next, holds state → ended state → allowed action →
      step state action = some next → ended next)
    {serves : State → List Action → Prop}
    (helped : ∀ state round, holds state → ¬ended state → serves state round →
      ∃ action ∈ round, useful state action)
    (rounds : List (List Action)) (may : ∀ round ∈ rounds, ∀ action ∈ round, allowed action)
    {start : State} (fair : Fair step serves start rounds) (here : holds start)
    (enough : distance start < rounds.length) :
    holds (attemptRounds step start rounds) ∧ ended (attemptRounds step start rounds) := by
  obtain ⟨count, _, holding, reached⟩ := approaches.reaches helped rounds may fair here enough
  rw [attemptRounds_take_drop start rounds count]
  exact approaches.attemptRounds_ended stays (rounds.drop count)
    (fun round member => may round (List.mem_of_mem_drop member)) holding reached

end Approaches
end Phase4.Library
