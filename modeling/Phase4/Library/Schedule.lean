import Mathlib

namespace Phase4.Library

variable {State Action : Type*}

/-! ## Schedules

A concurrent system is a partial step function. A schedule lists the actions in the order
they happen, and a position in the schedule is an instant of the run. -/

/-- The state a schedule reaches, `none` when one of its actions is not enabled. -/
def exec (step : State → Action → Option State) : State → List Action → Option State
  | state, [] => some state
  | state, action :: rest => (step state action).bind fun next => exec step next rest

def AllSteps (step : State → Action → Option State) (law : State → Action → State → Prop) :
    State → List Action → Prop
  | _, [] => True
  | state, action :: rest => ∀ next, step state action = some next →
      law state action next ∧ AllSteps step law next rest

instance decidableAllSteps {step : State → Action → Option State}
    {law : State → Action → State → Prop}
    [∀ state action next, Decidable (law state action next)] :
    (state : State) → (schedule : List Action) → Decidable (AllSteps step law state schedule)
  | _, [] => .isTrue trivial
  | state, action :: rest =>
      match moved : step state action with
      | none => .isTrue fun next enabled => by simp [moved] at enabled
      | some next =>
          have : Decidable (AllSteps step law next rest) := decidableAllSteps next rest
          decidable_of_iff (law state action next ∧ AllSteps step law next rest) (by
            simp [AllSteps, moved])

section
variable {step : State → Action → Option State} {law : State → Action → State → Prop}

theorem exec_append (state : State) (before after : List Action) :
    exec step state (before ++ after) =
      (exec step state before).bind fun middle => exec step middle after := by
  induction before generalizing state with
  | nil => rfl
  | cons action rest ih =>
      cases h : step state action with
      | none => simp [exec, h]
      | some next => simpa [exec, h] using ih next

theorem exec_snoc (state : State) (before : List Action) (action : Action) :
    exec step state (before ++ [action]) =
      (exec step state before).bind fun middle => step middle action := by
  rw [exec_append]
  congr 1
  funext middle
  cases h : step middle action <;> simp [exec, h]

theorem exec_snoc_some {state last : State} {before : List Action} {action : Action}
    (run : exec step state (before ++ [action]) = some last) :
    ∃ middle, exec step state before = some middle ∧ step middle action = some last := by
  rw [exec_snoc] at run
  exact Option.bind_eq_some_iff.mp run

theorem exec_take {state last : State} {schedule : List Action}
    (run : exec step state schedule = some last) (n : Nat) :
    ∃ middle, exec step state (schedule.take n) = some middle := by
  rw [← List.take_append_drop n schedule, exec_append] at run
  obtain ⟨middle, reached, _⟩ := Option.bind_eq_some_iff.mp run
  exact ⟨middle, reached⟩

theorem exec_induction {start : State} {motive : List Action → State → Prop}
    (base : motive [] start)
    (advance : ∀ before state action next, exec step start before = some state →
      motive before state → step state action = some next → motive (before ++ [action]) next)
    (schedule : List Action) (last : State) (run : exec step start schedule = some last) :
    motive schedule last := by
  induction schedule using List.reverseRecOn generalizing last with
  | nil =>
      cases run
      exact base
  | append_singleton before action ih =>
      obtain ⟨middle, reached, moved⟩ := exec_snoc_some run
      exact advance before middle action last reached (ih middle reached) moved

theorem exec_invariant {start : State} {motive : State → Prop} (base : motive start)
    (preserved : ∀ state action next, motive state → step state action = some next →
      motive next)
    {schedule : List Action} {last : State} (run : exec step start schedule = some last) :
    motive last :=
  exec_induction (motive := fun _ state => motive state) base
    (fun _ state action next _ holds moved => preserved state action next holds moved)
    schedule last run

theorem exec_ends {holds ended : State → Prop} (distance : State → Nat)
    (closer : ∀ state action, holds state → ¬ended state →
      ∃ next, step state action = some next ∧ holds next ∧ distance next < distance state)
    (actions : Nat → Action) {start : State} (initial : holds start) :
    ∃ count ≤ distance start, ∃ last,
      exec step start ((List.range count).map actions) = some last ∧ ended last := by
  generalize bound : distance start = n
  induction n using Nat.strong_induction_on generalizing start actions with
  | h n ih =>
      by_cases here : ended start
      · exact ⟨0, Nat.zero_le _, start, rfl, here⟩
      · obtain ⟨next, moved, kept, less⟩ := closer start (actions 0) initial here
        obtain ⟨count, few, last, run, there⟩ :=
          ih (distance next) (bound ▸ less) (fun i => actions (i + 1)) kept rfl
        refine ⟨count + 1, by omega, last, ?_, there⟩
        rw [List.range_succ_eq_map, List.map_cons, List.map_map, exec, moved]
        exact run

theorem exec_simulation {Other : Type*} {other : Other → Action → Option Other}
    {related : State → Other → Prop}
    (simulates : ∀ state partner action next, related state partner →
      step state action = some next → ∃ image, other partner action = some image ∧ related next image)
    {schedule : List Action} {start last : State} {begin : Other} (initial : related start begin)
    (run : exec step start schedule = some last) :
    ∃ image, exec other begin schedule = some image ∧ related last image := by
  induction schedule generalizing start begin with
  | nil =>
      cases run
      exact ⟨begin, rfl, initial⟩
  | cons action rest ih =>
      obtain ⟨next, moved, remaining⟩ := Option.bind_eq_some_iff.mp run
      obtain ⟨middle, stepped, close⟩ := simulates start begin action next initial moved
      obtain ⟨image, reached, final⟩ := ih close remaining
      refine ⟨image, ?_, final⟩
      rw [exec, stepped]
      exact reached

theorem exec_map {Other : Type*} {other : Other → Action → Option Other} (image : State → Other)
    {motive : State → Prop}
    (agrees : ∀ state action, motive state →
      other (image state) action = (step state action).map image)
    (preserved : ∀ state action next, motive state → step state action = some next → motive next)
    {start : State} (base : motive start) (schedule : List Action) :
    exec other (image start) schedule = (exec step start schedule).map image := by
  induction schedule generalizing start with
  | nil => rfl
  | cons action rest ih =>
      rw [exec, exec, agrees start action base]
      cases moved : step start action with
      | none => rfl
      | some next => exact ih (preserved start action next base moved)

theorem allSteps_append (state : State) (before after : List Action) :
    AllSteps step law state (before ++ after) ↔ AllSteps step law state before ∧
      ∀ middle, exec step state before = some middle → AllSteps step law middle after := by
  induction before generalizing state with
  | nil => simp [AllSteps, exec]
  | cons action rest ih =>
      simp only [List.cons_append, AllSteps, exec, ih]
      constructor
      · intro h
        refine ⟨fun next moved => ⟨(h next moved).1, (h next moved).2.1⟩, ?_⟩
        intro middle reached
        obtain ⟨next, moved, run⟩ := Option.bind_eq_some_iff.mp reached
        exact (h next moved).2.2 middle run
      · intro h next moved
        refine ⟨(h.1 next moved).1, (h.1 next moved).2, fun middle run => h.2 middle ?_⟩
        simpa [moved] using run

theorem allSteps_snoc {state middle : State} {before : List Action} {action : Action}
    (reached : exec step state before = some middle) :
    AllSteps step law state (before ++ [action]) ↔ AllSteps step law state before ∧
      ∀ next, step middle action = some next → law middle action next := by
  simp [allSteps_append, reached, AllSteps]

theorem exec_invariant_of_allSteps {start : State} {motive : State → Prop}
    (base : motive start)
    (preserved : ∀ state action next, motive state → law state action next →
      step state action = some next → motive next)
    {schedule : List Action} {last : State} (run : exec step start schedule = some last)
    (lawful : AllSteps step law start schedule) : motive last := by
  refine exec_induction (motive := fun before state =>
    AllSteps step law start before → motive state) (fun _ => base) ?_ schedule last run lawful
  intro before state action next reached ih moved lawful
  obtain ⟨earlier, here⟩ := (allSteps_snoc reached).mp lawful
  exact preserved state action next (ih earlier) (here next moved) moved

theorem allSteps_of_invariant {start : State} {motive : State → Prop}
    {given : State → Action → State → Prop} (base : motive start)
    (preserved : ∀ state action next, motive state → given state action next →
      step state action = some next → law state action next ∧ motive next)
    (schedule : List Action) (lawful : AllSteps step given start schedule) :
    AllSteps step law start schedule := by
  induction schedule generalizing start with
  | nil => trivial
  | cons action rest ih =>
      intro next moved
      obtain ⟨here, later⟩ := lawful next moved
      obtain ⟨holds, kept⟩ := preserved start action next base here moved
      exact ⟨holds, ih kept later⟩

theorem allSteps_congr {start : State} {motive : State → Prop}
    {other : State → Action → State → Prop} (base : motive start)
    (agree : ∀ state action next, motive state → step state action = some next →
      (law state action next ↔ other state action next))
    (preserved : ∀ state action next, motive state → law state action next →
      step state action = some next → motive next) (schedule : List Action) :
    AllSteps step law start schedule ↔ AllSteps step other start schedule := by
  induction schedule generalizing start with
  | nil => exact Iff.rfl
  | cons action rest ih =>
      constructor
      · intro lawful next moved
        obtain ⟨here, later⟩ := lawful next moved
        have kept := preserved start action next base here moved
        exact ⟨(agree start action next base moved).mp here, (ih kept).mp later⟩
      · intro lawful next moved
        obtain ⟨there, later⟩ := lawful next moved
        have here := (agree start action next base moved).mpr there
        exact ⟨here, (ih (preserved start action next base here moved)).mpr later⟩

end
end Phase4.Library
