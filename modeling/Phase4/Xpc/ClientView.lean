import Phase4.Xpc.RunHistory

namespace Phase4.Xpc.ServiceRun
open Library

variable {Port : Type}

/-! ## What a client is told of its runs -/

inductive Notice where
  | started (run : Nat)
  | error (run : Nat)
  | stopped (run : Nat) (reason : Reason)
deriving DecidableEq, Repr

def block (run : Nat) : Reason → List Notice
  | .requested => [.started run, .stopped run .requested]
  | .failed => [.started run, .error run, .stopped run .failed]

/-- The notices are the beginning of what is told of one run after another. -/
def InOrder (notices : List Notice) : Prop :=
  ∃ runs : List (Nat × Reason), notices <+: runs.flatMap fun entry => block entry.1 entry.2

inductive Phase where
  | idle
  | running (run : Nat)
  | failing (run : Nat)
deriving DecidableEq, Repr

def Phase.next : Phase → Notice → Option Phase
  | .idle, .started run => some (.running run)
  | .running run, .error other => if run = other then some (.failing run) else none
  | .running run, .stopped other .requested => if run = other then some .idle else none
  | .failing run, .stopped other .failed => if run = other then some .idle else none
  | _, _ => none

/-- What may still be told of the run that a phase is about. -/
inductive Phase.Tail : Phase → List Notice → Prop where
  | idle : Tail .idle []
  | requested {run : Nat} : Tail (.running run) [.stopped run .requested]
  | error {run : Nat} : Tail (.running run) [.error run, .stopped run .failed]
  | failed {run : Nat} : Tail (.failing run) [.stopped run .failed]

theorem phase_next_cases {phase after : Phase} {notice : Notice}
    (moved : phase.next notice = some after) :
    (∃ run, phase = .idle ∧ notice = .started run ∧ after = .running run) ∨
    (∃ run, phase = .running run ∧ notice = .error run ∧ after = .failing run) ∨
    (∃ run, phase = .running run ∧ notice = .stopped run .requested ∧ after = .idle) ∨
    (∃ run, phase = .failing run ∧ notice = .stopped run .failed ∧ after = .idle) := by
  rw [Phase.next.eq_def] at moved
  split at moved
  next run =>
    cases moved
    exact .inl ⟨run, rfl, rfl, rfl⟩
  next run other =>
    split_ifs at moved with same
    cases moved
    exact .inr (.inl ⟨run, rfl, by rw [same], rfl⟩)
  next run other =>
    split_ifs at moved with same
    cases moved
    exact .inr (.inr (.inl ⟨run, rfl, by rw [same], rfl⟩))
  next run other =>
    split_ifs at moved with same
    cases moved
    exact .inr (.inr (.inr ⟨run, rfl, by rw [same], rfl⟩))
  next => cases moved

theorem exec_phase_iff (notices : List Notice) (phase : Phase) :
    (exec Phase.next phase notices).isSome = true ↔
      ∃ tail, phase.Tail tail ∧ ∃ runs : List (Nat × Reason),
        notices <+: tail ++ runs.flatMap fun entry => block entry.1 entry.2 := by
  induction notices generalizing phase with
  | nil =>
      simp only [exec, Option.isSome_some, List.nil_prefix, exists_const, and_true, true_iff]
      cases phase with
      | idle => exact ⟨_, .idle⟩
      | running run => exact ⟨_, .requested⟩
      | failing run => exact ⟨_, .failed⟩
  | cons notice rest ih =>
      constructor
      · intro accepted
        obtain ⟨last, reached⟩ := Option.isSome_iff_exists.mp accepted
        obtain ⟨after, moved, remaining⟩ := Option.bind_eq_some_iff.mp reached
        obtain ⟨tail, may, runs, part⟩ := (ih after).mp (by rw [remaining]; rfl)
        rcases phase_next_cases moved with ⟨run, rfl, rfl, rfl⟩ | ⟨run, rfl, rfl, rfl⟩ |
          ⟨run, rfl, rfl, rfl⟩ | ⟨run, rfl, rfl, rfl⟩
        · cases may with
          | requested => exact ⟨[], .idle, (run, .requested) :: runs, by simpa [block] using part⟩
          | error => exact ⟨[], .idle, (run, .failed) :: runs, by simpa [block] using part⟩
        · cases may
          exact ⟨_, .error, runs, by simpa using part⟩
        · cases may
          exact ⟨_, .requested, runs, by simpa using part⟩
        · cases may
          exact ⟨_, .failed, runs, by simpa using part⟩
      · rintro ⟨tail, may, runs, part⟩
        have onward {after : Phase} (moved : phase.next notice = some after)
            (later : ∃ tail, after.Tail tail ∧ ∃ runs : List (Nat × Reason),
              rest <+: tail ++ runs.flatMap fun entry => block entry.1 entry.2) :
            (exec Phase.next phase (notice :: rest)).isSome = true := by
          rw [exec, moved]
          exact (ih after).mpr later
        cases may with
        | idle =>
            rcases runs with _ | ⟨⟨run, reason⟩, runs⟩
            · simp at part
            · cases reason with
              | requested =>
                  simp only [List.nil_append, List.flatMap_cons, block, List.cons_append,
                    List.cons_prefix_cons] at part
                  obtain ⟨rfl, part⟩ := part
                  exact onward rfl ⟨_, .requested, runs, part⟩
              | failed =>
                  simp only [List.nil_append, List.flatMap_cons, block, List.cons_append,
                    List.cons_prefix_cons] at part
                  obtain ⟨rfl, part⟩ := part
                  exact onward rfl ⟨_, .error, runs, part⟩
        | @requested run =>
            simp only [List.cons_append, List.cons_prefix_cons] at part
            obtain ⟨rfl, part⟩ := part
            exact onward (if_pos rfl) ⟨_, .idle, runs, part⟩
        | @error run =>
            simp only [List.cons_append, List.cons_prefix_cons] at part
            obtain ⟨rfl, part⟩ := part
            exact onward (if_pos rfl) ⟨_, .failed, runs, part⟩
        | @failed run =>
            simp only [List.cons_append, List.cons_prefix_cons] at part
            obtain ⟨rfl, part⟩ := part
            exact onward (if_pos rfl) ⟨_, .idle, runs, part⟩

theorem inOrder_iff (notices : List Notice) :
    InOrder notices ↔ (exec Phase.next .idle notices).isSome = true := by
  rw [exec_phase_iff]
  constructor
  · rintro ⟨runs, part⟩
    exact ⟨[], .idle, runs, part⟩
  · rintro ⟨_, ⟨⟩, runs, part⟩
    exact ⟨runs, part⟩

/-! ## Where the runs of one client are

What matters of the service to the client it serves: the run in the slot, the run whose start is
not answered yet, the run its handler has still to report as stopped, and for each monitor the
run it has still to report, and the one whose error it has reported. -/

@[ext]
structure View where
  slot : Option Nat
  waiting : Option Nat
  tells : Option Nat
  owes : Nat → Option Nat
  erred : Nat → Option Nat

namespace View

inductive Step (view : View) : Option Notice → View → Prop where
  | stay : Step view none view
  | store {run : Nat} (empty : view.slot = none) (answered : view.waiting = none)
      (told : view.tells = none) (fresh : ∀ m, view.owes m ≠ some run) :
      Step view none { view with slot := some run, waiting := some run }
  | take {run : Nat} (stored : view.slot = some run) (answered : view.waiting = none)
      (told : view.tells = none) : Step view none { view with slot := none, tells := some run }
  | detect {m run : Nat} (stored : view.slot = some run) (paid : view.owes m = none)
      (quiet : view.erred m = none) :
      Step view none { view with slot := none, owes := Function.update view.owes m (some run) }
  | start {run : Nat} (here : view.waiting = some run) :
      Step view (some (.started run)) { view with waiting := none }
  | error {m run : Nat} (here : view.owes m = some run) (quiet : view.erred m = none) :
      Step view (some (.error run)) { view with erred := Function.update view.erred m (some run) }
  | requested {run : Nat} (here : view.tells = some run) :
      Step view (some (.stopped run .requested)) { view with tells := none }
  | failed {m run : Nat} (here : view.erred m = some run) :
      Step view (some (.stopped run .failed))
        { view with
          owes := Function.update view.owes m none
          erred := Function.update view.erred m none }

/-- A start is answered only when every earlier run is reported, and an error is reported only
when the start of its run is answered. -/
def Lawful (view : View) : Option Notice → Prop
  | some (.started run) => ∀ m other, view.owes m = some other → other = run
  | some (.error run) => view.waiting ≠ some run
  | _ => True

/-- A run that is started and not yet reported as stopped, and whose start is answered. -/
def Pending (view : View) (run : Nat) : Prop :=
  (view.slot = some run ∨ view.tells = some run ∨ ∃ m, view.owes m = some run) ∧
    view.waiting ≠ some run

structure Exclusive (view : View) : Prop where
  told_slot : ∀ run, view.tells = some run → view.slot ≠ some run
  told_owed : ∀ run m, view.tells = some run → view.owes m ≠ some run
  slot_owed : ∀ run m, view.slot = some run → view.owes m ≠ some run
  owed : ∀ run m n, view.owes m = some run → view.owes n = some run → m = n
  erred : ∀ run m, view.erred m = some run → view.owes m = some run
  waiting : ∀ run, view.waiting = some run → view.tells = none ∧
    (∀ other, view.slot = some other → other = run)

def Tracks (view : View) : Phase → Prop
  | .idle => ∀ run, ¬view.Pending run
  | .running run => view.Pending run ∧ (∀ other, view.Pending other → other = run) ∧
      ∀ m, view.erred m ≠ some run
  | .failing run => view.Pending run ∧ (∀ other, view.Pending other → other = run) ∧
      ∃ m, view.erred m = some run

structure Ordered (view : View) (phase : Phase) : Prop where
  exclusive : view.Exclusive
  /-- The run whose start is not answered is in the slot or detected, without an error event. -/
  unanswered : ∀ run, view.waiting = some run →
    (view.slot = some run ∨ ∃ m, view.owes m = some run) ∧ ∀ m, view.erred m ≠ some run
  tracks : view.Tracks phase

variable {view next : View} {phase : Phase} {notice : Option Notice}

theorem update_some_cases {places : Nat → Option Nat} {m n run other : Nat}
    (here : Function.update places m (some run) n = some other) :
    n = m ∧ other = run ∨ places n = some other := by
  by_cases same : n = m
  · subst same
    rw [Function.update_self] at here
    exact .inl ⟨rfl, (Option.some.inj here).symm⟩
  · rw [Function.update_of_ne same] at here
    exact .inr here

theorem update_none_cases {places : Nat → Option Nat} {m n other : Nat}
    (here : Function.update places m none n = some other) : n ≠ m ∧ places n = some other := by
  have apart : n ≠ m := by
    rintro rfl
    rw [Function.update_self] at here
    cases here
  rw [Function.update_of_ne apart] at here
  exact ⟨apart, here⟩

theorem exclusive_step (exclusive : view.Exclusive) (moved : view.Step notice next) :
    next.Exclusive := by
  obtain ⟨told_slot, told_owed, slot_owed, owed, erred, waiting⟩ := exclusive
  cases moved with
  | stay => exact ⟨told_slot, told_owed, slot_owed, owed, erred, waiting⟩
  | @store run empty answered told fresh =>
      refine ⟨?_, told_owed, ?_, owed, erred, ?_⟩
      · intro other tells
        cases told.symm.trans tells
      · rintro _ m ⟨⟩
        exact fresh m
      · rintro _ ⟨⟩
        exact ⟨told, fun other stored => (Option.some.inj stored).symm⟩
  | @take run stored answered told =>
      refine ⟨?_, ?_, ?_, owed, erred, ?_⟩
      · rintro other - ⟨⟩
      · rintro _ m ⟨⟩
        exact slot_owed run m stored
      · rintro other m ⟨⟩
      · intro other waits
        cases answered.symm.trans waits
  | @detect m run stored paid quiet =>
      refine ⟨?_, ?_, ?_, ?_, ?_, ?_⟩
      · rintro other - ⟨⟩
      · intro other n tells owes
        rcases update_some_cases owes with ⟨rfl, rfl⟩ | owes
        · exact told_slot _ tells stored
        · exact told_owed other n tells owes
      · rintro other n ⟨⟩
      · intro other n k one two
        rcases update_some_cases one with ⟨rfl, rfl⟩ | earlier
        · rcases update_some_cases two with ⟨rfl, -⟩ | later
          · rfl
          · exact absurd later (slot_owed _ k stored)
        · rcases update_some_cases two with ⟨rfl, rfl⟩ | later
          · exact absurd earlier (slot_owed _ n stored)
          · exact owed other n k earlier later
      · intro other n errs
        have owes := erred other n errs
        have apart : n ≠ m := by
          rintro rfl
          cases paid.symm.trans owes
        exact (Function.update_of_ne apart ..).trans owes
      · intro other waits
        refine ⟨(waiting other waits).1, ?_⟩
        rintro _ ⟨⟩
  | start here =>
      refine ⟨told_slot, told_owed, slot_owed, owed, erred, ?_⟩
      rintro _ ⟨⟩
  | @error m run here quiet =>
      refine ⟨told_slot, told_owed, slot_owed, owed, ?_, waiting⟩
      intro other n errs
      rcases update_some_cases errs with ⟨rfl, rfl⟩ | errs
      · exact here
      · exact erred other n errs
  | requested here =>
      refine ⟨?_, ?_, slot_owed, owed, erred, ?_⟩
      · rintro _ ⟨⟩
      · rintro _ _ ⟨⟩
      · exact fun other waits => ⟨rfl, (waiting other waits).2⟩
  | @failed m run here =>
      refine ⟨told_slot, ?_, ?_, ?_, ?_, waiting⟩
      · exact fun other n tells owes => told_owed other n tells (update_none_cases owes).2
      · exact fun other n stored owes => slot_owed other n stored (update_none_cases owes).2
      · intro other n k one two
        exact owed other n k (update_none_cases one).2 (update_none_cases two).2
      · intro other n errs
        obtain ⟨apart, errs⟩ := update_none_cases errs
        exact (Function.update_of_ne apart ..).trans (erred other n errs)

theorem Tracks.kept (tracks : view.Tracks phase) (pending : ∀ run, next.Pending run ↔ view.Pending run)
    (erred : next.erred = view.erred) : next.Tracks phase := by
  cases phase <;> simpa only [Tracks, pending, erred] using tracks

theorem Tracks.running (tracks : view.Tracks phase) {run : Nat} (pending : view.Pending run)
    (quiet : ∀ m, view.erred m ≠ some run) : phase = .running run := by
  cases phase with
  | idle => exact absurd pending (tracks run)
  | running other => rw [tracks.2.1 run pending]
  | failing other =>
      obtain ⟨_, only, m, erred⟩ := tracks
      exact absurd (only run pending ▸ erred) (quiet m)

theorem Tracks.failing (tracks : view.Tracks phase) {run m : Nat} (pending : view.Pending run)
    (erred : view.erred m = some run) : phase = .failing run := by
  cases phase with
  | idle => exact absurd pending (tracks run)
  | running other =>
      obtain ⟨_, only, quiet⟩ := tracks
      exact absurd (only run pending ▸ erred) (quiet m)
  | failing other => rw [tracks.2.1 run pending]

theorem exists_update_some {places : Nat → Option Nat} {m run other : Nat}
    (empty : places m = none) :
    (∃ n, Function.update places m (some run) n = some other) ↔
      other = run ∨ ∃ n, places n = some other := by
  constructor
  · rintro ⟨n, here⟩
    exact (update_some_cases here).imp And.right fun earlier => ⟨n, earlier⟩
  · rintro (rfl | ⟨n, here⟩)
    · exact ⟨m, by simp⟩
    · have apart : n ≠ m := by
        rintro rfl
        simp [empty] at here
      exact ⟨n, by simpa [apart] using here⟩

theorem exists_update_none {places : Nat → Option Nat} {m run other : Nat}
    (here : places m = some run) (unique : ∀ n, places n = some run → n = m) :
    (∃ n, Function.update places m none n = some other) ↔
      other ≠ run ∧ ∃ n, places n = some other := by
  constructor
  · rintro ⟨n, there⟩
    obtain ⟨apart, earlier⟩ := update_none_cases there
    refine ⟨?_, n, earlier⟩
    rintro rfl
    exact apart (unique n earlier)
  · rintro ⟨apart, n, there⟩
    have other_place : n ≠ m := by
      rintro rfl
      exact apart (Option.some.inj (there.symm.trans here))
    exact ⟨n, by simpa [other_place] using there⟩

/-- While the law holds the notices stay in order, and the first step against it breaks it. -/
theorem ordered_step (ordered : view.Ordered phase) (moved : view.Step notice next) :
    (view.Lawful notice → ∃ after, exec Phase.next phase notice.toList = some after ∧
      next.Ordered after) ∧
    (¬view.Lawful notice → exec Phase.next phase notice.toList = none) := by
  have exclusive := exclusive_step ordered.exclusive moved
  obtain ⟨⟨told_slot, told_owed, slot_owed, owed, erred, waiting⟩, unanswered, tracks⟩ := ordered
  cases moved with
  | stay =>
      exact ⟨fun _ => ⟨phase, rfl, exclusive, unanswered, tracks⟩,
        fun unlawful => absurd trivial unlawful⟩
  | store empty answered told fresh =>
      refine ⟨fun _ => ⟨phase, rfl, exclusive, ?_, tracks.kept ?_ rfl⟩,
        fun unlawful => absurd trivial unlawful⟩
      · grind
      · grind [Pending]
  | take stored answered told =>
      refine ⟨fun _ => ⟨phase, rfl, exclusive, ?_, tracks.kept ?_ rfl⟩,
        fun unlawful => absurd trivial unlawful⟩
      · grind
      · grind [Pending]
  | @detect m run stored paid quiet =>
      have places (other : Nat) := @exists_update_some view.owes m run other paid
      refine ⟨fun _ => ⟨phase, rfl, exclusive, ?_, tracks.kept ?_ rfl⟩,
        fun unlawful => absurd trivial unlawful⟩
      · intro other waits
        simp only [places]
        grind
      · intro other
        simp only [Pending, places]
        grind
  | @start run here =>
      have pending (other : Nat) : Pending { view with waiting := none } other ↔
          other = run ∨ view.Pending other := by
        simp only [Pending]
        grind
      constructor
      · intro lawful
        have before (other : Nat) : ¬view.Pending other := by
          rintro ⟨slot | told | ⟨m, owes⟩, answered⟩
          · exact answered ((waiting run here).2 other slot ▸ here)
          · cases (waiting run here).1.symm.trans told
          · exact answered (lawful m other owes ▸ here)
        have idle : phase = .idle := by
          cases phase with
          | idle => rfl
          | running other | failing other => exact absurd tracks.1 (before other)
        subst idle
        refine ⟨.running run, rfl, exclusive, by simp, (pending run).mpr (.inl rfl), ?_,
          (unanswered run here).2⟩
        intro other pends
        exact ((pending other).mp pends).resolve_right (before other)
      · intro unlawful
        simp only [Lawful, not_forall] at unlawful
        obtain ⟨m, other, owes, apart⟩ := unlawful
        have pends : view.Pending other :=
          ⟨.inr (.inr ⟨m, owes⟩), fun waits => apart (Option.some.inj (waits.symm.trans here))⟩
        cases phase with
        | idle => exact absurd pends (tracks other)
        | running other | failing other => rfl
  | @error m run here quiet =>
      have places (other : Nat) := @exists_update_some view.erred m run other quiet
      have unerred (n : Nat) : view.erred n ≠ some run := by grind
      constructor
      · intro lawful
        have answered : view.waiting ≠ some run := lawful
        have pends : view.Pending run := ⟨.inr (.inr ⟨m, here⟩), answered⟩
        obtain rfl := tracks.running pends unerred
        refine ⟨.failing run, by simp [exec, Phase.next], exclusive, ?_, pends, tracks.2.1,
          (places run).mpr (.inl rfl)⟩
        intro other waits
        refine ⟨(unanswered other waits).1, ?_⟩
        rw [← not_exists, places]
        grind
      · intro unlawful
        simp only [Lawful, ne_eq, not_not] at unlawful
        cases phase with
        | idle | failing other => rfl
        | running other =>
            have apart : other ≠ run := by
              rintro rfl
              exact tracks.1.2 unlawful
            simp [exec, Phase.next, apart]
  | @requested run here =>
      have pending (other : Nat) : Pending { view with tells := none } other ↔
          other ≠ run ∧ view.Pending other := by
        simp only [Pending]
        grind
      have pends : view.Pending run := ⟨.inr (.inl here), by grind⟩
      refine ⟨fun _ => ?_, fun unlawful => absurd trivial unlawful⟩
      obtain rfl := tracks.running pends (by grind)
      refine ⟨.idle, by simp [exec, Phase.next], exclusive, by grind, ?_⟩
      intro other still
      obtain ⟨apart, before⟩ := (pending other).mp still
      exact apart (tracks.2.1 other before)
  | @failed m run here =>
      have owes := erred run m here
      have places (other : Nat) := @exists_update_none view.owes m run other owes
        fun n there => owed run n m there owes
      have pending (other : Nat) : Pending { view with
          owes := Function.update view.owes m none
          erred := Function.update view.erred m none } other ↔ other ≠ run ∧ view.Pending other := by
        simp only [Pending, places]
        grind
      have pends : view.Pending run := ⟨.inr (.inr ⟨m, owes⟩), by grind⟩
      refine ⟨fun _ => ?_, fun unlawful => absurd trivial unlawful⟩
      obtain rfl := tracks.failing pends here
      refine ⟨.idle, by simp [exec, Phase.next], exclusive, ?_, ?_⟩
      · simp only [places]
        grind
      · intro other still
        obtain ⟨apart, before⟩ := (pending other).mp still
        exact apart (tracks.2.1 other before)

end View

/-! ## The service as its client sees it -/

def Message.notice : Message → Option Notice
  | .reply _ (.started run _) => some (.started run)
  | .reply _ _ => none
  | .error run _ => some (.error run)
  | .stopped run reason => some (.stopped run reason)

def State.notices (state : State) (client : Nat) : List Notice :=
  state.sent.filterMap fun entry => if entry.1 = client then entry.2.notice else none

def State.told (state : State) : List Notice := state.sent.filterMap fun entry => entry.2.notice

def Handler.startReply : Handler → Option Nat
  | .replying (.started run _) none => some run
  | _ => none

def Handler.tells : Handler → Option Nat
  | .signalling _ run | .joining _ run | .draining _ run | .replying _ (some run)
  | .reporting run => some run
  | _ => none

def Monitor.errs : Monitor → Option Nat
  | .failing run _ => some run
  | _ => none

def Monitor.erred : Monitor → Option Nat
  | .draining run | .reporting run => some run
  | _ => none

def State.view (state : State) (client : Nat) : View where
  slot := state.run
  waiting := (state.handlers client).startReply
  tells := (state.handlers client).tells
  owes m := (state.monitors m).owes
  erred m := (state.monitors m).erred

def StaysConnected (_ : State) (action : Action Port) (_ : State) : Prop :=
  match action with
  | .deliver _ (.error .invalid) | .deliver _ (.error .terminationImminent) => False
  | _ => True

/-- A successful start is answered only when no monitor has yet to report an earlier run, and the
error of a run is sent only when its start is answered. -/
def AnswersInOrder (state : State) (action : Action Port) (_ : State) : Prop :=
  match action with
  | .handle c _ _ => ∀ run ∈ (state.handlers c).startReply, ∀ m < state.made,
      ∀ other ∈ (state.monitors m).owes, other = run
  | .monitor m => ∀ run ∈ (state.monitors m).errs, ∀ c < state.connections,
      (state.handlers c).startReply ≠ some run
  | _ => True

instance (state : State) (action : Action Port) (next : State) :
    Decidable (StaysConnected state action next) :=
  match action with
  | .deliver _ (.error .invalid) | .deliver _ (.error .terminationImminent) =>
      .isFalse fun connected => connected
  | .accept | .handle _ _ _ | .monitor _ | .engineFails _ _ | .deliver _ (.message _)
  | .deliver _ .oneWay | .deliver _ .other | .deliver _ (.error .interrupted)
  | .deliver _ (.error .other) => .isTrue trivial

instance (state : State) (action : Action Port) (next : State) :
    Decidable (AnswersInOrder state action next) :=
  match action with
  | .handle c _ _ => inferInstanceAs (Decidable (∀ run ∈ (state.handlers c).startReply,
      ∀ m < state.made, ∀ other ∈ (state.monitors m).owes, other = run))
  | .monitor m => inferInstanceAs (Decidable (∀ run ∈ (state.monitors m).errs,
      ∀ c < state.connections, (state.handlers c).startReply ≠ some run))
  | .accept | .deliver _ _ | .engineFails _ _ => .isTrue trivial

def Handler.parting : Handler → Bool
  | .taking .disconnect | .clearing => true
  | .signalling .disconnect _ | .joining .disconnect _ | .draining .disconnect _
  | .closing .disconnect _ => true
  | _ => false

structure Single (state : State) : Prop where
  others : ∀ c, c ≠ 0 → state.handlers c = .idle
  stays : (state.handlers 0).parting = false
  started : ∀ run body stopped, state.handlers 0 = .replying (.started run body) stopped →
    stopped = none
  active : ∀ c, state.status c = .active → c = 0
  peer : state.peer = some 0 ∨ (state.peer = none ∧ state.connections = 0 ∧ state.made = 0)
  sent : ∀ client message, (client, message) ∈ state.sent → client = 0

section
variable {state next : State} {action : Action Port}

theorem mem_of_sent {message other : Message} {client : Nat}
    (sent : next.sent = state.sent ++ state.peer.toList.map fun peer => (peer, other))
    (member : (client, message) ∈ next.sent) :
    (client, message) ∈ state.sent ∨ state.peer = some client := by
  rw [sent] at member
  rcases List.mem_append.mp member with before | now
  · exact .inl before
  · obtain ⟨peer, here, same⟩ := List.mem_map.mp now
    cases same
    exact .inr (by simpa using here)

theorem View.Step.of_eq {view middle after : View} {notice : Option Notice}
    (moved : view.Step notice middle) (same : after = middle) : view.Step notice after :=
  same ▸ moved

theorem hand_of_owes {m run : Nat} (owes : (state.monitors m).owes = some run) :
    ∃ rest, state.handover.hand (.monitor m) = some (run, rest) := by
  cases here : state.monitors m <;> rw [here] at owes <;> cases owes <;>
    exact ⟨_, hand_monitor here⟩

namespace Single

theorem current_of_monitor (single : Single state) (orderly : Orderly state) (m : Nat)
    (spawned : state.monitors m ≠ .unspawned) : state.peer = some 0 := by
  rcases single.peer with here | ⟨_, _, unmade⟩
  · exact here
  · exact absurd (orderly.making.unwatched m (orderly.making.fresh m (by omega))) spawned

theorem busy (single : Single state) {c : Nat} (busy : state.handlers c ≠ .idle) : c = 0 := by
  by_contra other
  exact busy (single.others c other)

theorem current (single : Single state) (known : Known state)
    (busy : state.handlers 0 ≠ .idle) : state.peer = some 0 := by
  rcases single.peer with here | ⟨_, nobody, _⟩
  · exact here
  · exact absurd (known 0 (by omega)).2 busy

theorem client (single : Single state) {client : Nat} (here : state.peer = some client) :
    client = 0 := by
  rcases single.peer with there | ⟨nobody, _⟩
  · exact Option.some.inj (here.symm.trans there)
  · cases nobody.symm.trans here

theorem turn (single : Single state) (current : state.peer = some 0) {point : Handler}
    (stays : point.parting = false)
    (started : ∀ run body stopped, point = .replying (.started run body) stopped → stopped = none)
    (handlers : next.handlers = Function.update state.handlers 0 point)
    (status : next.status = state.status) (peer : next.peer = state.peer)
    (sent : ∀ client message, (client, message) ∈ next.sent →
      (client, message) ∈ state.sent ∨ state.peer = some client) : Single next where
  others c other := by
    rw [handlers, Function.update_of_ne other]
    exact single.others c other
  stays := by
    rw [handlers, Function.update_self]
    exact stays
  started := by
    rw [handlers, Function.update_self]
    exact started
  active := by
    rw [status]
    exact single.active
  peer := .inl (peer.trans current)
  sent client message member := by
    rcases sent client message member with before | here
    · exact single.sent client message before
    · exact single.client here

theorem pass (single : Single state) (handlers : next.handlers = state.handlers)
    (status : next.status = state.status) (peer : next.peer = state.peer)
    (connections : next.connections = state.connections) (made : next.made = state.made)
    (sent : ∀ client message, (client, message) ∈ next.sent →
      (client, message) ∈ state.sent ∨ state.peer = some client) : Single next where
  others := by
    rw [handlers]
    exact single.others
  stays := by
    rw [handlers]
    exact single.stays
  started := by
    rw [handlers]
    exact single.started
  active := by
    rw [status]
    exact single.active
  peer := by
    rw [peer, connections, made]
    exact single.peer
  sent client message member := by
    rcases sent client message member with before | here
    · exact single.sent client message before
    · exact single.client here

end Single

theorem single_of_moves (known : Known state) (single : Single state)
    (connected : StaysConnected state action next) (moves : Moves state action next) :
    Single next := by
  have stays {point : Handler} (here : state.handlers 0 = point) : point.parting = false :=
    here ▸ single.stays
  cases action with
  | accept =>
      cases moves
      rw [State.acceptPeer]
      split
      next client here =>
        refine ⟨single.others, single.stays, single.started, fun c active => ?_,
          .inl (single.client here ▸ here), single.sent⟩
        by_cases same : c = state.connections
        · simp [same] at active
        · exact single.active c (by simpa [same] using active)
      next nobody =>
        obtain ⟨_, first, _⟩ := single.peer.resolve_left (by simp [nobody])
        refine ⟨single.others, single.stays, single.started, fun c active => ?_,
          .inl (congrArg some first), single.sent⟩
        by_cases same : c = state.connections
        · exact same.trans first
        · exact single.active c (by simpa [same] using active)
  | deliver c event =>
      cases moves with
      | deliver active idle =>
          obtain rfl := single.active c active
          have current : state.peer = some 0 := by
            rcases single.peer with here | ⟨_, nobody, _⟩
            · exact here
            · cases (known 0 (by omega)).1.symm.trans active
          have same (client : Nat) (message : Message) (member : (client, message) ∈ state.sent) :
              (client, message) ∈ state.sent ∨ state.peer = some client := .inl member
          cases event with
          | message request =>
              exact single.turn current rfl (by rintro _ _ _ ⟨⟩) rfl rfl rfl same
          | error error =>
              cases error with
              | invalid | terminationImminent => exact absurd connected id
              | interrupted | other => exact single
          | oneWay | other => exact single
  | monitor m =>
      obtain ⟨_, handlers, status, connections, peer, made⟩ := monitor_frame moves
      refine single.pass handlers status peer connections made fun client message member => ?_
      rcases sent_of_moves moves with ⟨same, _⟩ | ⟨other, _, sent⟩
      · exact .inl (same ▸ member)
      · exact mem_of_sent sent member
  | engineFails app failure =>
      cases moves
      exact single.pass rfl rfl rfl rfl rfl fun client message member => .inl member
  | handle c host slot =>
      obtain ⟨busy, _, status, _⟩ := handle_frame moves
      obtain rfl := single.busy busy
      have current := single.current known busy
      have sent (client : Nat) (message : Message) (member : (client, message) ∈ next.sent) :
          (client, message) ∈ state.sent ∨ state.peer = some client := by
        rcases sent_of_moves moves with ⟨same, _⟩ | ⟨other, _, sent⟩
        · exact .inl (same ▸ member)
        · exact mem_of_sent sent member
      cases moves with
      | asks here there =>
          rcases there with ⟨_, rfl⟩ | rfl <;>
            exact single.turn current rfl (by rintro _ _ _ ⟨⟩) rfl rfl rfl sent
      | answers | locks | refuses | drops =>
          exact single.turn current rfl (by rintro _ _ _ ⟨⟩) rfl rfl rfl sent
      | keeps => exact single.turn current rfl (by rintro _ _ _ ⟨⟩; rfl) rfl rfl rfl sent
      | builds here there =>
          rcases there with rfl | rfl <;>
            exact single.turn current rfl (by rintro _ _ _ ⟨⟩) rfl rfl rfl sent
      | findsNothing here unlocked empty there =>
          have remains := stays here
          rcases there with ⟨rfl, _, rfl⟩ | ⟨rfl, rfl⟩
          · exact single.turn current rfl (by rintro _ _ _ ⟨⟩) rfl rfl rfl sent
          · cases remains
      | takes here | signals here | joins here =>
          have remains := stays here
          cases ‹Purpose› with
          | stop => exact single.turn current rfl (by rintro _ _ _ ⟨⟩) rfl rfl rfl sent
          | disconnect => cases remains
      | drains here there =>
          have remains := stays here
          rcases there with ⟨rfl, _, rfl⟩ | ⟨rfl, rfl⟩
          · exact single.turn current rfl (by rintro _ _ _ ⟨⟩) rfl rfl rfl sent
          · cases remains
      | @replies _ _ _ answer stopped here =>
          cases stopped <;> exact single.turn current rfl (by rintro _ _ _ ⟨⟩) rfl rfl rfl sent
      | reports here => exact single.turn current rfl (by rintro _ _ _ ⟨⟩) rfl rfl rfl sent
      | closes here there =>
          have remains := stays here
          rcases there with ⟨rfl, rfl⟩ | ⟨rfl, rfl⟩
          · exact single.turn current rfl (by rintro _ _ _ ⟨⟩) rfl rfl rfl sent
          · cases remains
      | clears here => cases stays here

def Seen (state : State) (action : Action Port) (next : State) : Prop :=
  ∃ notice, (state.view 0).Step notice (next.view 0) ∧ next.told = state.told ++ notice.toList ∧
    (AnswersInOrder state action next ↔ (state.view 0).Lawful notice)

theorem told_of_sent (sent : next.sent = state.sent) : next.told = state.told ++ [] := by
  rw [State.told, sent, List.append_nil]
  rfl

theorem told_append {message : Message} {notice : Option Notice} (current : state.peer = some 0)
    (sent : next.sent = state.sent ++ state.peer.toList.map fun peer => (peer, message))
    (noticed : message.notice = notice) : next.told = state.told ++ notice.toList := by
  rw [State.told, sent, current]
  cases notice <;> simp [State.told, noticed]

theorem view_turn {point : Handler}
    (handlers : next.handlers = Function.update state.handlers 0 point)
    (monitors : next.monitors = state.monitors) :
    next.view 0 = ⟨next.run, point.startReply, point.tells, (state.view 0).owes,
      (state.view 0).erred⟩ := by
  simp [State.view, handlers, monitors]

theorem view_pass {m : Nat} {point : Monitor} (handlers : next.handlers = state.handlers)
    (monitors : next.monitors = Function.update state.monitors m point) :
    next.view 0 = ⟨next.run, (state.view 0).waiting, (state.view 0).tells,
      Function.update (state.view 0).owes m point.owes,
      Function.update (state.view 0).erred m point.erred⟩ := by
  refine View.ext rfl (by simp [State.view, handlers]) (by simp [State.view, handlers]) ?_ ?_
  · funext n
    by_cases same : n = m
    · simp [State.view, monitors, same]
    · simp [State.view, monitors, same]
  · funext n
    by_cases same : n = m
    · simp [State.view, monitors, same]
    · simp [State.view, monitors, same]

theorem of_turn {middle : View} {notice : Option Notice} {point : Handler}
    (moved : (state.view 0).Step notice middle)
    (handlers : next.handlers = Function.update state.handlers 0 point)
    (monitors : next.monitors = state.monitors)
    (same : ⟨next.run, point.startReply, point.tells, (state.view 0).owes, (state.view 0).erred⟩ =
      middle) : (state.view 0).Step notice (next.view 0) := by
  rw [view_turn handlers monitors, same]
  exact moved

theorem of_pass {middle : View} {notice : Option Notice} {m : Nat} {point : Monitor}
    (moved : (state.view 0).Step notice middle) (handlers : next.handlers = state.handlers)
    (monitors : next.monitors = Function.update state.monitors m point)
    (same : ⟨next.run, (state.view 0).waiting, (state.view 0).tells,
      Function.update (state.view 0).owes m point.owes,
      Function.update (state.view 0).erred m point.erred⟩ = middle) :
    (state.view 0).Step notice (next.view 0) := by
  rw [view_pass handlers monitors, same]
  exact moved

theorem seen_same (view : next.view 0 = state.view 0) (sent : next.sent = state.sent)
    (silent : AnswersInOrder state action next) : Seen state action next := by
  refine ⟨none, ?_, told_of_sent sent, iff_of_true silent trivial⟩
  rw [view]
  exact .stay

theorem seen_turn {host : XpcHost Port} {slot : Config.FrameRegionSlot} {before point : Handler}
    (here : state.handlers 0 = before)
    (handlers : next.handlers = Function.update state.handlers 0 point)
    (monitors : next.monitors = state.monitors) (run : next.run = state.run)
    (sent : next.told = state.told) (quiet : before.startReply = none)
    (waiting : point.startReply = none) (tells : point.tells = before.tells) :
    Seen state (.handle 0 host slot) next := by
  have view : next.view 0 = state.view 0 := by
    rw [view_turn handlers monitors, run, waiting, tells]
    simp [State.view, here, quiet]
  refine ⟨none, ?_, by rw [sent]; exact (List.append_nil _).symm, iff_of_true ?_ trivial⟩
  · rw [view]
    exact .stay
  · simp [AnswersInOrder, here, quiet]

theorem seen_pass {m : Nat} {point : Monitor} (handlers : next.handlers = state.handlers)
    (monitors : next.monitors = Function.update state.monitors m point)
    (run : next.run = state.run) (sent : next.sent = state.sent)
    (owes : point.owes = (state.monitors m).owes) (erred : point.erred = (state.monitors m).erred)
    (silent : (state.monitors m).errs = none) : Seen state (.monitor m : Action Port) next := by
  have view : next.view 0 = state.view 0 := by
    rw [view_pass handlers monitors, run, owes, erred]
    exact View.ext rfl rfl rfl (Function.update_eq_self m _) (Function.update_eq_self m _)
  exact seen_same view sent (by simp [AnswersInOrder, silent])

theorem Monitor.quiet_of_watching {point : Monitor}
    (watching : point.watching = true ∨ point = .returned) :
    point.owes = none ∧ point.erred = none ∧ point.errs = none := by
  rcases watching with watching | rfl
  · cases point <;> first | exact ⟨rfl, rfl, rfl⟩ | cases watching
  · exact ⟨rfl, rfl, rfl⟩

theorem seen_of_moves (orderly : Orderly state) (known : Known state) (single : Single state)
    (connected : StaysConnected state action next) (moves : Moves state action next) :
    Seen state action next := by
  have zero {c : Nat} {point : Handler} (here : state.handlers c = point) (busy : point ≠ .idle) :
      c = 0 := single.busy (here ▸ busy)
  cases moves with
  | accept =>
      refine seen_same ?_ ?_ trivial
      all_goals
        unfold State.acceptPeer
        split <;> rfl
  | @deliver c event active idle =>
      obtain rfl := single.active c active
      cases event with
      | message request =>
          refine seen_same ?_ rfl trivial
          rw [@view_turn state (state.handleEvent 0 (.message request)) _ rfl rfl]
          simp [State.view, idle, State.handleEvent, State.setHandler, Handler.startReply,
            Handler.tells]
      | error error =>
          cases error with
          | invalid | terminationImminent => exact absurd connected id
          | interrupted | other => exact seen_same rfl rfl trivial
      | oneWay | other => exact seen_same rfl rfl trivial
  | @asks c _ _ _ point here there =>
      obtain rfl := zero here (by simp)
      refine seen_turn here rfl rfl rfl rfl rfl ?_ ?_
      all_goals rcases there with ⟨_, rfl⟩ | rfl <;> rfl
  | @answers c _ _ _ here =>
      rcases here with ⟨_, here⟩ | ⟨_, here, _⟩
      all_goals
        obtain rfl := zero here (by simp)
        exact seen_turn here rfl rfl rfl rfl rfl rfl rfl
  | locks here | refuses here | drops here | signals here | joins here =>
      obtain rfl := zero here (by simp)
      exact seen_turn here rfl rfl rfl rfl rfl rfl rfl
  | @builds c _ _ _ _ point here there =>
      obtain rfl := zero here (by simp)
      refine seen_turn here rfl rfl rfl rfl rfl ?_ ?_
      all_goals rcases there with rfl | rfl <;> rfl
  | @keeps c _ _ app _ here =>
      obtain rfl := zero here (by simp)
      have clean := (orderly.making.clean 0 app (by rw [here]; rfl)).2
      have unspawned := orderly.making.unwatched app clean
      have fresh (m : Nat) : (state.view 0).owes m ≠ some app := by
        intro owes
        obtain ⟨rest, held⟩ := hand_of_owes owes
        exact (orderly.accounted.hand _ app rest held).history_ne clean
      have seen := @View.Step.store (state.view 0) app
        (orderly.locking.holder 0 (by rw [here]; rfl)).2 (by simp [State.view, here, Handler.startReply])
        (by simp [State.view, here, Handler.tells]) fresh
      refine ⟨none, seen.of_eq (View.ext rfl ?_ ?_ ?_ ?_), told_of_sent rfl, iff_of_true ?_ trivial⟩
      · simp [State.view, State.setHandler, Handler.startReply]
      · simp [State.view, State.setHandler, Handler.tells, here]
      · funext m
        by_cases same : m = app
        · simp [State.view, State.setHandler, State.setMonitor, same, unspawned, Monitor.owes]
        · simp [State.view, State.setHandler, State.setMonitor, State.setApp, same]
      · funext m
        by_cases same : m = app
        · simp [State.view, State.setHandler, State.setMonitor, same, unspawned, Monitor.erred]
        · simp [State.view, State.setHandler, State.setMonitor, State.setApp, same]
      · simp [AnswersInOrder, here, Handler.startReply]
  | @findsNothing c _ _ purpose point here unlocked empty there =>
      obtain rfl := zero here (by simp)
      refine seen_turn here rfl rfl rfl rfl rfl ?_ ?_
      all_goals rcases there with ⟨_, _, rfl⟩ | ⟨_, rfl⟩ <;> rfl
  | @takes c _ _ _ run here unlocked stored =>
      obtain rfl := zero here (by simp)
      have seen := @View.Step.take (state.view 0) run stored
        (by simp [State.view, here, Handler.startReply]) (by simp [State.view, here, Handler.tells])
      refine ⟨none, of_turn seen rfl rfl ?_, told_of_sent rfl, iff_of_true ?_ trivial⟩
      · simp [State.view, here, Handler.startReply, Handler.tells, State.setHandler]
      · simp [AnswersInOrder, here, Handler.startReply]
  | @drains c _ _ purpose run point here there =>
      obtain rfl := zero here (by simp)
      rcases there with ⟨_, _, rfl⟩ | ⟨rfl, rfl⟩
      · exact seen_turn here rfl rfl rfl rfl rfl rfl rfl
      · have stays := single.stays
        rw [here] at stays
        cases stays
  | @replies c _ _ answer stopped here =>
      obtain rfl := zero here (by simp)
      have current := single.current known (by simp [here])
      cases answer with
      | started run body =>
          obtain rfl := single.started run body stopped here
          have seen := @View.Step.start (state.view 0) run
            (by simp [State.view, here, Handler.startReply])
          refine ⟨_, of_turn seen rfl rfl ?_, told_append current rfl rfl, ?_⟩
          · simp [State.view, here, Handler.startReply, Handler.tells, State.setHandler,
              State.sendToPeer]
          · simp only [AnswersInOrder, View.Lawful, here, Handler.startReply, Option.mem_some,
              forall_eq']
            constructor
            · intro quiet m other owes
              by_cases watched : m < state.made
              · exact quiet m watched other owes
              · have unspawned := orderly.making.unwatched m (orderly.making.fresh m (by omega))
                have owes : (state.monitors m).owes = some other := owes
                rw [unspawned] at owes
                cases owes
            · exact fun lawful m _ => lawful m
      | stopped body | other body =>
          refine seen_turn here rfl rfl rfl ?_ rfl ?_ ?_
          · exact (told_append current rfl rfl).trans (List.append_nil _)
          · cases stopped <;> rfl
          · cases stopped <;> rfl
  | @reports c _ _ run here =>
      obtain rfl := zero here (by simp)
      have current := single.current known (by simp [here])
      have seen := @View.Step.requested (state.view 0) run (by simp [State.view, here, Handler.tells])
      refine ⟨_, of_turn seen rfl rfl ?_, told_append current rfl rfl, iff_of_true ?_ trivial⟩
      · simp [State.view, here, Handler.startReply, Handler.tells, State.setHandler,
          State.sendToPeer]
      · simp [AnswersInOrder, here, Handler.startReply]
  | @closes c _ _ _ _ point here there =>
      obtain rfl := zero here (by simp)
      refine seen_turn here rfl rfl rfl rfl rfl ?_ ?_
      all_goals rcases there with ⟨_, rfl⟩ | ⟨_, rfl⟩ <;> rfl
  | clears here =>
      obtain rfl := zero here (by simp)
      have stays := single.stays
      rw [here] at stays
      cases stays
  | @watches m point here there =>
      obtain ⟨owes, erred, errs⟩ := Monitor.quiet_of_watching there
      obtain ⟨owes', erred', errs'⟩ := Monitor.quiet_of_watching (.inl here)
      exact seen_pass rfl rfl rfl rfl (owes.trans owes'.symm) (erred.trans erred'.symm) errs'
  | @detects m run failure here unlocked stored failed =>
      have seen := @View.Step.detect (state.view 0) m run stored (by simp [State.view, here, Monitor.owes])
        (by simp [State.view, here, Monitor.erred])
      refine ⟨none, of_pass seen rfl rfl (View.ext rfl rfl rfl rfl ?_),
        told_of_sent rfl, iff_of_true ?_ trivial⟩
      · have same : Monitor.erred (.failing run failure) = (state.view 0).erred m := by
          simp [State.view, here, Monitor.erred]
        exact (congrArg _ same).trans (Function.update_eq_self m _)
      · simp [AnswersInOrder, here, Monitor.errs]
  | @sendsError m run failure here =>
      have current := single.current_of_monitor orderly m (by simp [here])
      have seen := @View.Step.error (state.view 0) m run (by simp [State.view, here, Monitor.owes])
        (by simp [State.view, here, Monitor.erred])
      refine ⟨_, of_pass seen rfl rfl (View.ext rfl rfl rfl ?_ rfl),
        told_append current rfl rfl, ?_⟩
      · have same : Monitor.owes (.draining run) = (state.view 0).owes m := by
          simp [State.view, here, Monitor.owes]
        exact (congrArg _ same).trans (Function.update_eq_self m _)
      · simp only [AnswersInOrder, View.Lawful, here, Monitor.errs, Option.mem_some, forall_eq']
        constructor
        · intro quiet
          by_cases somebody : 0 < state.connections
          · exact quiet 0 somebody
          · have idle := (known 0 (by omega)).2
            simp [State.view, idle, Handler.startReply]
        · intro answered c _
          by_cases first : c = 0
          · rw [first]
            exact answered
          · simp [single.others c first, Handler.startReply]
  | @drainsFailed m run here =>
      exact seen_pass rfl rfl rfl rfl (by rw [here]; rfl) (by rw [here]; rfl) (by rw [here]; rfl)
  | @reportsFailed m run here =>
      have current := single.current_of_monitor orderly m (by simp [here])
      have seen := @View.Step.failed (state.view 0) m run (by simp [State.view, here, Monitor.erred])
      refine ⟨_, of_pass seen rfl rfl rfl, told_append current rfl rfl, iff_of_true ?_ trivial⟩
      simp [AnswersInOrder, here, Monitor.errs]
  | @closesFailed m run here =>
      exact seen_pass rfl rfl rfl rfl (by rw [here]; rfl) (by rw [here]; rfl) (by rw [here]; rfl)
  | engineFails live undrained => exact seen_same rfl rfl trivial

def Told (state : State) (lawful : Prop) : Prop :=
  (lawful → ∃ phase, exec Phase.next .idle state.told = some phase ∧
    (state.view 0).Ordered phase) ∧
  (¬lawful → exec Phase.next .idle state.told = none)

theorem told_initial : Told {} True := by
  refine ⟨fun _ => ⟨.idle, rfl, ⟨?_, ?_, ?_⟩⟩, fun unlawful => absurd trivial unlawful⟩
  · constructor <;> simp [State.view, Handler.startReply, Handler.tells, Monitor.owes, Monitor.erred]
  · simp [State.view, Handler.startReply]
  · rintro run ⟨slot | told | ⟨m, owes⟩, _⟩
    · cases slot
    · cases told
    · cases owes

theorem told_step {lawful : Prop} (told : Told state lawful) (seen : Seen state action next) :
    Told next (lawful ∧ AnswersInOrder state action next) := by
  obtain ⟨notice, moved, grown, agree⟩ := seen
  by_cases before : lawful
  · obtain ⟨phase, reached, ordered⟩ := told.1 before
    obtain ⟨kept, broken⟩ := View.ordered_step ordered moved
    have onward : exec Phase.next .idle next.told = exec Phase.next phase notice.toList := by
      rw [grown, exec_append, reached]
      rfl
    refine ⟨fun both => ?_, fun unlawful => ?_⟩
    · rw [onward]
      exact kept (agree.mp both.2)
    · rw [onward]
      exact broken fun holds => unlawful ⟨before, agree.mpr holds⟩
  · refine ⟨fun both => absurd both.1 before, fun _ => ?_⟩
    rw [grown, exec_append, told.2 before]
    rfl

theorem single_initial : Single {} where
  others _ _ := rfl
  stays := rfl
  started _ _ _ here := by cases here
  active _ active := by cases active
  peer := .inr ⟨rfl, rfl, rfl⟩
  sent _ _ member := by cases member

theorem told_of_run {schedule : List (Action Port)} {last : State}
    (run : exec ServiceRun.step {} schedule = some last)
    (connected : AllSteps ServiceRun.step StaysConnected {} schedule) :
    Single last ∧ Told last (AllSteps ServiceRun.step AnswersInOrder {} schedule) := by
  have all : (Orderly last ∧ Known last ∧ Single last) ∧
      Told last (AllSteps ServiceRun.step AnswersInOrder {} schedule) := by
    refine exec_induction (motive := fun before state =>
      AllSteps ServiceRun.step StaysConnected {} before →
        (Orderly state ∧ Known state ∧ Single state) ∧
          Told state (AllSteps ServiceRun.step AnswersInOrder {} before)) ?_ ?_ schedule last run
      connected
    · exact fun _ => ⟨⟨orderly_initial, fun _ _ => ⟨rfl, rfl⟩, single_initial⟩, told_initial⟩
    · intro before state action next reached ih moved connected
      obtain ⟨earlier, here⟩ := (allSteps_snoc reached).mp connected
      obtain ⟨⟨orderly, known, single⟩, told⟩ := ih earlier
      have moves := moves_of_step moved
      have stays := here next moved
      refine ⟨⟨orderly.step moves, known_of_moves known moves,
        single_of_moves known single stays moves⟩, ?_⟩
      have same : AllSteps ServiceRun.step AnswersInOrder {} (before ++ [action]) ↔
          AllSteps ServiceRun.step AnswersInOrder {} before ∧ AnswersInOrder state action next := by
        rw [allSteps_snoc reached, moved]
        simp
      rw [propext same]
      exact told_step told (seen_of_moves orderly known single stays moves)
  exact ⟨all.1.2.2, all.2⟩

theorem Single.notices_zero (single : Single state) : state.notices 0 = state.told := by
  refine List.filterMap_congr fun ⟨client, message⟩ member => ?_
  exact if_pos (single.sent client message member)

theorem Single.notices_other (single : Single state) {client : Nat} (other : client ≠ 0) :
    state.notices client = [] := by
  refine List.filterMap_eq_nil_iff.mpr fun ⟨receiver, message⟩ member => if_neg ?_
  rw [single.sent receiver message member]
  exact other.symm

end

def twoRuns : List (Action (Option String)) :=
  selfEnded ++ startOn 0 ++ .deliver 0 (.message (.ok .stop)) :: serve 0 3 ++ [.monitor 1] ++
    serve 0 5

def startedAgain : List (Action (Option String)) :=
  .accept :: startOn 0 ++ detect 0 0 ++ .monitor 0 :: startOn 0 ++ [.monitor 0, .monitor 0]

end Phase4.Xpc.ServiceRun
