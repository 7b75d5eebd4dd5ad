import Phase4.Library.Knowledge
import Phase4.Xpc.ServiceRun

namespace Phase4.StreamFailure
open Library Xpc.ServiceRun

/-! ## Stream errors and the thread that waits for them

Every operation on an atomic or under a mutex is one step. -/

inductive Op where
  | getOrInsert (message : String)
  | take
  | storeKeepRunning (value : Bool)
  | loadKeepRunning
  | loadShutdownRequested
  | loadStdinClosed
  | loadMonitorStop
  | lockRun
  | unlockRun (keep : Bool)

abbrev Op.Answer : Op → Type
  | .getOrInsert _ | .storeKeepRunning _ | .unlockRun _ => Unit
  | .take => Option String
  | .loadKeepRunning | .loadShutdownRequested | .loadStdinClosed | .loadMonitorStop | .lockRun => Bool

abbrev FailureProgram := Program Op Op.Answer

def perform (op : Op) : FailureProgram op.Answer := Program.perform op

structure Cells where
  keepRunning : Bool
  hardwareStreamError : Option String
  shutdownRequested : Bool
  stdinClosed : Bool
  monitorStop : Bool
  runLocked : Bool
  runPresent : Bool

def Cells.new : Cells := ⟨true, none, false, false, false, false, true⟩

/-- None while the run is locked by somebody else. -/
def Op.apply : (op : Op) → Cells → Option (op.Answer × Cells)
  | .getOrInsert message, cells => some ((), { cells with
      hardwareStreamError := cells.hardwareStreamError <|> some message })
  | .take, cells => some (cells.hardwareStreamError, { cells with hardwareStreamError := none })
  | .storeKeepRunning value, cells => some ((), { cells with keepRunning := value })
  | .loadKeepRunning, cells => some (cells.keepRunning, cells)
  | .loadShutdownRequested, cells => some (cells.shutdownRequested, cells)
  | .loadStdinClosed, cells => some (cells.stdinClosed, cells)
  | .loadMonitorStop, cells => some (cells.monitorStop, cells)
  | .lockRun, cells =>
      if cells.runLocked then none else some (cells.runPresent, { cells with runLocked := true })
  | .unlockRun keep, cells => some ((), { cells with
      runLocked := false
      runPresent := keep && cells.runPresent })

def Op.records : Op → List String
  | .getOrInsert message => [message]
  | _ => []

def Op.takes (hardwareStreamError : Option String) : Op → List (Option String)
  | .take => [hardwareStreamError]
  | _ => []

/-! ## The code -/

def failHardwareStream (message : String) : FailureProgram Unit := do
  perform (.getOrInsert message)
  perform (.storeKeepRunning false)

def engineFailure : FailureProgram (Option EngineFailure) := do
  if ← perform .loadKeepRunning then return none
  else
    let message ← perform .take
    return some message

inductive ShutdownReason where
  | signal | stdinClosed
deriving DecidableEq, Repr

inductive HeadlessStop where
  | requested (reason : ShutdownReason)
  | engine
deriving DecidableEq, Repr

def headlessStop (signalReceived stdinClosed keepRunning : Bool) : Option HeadlessStop :=
  if signalReceived then some (.requested .signal)
  else if stdinClosed then some (.requested .stdinClosed)
  else if keepRunning then none
  else some .engine

theorem headlessStop_none {signalReceived stdinClosed keepRunning : Bool}
    (goes_on : headlessStop signalReceived stdinClosed keepRunning = none) : keepRunning = true := by
  rw [headlessStop] at goes_on
  split_ifs at goes_on with _ _ running
  exact running

theorem headlessStop_engine {signalReceived stdinClosed keepRunning : Bool}
    (stops : headlessStop signalReceived stdinClosed keepRunning = some .engine) :
    keepRunning = false := by
  unfold headlessStop at stops
  split_ifs at stops with _ _ running
  · cases stops
  · cases stops
  · exact Bool.eq_false_of_not_eq_true running

inductive Ended where
  | requested (reason : ShutdownReason)
  | engine (failure : EngineFailure)
  | dismissed
deriving DecidableEq, Repr

def runHeadless : FailureProgram (Option Ended) := do
  let shutdownRequested ← perform .loadShutdownRequested
  let stdinClosed ← perform .loadStdinClosed
  let keepRunning ← perform .loadKeepRunning
  match headlessStop shutdownRequested stdinClosed keepRunning with
  | some (.requested reason) => do
      perform (.storeKeepRunning false)
      return some (.requested reason)
  | some .engine => do
      let failure ← engineFailure
      return some (.engine (failure.getD none))
  | none => return none

/-- One turn of the loop of `monitor`, which sleeps between its first two loads. -/
def monitor : FailureProgram (Option Ended) := do
  if ← perform .loadMonitorStop then return some .dismissed
  else if ← perform .loadMonitorStop then return some .dismissed
  else if ← perform .lockRun then
    match ← engineFailure with
    | none => do
        perform (.unlockRun true)
        return none
    | some failure => do
        perform (.unlockRun false)
        return some (.engine failure)
  else
    perform (.unlockRun true)
    return some .dismissed

inductive Watcher where
  | headless | monitor
deriving DecidableEq, Repr

def Watcher.turn : Watcher → FailureProgram (Option Ended)
  | .headless => runHeadless
  | .monitor => StreamFailure.monitor

/-! ## Runs -/

structure State where
  cells : Cells
  callbacks : List (FailureProgram Unit)
  watching : FailureProgram (Option Ended)
  ended : Option Ended
  recorded : List String
  taken : List (Option String)

inductive Action where
  | fail (message : String)
  | callback (index : Nat)
  | watch
  | signal
  | stdinCloses
  /-- The steps of `end_run` before it waits for the monitor. -/
  | takeRun
  | stopMonitor

namespace State

def init (watcher : Watcher) : State := ⟨.new, [], watcher.turn, none, [], []⟩

def callback (state : State) (index : Nat) : Option State :=
  match state.callbacks[index]? with
  | some (.call op next) => (op.apply state.cells).map fun (answer, cells) => { state with
      cells
      callbacks := state.callbacks.set index (next answer)
      recorded := state.recorded ++ op.records }
  | _ => none

def watch (watcher : Watcher) (state : State) : Option State :=
  match state.watching with
  | .call op next => (op.apply state.cells).map fun (answer, cells) => { state with
      cells
      watching := next answer
      taken := state.taken ++ op.takes state.cells.hardwareStreamError }
  | .done none => some { state with watching := watcher.turn }
  | .done (some ended) =>
      if state.ended = none then some { state with ended := some ended } else none

end State

def step (watcher : Watcher) (state : State) : Action → Option State
  | .fail message => some { state with
      callbacks := state.callbacks ++ [failHardwareStream message] }
  | .callback index => state.callback index
  | .watch => state.watch watcher
  | .signal => some { state with cells := { state.cells with shutdownRequested := true } }
  | .stdinCloses => some { state with cells := { state.cells with stdinClosed := true } }
  | .takeRun =>
      if state.cells.runLocked then none
      else some { state with cells := { state.cells with runPresent := false } }
  | .stopMonitor => some { state with cells := { state.cells with monitorStop := true } }

/-! ## What the waiting thread knows -/

inductive Known where
  | nothing
  /-- The engine has stopped itself, and `first` was recorded first. -/
  | stopped (first : String)
  | took (first : String)
  | requested

/-- The error is taken only once the flag has been seen cleared, and the flag is cleared only
to end the run. -/
def May : Known → Op → Prop
  | _, .getOrInsert _ => False
  | .stopped _, .take => True
  | _, .take => False
  | .nothing, .storeKeepRunning value | .stopped _, .storeKeepRunning value => value = false
  | _, .storeKeepRunning _ => False
  | .nothing, .loadKeepRunning | .stopped _, .loadKeepRunning => True
  | _, .loadKeepRunning => False
  | _, _ => True

inductive Learn : Known → (op : Op) → op.Answer → Known → Prop
  | running : Learn .nothing .loadKeepRunning true .nothing
  | stopped (first : String) : Learn .nothing .loadKeepRunning false (.stopped first)
  | still (first : String) : Learn (.stopped first) .loadKeepRunning false (.stopped first)
  | take (first : String) : Learn (.stopped first) .take (some first) (.took first)
  | clear (known : Known) : Learn known (.storeKeepRunning false) () .requested
  | shutdownRequested (known : Known) (answer : Bool) :
      Learn known .loadShutdownRequested answer known
  | stdinClosed (known : Known) (answer : Bool) : Learn known .loadStdinClosed answer known
  | monitorStop (known : Known) (answer : Bool) : Learn known .loadMonitorStop answer known
  | lockRun (known : Known) (answer : Bool) : Learn known .lockRun answer known
  | unlockRun (known : Known) (keep : Bool) : Learn known (.unlockRun keep) () known

def lore : Program.Lore Op Op.Answer Known := ⟨May, Learn⟩

/-- A turn goes round again with nothing known, and an engine stop is told with its reason. -/
def Told : Known → Option Ended → Prop
  | .nothing, none => True
  | .nothing, some .dismissed => True
  | .requested, some (.requested _) => True
  | .took first, some (.engine failure) => failure = some first
  | _, _ => False

theorem engineFailure_assures {start : Known}
    (fresh : start = .nothing ∨ ∃ first, start = .stopped first) :
    engineFailure.Assures lore (fun known failure => match failure with
      | none => start = .nothing ∧ known = .nothing
      | some failure => ∃ first, known = .took first ∧ failure = some first) start := by
  have allowed : May start .loadKeepRunning := by
    rcases fresh with rfl | ⟨first, rfl⟩
    all_goals trivial
  refine .perform allowed fun keepRunning after learnt => ?_
  cases learnt with
  | running => exact ⟨rfl, rfl⟩
  | stopped first | still first =>
      refine .perform trivial fun message after learnt => ?_
      cases learnt with
      | take => exact ⟨first, rfl, rfl⟩

theorem runHeadless_assures : runHeadless.Assures lore Told .nothing := by
  refine .perform trivial fun shutdownRequested after learnt => ?_
  cases learnt
  refine .perform trivial fun stdinClosed after learnt => ?_
  cases learnt
  refine .perform trivial fun keepRunning known learnt => ?_
  have fresh : known = .nothing ∨ ∃ first, known = .stopped first := by
    cases learnt with
    | running => exact .inl rfl
    | stopped first => exact .inr ⟨first, rfl⟩
  have running : keepRunning = true → known = .nothing := by
    intro up
    cases learnt with
    | running => rfl
    | stopped first => cases up
  cases decided : headlessStop shutdownRequested stdinClosed keepRunning with
  | none =>
      rw [running (headlessStop_none decided)]
      trivial
  | some stop =>
      cases stop with
      | requested reason =>
          have allowed : May known (.storeKeepRunning false) := by
            rcases fresh with rfl | ⟨first, rfl⟩
            all_goals rfl
          refine .perform allowed fun _ after learnt => ?_
          cases learnt
          trivial
      | engine =>
          have down : known ≠ .nothing := by
            intro nothing
            rw [nothing, headlessStop_engine decided] at learnt
            cases learnt
          refine .bind (engineFailure_assures fresh) fun after failure found => ?_
          cases failure with
          | none => exact absurd found.1 down
          | some failure =>
              obtain ⟨first, rfl, rfl⟩ := found
              exact rfl

theorem monitor_assures : monitor.Assures lore Told .nothing := by
  refine .perform trivial fun stop after learnt => ?_
  cases learnt
  cases stop with
  | true => trivial
  | false =>
      refine .perform trivial fun stop after learnt => ?_
      cases learnt
      cases stop with
      | true => trivial
      | false =>
          refine .perform trivial fun present after learnt => ?_
          cases learnt
          cases present with
          | false =>
              refine .perform trivial fun _ after learnt => ?_
              cases learnt
              trivial
          | true =>
              refine .bind (engineFailure_assures (.inl rfl)) fun known failure found => ?_
              cases failure with
              | none =>
                  have nothing : known = .nothing := found.2
                  subst nothing
                  refine .perform trivial fun _ after learnt => ?_
                  cases learnt
                  trivial
              | some failure =>
                  obtain ⟨first, rfl, rfl⟩ := found
                  refine .perform trivial fun _ after learnt => ?_
                  cases learnt
                  exact rfl

theorem turn_assures (watcher : Watcher) : watcher.turn.Assures lore Told .nothing := by
  cases watcher with
  | headless => exact runHeadless_assures
  | monitor => exact monitor_assures

/-! ## The invariant -/

inductive CallbackAt (recorded : List String) : FailureProgram Unit → Prop
  | recording (message : String) : CallbackAt recorded (failHardwareStream message)
  | clearing (some_recorded : recorded ≠ []) :
      CallbackAt recorded (perform (.storeKeepRunning false))
  | returned : CallbackAt recorded (.done ())

def Holds (state : State) : Known → Prop
  | .nothing => state.taken = []
  | .stopped first => state.taken = [] ∧ state.cells.keepRunning = false ∧
      state.recorded.head? = some first
  | .took first => state.recorded.head? = some first
  | .requested => True

def First (state : State) (reason : Option String) : Prop :=
  ∃ first, reason = some first ∧ state.recorded.head? = some first

structure Invariant (state : State) (known : Known) : Prop where
  callbacks : ∀ callback ∈ state.callbacks, CallbackAt state.recorded callback
  clear : state.cells.keepRunning = false → state.recorded ≠ [] ∨ known = .requested
  kept : state.taken = [] → state.cells.hardwareStreamError = state.recorded.head?
  taken : ∀ message ∈ state.taken, First state message
  holds : Holds state known
  watching : state.watching.Assures lore Told known
  ended : ∀ failure, state.ended = some (.engine failure) → First state failure

theorem invariant_init (watcher : Watcher) : Invariant (.init watcher) .nothing where
  callbacks := by simp [State.init]
  clear up := by cases up
  kept _ := rfl
  taken := by simp [State.init]
  holds := rfl
  watching := turn_assures watcher
  ended := by simp [State.init]

section
variable {watcher : Watcher} {state next : State} {known : Known}

theorem CallbackAt.mono {recorded : List String} {callback : FailureProgram Unit}
    (here : CallbackAt recorded callback) (message : String) :
    CallbackAt (recorded ++ [message]) callback := by
  cases here with
  | recording message => exact .recording message
  | clearing => exact .clearing (by simp)
  | returned => exact .returned

theorem head?_snoc {recorded : List String} {first : String}
    (here : recorded.head? = some first) (message : String) :
    (recorded ++ [message]).head? = some first := by
  rw [List.head?_append, here, Option.some_or]

theorem invariant_callback (here : Invariant state known) {index : Nat}
    (moved : state.callback index = some next) : Invariant next known := by
  unfold State.callback at moved
  split at moved
  next op rest found =>
    have position := here.callbacks _ (List.mem_of_getElem? found)
    generalize shape : (Program.call op rest : FailureProgram Unit) = program at position
    cases position with
    | recording message =>
        cases shape
        cases moved
        have told {reason : Option String} (first : First state reason) :
            ∃ first, reason = some first ∧ (state.recorded ++ [message]).head? = some first := by
          obtain ⟨first, same, head⟩ := first
          exact ⟨first, same, head?_snoc head message⟩
        have grown : state.recorded ++ [message] ≠ [] := by simp
        refine ⟨?_, fun _ => .inl grown, ?_, fun reason old => told (here.taken reason old), ?_,
          here.watching, fun failure ended => told (here.ended failure ended)⟩
        · intro callback member
          rcases List.mem_or_eq_of_mem_set member with old | rfl
          · exact (here.callbacks callback old).mono message
          · exact .clearing grown
        · intro untaken
          show (state.cells.hardwareStreamError <|> some message) = _
          rw [here.kept untaken, List.head?_append]
          cases state.recorded.head? <;> rfl
        · cases known with
          | nothing => exact here.holds
          | stopped first =>
              obtain ⟨untaken, down, head⟩ := here.holds
              exact ⟨untaken, down, head?_snoc head message⟩
          | took first => exact head?_snoc here.holds message
          | requested => trivial
    | clearing some_recorded =>
        cases shape
        cases moved
        have same : state.recorded ++ (Op.storeKeepRunning false).records = state.recorded :=
          List.append_nil _
        simp only [same]
        refine ⟨?_, fun _ => .inl some_recorded, here.kept, here.taken, ?_, here.watching, here.ended⟩
        · intro callback member
          rcases List.mem_or_eq_of_mem_set member with old | rfl
          · exact here.callbacks callback old
          · exact .returned
        · cases known with
          | nothing => exact here.holds
          | stopped first =>
              obtain ⟨untaken, _, head⟩ := here.holds
              exact ⟨untaken, rfl, head⟩
          | took first => exact here.holds
          | requested => trivial
    | returned => cases shape
  next => cases moved

theorem learns (here : Invariant state known) {op : Op} (allowed : May known op)
    {answer : op.Answer} (answered : op.apply state.cells = some (answer, next.cells))
    (recorded : next.recorded = state.recorded)
    (taken : next.taken = state.taken ++ op.takes state.cells.hardwareStreamError) :
    ∃ after, Learn known op answer after ∧ Holds next after ∧
      (next.cells.keepRunning = false → next.recorded ≠ [] ∨ after = .requested) := by
  have kept (same : next.cells.keepRunning = state.cells.keepRunning)
      (nothing : op.takes state.cells.hardwareStreamError = []) : Holds next known ∧
        (next.cells.keepRunning = false → next.recorded ≠ [] ∨ known = .requested) := by
    rw [nothing, List.append_nil] at taken
    constructor
    · cases known with
      | nothing => exact taken.trans here.holds
      | stopped first => rw [Holds, taken, same, recorded]; exact here.holds
      | took first => rw [Holds, recorded]; exact here.holds
      | requested => trivial
    · rw [same, recorded]
      exact here.clear
  cases op with
  | getOrInsert message => cases known <;> cases allowed
  | take =>
      obtain ⟨given, after⟩ := Prod.mk.inj (Option.some.inj answered)
      cases known with
      | stopped first =>
          obtain ⟨untaken, down, head⟩ := here.holds
          rw [here.kept untaken, head] at given
          subst given
          refine ⟨.took first, .take first, (congrArg List.head? recorded).trans head, fun _ => .inl ?_⟩
          intro empty
          rw [← recorded, empty] at head
          cases head
      | nothing | took first | requested => cases allowed
  | storeKeepRunning value =>
      have down : value = false := by
        cases known with
        | nothing | stopped first => exact allowed
        | took first | requested => cases allowed
      subst down
      exact ⟨.requested, .clear known, trivial, fun _ => .inr rfl⟩
  | loadKeepRunning =>
      obtain ⟨rfl, after⟩ := Prod.mk.inj (Option.some.inj answered)
      have same := (congrArg Cells.keepRunning after).symm
      obtain ⟨holds, clear⟩ := kept same rfl
      cases running : state.cells.keepRunning with
      | true =>
          cases known with
          | nothing => exact ⟨.nothing, .running, holds, clear⟩
          | stopped first =>
              obtain ⟨_, down, _⟩ := here.holds
              rw [running] at down
              cases down
          | took first | requested => cases allowed
      | false =>
          cases known with
          | nothing =>
              have some_recorded := (here.clear running).resolve_right (by simp)
              obtain ⟨first, later, cons⟩ := List.exists_cons_of_ne_nil some_recorded
              have head : state.recorded.head? = some first := by rw [cons, List.head?_cons]
              exact ⟨.stopped first, .stopped first,
                ⟨holds, same.trans running, (congrArg List.head? recorded).trans head⟩,
                fun _ => .inl (recorded ▸ some_recorded)⟩
          | stopped first => exact ⟨.stopped first, .still first, holds, clear⟩
          | took first | requested => cases allowed
  | loadShutdownRequested =>
      obtain ⟨rfl, after⟩ := Prod.mk.inj (Option.some.inj answered)
      exact ⟨known, .shutdownRequested known _, kept (congrArg Cells.keepRunning after).symm rfl⟩
  | loadStdinClosed =>
      obtain ⟨rfl, after⟩ := Prod.mk.inj (Option.some.inj answered)
      exact ⟨known, .stdinClosed known _, kept (congrArg Cells.keepRunning after).symm rfl⟩
  | loadMonitorStop =>
      obtain ⟨rfl, after⟩ := Prod.mk.inj (Option.some.inj answered)
      exact ⟨known, .monitorStop known _, kept (congrArg Cells.keepRunning after).symm rfl⟩
  | lockRun =>
      simp only [Op.apply] at answered
      split_ifs at answered
      obtain ⟨rfl, after⟩ := Prod.mk.inj (Option.some.inj answered)
      exact ⟨known, .lockRun known _, kept (congrArg Cells.keepRunning after).symm rfl⟩
  | unlockRun keep =>
      obtain ⟨rfl, after⟩ := Prod.mk.inj (Option.some.inj answered)
      exact ⟨known, .unlockRun known keep, kept (congrArg Cells.keepRunning after).symm rfl⟩

theorem keeps (here : Invariant state known) {op : Op} (allowed : May known op)
    {answer : op.Answer} {cells : Cells} (answered : op.apply state.cells = some (answer, cells)) :
    (state.taken ++ op.takes state.cells.hardwareStreamError = [] →
      cells.hardwareStreamError = state.recorded.head?) ∧
    ∀ message ∈ state.taken ++ op.takes state.cells.hardwareStreamError, First state message := by
  have untouched (nothing : op.takes state.cells.hardwareStreamError = [])
      (same : cells.hardwareStreamError = state.cells.hardwareStreamError) :
      (state.taken ++ op.takes state.cells.hardwareStreamError = [] →
        cells.hardwareStreamError = state.recorded.head?) ∧
      ∀ message ∈ state.taken ++ op.takes state.cells.hardwareStreamError, First state message := by
    rw [nothing, List.append_nil, same]
    exact ⟨here.kept, here.taken⟩
  cases op with
  | getOrInsert message => cases known <;> cases allowed
  | take =>
      cases known with
      | stopped first =>
          obtain ⟨untaken, _, head⟩ := here.holds
          refine ⟨fun empty => by simp [Op.takes] at empty, ?_⟩
          intro message member
          rw [untaken, Op.takes, here.kept untaken, List.nil_append, List.mem_singleton] at member
          exact ⟨first, member.trans head, head⟩
      | nothing | took first | requested => cases allowed
  | lockRun =>
      simp only [Op.apply] at answered
      split_ifs at answered
      cases answered
      exact untouched rfl rfl
  | storeKeepRunning | loadKeepRunning | loadShutdownRequested | loadStdinClosed | loadMonitorStop
  | unlockRun =>
      cases answered
      exact untouched rfl rfl

theorem invariant_watch (here : Invariant state known)
    (moved : state.watch watcher = some next) : ∃ known, Invariant next known := by
  have watching := here.watching
  unfold State.watch at moved
  split at moved
  next op rest asking =>
    rw [asking] at watching
    obtain ⟨allowed, later⟩ := watching
    obtain ⟨⟨answer, cells⟩, answered, rfl⟩ := Option.map_eq_some_iff.mp moved
    let next : State := { state with
      cells
      watching := rest answer
      taken := state.taken ++ op.takes state.cells.hardwareStreamError }
    have recorded : next.recorded = state.recorded := rfl
    have taken : next.taken = state.taken ++ op.takes state.cells.hardwareStreamError := rfl
    obtain ⟨after, learnt, holds, clear⟩ := learns here allowed answered recorded taken
    obtain ⟨kept, taken⟩ := keeps here allowed answered
    exact ⟨after, here.callbacks, clear, kept, taken, holds, later answer after learnt, here.ended⟩
  next turned =>
    rw [turned] at watching
    cases moved
    cases known with
    | nothing => exact ⟨.nothing, { here with watching := turn_assures watcher }⟩
    | stopped first | took first | requested => cases watching
  next ended finished =>
    split_ifs at moved
    cases moved
    rw [finished] at watching
    refine ⟨known, { here with ended := ?_ }⟩
    intro failure same
    obtain rfl := Option.some.inj same
    cases known with
    | took first => exact ⟨first, watching, here.holds⟩
    | nothing | stopped first | requested => cases watching

theorem invariant_step {action : Action} (here : Invariant state known)
    (moved : step watcher state action = some next) : ∃ known, Invariant next known := by
  cases action with
  | fail message =>
      cases moved
      refine ⟨known, { here with callbacks := ?_, holds := by cases known <;> exact here.holds }⟩
      intro callback member
      rcases List.mem_append.mp member with old | new
      · exact here.callbacks callback old
      · rw [List.mem_singleton.mp new]
        exact .recording message
  | callback index => exact ⟨known, invariant_callback here moved⟩
  | watch => exact invariant_watch here moved
  | signal | stdinCloses | stopMonitor =>
      cases moved
      exact ⟨known, { here with holds := by cases known <;> exact here.holds }⟩
  | takeRun =>
      simp only [step] at moved
      split_ifs at moved
      cases moved
      exact ⟨known, { here with holds := by cases known <;> exact here.holds }⟩

end

/-- Whatever the callbacks and the watcher do in between, a run the engine ended is reported
with the message that was recorded first, and nothing replaces that message until it is taken. -/
theorem stop_keeps_its_reason (watcher : Watcher) {schedule : List Action} {last : State}
    (run : exec (step watcher) (.init watcher) schedule = some last) :
    (∀ failure, last.ended = some (.engine failure) → failure.code = "HardwareStreamError" ∧
      ∃ first, failure = some first ∧ last.recorded.head? = some first) ∧
    (∀ message ∈ last.taken, ∃ first, message = some first ∧ last.recorded.head? = some first) ∧
    (last.taken = [] → last.cells.hardwareStreamError = last.recorded.head?) := by
  have reached : ∃ known, Invariant last known := by
    refine exec_invariant (motive := fun state => ∃ known, Invariant state known)
      ⟨.nothing, invariant_init watcher⟩ ?_ run
    intro state action next known moved
    obtain ⟨known, here⟩ := known
    exact invariant_step here moved
  obtain ⟨known, here⟩ := reached
  refine ⟨?_, here.taken, here.kept⟩
  intro failure ended
  obtain ⟨first, rfl, head⟩ := here.ended failure ended
  exact ⟨rfl, first, rfl, head⟩

/-- Two errors at once: the second callback records and clears the flag before the first has
cleared it, and the watcher looks in between. -/
def twoErrors (looks : List Action) : List Action :=
  [.fail "unplugged", .fail "reset", .callback 0, .callback 1, .callback 1] ++ looks

def headlessLooks : List Action :=
  [.watch, .watch, .watch, .callback 0, .watch, .watch, .watch]

def monitorLooks : List Action :=
  [.watch, .watch, .watch, .callback 0, .watch, .watch, .watch, .watch]

theorem two_errors_report_the_first : ∃ last monitored,
    exec (step .headless) (.init .headless) (twoErrors headlessLooks) = some last ∧
    last.ended = some (.engine (some "unplugged")) ∧
    last.recorded.head? = some "unplugged" ∧
    exec (step .monitor) (.init .monitor) (twoErrors monitorLooks) = some monitored ∧
    monitored.ended = some (.engine (some "unplugged")) ∧
    monitored.recorded.head? = some "unplugged" := by
  have watched : (exec (step .headless) (.init .headless) (twoErrors headlessLooks)).map
      State.ended = some (some (.engine (some "unplugged"))) := by
    decide +kernel
  have polled : (exec (step .monitor) (.init .monitor) (twoErrors monitorLooks)).map
      State.ended = some (some (.engine (some "unplugged"))) := by
    decide +kernel
  obtain ⟨last, run, ended⟩ := Option.map_eq_some_iff.mp watched
  obtain ⟨monitored, turns, dropped⟩ := Option.map_eq_some_iff.mp polled
  obtain ⟨_, first, ⟨⟩, head⟩ := (stop_keeps_its_reason .headless run).1 _ ended
  obtain ⟨_, first, ⟨⟩, told⟩ := (stop_keeps_its_reason .monitor turns).1 _ dropped
  exact ⟨last, monitored, run, ended, head, turns, dropped, told⟩

end Phase4.StreamFailure
