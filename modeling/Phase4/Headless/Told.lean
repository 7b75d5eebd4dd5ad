import Phase4.Headless.Process

namespace Phase4.Headless
open Library Config Bootstrap StreamFailure Xpc.ServiceRun

/-! ## What a host is told -/

def Event.isPanic : Event → Bool
  | .error code _ => code = panicEventCode
  | .ready _ | .shutdown _ => false

theorem configEventCode_ne_panic (error : AppConfigError) :
    configEventCode error ≠ panicEventCode := by
  cases error <;> simp [configEventCode, panicEventCode]

theorem unknown_ne_panic : unknownEventCode ≠ panicEventCode := by decide

theorem code_ne_panic (error : RunError) : error.code ≠ panicEventCode := by
  cases error with
  | start error =>
      cases error with
      | config error => exact configEventCode_ne_panic error
      | device error =>
          cases error <;> simp [RunError.code, errorCode, deviceEventCode, unknownEventCode,
            panicEventCode]
      | midi error =>
          cases error <;> simp [RunError.code, errorCode, midiEventCode, panicEventCode]
      | untyped message => exact unknown_ne_panic
  | engine failure =>
      cases failure with
      | none => exact unknown_ne_panic
      | some message => simp [RunError.code, EngineFailure.code, deviceEventCode, panicEventCode]
  | watch error | write kind => exact unknown_ne_panic

section
variable {Port : Type}

def State.told (state : State Port) : List Event :=
  state.stdout.lines.filter fun event => !event.isPanic

def Launch.Starts (launch : Launch Port) (report : ReadyReport) : Prop :=
  ∃ config engine, launch.config = .ok config ∧
    App.build launch.host config {} = (.ok report, engine)

def Launch.Opened (launch : Launch Port) (told : List Event) : Prop :=
  ∃ report, launch.Starts report ∧ told = [.ready report]

def State.Requested (state : State Port) : ShutdownReason → Prop
  | .signal => state.signalReceived = true
  | .stdinClosed => state.stdinClosed = true

/-- How an ended process has ended. -/
inductive Ending (launch : Launch Port) (state : State Port) (told : List Event) : Status → Prop
  | stopped {report : ReadyReport} {reason : ShutdownReason} (starts : launch.Starts report)
      (drained : state.engine.Drained) (requested : state.Requested reason)
      (lines : told = [.ready report, .shutdown reason] ∨
        told = [.ready report] ∧ state.stdout.broken = some .brokenPipe) :
      Ending launch state told .success
  | failed {opening : List Event} {error : RunError} (begins : opening = [] ∨ launch.Opened opening)
      (drained : state.engine.Drained)
      (lines : told = opening ++ [fromAnyhow launch error] ∨
        told = opening ∧ state.stdout.broken ≠ none) :
      Ending launch state told .failure
  | aborted (begins : told = [] ∨ launch.Opened told)
      (shown : (∃ event ∈ state.stdout.lines, event.isPanic = true) ∨ state.stdout.broken ≠ none) :
      Ending launch state told .aborted

/-- The panic events are one for each of some threads that panicked, with its message. -/
def PanicsOf (schedule : List Action) (events : List Event) : Prop :=
  ∃ shown : List (Nat × String),
    events.filter Event.isPanic = shown.map (fun entry => panicEvent entry.2) ∧
    (shown.map Prod.fst).Nodup ∧
    ∀ thread message, (thread, message) ∈ shown → .panic thread message ∈ schedule

/-- What the main thread has told by the time it is at a place, and what is true then. -/
inductive Course (launch : Launch Port) (state : State Port) (told : List Event) : MainAt → Prop
  | starting (silent : told = []) (drained : state.engine.Drained) :
      Course launch state told .starting
  | announcing {report : ReadyReport} (silent : told = []) (starts : launch.Starts report)
      (accounted : state.engine.Accounted) : Course launch state told (.announcing report)
  | watching (opened : launch.Opened told) (accounted : state.engine.Accounted) :
      Course launch state told .watching
  | polling (opened : launch.Opened told) (accounted : state.engine.Accounted) :
      Course launch state told .polling
  | sawSignal {received : Bool} (opened : launch.Opened told)
      (accounted : state.engine.Accounted)
      (signal : received = true → state.signalReceived = true) :
      Course launch state told (.sawSignal received)
  | sawStdin {received closed : Bool} (opened : launch.Opened told)
      (accounted : state.engine.Accounted)
      (signal : received = true → state.signalReceived = true)
      (stdin : closed = true → state.stdinClosed = true) :
      Course launch state told (.sawStdin received closed)
  | stopping {reason : ShutdownReason} (opened : launch.Opened told)
      (accounted : state.engine.Accounted) (requested : state.Requested reason) :
      Course launch state told (.stopping reason)
  | failing (opened : launch.Opened told) (accounted : state.engine.Accounted) :
      Course launch state told .failing
  | draining {reason : ShutdownReason} (opened : launch.Opened told)
      (accounted : state.engine.Accounted) (requested : state.Requested reason) :
      Course launch state told (.draining (.ok reason))
  | givingUp {error : RunError} (begins : told = [] ∨ launch.Opened told)
      (accounted : state.engine.Accounted) : Course launch state told (.draining (.error error))
  | departing {reason : ShutdownReason} (opened : launch.Opened told)
      (drained : state.engine.Drained) (requested : state.Requested reason) :
      Course launch state told (.departing reason)
  | reporting {error : RunError} (begins : told = [] ∨ launch.Opened told)
      (drained : state.engine.Drained) : Course launch state told (.reporting error)
  | panicked (begins : told = [] ∨ launch.Opened told) : Course launch state told .panicked
  | exited {status : Status} (ending : Ending launch state told status) :
      Course launch state told (.exited status)

/-- Complete lines, and the beginning of one that somebody holds the lock for. -/
def Delivered (display : SocketAddr → String) (stdout : Stdout) : Prop :=
  ∃ begun, stdout.text = printEvents display stdout.lines ++ begun ∧
    Library.Json.Plain begun ∧
    (stdout.broken = none →
      match stdout.held with
      | none => begun = []
      | some (_, event, left) => begun ++ left = event.text display)

structure Sound (launch : Launch Port) (state : State Port) : Prop where
  delivered : Delivered launch.addresses.display state.stdout
  due : (∀ status, state.main ≠ .exited status) → ∀ writer event left,
    state.stdout.held = some (writer, event, left) → state.eventOf launch writer = some event
  reported : ∀ thread, state.panics thread = .reported →
    (∃ event ∈ state.stdout.lines, event.isPanic = true) ∨ state.stdout.broken ≠ none
  course : Course launch state state.told state.main

variable {launch : Launch Port} {state next : State Port} {action : Action} {told : List Event} {main : MainAt}

/-! ## The text on stdout -/

theorem release_stdout (writer : Writer) (main : MainAt) (state : State Port) :
    (state.release writer main).stdout = { state.stdout with held := none } := by
  cases writer <;> rfl

theorem plain_part {display : SocketAddr → String} {event : Event} {begun left : List Char}
    (whole : begun ++ left = event.text display) (count : Nat) :
    Library.Json.Plain (begun ++ left.take count) := by
  intro c member
  refine plain_text display event c ?_
  rw [← whole]
  exact (List.mem_append.mp member).elim (List.mem_append_left _)
    fun later => List.mem_append_right _ (List.mem_of_mem_take later)

theorem delivered_step (moves : Moves launch action state next)
    (delivered : Delivered launch.addresses.display state.stdout) :
    Delivered launch.addresses.display next.stdout := by
  obtain ⟨begun, text, plain, rest⟩ := delivered
  cases moves with
  | start =>
      unfold State.start
      split
      · exact ⟨begun, text, plain, rest⟩
      · split <;> exact ⟨begun, text, plain, rest⟩
  | lock free due =>
      refine ⟨begun, text, plain, fun works => ?_⟩
      have empty := rest works
      rw [free] at empty
      exact congrArg (· ++ _) empty
  | write count held works =>
      have whole := rest works
      rw [held] at whole
      refine ⟨begun ++ _, ?_, plain_part whole count, fun _ => ?_⟩
      · exact (congrArg (· ++ _) text).trans (List.append_assoc ..)
      · exact (List.append_assoc ..).trans ((congrArg (begun ++ ·) (List.take_append_drop ..)).trans whole)
  | finish held works =>
      have whole := rest works
      rw [held] at whole
      simp only [List.append_nil] at whole
      rw [release_stdout]
      refine ⟨[], ?_, Library.Json.plain_nil, fun _ => rfl⟩
      simp [text, whole, printEvents, List.flatMap_append]
  | fail held broken =>
      rw [release_stdout]
      exact ⟨begun, text, plain, fun works => absurd (broken.symm.trans works) (by simp)⟩
  | hostLeaves kind =>
      refine ⟨begun, text, plain, fun works => ?_⟩
      cases before : state.stdout.broken <;> simp [before] at works
  | sawSignal | sawStdin | decided | stopped | failed | drained | gaveUp | watched | unwatched
  | elsewhere | panic | mainPanics | abort => exact ⟨begun, text, plain, rest⟩

/-! ## Who writes -/

theorem hook_event {thread : Nat} {event : Event}
    (due : state.eventOf launch (.hook thread) = some event) :
    ∃ message, state.panics thread = .hooked message ∧ event = panicEvent message := by
  simp only [State.eventOf] at due
  split at due
  next message hooked =>
    cases due
    exact ⟨message, hooked, rfl⟩
  next => cases due

theorem panicEvent_isPanic (message : String) : (panicEvent message).isPanic = true := by
  simp [panicEvent, Event.isPanic]

theorem mainEvent_not_panic {event : Event} (due : main.event launch = some event) :
    event.isPanic = false := by
  cases main with
  | reporting error =>
      cases due
      simp [fromAnyhow, Event.isPanic, code_ne_panic]
  | announcing report | departing reason =>
      cases due
      rfl
  | starting | watching | polling | sawSignal | sawStdin | stopping | failing | draining | panicked
  | exited => cases due

theorem due_of_quiet {writer : Writer} {event : Event} (quiet : state.main.event launch = none)
    (panics : next.panics = state.panics) (due : state.eventOf launch writer = some event) :
    next.eventOf launch writer = some event := by
  cases writer with
  | main => exact absurd (quiet.symm.trans due) (by simp)
  | hook thread =>
      simp only [State.eventOf] at due ⊢
      rw [panics]
      exact due

theorem due_of_panic {writer : Writer} {event : Event} {thread : Nat} {message : String}
    (calm : state.panics thread = .calm)
    (panics : next.panics = Function.update state.panics thread (.hooked message))
    (own : writer = .main → next.main = state.main)
    (due : state.eventOf launch writer = some event) :
    next.eventOf launch writer = some event := by
  cases writer with
  | main =>
      simp only [State.eventOf] at due ⊢
      rw [own rfl]
      exact due
  | hook other =>
      obtain ⟨old, hooked, rfl⟩ := hook_event due
      have apart : other ≠ thread := by
        rintro rfl
        rw [calm] at hooked
        cases hooked
      simp only [State.eventOf, panics, Function.update_of_ne apart, hooked]

theorem due_step (moves : Moves launch action state next) (alive : ∀ status, state.main ≠ .exited status)
    (sound : Sound launch state) (after : ∀ status, next.main ≠ .exited status) (writer : Writer)
    (event : Event) (left : List Char) (held : next.stdout.held = some (writer, event, left)) :
    next.eventOf launch writer = some event := by
  have due := sound.due alive
  cases moves with
  | start here =>
      have quiet : state.main.event launch = none := by rw [here]; rfl
      revert held
      unfold State.start
      split
      · exact fun held => due_of_quiet quiet rfl (due writer event left held)
      · split <;> exact fun held => due_of_quiet quiet rfl (due writer event left held)
  | sawSignal here | sawStdin here | decided here _ | stopped here | failed here | drained here
  | gaveUp here | watched here | unwatched here =>
      have quiet : state.main.event launch = none := by rw [here]; rfl
      exact due_of_quiet quiet rfl (due writer event left held)
  | lock free own =>
      cases held
      exact own
  | write count before works =>
      cases held
      exact due _ _ _ before
  | finish before works | fail before broken =>
      rw [release_stdout] at held
      cases held
  | hostLeaves | elsewhere => exact due writer event left held
  | panic _ calm other => exact due_of_panic calm rfl (fun _ => rfl) (due writer event left held)
  | mainPanics _ calm unlocked =>
      refine due_of_panic calm rfl (fun own => ?_) (due writer event left held)
      subst own
      exact absurd (congrArg (Option.map Prod.fst) held) unlocked
  | abort => exact absurd rfl (after .aborted)

theorem reported_step (moves : Moves launch action state next)
    (alive : ∀ status, state.main ≠ .exited status) (sound : Sound launch state) (thread : Nat)
    (reported : next.panics thread = .reported) :
    (∃ event ∈ next.stdout.lines, event.isPanic = true) ∨ next.stdout.broken ≠ none := by
  have before := sound.reported thread
  cases moves with
  | start =>
      revert reported
      unfold State.start
      split
      · exact before
      · split <;> exact before
  | finish held works =>
      rename_i writer event
      rw [release_stdout]
      have due := sound.due alive _ _ _ held
      cases writer with
      | main =>
          refine (before reported).imp_left fun ⟨shown, member, panics⟩ => ?_
          exact ⟨shown, List.mem_append_left _ member, panics⟩
      | hook own =>
          obtain ⟨message, -, rfl⟩ := hook_event due
          exact .inl ⟨_, List.mem_append_right _ List.mem_cons_self, panicEvent_isPanic message⟩
  | fail held broken =>
      rw [release_stdout]
      exact .inr fun works => absurd (broken.symm.trans works) (by simp)
  | hostLeaves kind =>
      right
      cases broken : state.stdout.broken <;> simp
  | panic cause calm other =>
      rename_i own message
      by_cases same : thread = own
      · simp [same] at reported
      · simp only [Function.update_of_ne same] at reported
        exact before reported
  | mainPanics cause calm unlocked =>
      by_cases same : thread = 0
      · simp [same] at reported
      · simp only [Function.update_of_ne same] at reported
        exact before reported
  | sawSignal | sawStdin | decided | stopped | failed | drained | gaveUp | watched | unwatched
  | lock | write | elsewhere | abort => exact before reported

/-! ## The course of the main thread -/

theorem State.Requested.mono {reason : ShutdownReason} (requested : state.Requested reason)
    (signal : state.signalReceived = true → next.signalReceived = true)
    (stdin : state.stdinClosed = true → next.stdinClosed = true) : next.Requested reason := by
  cases reason with
  | signal => exact signal requested
  | stdinClosed => exact stdin requested

structure Kept (state next : State Port) : Prop where
  elsewhere : Elsewhere state next
  broken : ∀ kind, state.stdout.broken = some kind → next.stdout.broken = some kind
  lines : ∀ event ∈ state.stdout.lines, event ∈ next.stdout.lines

theorem Elsewhere.accounted (kept : Elsewhere state next) (accounted : state.engine.Accounted) :
    next.engine.Accounted := by
  rw [Engine.Accounted, kept.spawned, kept.ended, kept.registered]
  exact accounted

theorem Elsewhere.drained (kept : Elsewhere state next) (drained : state.engine.Drained) :
    next.engine.Drained :=
  ⟨kept.registered.trans drained.registered,
    kept.spawned.trans (drained.ended.trans (by rw [kept.ended])), kept.stream.trans drained.stream⟩

theorem Kept.broke (kept : Kept state next) (broke : state.stdout.broken ≠ none) :
    next.stdout.broken ≠ none := by
  obtain ⟨kind, same⟩ := Option.ne_none_iff_exists'.mp broke
  rw [kept.broken kind same]
  simp

theorem Ending.kept {status : Status} (ending : Ending launch state told status)
    (kept : Kept state next) : Ending launch next told status := by
  cases ending with
  | stopped starts drained requested lines =>
      exact .stopped starts (kept.elsewhere.drained drained)
        (requested.mono kept.elsewhere.signal kept.elsewhere.stdin)
        (lines.imp_right fun ⟨same, broken⟩ => ⟨same, kept.broken _ broken⟩)
  | failed begins drained lines =>
      exact .failed begins (kept.elsewhere.drained drained)
        (lines.imp_right fun ⟨same, broke⟩ => ⟨same, kept.broke broke⟩)
  | aborted begins shown =>
      exact .aborted begins (shown.imp (fun ⟨event, member, panics⟩ =>
        ⟨event, kept.lines event member, panics⟩) kept.broke)

theorem Course.kept (course : Course launch state told main) (kept : Kept state next) :
    Course launch next told main := by
  obtain ⟨elsewhere, broken, lines⟩ := kept
  cases course with
  | starting silent drained => exact .starting silent (elsewhere.drained drained)
  | announcing silent starts accounted =>
      exact .announcing silent starts (elsewhere.accounted accounted)
  | watching opened accounted => exact .watching opened (elsewhere.accounted accounted)
  | polling opened accounted => exact .polling opened (elsewhere.accounted accounted)
  | sawSignal opened accounted signal =>
      exact .sawSignal opened (elsewhere.accounted accounted) (elsewhere.signal ∘ signal)
  | sawStdin opened accounted signal stdin =>
      exact .sawStdin opened (elsewhere.accounted accounted) (elsewhere.signal ∘ signal)
        (elsewhere.stdin ∘ stdin)
  | stopping opened accounted requested =>
      exact .stopping opened (elsewhere.accounted accounted)
        (requested.mono elsewhere.signal elsewhere.stdin)
  | failing opened accounted => exact .failing opened (elsewhere.accounted accounted)
  | draining opened accounted requested =>
      exact .draining opened (elsewhere.accounted accounted)
        (requested.mono elsewhere.signal elsewhere.stdin)
  | givingUp begins accounted => exact .givingUp begins (elsewhere.accounted accounted)
  | departing opened drained requested =>
      exact .departing opened (elsewhere.drained drained)
        (requested.mono elsewhere.signal elsewhere.stdin)
  | reporting begins drained => exact .reporting begins (elsewhere.drained drained)
  | panicked begins => exact .panicked begins
  | exited ending => exact .exited (ending.kept ⟨elsewhere, broken, lines⟩)

theorem Course.begins (course : Course launch state told main)
    (alive : ∀ status, main ≠ .exited status) : told = [] ∨ launch.Opened told := by
  cases course with
  | starting silent | announcing silent => exact .inl silent
  | watching opened | polling opened | sawSignal opened | sawStdin opened | stopping opened
  | failing opened | draining opened | departing opened => exact .inr opened
  | givingUp begins | reporting begins | panicked begins => exact begins
  | exited => exact absurd rfl (alive _)

theorem course_start (course : Course launch state told .starting) :
    Course launch (state.start launch) told (state.start launch).main := by
  obtain ⟨silent, drained⟩ := course
  unfold State.start
  split
  next error failed => exact .reporting (.inl silent) drained
  next config resolved =>
    have fresh : ({} : Engine Port).Drained := ⟨rfl, rfl, rfl⟩
    have built := App.build_holds launch.host config {} fresh
    split
    next report engine made =>
      exact .announcing silent ⟨config, engine, resolved, made⟩ (built _ _ made)
    next error engine made => exact .reporting (.inl silent) (built _ _ made)

theorem course_wrote {event : Event} (kept : Kept state next)
    (course : Course launch state told main) (due : main.event launch = some event) :
    Course launch next (told ++ [event]) main.wrote := by
  cases course with
  | announcing silent starts accounted =>
      cases due
      exact .watching ⟨_, starts, by rw [silent, List.nil_append]⟩ (kept.elsewhere.accounted accounted)
  | departing opened drained requested =>
      cases due
      obtain ⟨report, starts, rfl⟩ := opened
      exact .exited (.stopped starts (kept.elsewhere.drained drained)
        (requested.mono kept.elsewhere.signal kept.elsewhere.stdin) (.inl rfl))
  | reporting begins drained =>
      cases due
      exact .exited (.failed begins (kept.elsewhere.drained drained) (.inl rfl))
  | starting | watching | polling | sawSignal | sawStdin | stopping | failing | draining | givingUp
  | panicked | exited => cases due

theorem course_failed {event : Event} {kind : ErrorKind} (kept : Kept state next)
    (broken : state.stdout.broken = some kind) (course : Course launch state told main)
    (due : main.event launch = some event) : Course launch next told (main.failed kind) := by
  have broke := kept.broken kind broken
  cases course with
  | announcing silent starts accounted =>
      exact .givingUp (.inl silent) (kept.elsewhere.accounted accounted)
  | departing opened drained requested =>
      have after := kept.elsewhere.drained drained
      simp only [MainAt.failed]
      split_ifs with pipe
      · obtain ⟨report, starts, rfl⟩ := opened
        exact .exited (.stopped starts after
          (requested.mono kept.elsewhere.signal kept.elsewhere.stdin)
          (.inr ⟨rfl, broke.trans (congrArg some pipe)⟩))
      · exact .reporting (.inr opened) after
  | @reporting error begins drained =>
      have lines : told = told ++ [fromAnyhow launch error] ∨
          told = told ∧ next.stdout.broken ≠ none := .inr ⟨rfl, by simp [broke]⟩
      exact .exited (.failed begins (kept.elsewhere.drained drained) lines)
  | starting | watching | polling | sawSignal | sawStdin | stopping | failing | draining | givingUp
  | panicked | exited => cases due

theorem told_release (writer : Writer) (main : MainAt) (state : State Port) :
    (state.release writer main).told = state.told := by
  rw [State.told, release_stdout]
  rfl

theorem elsewhere_release (kept : Elsewhere state next) (writer : Writer) (main : MainAt) :
    Elsewhere state (next.release writer main) := by
  obtain ⟨registered, spawned, ended, stream, signal, stdin⟩ := kept
  cases writer <;> exact ⟨registered, spawned, ended, stream, signal, stdin⟩

theorem course_step (moves : Moves launch action state next)
    (alive : ∀ status, state.main ≠ .exited status) (sound : Sound launch state) :
    Course launch next next.told next.main := by
  have course := sound.course
  cases moves with
  | start here =>
      rw [here] at course
      have same : (state.start launch).told = state.told := by
        unfold State.start
        split
        · rfl
        · split <;> rfl
      rw [same]
      exact course_start course
  | sawSignal here =>
      rw [here] at course
      cases course with
      | polling opened accounted => exact .sawSignal opened accounted id
  | sawStdin here =>
      rw [here] at course
      cases course with
      | sawSignal opened accounted signal => exact .sawStdin opened accounted signal id
  | decided here chosen =>
      rw [here] at course
      cases course with
      | sawStdin opened accounted signal stdin =>
          rcases chosen with rfl | rfl | ⟨rfl, saw⟩ | ⟨rfl, saw⟩
          · exact .polling opened accounted
          · exact .failing opened accounted
          · exact .stopping opened accounted (signal saw)
          · exact .stopping opened accounted (stdin saw)
  | stopped here =>
      rw [here] at course
      cases course with
      | stopping opened accounted requested => exact .draining opened accounted requested
  | failed here =>
      rw [here] at course
      cases course with
      | failing opened accounted => exact .givingUp (.inr opened) accounted
  | drained here =>
      rw [here] at course
      cases course with
      | draining opened accounted requested =>
          exact .departing opened (Engine.drained_shutdown accounted _) requested
  | gaveUp here =>
      rw [here] at course
      cases course with
      | givingUp begins accounted =>
          exact .reporting begins (Engine.drained_shutdown accounted _)
  | watched here =>
      rw [here] at course
      cases course with
      | watching opened accounted => exact .polling opened accounted
  | unwatched here =>
      rw [here] at course
      cases course with
      | watching opened accounted => exact .givingUp (.inr opened) accounted
  | lock | write | panic =>
      exact course.kept ⟨⟨rfl, rfl, rfl, rfl, id, id⟩, fun _ => id, fun _ => id⟩
  | finish held works =>
      rename_i writer event
      have due := sound.due alive _ _ _ held
      have kept : Kept state (State.release writer state.main.wrote
          { state with stdout := { state.stdout with
            text := state.stdout.text ++ ['\n']
            lines := state.stdout.lines ++ [event] } }) := by
        refine ⟨elsewhere_release ?_ writer _, fun kind broken => ?_, fun shown member => ?_⟩
        · exact ⟨rfl, rfl, rfl, rfl, id, id⟩
        · exact absurd (works.symm.trans broken) (by simp)
        · rw [release_stdout]
          exact List.mem_append_left _ member
      rw [told_release]
      cases writer with
      | main =>
          have told : (state.stdout.lines ++ [event]).filter (fun event => !event.isPanic) =
              state.told ++ [event] := by
            rw [List.filter_append, List.filter_singleton, mainEvent_not_panic due]
            rfl
          rw [State.told, told]
          exact course_wrote kept course due
      | hook thread =>
          obtain ⟨message, -, rfl⟩ := hook_event due
          have told : (state.stdout.lines ++ [panicEvent message]).filter
              (fun event => !event.isPanic) = state.told := by
            rw [List.filter_append, List.filter_singleton, panicEvent_isPanic]
            exact List.append_nil _
          rw [State.told, told]
          exact course.kept kept
  | fail held broken =>
      rename_i writer event left kind
      have due := sound.due alive _ _ _ held
      have kept : Kept state (state.release writer (state.main.failed kind)) := by
        refine ⟨elsewhere_release ?_ writer _, fun kind broken => ?_, fun shown member => ?_⟩
        · exact ⟨rfl, rfl, rfl, rfl, id, id⟩
        · rw [release_stdout]
          exact broken
        · rw [release_stdout]
          exact member
      rw [told_release]
      cases writer with
      | main => exact course_failed kept broken course due
      | hook thread => exact course.kept kept
  | hostLeaves kind =>
      refine course.kept ⟨⟨rfl, rfl, rfl, rfl, id, id⟩, fun before broken => ?_, fun _ => id⟩
      exact congrArg (· <|> some kind) broken
  | elsewhere kept => exact course.kept ⟨⟨kept.1, kept.2, kept.3, kept.4, kept.5, kept.6⟩,
      fun _ => id, fun _ => id⟩
  | mainPanics => exact .panicked (course.begins alive)
  | abort reported => exact .exited (.aborted (course.begins alive) (sound.reported _ reported))

/-! ## Whose panics are shown -/

structure Blames (schedule : List Action) (state : State Port) : Prop where
  hooked : ∀ thread message, state.panics thread = .hooked message →
    .panic thread message ∈ schedule
  shown : ∃ shown : List (Nat × String),
    state.stdout.lines.filter Event.isPanic = shown.map (fun entry => panicEvent entry.2) ∧
    (shown.map Prod.fst).Nodup ∧ ∀ thread message, (thread, message) ∈ shown →
      state.panics thread = .reported ∧ .panic thread message ∈ schedule

theorem Blames.quiet {schedule : List Action} (blames : Blames schedule state)
    (hooked : ∀ thread message, next.panics thread = .hooked message →
      state.panics thread = .hooked message ∨ action = .panic thread message)
    (reported : ∀ thread, state.panics thread = .reported → next.panics thread = .reported)
    (lines : next.stdout.lines.filter Event.isPanic = state.stdout.lines.filter Event.isPanic) :
    Blames (schedule ++ [action]) next := by
  obtain ⟨shown, same, apart, blamed⟩ := blames.shown
  refine ⟨fun thread message now => ?_, shown, lines.trans same, apart, fun thread message member => ?_⟩
  · rcases hooked thread message now with earlier | rfl
    · exact List.mem_append_left _ (blames.hooked thread message earlier)
    · exact List.mem_append_right _ List.mem_cons_self
  · obtain ⟨told, caused⟩ := blamed thread message member
    exact ⟨reported thread told, List.mem_append_left _ caused⟩

theorem hooked_of_panic {thread other : Nat} {message text : String}
    (cause : action = .panic thread message)
    (hooked : Function.update state.panics thread (.hooked message) other = .hooked text) :
    state.panics other = .hooked text ∨ action = .panic other text := by
  by_cases same : other = thread
  · subst same
    rw [Function.update_self] at hooked
    cases hooked
    exact .inr cause
  · rw [Function.update_of_ne same] at hooked
    exact .inl hooked

theorem reported_of_panic {thread other : Nat} {after : PanicAt}
    (calm : state.panics thread = .calm) (reported : state.panics other = .reported) :
    Function.update state.panics thread after other = .reported := by
  have apart : other ≠ thread := by
    rintro rfl
    cases calm.symm.trans reported
  rw [Function.update_of_ne apart]
  exact reported

theorem hooked_release {writer : Writer} {main : MainAt} {thread : Nat} {message : String}
    (hooked : (state.release writer main).panics thread = .hooked message) :
    state.panics thread = .hooked message := by
  cases writer with
  | main => exact hooked
  | hook own =>
      by_cases same : thread = own
      · subst same
        simp [State.release] at hooked
      · simpa [State.release, Function.update_of_ne same] using hooked

theorem reported_release {writer : Writer} {main : MainAt} {thread : Nat}
    (reported : state.panics thread = .reported) :
    (state.release writer main).panics thread = .reported := by
  cases writer with
  | main => exact reported
  | hook own =>
      by_cases same : thread = own
      · subst same
        exact Function.update_self ..
      · exact (Function.update_of_ne same ..).trans reported

theorem Blames.step {schedule : List Action} (blames : Blames schedule state)
    (sound : Sound launch state) (alive : ∀ status, state.main ≠ .exited status)
    (moves : Moves launch action state next) : Blames (schedule ++ [action]) next := by
  cases moves with
  | start =>
      unfold State.start
      split
      · exact blames.quiet (fun _ _ => .inl) (fun _ => id) rfl
      · split <;> exact blames.quiet (fun _ _ => .inl) (fun _ => id) rfl
  | panic cause calm =>
      exact blames.quiet (fun _ _ => hooked_of_panic cause) (fun _ => reported_of_panic calm) rfl
  | mainPanics cause calm =>
      exact blames.quiet (fun _ _ => hooked_of_panic cause) (fun _ => reported_of_panic calm) rfl
  | fail =>
      refine blames.quiet (fun _ _ hooked => .inl (hooked_release hooked))
        (fun _ => reported_release) ?_
      rw [release_stdout]
  | finish held works =>
      rename_i writer event
      have due := sound.due alive _ _ _ held
      cases writer with
      | main =>
          refine blames.quiet (fun _ _ => .inl) (fun _ => id) ?_
          show (state.stdout.lines ++ [event]).filter Event.isPanic = _
          rw [List.filter_append, List.filter_singleton, mainEvent_not_panic due]
          exact List.append_nil _
      | hook thread =>
          obtain ⟨message, hooked, rfl⟩ := hook_event due
          obtain ⟨shown, same, apart, blamed⟩ := blames.shown
          refine ⟨fun other text now => ?_, shown ++ [(thread, message)], ?_, ?_, ?_⟩
          · have earlier := hooked_release now
            exact List.mem_append_left _ (blames.hooked other text earlier)
          · show (state.stdout.lines ++ [panicEvent message]).filter Event.isPanic = _
            rw [List.filter_append, List.filter_singleton, panicEvent_isPanic, same, List.map_append]
            rfl
          · -- A thread whose panic was shown has left its hook.
            have fresh : thread ∉ shown.map Prod.fst := by
              intro member
              obtain ⟨⟨own, text⟩, listed, rfl⟩ := List.mem_map.mp member
              cases hooked.symm.trans (blamed own text listed).1
            rw [List.map_append]
            exact List.nodup_append.mpr ⟨apart, List.nodup_singleton _, by
              rintro own member other last rfl
              rw [List.map_singleton, List.mem_singleton] at last
              rw [last] at member
              exact fresh member⟩
          · intro other text member
            rcases List.mem_append.mp member with earlier | now
            · obtain ⟨told, caused⟩ := blamed other text earlier
              exact ⟨reported_release told, List.mem_append_left _ caused⟩
            · cases List.mem_singleton.mp now
              exact ⟨Function.update_self .., List.mem_append_left _ (blames.hooked _ _ hooked)⟩
  | sawSignal | sawStdin | decided | stopped | failed | drained | gaveUp | watched | unwatched
  | lock | write | hostLeaves | elsewhere | abort =>
      exact blames.quiet (fun _ _ => .inl) (fun _ => id) rfl

/-! ## Whole runs -/

theorem sound_new : Sound launch (State.new Port) where
  delivered := ⟨[], rfl, Library.Json.plain_nil, fun _ => rfl⟩
  due _ writer event left held := by cases held
  reported thread reported := by cases reported
  course := .starting rfl ⟨rfl, rfl, rfl⟩

theorem blames_new : Blames [] (State.new Port) where
  hooked thread message hooked := by cases hooked
  shown := ⟨[], rfl, List.nodup_nil, by rintro thread message ⟨⟩⟩

theorem Sound.step (sound : Sound launch state)
    (moved : step launch state action = some next) : Sound launch next := by
  obtain ⟨alive, moves⟩ := moves_of_step moved
  exact ⟨delivered_step moves sound.delivered, due_step moves alive sound,
    reported_step moves alive sound, course_step moves alive sound⟩

/-- However its threads interleave, what a headless process has put on stdout reads back as the
events it wrote, and those that are no panic tell the course of the main thread. -/
theorem headless_run_is_told (launch : Launch Port) {schedule : List Action} {last : State Port}
    (run : exec (step launch) (State.new Port) schedule = some last) :
    readEvents launch.addresses last.stdout.text = some last.stdout.lines ∧
      PanicsOf schedule last.stdout.lines ∧
      ((∀ status, last.main ≠ .exited status) → last.told = [] ∨ launch.Opened last.told) ∧
      ∀ status, last.main = .exited status → Ending launch last last.told status := by
  have ⟨sound, blames⟩ : Sound launch last ∧ Blames schedule last :=
    exec_induction (motive := fun before state => Sound launch state ∧ Blames before state)
      ⟨sound_new, blames_new⟩ (fun _ _ _ _ _ ⟨sound, blames⟩ moved =>
        have ⟨alive, moves⟩ := moves_of_step moved
        ⟨sound.step moved, blames.step sound alive moves⟩) schedule last run
  obtain ⟨begun, text, plain, -⟩ := sound.delivered
  obtain ⟨shown, same, apart, blamed⟩ := blames.shown
  refine ⟨?_, ⟨shown, same, apart, fun thread message member => (blamed thread message member).2⟩,
    sound.course.begins, fun status ended => ?_⟩
  · rw [text]
    exact readEvents_printEvents launch.addresses _ plain
  · have course := sound.course
    rw [ended] at course
    cases course with
    | exited ending => exact ending

end

def socketConfig : AppConfig where
  outputs := ⟨[.webSocket ⟨.v4 0x7F000001, 53412⟩ 8 false], by decide, by decide⟩
  input := .calibration (.fixedTone ⟨0x43DC0000⟩)
  midiInput := none
  vocoderConfig := .default

def studioLaunch : Launch (Option String) where
  host := { (Xpc.studioHost true).toHost with
    displays := ⟨Dotted.addresses.display, fun _ => ""⟩ }
  config := .ok socketConfig
  writeText _ := "Broken pipe (os error 32)"
  parseAddr := Dotted.addresses.parse
  parse_display := Dotted.addresses.parse_display

def signalledRun : List Action :=
  [.advance, .lock .main, .write 200, .finish, .watch none, .advance, .panic 3 "boom", .advance,
    .signal, .advance, .advance, .lock (.hook 3), .write 10, .advance, .advance, .advance,
    .advance, .write 100, .finish, .lock .main, .write 100, .finish]

def MainAt.succeeded : MainAt → Bool
  | .exited .success => true
  | _ => false

theorem signalled_run_is_told : ∃ last events,
    exec (step studioLaunch) (State.new _) signalledRun = some last ∧
    readEvents studioLaunch.addresses last.stdout.text = some events ∧
    events.tail = [.error "Panic" "boom", .shutdown .signal] ∧ PanicsOf signalledRun events ∧
    Ending studioLaunch last (events.filter fun event => !event.isPanic) .success := by
  have reached : ((exec (step studioLaunch) (State.new _) signalledRun).map fun last =>
      (last.stdout.lines.tail, last.main.succeeded)) =
        some ([.error "Panic" "boom", .shutdown .signal], true) := by
    decide +kernel
  obtain ⟨last, run, shape⟩ := Option.map_eq_some_iff.mp reached
  obtain ⟨reads, panics, -, ended⟩ := headless_run_is_told studioLaunch run
  obtain ⟨shown, succeeded⟩ := Prod.mk.inj shape
  refine ⟨last, last.stdout.lines, run, reads, shown, panics, ended .success ?_⟩
  cases main : last.main with
  | exited status => cases status <;> simp_all [MainAt.succeeded]
  | _ => simp [main, MainAt.succeeded] at succeeded

end Phase4.Headless
