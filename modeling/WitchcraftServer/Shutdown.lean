import Mathlib.Data.List.Basic

/-!
# Graceful shutdown

`shutdown` in `lib.rs` runs once the server has started.  It registers the
SIGINT and SIGTERM streams with `signals()?`, returning the error if that fails.
It then waits for a first signal and logs that the server is shutting down; its
`select!` races the server's shutdown hooks against a second signal and a
`sleep(timeout)`, logging why the drain ended unless the hooks finished; last it
awaits the logger's shutdown hooks, with no deadline, and returns `Ok(())`.

The model keeps the task and the runtime apart.  `resume` is the task: where it
is suspended, and what it does when what it awaits completes.  `step` is the
runtime delivering events to it on a clock that moves in ticks.  The one
assumption on the runtime is about timers: a sleep completes only once it is
due, and the runtime wakes the task at most `slack` ticks after that, so the
clock does not pass a sleep that has been due for `slack` ticks.  The only sleep
is the `select!`'s, so every bound on the drain comes from that arm.

Each `info!` line is kept with the time it was logged at, as a service log
record carries it.
-/

namespace WitchcraftServer

/-- Where `shutdown` is. -/
inductive ShutdownPhase where
  /-- `signals()?`. -/
  | registeringSignals
  /-- `signals.next().await`. -/
  | awaitingSignal
  /-- The `select!`, entered at time `since`. -/
  | draining (since : Nat)
  /-- `logger_shutdown_hooks.await`. -/
  | flushingLogs
  /-- Returned `Ok(())`. -/
  | finished
  /-- Returned the error of `signals()`. -/
  | failed
  deriving Repr, DecidableEq

namespace ShutdownPhase

/-- When the sleep the task awaits is due: only the `select!` sleeps, for
`timeout` from when it was entered. -/
def deadline (timeout : Nat) : ShutdownPhase → Option Nat
  | .draining since => some (since + timeout)
  | _ => none

/-- Whether the `select!` is over. -/
def drained : ShutdownPhase → Bool
  | .flushingLogs | .finished => true
  | _ => false

end ShutdownPhase

/-- What the runtime delivers to the task. -/
inductive ShutdownEvent where
  /-- `signals()` returns: `Ok` when both `unix::signal` registrations succeed. -/
  | signalsReturned (ok : Bool)
  | signal
  | serverHooksDone
  | timerFires
  | loggerHooksDone
  | tick
  deriving Repr, DecidableEq

/-- An `info!` line and the time it was logged at. -/
structure LogRecord where
  time : Nat
  message : String
  deriving Repr, DecidableEq

/-- The task, the clock, and the lines logged so far. -/
structure ShutdownState where
  phase : ShutdownPhase
  now : Nat
  records : List LogRecord
  deriving Repr, DecidableEq

namespace ShutdownState

/-- `shutdown` called at time `now`. -/
def initial (now : Nat) : ShutdownState :=
  ⟨.registeringSignals, now, []⟩

/-- The messages logged, in order. -/
def log (state : ShutdownState) : List String :=
  state.records.map LogRecord.message

/-- The first line logged. -/
def shuttingDown : String := "server shutting down"

/-- The line a second signal logs. -/
def interrupted : String := "graceful shutdown interrupted by signal"

/-- The line the sleep logs. -/
def timedOut : String := "graceful shutdown timed out"

/-- Log `message` now and move on to `phase`. -/
def logging (state : ShutdownState) (phase : ShutdownPhase) (message : String) : ShutdownState :=
  ⟨phase, state.now, state.records ++ [⟨state.now, message⟩]⟩

/-- `shutdown` resumed by `event`, one line per await point and per arm of the
`select!`; `none` when the task is not awaiting it.  Once `signals()` has
returned a stream, a signal the task is not reading stays in it unread. -/
def resume (state : ShutdownState) (event : ShutdownEvent) : Option ShutdownState :=
  match state.phase, event with
  | .registeringSignals, .signalsReturned ok =>
      some { state with phase := if ok then .awaitingSignal else .failed }
  | .awaitingSignal, .signal => some (state.logging (.draining state.now) shuttingDown)
  | .draining _, .serverHooksDone => some { state with phase := .flushingLogs }
  | .draining _, .signal => some (state.logging .flushingLogs interrupted)
  | .draining _, .timerFires => some (state.logging .flushingLogs timedOut)
  | .flushingLogs, .loggerHooksDone => some { state with phase := .finished }
  | .flushingLogs, .signal | .finished, .signal | .failed, .signal => some state
  | _, _ => none

variable (timeout slack : Nat)

/-- The runtime delivering `event`.  The clock moves on unless the sleep the
task awaits has been due for `slack` ticks, and the sleep completes only once it
is due; everything else goes to the task as it comes. -/
def step (state : ShutdownState) : ShutdownEvent → Option ShutdownState
  | .tick =>
      if (state.phase.deadline timeout).all (state.now < · + slack) then
        some { state with now := state.now + 1 }
      else none
  | .timerFires =>
      if (state.phase.deadline timeout).any (· ≤ state.now) then state.resume .timerFires else none
  | event => state.resume event

/-- A sequence of events; `none` as soon as one of them is refused. -/
def run : ShutdownState → List ShutdownEvent → Option ShutdownState
  | state, [] => some state
  | state, event :: events => (state.step timeout slack event).bind (run · events)

/-- What one step does, case by case. -/
inductive Transition : ShutdownState → ShutdownEvent → ShutdownState → Prop
  | registered (ok : Bool) (now : Nat) (records : List LogRecord) :
      Transition ⟨.registeringSignals, now, records⟩ (.signalsReturned ok)
        ⟨if ok then .awaitingSignal else .failed, now, records⟩
  | firstSignal (now : Nat) (records : List LogRecord) :
      Transition ⟨.awaitingSignal, now, records⟩ .signal
        ⟨.draining now, now, records ++ [⟨now, shuttingDown⟩]⟩
  | secondSignal (since now : Nat) (records : List LogRecord) :
      Transition ⟨.draining since, now, records⟩ .signal
        ⟨.flushingLogs, now, records ++ [⟨now, interrupted⟩]⟩
  | unreadSignal (state : ShutdownState) (unread : state.phase.drained ∨ state.phase = .failed) :
      Transition state .signal state
  | serverHooksDone (since now : Nat) (records : List LogRecord) :
      Transition ⟨.draining since, now, records⟩ .serverHooksDone ⟨.flushingLogs, now, records⟩
  | timerFires (since now : Nat) (records : List LogRecord) (due : since + timeout ≤ now) :
      Transition ⟨.draining since, now, records⟩ .timerFires
        ⟨.flushingLogs, now, records ++ [⟨now, timedOut⟩]⟩
  | loggerHooksDone (now : Nat) (records : List LogRecord) :
      Transition ⟨.flushingLogs, now, records⟩ .loggerHooksDone ⟨.finished, now, records⟩
  | tick (phase : ShutdownPhase) (now : Nat) (records : List LogRecord)
      (early : (phase.deadline timeout).all (now < · + slack)) :
      Transition ⟨phase, now, records⟩ .tick ⟨phase, now + 1, records⟩

variable {timeout slack}

theorem step_eq_some_iff {state next : ShutdownState} {event : ShutdownEvent} :
    state.step timeout slack event = some next ↔ Transition timeout slack state event next := by
  constructor
  · obtain ⟨phase, now, records⟩ := state
    intro stepped
    cases event <;> cases phase <;>
      simp [step, resume, logging, ShutdownPhase.deadline, eq_comm] at stepped <;>
      first
        | (subst stepped; constructor <;> simp [ShutdownPhase.drained, ShutdownPhase.deadline])
        | (obtain ⟨guard, rfl⟩ := stepped; constructor; simp [ShutdownPhase.deadline, guard])
  · intro transition
    cases transition with
    | unreadSignal state unread =>
        obtain ⟨phase, now, records⟩ := state
        cases phase <;> simp_all [step, resume, ShutdownPhase.drained]
    | _ => simp_all [step, resume, logging, ShutdownPhase.deadline]

theorem run_append (state : ShutdownState) (first later : List ShutdownEvent) :
    state.run timeout slack (first ++ later) =
      (state.run timeout slack first).bind (run timeout slack · later) := by
  induction first generalizing state with
  | nil => rfl
  | cons event first ih =>
      rw [List.cons_append, run, run, Option.bind_assoc]
      simp only [ih]

/-- Whatever one step keeps, given the events delivered so far, a run keeps. -/
theorem run_induction (Holds : List ShutdownEvent → ShutdownState → Prop)
    (kept : ∀ {delivered state next event}, Holds delivered state →
      state.step timeout slack event = some next → Holds (delivered ++ [event]) next) :
    ∀ (delivered : List ShutdownEvent) {state final events}, Holds delivered state →
      state.run timeout slack events = some final → Holds (delivered ++ events) final
  | _, _, _, [], holds, ran => by cases ran; simpa using holds
  | _, _, _, event :: _, holds, ran => by
      obtain ⟨_, stepped, rest⟩ := Option.bind_eq_some.1 ran
      simpa using run_induction Holds kept _ (kept holds stepped) rest

variable (timeout slack)

/-- The shape and timing of the log in every reachable state: nothing is logged
before the first signal; the drain has logged only its first line, stamped when
it began, and has not outlived its sleep by more than `slack`; after it, the first
line is followed by the interruption, by the timeout (only once the sleep was
due), or by nothing, stamped when the drain ended. -/
def Consistent (state : ShutdownState) : Prop :=
  match state.phase with
  | .registeringSignals | .awaitingSignal | .failed => state.records = []
  | .draining since =>
      state.records = [⟨since, shuttingDown⟩] ∧ since ≤ state.now ∧
        state.now ≤ since + timeout + slack
  | .flushingLogs | .finished =>
      ∃ since ended, since ≤ ended ∧ ended ≤ since + timeout + slack ∧ ended ≤ state.now ∧
        (state.records = [⟨since, shuttingDown⟩] ∨
          state.records = [⟨since, shuttingDown⟩, ⟨ended, interrupted⟩] ∨
          state.records = [⟨since, shuttingDown⟩, ⟨ended, timedOut⟩] ∧ since + timeout ≤ ended)

/-- What the log and the result say about the events `delivered` so far: the
timeout line is there exactly when the sleep completed, and the first line stands
alone after the drain exactly when the server's hooks finished it; `shutdown` has
returned `Ok(())` exactly when the logger's hooks completed, and an error exactly
when `signals()` failed. -/
def Explained (delivered : List ShutdownEvent) (state : ShutdownState) : Prop :=
  (timedOut ∈ state.log ↔ .timerFires ∈ delivered) ∧
    (.serverHooksDone ∈ delivered ↔ state.phase.drained ∧ state.log = [shuttingDown]) ∧
    (state.phase = .finished ↔ .loggerHooksDone ∈ delivered) ∧
    (state.phase = .failed ↔ .signalsReturned false ∈ delivered)

variable {timeout slack}

theorem consistent_step {state next : ShutdownState} {event : ShutdownEvent}
    (consistent : state.Consistent timeout slack)
    (stepped : state.step timeout slack event = some next) :
    next.Consistent timeout slack := by
  cases step_eq_some_iff.1 stepped with
  | registered ok => cases ok <;> exact consistent
  | firstSignal now =>
      simp_all [Consistent]
      omega
  | secondSignal since now =>
      obtain ⟨rfl, began, bounded⟩ := consistent
      exact ⟨since, now, began, bounded, le_rfl, .inr (.inl rfl)⟩
  | unreadSignal => exact consistent
  | serverHooksDone since now =>
      obtain ⟨rfl, began, bounded⟩ := consistent
      exact ⟨since, now, began, bounded, le_rfl, .inl rfl⟩
  | timerFires since now records due =>
      obtain ⟨rfl, began, bounded⟩ := consistent
      exact ⟨since, now, began, bounded, le_rfl, .inr (.inr ⟨rfl, due⟩)⟩
  | loggerHooksDone => exact consistent
  | tick phase now records early =>
      cases phase with
      | draining since =>
          obtain ⟨logged, began, -⟩ := consistent
          simp only [ShutdownPhase.deadline, Option.all_some, decide_eq_true_eq] at early
          exact ⟨logged, Nat.le_succ_of_le began, early⟩
      | flushingLogs | finished =>
          obtain ⟨since, ended, began, bounded, atMost, logged⟩ := consistent
          exact ⟨since, ended, began, bounded, Nat.le_succ_of_le atMost, logged⟩
      | _ => exact consistent

theorem explained_step {delivered : List ShutdownEvent} {state next : ShutdownState}
    {event : ShutdownEvent} (consistent : state.Consistent timeout slack)
    (explained : Explained delivered state)
    (stepped : state.step timeout slack event = some next) :
    Explained (delivered ++ [event]) next := by
  cases step_eq_some_iff.1 stepped with
  | registered ok => cases ok <;> simp_all [Explained, log, ShutdownPhase.drained]
  | _ =>
      simp_all [Explained, Consistent, log, ShutdownPhase.drained, shuttingDown, interrupted,
        timedOut]

theorem consistent_run {state final : ShutdownState} {events : List ShutdownEvent}
    (consistent : state.Consistent timeout slack)
    (ran : state.run timeout slack events = some final) :
    final.Consistent timeout slack :=
  run_induction (fun _ state => state.Consistent timeout slack) consistent_step [] consistent ran

/-- Over every run of `shutdown` from its call, with any order of signals, hook
completions, the sleep and clock ticks: the log has the shape and timing
`Consistent` gives, and the log and the result say why, as `Explained` gives. -/
theorem consistent_of_run (now : Nat) {events : List ShutdownEvent} {final : ShutdownState}
    (ran : (initial now).run timeout slack events = some final) :
    final.Consistent timeout slack ∧ Explained events final := by
  have start : (initial now).Consistent timeout slack ∧ Explained [] (initial now) := by
    simp [Consistent, Explained, initial, log, ShutdownPhase.drained]
  simpa using run_induction (fun delivered state => state.Consistent timeout slack ∧
      Explained delivered state)
    (fun holds stepped => ⟨consistent_step holds.1 stepped, explained_step holds.1 holds.2 stepped⟩)
    [] start ran

/-- A shutdown whose drain times out: `signals()` succeeds, a tick, the first
signal, the sleep's two ticks and its completion, a signal nobody reads, and the
logger's hooks. -/
def timedOutShutdown : List ShutdownEvent :=
  [.signalsReturned true, .tick, .signal, .tick, .tick, .timerFires, .signal, .loggerHooksDone]

theorem timedOutShutdown_consistent :
    (initial 0).run 2 1 timedOutShutdown = some ⟨.finished, 3, [⟨1, shuttingDown⟩, ⟨3, timedOut⟩]⟩ ∧
      Consistent 2 1 ⟨.finished, 3, [⟨1, shuttingDown⟩, ⟨3, timedOut⟩]⟩ ∧
      Explained timedOutShutdown ⟨.finished, 3, [⟨1, shuttingDown⟩, ⟨3, timedOut⟩]⟩ :=
  have ran : (initial 0).run 2 1 timedOutShutdown =
      some ⟨.finished, 3, [⟨1, shuttingDown⟩, ⟨3, timedOut⟩]⟩ := rfl
  ⟨ran, consistent_of_run 0 ran⟩

/-! ## The clock is never held back -/

/-- From a consistent state the clock moves on by one tick: at once, or, when
the sleep has been due for `slack` ticks, once the sleep has completed. -/
theorem clock_moves_on {state : ShutdownState} (consistent : state.Consistent timeout slack) :
    ∃ later next, state.run timeout slack later = some next ∧ next.now = state.now + 1 ∧
      (later = [.tick] ∨ later = [.timerFires, .tick]) := by
  obtain ⟨phase, now, records⟩ := state
  by_cases early : (phase.deadline timeout).all (now < · + slack)
  · have ticked := step_eq_some_iff.2 (.tick phase now records early)
    exact ⟨[.tick], ⟨phase, now + 1, records⟩, by simp [run, ticked], rfl, .inl rfl⟩
  · cases phase with
    | draining since =>
        simp only [Consistent] at consistent
        simp only [ShutdownPhase.deadline, Option.all_some, decide_eq_true_eq] at early
        have fired : step timeout slack ⟨.draining since, now, records⟩ .timerFires = some _ :=
          step_eq_some_iff.2 (.timerFires since now records (by omega))
        have ticked : step timeout slack ⟨.flushingLogs, now, _⟩ .tick = some _ :=
          step_eq_some_iff.2 (.tick .flushingLogs now (records ++ [⟨now, timedOut⟩]) rfl)
        exact ⟨[.timerFires, .tick], ⟨.flushingLogs, now + 1, records ++ [⟨now, timedOut⟩]⟩,
          by simp [run, fired, ticked], rfl, .inr rfl⟩
    | _ => simp [ShutdownPhase.deadline] at early

theorem clock_runs_on_of_consistent :
    ∀ (ticks : Nat) {state : ShutdownState}, state.Consistent timeout slack →
      ∃ later next, state.run timeout slack later = some next ∧ next.now = state.now + ticks ∧
        ∀ event ∈ later, event = .tick ∨ event = .timerFires
  | 0, state, _ => ⟨[], state, rfl, rfl, by simp⟩
  | ticks + 1, _, consistent => by
      obtain ⟨first, middle, ranFirst, movedFirst, timeOnly⟩ := clock_moves_on consistent
      obtain ⟨rest, next, ranRest, movedRest, restOnly⟩ :=
        clock_runs_on_of_consistent ticks (consistent_run consistent ranFirst)
      refine ⟨first ++ rest, next, by rw [run_append, ranFirst]; exact ranRest, by omega, ?_⟩
      rcases timeOnly with rfl | rfl <;> simpa using restOnly

/-- No reachable state of `shutdown` holds the clock back: from every state
reachable from its call, ticks and the sleep completing alone carry it any
number of ticks forward.  So the drain ends within `timeout + slack` of its start
because the sleep's arm ends it, not because time stops. -/
theorem clock_runs_on (now : Nat) {events : List ShutdownEvent} {final : ShutdownState}
    (ran : (initial now).run timeout slack events = some final) (ticks : Nat) :
    ∃ later next, final.run timeout slack later = some next ∧ next.now = final.now + ticks ∧
      ∀ event ∈ later, event = .tick ∨ event = .timerFires :=
  clock_runs_on_of_consistent ticks
    (consistent_run (show (initial now).Consistent timeout slack from rfl) ran)

/-- A drain at its last tick: its sleep has been due for `slack` ticks. -/
def drainAtDeadline : List ShutdownEvent :=
  [.signalsReturned true, .signal, .tick, .tick, .tick]

theorem drainAtDeadline_runs_on :
    (initial 0).run 2 1 drainAtDeadline = some ⟨.draining 0, 3, [⟨0, shuttingDown⟩]⟩ ∧
      (⟨.draining 0, 3, [⟨0, shuttingDown⟩]⟩ : ShutdownState).step 2 1 .tick = none ∧
      ∃ later next, (⟨.draining 0, 3, [⟨0, shuttingDown⟩]⟩ : ShutdownState).run 2 1 later =
          some next ∧ next.now = 3 + 5 ∧ ∀ event ∈ later, event = .tick ∨ event = .timerFires :=
  have ran : (initial 0).run 2 1 drainAtDeadline = some ⟨.draining 0, 3, [⟨0, shuttingDown⟩]⟩ :=
    rfl
  ⟨ran, rfl, clock_runs_on 0 ran 5⟩

/-! ## Signals read -/

/-- With `signals` delivered so far: a drain has read at least one signal, and an
interruption is logged only once two were delivered. -/
def SignalsRead (signals : Nat) (state : ShutdownState) : Prop :=
  (interrupted ∈ state.log → 2 ≤ signals) ∧ ∀ since, state.phase = .draining since → 1 ≤ signals

theorem signalsRead_step {signals : Nat} {state next : ShutdownState} {event : ShutdownEvent}
    (read : SignalsRead signals state) (stepped : state.step timeout slack event = some next) :
    SignalsRead (signals + if event == .signal then 1 else 0) next := by
  obtain ⟨logged, draining⟩ := read
  cases step_eq_some_iff.1 stepped with
  | registered ok => exact ⟨logged, by cases ok <;> simp⟩
  | firstSignal now records =>
      refine ⟨fun member => Nat.le_succ_of_le (logged ?_), by simp⟩
      simpa [log, interrupted, shuttingDown] using member
  | secondSignal since => exact ⟨fun _ => Nat.succ_le_succ (draining since rfl), by simp⟩
  | unreadSignal =>
      exact ⟨fun member => Nat.le_succ_of_le (logged member),
        fun since phase => Nat.le_succ_of_le (draining since phase)⟩
  | timerFires since now records =>
      refine ⟨fun member => logged ?_, by simp⟩
      simpa [log, interrupted, timedOut] using member
  | serverHooksDone | loggerHooksDone => exact ⟨logged, by simp⟩
  | tick => exact ⟨logged, draining⟩

/-- The first signal is read before the `select!` starts, so only a second one can
cut the drain short: in every run from the start that logs the interruption, at
least two signals were delivered. -/
theorem interrupted_after_two_signals (now : Nat) {events : List ShutdownEvent}
    {final : ShutdownState} (ran : (initial now).run timeout slack events = some final)
    (logged : interrupted ∈ final.log) :
    2 ≤ events.count .signal := by
  have read := run_induction (fun delivered state => SignalsRead (delivered.count .signal) state)
    (fun read stepped => by
      simpa only [List.count_append, List.count_singleton] using signalsRead_step read stepped)
    [] (by simp [SignalsRead, initial, log]) ran
  simpa using read.1 logged

/-- A shutdown cut short by a second signal, with a tick before each. -/
def interruptedShutdown : List ShutdownEvent :=
  [.signalsReturned true, .tick, .signal, .tick, .signal, .loggerHooksDone]

theorem interruptedShutdown_two_signals :
    (initial 0).run 5 1 interruptedShutdown =
        some ⟨.finished, 2, [⟨1, shuttingDown⟩, ⟨2, interrupted⟩]⟩ ∧
      interrupted ∈ ShutdownState.log ⟨.finished, 2, [⟨1, shuttingDown⟩, ⟨2, interrupted⟩]⟩ ∧
      2 ≤ interruptedShutdown.count .signal :=
  have ran : (initial 0).run 5 1 interruptedShutdown =
      some ⟨.finished, 2, [⟨1, shuttingDown⟩, ⟨2, interrupted⟩]⟩ := rfl
  have logged :
      interrupted ∈ ShutdownState.log ⟨.finished, 2, [⟨1, shuttingDown⟩, ⟨2, interrupted⟩]⟩ := by
    simp [log]
  ⟨ran, logged, interrupted_after_two_signals 0 ran logged⟩

end ShutdownState

end WitchcraftServer
