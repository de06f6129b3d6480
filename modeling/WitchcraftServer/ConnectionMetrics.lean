import Mathlib.Data.List.Basic

/-!
# Connection metrics

`service/connection_metrics.rs` keeps the server's `server.connection.active`
counter.  Its layer wraps the accept service: a call returns a future which,
once the inner accept future is ready, increments the counter and hands out a
stream, and dropping that stream decrements the counter again.  Every I/O
method of the stream is forwarded to the inner connection.

Futures and streams all hold clones of one `Arc<Counter>`, which the layer took
from the metric registry under one name.  The model therefore passes that one
counter explicitly instead of storing a reference in each value.
-/

namespace WitchcraftServer

/-- `std::task::Poll`. -/
inductive Poll (α : Type) where
  | ready (value : α)
  | pending
  deriving Repr, DecidableEq

/-- The values a poll hands out: the output once ready, nothing while pending. -/
def Poll.toList {α : Type} : Poll α → List α
  | .ready value => [value]
  | .pending => []

/-- `witchcraft_metrics::Counter`, by its count. -/
structure Counter where
  count : Int
  deriving Repr, DecidableEq

/-- `Counter::inc`. -/
def Counter.inc (counter : Counter) : Counter :=
  ⟨counter.count + 1⟩

/-- `Counter::dec`. -/
def Counter.dec (counter : Counter) : Counter :=
  ⟨counter.count - 1⟩

@[simp]
theorem Counter.inc_count (counter : Counter) : counter.inc.count = counter.count + 1 :=
  rfl

@[simp]
theorem Counter.dec_count (counter : Counter) : counter.dec.count = counter.count - 1 :=
  rfl

/-- `ConnectionMetricsFuture`: the pinned future of the inner service. -/
structure ConnectionMetricsFuture (F : Type) where
  inner : F

/-- `ConnectionMetricsStream`: the pinned connection of the inner service. -/
structure ConnectionMetricsStream (S : Type) where
  inner : S

/-- The methods `ConnectionMetricsStream` forwards to its inner connection, from
`AsyncRead`, `AsyncWrite` and `GetPeerAddr`. -/
inductive StreamMethod where
  | pollRead
  | pollWrite
  | pollFlush
  | pollShutdown
  | pollWriteVectored
  | isWriteVectored
  | peerAddr
  deriving Repr, DecidableEq

/-- What `ConnectionMetricsService` uses of the service it wraps (the accept
service in `server::start`): its `call`, the `poll` of the futures it returns,
and the methods of the connections those futures yield.  A poll returns the
future as it leaves it; a method call returns its result and the connection as
it leaves it, with the buffers passed in folded into the method. -/
structure InnerService (R F S Out : Type) where
  call : R → F
  poll : F → Poll S × F
  forward : StreamMethod → S → Out × S

variable {R F S Out : Type}

/-- `ConnectionMetricsService::call`: call the inner service and keep its
future. -/
def ConnectionMetricsService.call (service : InnerService R F S Out) (request : R) :
    ConnectionMetricsFuture F :=
  ⟨service.call request⟩

/-- `ConnectionMetricsFuture::poll`: `ready!` returns `Pending` while the inner
future is pending; once it is ready the counter is incremented and the
connection is wrapped in a stream. -/
def ConnectionMetricsFuture.poll (service : InnerService R F S Out)
    (future : ConnectionMetricsFuture F) (activeConnections : Counter) :
    Poll (ConnectionMetricsStream S) × ConnectionMetricsFuture F × Counter :=
  match service.poll future.inner with
  | (.pending, inner) => (.pending, ⟨inner⟩, activeConnections)
  | (.ready connection, inner) => (.ready ⟨connection⟩, ⟨inner⟩, activeConnections.inc)

/-- `poll_read`, `poll_write`, `poll_flush`, `poll_shutdown`,
`poll_write_vectored`, `is_write_vectored` and `peer_addr` of
`ConnectionMetricsStream`: each projects onto the inner connection and calls the
same method there. -/
def ConnectionMetricsStream.forward (service : InnerService R F S Out)
    (method : StreamMethod) (stream : ConnectionMetricsStream S) :
    Out × ConnectionMetricsStream S :=
  let (result, inner) := service.forward method stream.inner
  (result, ⟨inner⟩)

/-- `PinnedDrop::drop` of `ConnectionMetricsStream`: decrement the counter. -/
def ConnectionMetricsStream.drop (_ : ConnectionMetricsStream S) (activeConnections : Counter) :
    Counter :=
  activeConnections.dec

/-- A poll moves the counter by exactly the number of streams it hands out: one
when the inner future is ready, none while it is pending. -/
theorem ConnectionMetricsFuture.poll_count (service : InnerService R F S Out)
    (future : ConnectionMetricsFuture F) (activeConnections : Counter) :
    (future.poll service activeConnections).2.2.count =
      activeConnections.count + (future.poll service activeConnections).1.toList.length := by
  unfold poll
  split <;> simp [Poll.toList]

theorem ConnectionMetricsFuture.poll_pending (service : InnerService R F S Out)
    (future : ConnectionMetricsFuture F) (activeConnections : Counter)
    (pending : (service.poll future.inner).1 = .pending) :
    (future.poll service activeConnections).1 = .pending ∧
      (future.poll service activeConnections).2.2 = activeConnections := by
  unfold poll
  split <;> simp_all

end WitchcraftServer
