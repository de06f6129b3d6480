import WitchcraftServer.Registration

/-!
# Starting the server

`server::start` assembles three services from layers, outermost first: the
per-request service (routing, request ids, trace propagation and spans over the
handler), the per-connection service (TLS, TLS metrics and the idle timeout over
hyper), and the accept service (the connection limit and connection metrics over
the listener); then it spawns the accept loop over them.

The routing layer is built by `RoutingLayer::new(vec![])`: whatever the context
holds, the request pipeline routes over no endpoint at all.
-/

namespace WitchcraftServer

/-- Modelled from the spec: `service/routing.rs` is not among the source files.
The spec's routing layer matches each request against the endpoints it was given,
so the layer is kept by the endpoints `RoutingLayer::new` receives. -/
structure RoutingLayer (A B : Type) where
  endpoints : List (WitchcraftEndpoint A B)
  deriving Repr, DecidableEq

/-- The layers of the per-request service, over `HandlerService`. -/
inductive RequestLayer (A B : Type) where
  | routing (layer : RoutingLayer A B)
  | requestId
  | tracePropagation
  | spans
  deriving Repr, DecidableEq

/-- The layers of the per-connection service, over `HyperService`; `T` is the TLS
layer `TlsLayer::new` builds. -/
inductive HandleLayer (T : Type) where
  | tls (layer : T)
  | tlsMetrics (metrics : MetricRegistry)
  | idleConnection (config : InstallConfig)
  deriving Repr, DecidableEq

/-- The layers of the accept service, over `AcceptService`. -/
inductive AcceptLayer where
  | connectionLimit (config : InstallConfig)
  | connectionMetrics (config : InstallConfig) (metrics : MetricRegistry)
  deriving Repr, DecidableEq

/-- The three services the accept loop is spawned over, each by its layers,
outermost first; `L` is the listener `AcceptService::new` builds. -/
structure Server (A B T L : Type) where
  requestService : List (RequestLayer A B)
  handleService : List (HandleLayer T)
  acceptService : List AcceptLayer
  listener : L
  deriving Repr, DecidableEq

namespace Server

variable {A B T L E : Type}

/-- The endpoints the request pipeline routes over. -/
def routingEndpoints (server : Server A B T L) : List (WitchcraftEndpoint A B) :=
  server.requestService.flatMap fun
    | .routing layer => layer.endpoints
    | _ => []

/-- `server::start`, with `TlsLayer::new` and `AcceptService::new` (not among the
source files) as parameters: their first error is returned, and otherwise the
services the accept loop is spawned over. -/
def start (tlsLayerNew : InstallConfig → Except E T) (acceptServiceNew : InstallConfig → Except E L)
    (config : InstallConfig) (witchcraft : Witchcraft A B) : Except E (Server A B T L) := do
  let requestService := [.routing ⟨[]⟩, .requestId, .tracePropagation, .spans]
  let tls ← tlsLayerNew config
  let handleService := [.tls tls, .tlsMetrics witchcraft.metrics, .idleConnection config]
  let listener ← acceptServiceNew config
  let acceptService := [.connectionLimit config, .connectionMetrics config witchcraft.metrics]
  pure ⟨requestService, handleService, acceptService, listener⟩

/-- Whatever the context holds, a started server routes over no endpoint. -/
theorem routingEndpoints_start {tlsLayerNew : InstallConfig → Except E T}
    {acceptServiceNew : InstallConfig → Except E L} {config : InstallConfig}
    {witchcraft : Witchcraft A B} {server : Server A B T L}
    (started : start tlsLayerNew acceptServiceNew config witchcraft = .ok server) :
    server.routingEndpoints = [] := by
  simp only [start, bind, Except.bind, pure, Except.pure] at started
  split at started
  · cases started
  · split at started <;> cases started
    rfl

end Server

/-- A context at the root path with no endpoint yet. -/
def rootContext : Witchcraft String String :=
  ⟨⟨0⟩, ⟨"/"⟩, none, []⟩

/-- After one `api` call the context holds its endpoint under `/api`, yet the
server started from it routes over nothing. -/
theorem start_drops_registered_endpoints :
    (Registration.register (rootContext, 0) [.api ["ping"]]).1.endpoints =
        [.extendedPath (.conjure (some ⟨0⟩) "ping") "/api"] ∧
      ((Server.start (fun _ => .ok ()) (fun _ => .ok ()) ⟨"/"⟩
          (Registration.register (rootContext, 0) [.api ["ping"]]).1 :
          Except String (Server String String Unit Unit)).map Server.routingEndpoints) = .ok [] := by
  refine ⟨rfl, ?_⟩
  obtain ⟨server, started⟩ : ∃ server, (Server.start (fun _ => .ok ()) (fun _ => .ok ()) ⟨"/"⟩
      (Registration.register (rootContext, 0) [.api ["ping"]]).1 :
        Except String (Server String String Unit Unit)) = .ok server := ⟨_, rfl⟩
  rw [started]
  exact congrArg Except.ok (Server.routingEndpoints_start started)

end WitchcraftServer
