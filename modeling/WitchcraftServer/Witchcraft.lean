import Mathlib.Data.List.Basic
import Mathlib.Data.String.Basic

/-!
# The Witchcraft context

`witchcraft.rs` holds the context a service's `init` fills in before the server
starts.  `app` and `api` register async services, `blocking_app` and
`blocking_api` blocking ones, the `api` forms under `/api`.  Each endpoint is
wrapped for metrics (a blocking one also with the shared thread pool) and then
put under the install config's context path by `extend_path`.

The blocking path builds its thread pool on demand with
`Option::get_or_insert_with`.  To say how often that happens, the model numbers
allocations: `ThreadPool.new` takes the number of pools built so far and
returns it incremented.
-/

namespace WitchcraftServer

/-- `InstallConfig`, by the field the registration methods read. -/
structure InstallConfig where
  contextPath : String
  deriving Repr, DecidableEq

/-- The server's `Arc<MetricRegistry>`, by identity. -/
structure MetricRegistry where
  id : Nat
  deriving Repr, DecidableEq

/-- Modelled from the spec: `blocking::pool::ThreadPool` is not among the source
files.  The spec's pool is a bounded set of workers configured at install time;
`Witchcraft` only builds, stores and shares it, so a pool is kept by the
allocation that built it and by what it was built from. -/
structure ThreadPool where
  allocation : Nat
  installConfig : InstallConfig
  metrics : MetricRegistry
  deriving Repr, DecidableEq

/-- Modelled from the spec: `Arc::new(ThreadPool::new(install_config, metrics))`,
as the allocation after `built` earlier ones. -/
def ThreadPool.new (installConfig : InstallConfig) (metrics : MetricRegistry) (built : Nat) :
    ThreadPool × Nat :=
  (⟨built, installConfig, metrics⟩, built + 1)

/-- Modelled from the spec: the endpoint wrappers `ConjureEndpoint`,
`ConjureBlockingEndpoint` and `ExtendedPathEndpoint` are not among the source
files, so each is kept by the arguments of its `new`.  `A` and `B` are the async
and blocking endpoints that services hand in. -/
inductive WitchcraftEndpoint (A B : Type) where
  | conjure (metrics : Option MetricRegistry) (inner : A)
  | conjureBlocking (metrics : MetricRegistry) (threadPool : ThreadPool) (inner : B)
  | extendedPath (inner : WitchcraftEndpoint A B) (path : String)
  deriving Repr, DecidableEq

namespace WitchcraftEndpoint

variable {A B : Type}

/-- The path an endpoint is served under: the `ExtendedPathEndpoint` prefixes
around it, outermost first. -/
def pathPrefix : WitchcraftEndpoint A B → String
  | .extendedPath inner path => path ++ inner.pathPrefix
  | _ => ""

/-- The thread pools an endpoint holds. -/
def threadPools : WitchcraftEndpoint A B → List ThreadPool
  | .conjure _ _ => []
  | .conjureBlocking _ threadPool _ => [threadPool]
  | .extendedPath inner _ => inner.threadPools

/-- The service endpoint inside the wrappers, async on the left. -/
def inner : WitchcraftEndpoint A B → A ⊕ B
  | .conjure _ endpoint => .inl endpoint
  | .conjureBlocking _ _ endpoint => .inr endpoint
  | .extendedPath endpoint _ => endpoint.inner

/-- Whether the outermost wrapper is an `ExtendedPathEndpoint`. -/
def isExtendedPath : WitchcraftEndpoint A B → Bool
  | .extendedPath _ _ => true
  | _ => false

end WitchcraftEndpoint

/-- `Witchcraft`, by the fields the registration methods read and write. -/
structure Witchcraft (A B : Type) where
  metrics : MetricRegistry
  installConfig : InstallConfig
  threadPool : Option ThreadPool
  endpoints : List (WitchcraftEndpoint A B)
  deriving Repr, DecidableEq

variable {A B : Type}

/-- `extend_path`: a context path of `/` counts as empty, and the endpoint is put
under the context path followed by the service prefix unless both are empty. -/
def extendPath (endpoint : WitchcraftEndpoint A B) (contextPath : String)
    (servicePrefix : Option String) : WitchcraftEndpoint A B :=
  let contextPath := if contextPath = "/" then "" else contextPath
  let path := contextPath ++ servicePrefix.getD ""
  if path.isEmpty then endpoint else .extendedPath endpoint path

/-- The context path as a prefix: `/` is the root and adds nothing. -/
def contextPrefix (contextPath : String) : String :=
  if contextPath = "/" then "" else contextPath

/-- An endpoint put under `path`: wrapped in an `ExtendedPathEndpoint` exactly when
`path` is not empty. -/
def mountAt (path : String) (endpoint : WitchcraftEndpoint A B) : WitchcraftEndpoint A B :=
  if path = "" then endpoint else .extendedPath endpoint path

theorem extendPath_eq (endpoint : WitchcraftEndpoint A B) (contextPath : String)
    (servicePrefix : Option String) :
    extendPath endpoint contextPath servicePrefix =
      mountAt (contextPrefix contextPath ++ servicePrefix.getD "") endpoint := by
  simp only [extendPath, mountAt, contextPrefix, String.isEmpty_iff]

@[simp]
theorem threadPools_mountAt (path : String) (endpoint : WitchcraftEndpoint A B) :
    (mountAt path endpoint).threadPools = endpoint.threadPools := by
  unfold mountAt
  split <;> rfl

@[simp]
theorem inner_mountAt (path : String) (endpoint : WitchcraftEndpoint A B) :
    (mountAt path endpoint).inner = endpoint.inner := by
  unfold mountAt
  split <;> rfl

theorem mountAt_unmounted (path : String) {endpoint : WitchcraftEndpoint A B}
    (unmounted : endpoint.isExtendedPath = false) :
    (mountAt path endpoint).pathPrefix = path ∧
      ((mountAt path endpoint).isExtendedPath = true ↔ path ≠ "") := by
  unfold mountAt
  cases endpoint <;> split <;>
    simp_all [WitchcraftEndpoint.pathPrefix, WitchcraftEndpoint.isExtendedPath]

/-- `Option::get_or_insert_with` for a `make` that allocates: the value in the
slot, or a new one that is then stored. -/
def getOrInsertWith {α : Type} (slot : Option α) (make : Nat → α × Nat) (built : Nat) :
    α × Option α × Nat :=
  match slot with
  | some value => (value, some value, built)
  | none => ((make built).1, some (make built).1, (make built).2)

namespace Witchcraft

/-- `Witchcraft::endpoints` (named apart from the field it extends): wrap each
async endpoint in a `ConjureEndpoint` with the server's metrics, extend its
path, and append them in order. -/
def asyncEndpoints (witchcraft : Witchcraft A B) (servicePrefix : Option String)
    (endpoints : List A) : Witchcraft A B :=
  { witchcraft with
    endpoints := witchcraft.endpoints ++
      ((endpoints.map fun endpoint => .conjure (some witchcraft.metrics) endpoint).map
        fun endpoint => extendPath endpoint witchcraft.installConfig.contextPath servicePrefix) }

/-- `Witchcraft::blocking_endpoints`: take the thread pool, building it first if
there is none, then wrap each endpoint with it, extend its path, and append them
in order. -/
def blockingEndpoints (witchcraft : Witchcraft A B) (servicePrefix : Option String)
    (endpoints : List B) (built : Nat) : Witchcraft A B × Nat :=
  let (threadPool, slot, built) := getOrInsertWith witchcraft.threadPool
    (ThreadPool.new witchcraft.installConfig witchcraft.metrics) built
  ({ witchcraft with
      threadPool := slot
      endpoints := witchcraft.endpoints ++
        ((endpoints.map fun endpoint =>
            .conjureBlocking witchcraft.metrics threadPool endpoint).map
          fun endpoint => extendPath endpoint witchcraft.installConfig.contextPath servicePrefix) },
    built)

/-- `Witchcraft::app`: an async service, by the endpoints `service.endpoints()`
returns, at the server's root. -/
def app (witchcraft : Witchcraft A B) (service : List A) : Witchcraft A B :=
  witchcraft.asyncEndpoints none service

/-- `Witchcraft::api`: an async service under `/api`. -/
def api (witchcraft : Witchcraft A B) (service : List A) : Witchcraft A B :=
  witchcraft.asyncEndpoints (some "/api") service

/-- `Witchcraft::blocking_app`: a blocking service at the server's root. -/
def blockingApp (witchcraft : Witchcraft A B) (service : List B) (built : Nat) :
    Witchcraft A B × Nat :=
  witchcraft.blockingEndpoints none service built

/-- `Witchcraft::blocking_api`: a blocking service under `/api`. -/
def blockingApi (witchcraft : Witchcraft A B) (service : List B) (built : Nat) :
    Witchcraft A B × Nat :=
  witchcraft.blockingEndpoints (some "/api") service built

/-- The pool a blocking registration uses: the stored one, or the one it builds
as allocation `built`. -/
def poolFor (witchcraft : Witchcraft A B) (built : Nat) : ThreadPool :=
  witchcraft.threadPool.getD (ThreadPool.new witchcraft.installConfig witchcraft.metrics built).1

theorem asyncEndpoints_eq (witchcraft : Witchcraft A B) (servicePrefix : Option String)
    (endpoints : List A) :
    witchcraft.asyncEndpoints servicePrefix endpoints =
      { witchcraft with
        endpoints := witchcraft.endpoints ++ endpoints.map fun endpoint =>
          extendPath (.conjure (some witchcraft.metrics) endpoint)
            witchcraft.installConfig.contextPath servicePrefix } := by
  simp [asyncEndpoints]

theorem blockingEndpoints_eq (witchcraft : Witchcraft A B) (servicePrefix : Option String)
    (endpoints : List B) (built : Nat) :
    witchcraft.blockingEndpoints servicePrefix endpoints built =
      ({ witchcraft with
          threadPool := some (witchcraft.poolFor built)
          endpoints := witchcraft.endpoints ++ endpoints.map fun endpoint =>
            extendPath (.conjureBlocking witchcraft.metrics (witchcraft.poolFor built) endpoint)
              witchcraft.installConfig.contextPath servicePrefix },
        if witchcraft.threadPool.isSome then built else built + 1) := by
  obtain ⟨metrics, installConfig, threadPool, stored⟩ := witchcraft
  cases threadPool <;> simp [blockingEndpoints, getOrInsertWith, poolFor, ThreadPool.new]

end Witchcraft

end WitchcraftServer
