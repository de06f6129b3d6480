import WitchcraftServer.Witchcraft

/-!
# Registration runs

A service's `init` makes any sequence of `app`, `api`, `blocking_app` and
`blocking_api` calls on the context.  This file folds such a sequence and gives
its result in closed form: the endpoint list grows by exactly the endpoints the
calls registered, in order, each mounted under its prefix; and all blocking
registrations share one thread pool, built by the first of them.
-/

namespace WitchcraftServer

/-- A registration call, with the service given by the endpoints it returns. -/
inductive Registration (A B : Type) where
  | app (service : List A)
  | api (service : List A)
  | blockingApp (service : List B)
  | blockingApi (service : List B)
  deriving Repr, DecidableEq

namespace Registration

variable {A B : Type}

/-- Whether the call registers a blocking service. -/
def isBlocking : Registration A B → Bool
  | .blockingApp _ | .blockingApi _ => true
  | .app _ | .api _ => false

/-- The call on a context, with the number of pools built so far. -/
def apply : Witchcraft A B × Nat → Registration A B → Witchcraft A B × Nat
  | (witchcraft, built), .app service => (witchcraft.app service, built)
  | (witchcraft, built), .api service => (witchcraft.api service, built)
  | (witchcraft, built), .blockingApp service => witchcraft.blockingApp service built
  | (witchcraft, built), .blockingApi service => witchcraft.blockingApi service built

/-- The service prefix of the call: `/api` for the `api` forms, empty for the
`app` forms. -/
def servicePath : Registration A B → String
  | .api _ | .blockingApi _ => "/api"
  | .app _ | .blockingApp _ => ""

/-- The endpoints the call stores, for a server with `metrics` and `contextPath`
whose blocking endpoints share `threadPool`: each service endpoint in its
`ConjureEndpoint` or `ConjureBlockingEndpoint`, mounted at the context prefix
followed by the service prefix. -/
def registered (metrics : MetricRegistry) (contextPath : String) (threadPool : ThreadPool)
    (call : Registration A B) : List (WitchcraftEndpoint A B) :=
  let wrapped : List (WitchcraftEndpoint A B) :=
    match call with
    | .app service | .api service => service.map (.conjure (some metrics))
    | .blockingApp service | .blockingApi service =>
        service.map (.conjureBlocking metrics threadPool)
  wrapped.map (mountAt (contextPrefix contextPath ++ call.servicePath))

/-- The service endpoints the call hands in, async on the left. -/
def service : Registration A B → List (A ⊕ B)
  | .app endpoints | .api endpoints => endpoints.map .inl
  | .blockingApp endpoints | .blockingApi endpoints => endpoints.map .inr

theorem inner_registered (metrics : MetricRegistry) (contextPath : String)
    (threadPool : ThreadPool) (call : Registration A B) :
    (call.registered metrics contextPath threadPool).map WitchcraftEndpoint.inner = call.service := by
  cases call <;> simp [registered, service, Function.comp_def, WitchcraftEndpoint.inner]

theorem mounted_registered (metrics : MetricRegistry) (contextPath : String)
    (threadPool : ThreadPool) (call : Registration A B) :
    ∀ endpoint ∈ call.registered metrics contextPath threadPool,
      endpoint.pathPrefix = contextPrefix contextPath ++ call.servicePath ∧
        (endpoint.isExtendedPath = true ↔ contextPrefix contextPath ++ call.servicePath ≠ "") := by
  cases call <;>
    simpa [registered] using fun _ _ =>
      mountAt_unmounted _ (by rfl)

theorem threadPools_registered (metrics : MetricRegistry) (contextPath : String)
    (threadPool : ThreadPool) (call : Registration A B) :
    ∀ endpoint ∈ call.registered metrics contextPath threadPool,
      ∀ held ∈ endpoint.threadPools, held = threadPool ∧ call.isBlocking = true := by
  cases call <;> simp [registered, WitchcraftEndpoint.threadPools, isBlocking]

theorem apply_eq (witchcraft : Witchcraft A B) (built : Nat) (call : Registration A B) :
    apply (witchcraft, built) call =
      ({ witchcraft with
          threadPool :=
            if call.isBlocking then some (witchcraft.poolFor built) else witchcraft.threadPool
          endpoints := witchcraft.endpoints ++
            call.registered witchcraft.metrics witchcraft.installConfig.contextPath
              (witchcraft.poolFor built) },
        if call.isBlocking && witchcraft.threadPool.isNone then built + 1 else built) := by
  cases call with
  | app service | api service =>
      simp [apply, registered, servicePath, isBlocking, Witchcraft.app, Witchcraft.api,
        Witchcraft.asyncEndpoints_eq, extendPath_eq]
  | blockingApp service | blockingApi service =>
      cases pool : witchcraft.threadPool <;>
        simp [apply, registered, servicePath, isBlocking, Witchcraft.blockingApp,
          Witchcraft.blockingApi, Witchcraft.blockingEndpoints_eq, extendPath_eq, pool]

/-- A sequence of calls, in order. -/
def register (start : Witchcraft A B × Nat) (calls : List (Registration A B)) :
    Witchcraft A B × Nat :=
  calls.foldl apply start

theorem poolFor_apply (witchcraft : Witchcraft A B) (built : Nat) (call : Registration A B) :
    (apply (witchcraft, built) call).1.poolFor (apply (witchcraft, built) call).2 =
      witchcraft.poolFor built := by
  rw [apply_eq]
  cases call.isBlocking <;> cases pool : witchcraft.threadPool <;>
    simp [Witchcraft.poolFor, pool]

/-- Any sequence of calls: the list grows by the calls' endpoints in order, all
blocking ones with the pool `poolFor` names, which is stored once a blocking call
was made and built only if none was stored before. -/
theorem register_eq (witchcraft : Witchcraft A B) (built : Nat) (calls : List (Registration A B)) :
    register (witchcraft, built) calls =
      ({ witchcraft with
          threadPool :=
            if calls.any isBlocking then some (witchcraft.poolFor built) else witchcraft.threadPool
          endpoints := witchcraft.endpoints ++
            calls.flatMap (registered witchcraft.metrics witchcraft.installConfig.contextPath
              (witchcraft.poolFor built)) },
        if calls.any isBlocking && witchcraft.threadPool.isNone then built + 1 else built) := by
  induction calls generalizing witchcraft built with
  | nil => simp [register]
  | cons call calls ih =>
      have pool := poolFor_apply witchcraft built call
      simp only [register, List.foldl_cons] at ih ⊢
      rw [ih, pool, apply_eq, List.any_cons, List.flatMap_cons, List.append_assoc]
      cases call.isBlocking <;> cases calls.any isBlocking <;> cases witchcraft.threadPool <;> rfl

/-- Any sequence of calls appends exactly the endpoints the calls hand in, in
order with none dropped or repeated, each wrapped for its kind and served under
the context prefix followed by its call's service prefix, in an
`ExtendedPathEndpoint` exactly when that prefix is not empty. -/
theorem register_endpoints (witchcraft : Witchcraft A B) (built : Nat)
    (calls : List (Registration A B)) :
    let stored := registered witchcraft.metrics witchcraft.installConfig.contextPath
      (witchcraft.poolFor built)
    (register (witchcraft, built) calls).1.endpoints = witchcraft.endpoints ++ calls.flatMap stored ∧
      (calls.flatMap stored).map WitchcraftEndpoint.inner = calls.flatMap service ∧
      ∀ call ∈ calls, ∀ endpoint ∈ stored call,
        endpoint.pathPrefix = contextPrefix witchcraft.installConfig.contextPath ++ call.servicePath ∧
          (endpoint.isExtendedPath = true ↔
            contextPrefix witchcraft.installConfig.contextPath ++ call.servicePath ≠ "") := by
  refine ⟨by rw [register_eq], ?_, fun call _ => mounted_registered _ _ _ call⟩
  simp only [List.map_flatMap, inner_registered]

/-- From a context with no pool whose endpoints hold none, a sequence of calls
runs `ThreadPool::new` once if it has a blocking call, even one with no
endpoints, and never otherwise; the context then holds that pool, and every
endpoint holding a pool holds it.  A call that is not blocking leaves the pool
slot and the allocations of any context as they are. -/
theorem threadPool_built_once (witchcraft : Witchcraft A B) (built : Nat)
    (calls : List (Registration A B)) (noPool : witchcraft.threadPool = none)
    (unpooled : ∀ endpoint ∈ witchcraft.endpoints, endpoint.threadPools = []) :
    let pool := (ThreadPool.new witchcraft.installConfig witchcraft.metrics built).1
    (register (witchcraft, built) calls).2 = built + (if calls.any isBlocking then 1 else 0) ∧
      (register (witchcraft, built) calls).1.threadPool =
        (if calls.any isBlocking then some pool else none) ∧
      (∀ endpoint ∈ (register (witchcraft, built) calls).1.endpoints,
        ∀ held ∈ endpoint.threadPools, held = pool) ∧
      ∀ (context : Witchcraft A B) (allocated : Nat) (call : Registration A B),
        call.isBlocking = false →
          (apply (context, allocated) call).1.threadPool = context.threadPool ∧
            (apply (context, allocated) call).2 = allocated := by
  intro pool
  have usedPool : witchcraft.poolFor built = pool := by simp [Witchcraft.poolFor, noPool, pool]
  have shape := register_eq witchcraft built calls
  rw [usedPool, noPool] at shape
  refine ⟨?_, ?_, ?_, fun context allocated call notBlocking => ?_⟩
  · rw [shape]
    cases calls.any isBlocking <;> rfl
  · rw [shape]
  · rw [shape]
    intro endpoint member held holds
    rcases List.mem_append.1 member with old | new
    · simp [unpooled endpoint old] at holds
    · obtain ⟨call, -, stored⟩ := List.mem_flatMap.1 new
      exact (threadPools_registered _ _ _ call endpoint stored held holds).1
  · simp [apply_eq, notBlocking]

end Registration

/-- A fresh context, with no pool and no endpoint yet. -/
def freshContext : Witchcraft String String :=
  ⟨⟨0⟩, ⟨"/service"⟩, none, []⟩

/-- Registrations of every kind, the first blocking one with no endpoint. -/
def mixedRegistrations : List (Registration String String) :=
  [.app ["status"], .blockingApi [], .api ["ping"], .blockingApp ["upload", "download"]]

theorem mixedRegistrations_one_pool :
    freshContext.threadPool = none ∧
      (∀ endpoint ∈ freshContext.endpoints, endpoint.threadPools = []) ∧
      (Registration.register (freshContext, 3) mixedRegistrations).2 = 3 + 1 ∧
      (Registration.register (freshContext, 3) mixedRegistrations).1.threadPool =
        some ⟨3, ⟨"/service"⟩, ⟨0⟩⟩ :=
  have stated := Registration.threadPool_built_once freshContext 3 mixedRegistrations rfl
    (by simp [freshContext])
  ⟨rfl, by simp [freshContext], stated.1, stated.2.1⟩

namespace Registration

variable {A B : Type}

/-- Each endpoint that holds a pool holds the context's pool. -/
def PoolShared (witchcraft : Witchcraft A B) : Prop :=
  ∀ endpoint ∈ witchcraft.endpoints, ∀ held ∈ endpoint.threadPools,
    witchcraft.threadPool = some held

/-- Registration keeps every endpoint's pool the context's own: from any context
where that holds (the one `init` builds has no endpoint), it holds after any
sequence of calls, so all blocking endpoints share the context's one pool. -/
theorem poolShared_register (witchcraft : Witchcraft A B) (built : Nat)
    (calls : List (Registration A B)) (shared : PoolShared witchcraft) :
    PoolShared (register (witchcraft, built) calls).1 := by
  rw [register_eq]
  intro endpoint member held holds
  rcases List.mem_append.1 member with old | new
  · have stored := shared endpoint old held holds
    have kept : witchcraft.poolFor built = held := by simp [Witchcraft.poolFor, stored]
    dsimp only
    split <;> simp [kept, stored]
  · obtain ⟨call, called, stored⟩ := List.mem_flatMap.1 new
    obtain ⟨rfl, blocking⟩ := threadPools_registered _ _ _ call endpoint stored held holds
    have anyBlocking : calls.any isBlocking = true := List.any_eq_true.2 ⟨call, called, blocking⟩
    simp [anyBlocking]

end Registration

theorem mixedRegistrations_poolShared :
    Registration.PoolShared freshContext ∧
      Registration.PoolShared (Registration.register (freshContext, 3) mixedRegistrations).1 :=
  have fresh : Registration.PoolShared freshContext := by
    simp [Registration.PoolShared, freshContext]
  ⟨fresh, Registration.poolShared_register freshContext 3 mixedRegistrations fresh⟩

end WitchcraftServer
