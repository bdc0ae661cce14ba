import Trust0.Model
/-
The client's `ServiceMgr` of `client/src/service/manager.rs`: one proxy listener, proxy
visitor, listener thread and address record per started service, the routing of closed-proxy
events to the visitors, and the shutdown of every service proxy.

The visitors and proxies are built by constructors outside the sources; the model keeps what
the manager passes them, and each constructor's success or failure is an input. Calls on a
visitor are returned as a list, in the order the manager makes them.
-/

namespace Trust0

namespace Client

/-- Simple tuple to hold proxy address information for connected session: the client port, the
gateway host and the gateway port. -/
structure ProxyAddrs where
  clientPort : UInt16
  gatewayHost : String
  gatewayPort : UInt16
  deriving DecidableEq, Repr

/-- A service proxy listener (`TcpClientProxy` or `UdpClientProxy`) and its client port. -/
structure ClientServiceProxy where
  transport : Transport
  clientPort : UInt16
  deriving DecidableEq, Repr

/-- A service's proxy visitor, as its constructor was called: the service and the three proxy
addresses. -/
structure ClientServiceProxyVisitor where
  service : Service
  clientPort : UInt16
  gatewayHost : String
  gatewayPort : UInt16
  deriving DecidableEq, Repr

/-- A call the manager makes on a service's visitor. -/
inductive VisitorCall
  | removeProxyForKey (serviceId : UInt64) (proxyKey : String)
  | setShutdownRequested (serviceId : UInt64)
  | shutdownConnections (serviceId : UInt64)
  deriving DecidableEq, Repr

/-- Manage service connections. `serviceProxyThreads` holds, for each listener thread, the
proxy whose `startup` it runs. -/
structure ServiceMgr where
  serviceProxies : HashMap UInt64 ClientServiceProxy
  serviceProxyVisitors : HashMap UInt64 ClientServiceProxyVisitor
  serviceProxyThreads : HashMap UInt64 ClientServiceProxy
  serviceAddrs : HashMap UInt64 ProxyAddrs
  servicesByProxyKey : HashMap String UInt64
  deriving DecidableEq

namespace ServiceMgr

/-- ServiceMgr constructor -/
def new : ServiceMgr := ⟨∅, ∅, ∅, ∅, ∅⟩

/-- Proxy addresses for active service proxy -/
def getProxyAddrsForService (m : ServiceMgr) (serviceId : UInt64) : Option ProxyAddrs :=
  m.serviceAddrs.lookup serviceId

/-- The constructors `startup` calls for a transport: the visitor's, answering `visitorNew`, and
for UDP then `UdpClientProxy::new`, answering `udpProxyNew`; `TcpClientProxy::new` cannot
fail. -/
def newServiceProxy (transport : Transport) (visitorNew udpProxyNew : Except AppError Unit) :
    Except AppError Unit :=
  match transport with
  | .tcp => visitorNew
  | .udp => visitorNew.bind fun () => udpProxyNew

/-- The inserts that end `startup`: the addresses, the proxy, the visitor and the listener
thread. -/
def addServiceProxy (m : ServiceMgr) (service : Service) (proxyAddrs : ProxyAddrs) : ServiceMgr :=
  let proxy : ClientServiceProxy := ⟨service.transport, proxyAddrs.clientPort⟩
  { m with
    serviceAddrs := m.serviceAddrs.insert service.serviceId proxyAddrs
    serviceProxies := m.serviceProxies.insert service.serviceId proxy
    serviceProxyVisitors := m.serviceProxyVisitors.insert service.serviceId
      ⟨service, proxyAddrs.clientPort, proxyAddrs.gatewayHost, proxyAddrs.gatewayPort⟩
    serviceProxyThreads := m.serviceProxyThreads.insert service.serviceId proxy }

section AddServiceProxy

variable (m : ServiceMgr) (service : Service) (proxyAddrs : ProxyAddrs)

@[simp] theorem addServiceProxy_serviceAddrs :
    (m.addServiceProxy service proxyAddrs).serviceAddrs =
      m.serviceAddrs.insert service.serviceId proxyAddrs := rfl

@[simp] theorem addServiceProxy_serviceProxies :
    (m.addServiceProxy service proxyAddrs).serviceProxies =
      m.serviceProxies.insert service.serviceId ⟨service.transport, proxyAddrs.clientPort⟩ := rfl

@[simp] theorem addServiceProxy_serviceProxyVisitors :
    (m.addServiceProxy service proxyAddrs).serviceProxyVisitors =
      m.serviceProxyVisitors.insert service.serviceId
        ⟨service, proxyAddrs.clientPort, proxyAddrs.gatewayHost, proxyAddrs.gatewayPort⟩ := rfl

@[simp] theorem addServiceProxy_serviceProxyThreads :
    (m.addServiceProxy service proxyAddrs).serviceProxyThreads =
      m.serviceProxyThreads.insert service.serviceId ⟨service.transport, proxyAddrs.clientPort⟩ :=
  rfl

end AddServiceProxy

/-- Startup new proxy service to allow clients to connect/communicate to given service. A
service already started gets its stored addresses back, whatever `proxyAddrs` is. -/
def startup (m : ServiceMgr) (service : Service) (proxyAddrs : ProxyAddrs)
    (visitorNew udpProxyNew : Except AppError Unit) : Except AppError ProxyAddrs × ServiceMgr :=
  match m.serviceAddrs.lookup service.serviceId with
  | some addrs => (.ok addrs, m)
  | none =>
      match newServiceProxy service.transport visitorNew udpProxyNew with
      | .error err => (.error err, m)
      | .ok () => (.ok proxyAddrs, m.addServiceProxy service proxyAddrs)

/-- Everything `startup` can do: give back the stored addresses of a started service; build the
proxy when every constructor succeeds; or fail with a constructor's error, changing nothing. -/
theorem startup_cases (m : ServiceMgr) (service : Service) (proxyAddrs : ProxyAddrs)
    (visitorNew udpProxyNew : Except AppError Unit) :
    (∃ addrs, m.serviceAddrs.lookup service.serviceId = some addrs ∧
      m.startup service proxyAddrs visitorNew udpProxyNew = (.ok addrs, m)) ∨
    (m.serviceAddrs.lookup service.serviceId = none ∧
      newServiceProxy service.transport visitorNew udpProxyNew = .ok () ∧
      m.startup service proxyAddrs visitorNew udpProxyNew =
        (.ok proxyAddrs, m.addServiceProxy service proxyAddrs)) ∨
    (m.serviceAddrs.lookup service.serviceId = none ∧ ∃ err,
      newServiceProxy service.transport visitorNew udpProxyNew = .error err ∧
      m.startup service proxyAddrs visitorNew udpProxyNew = (.error err, m)) := by
  cases hl : m.serviceAddrs.lookup service.serviceId with
  | some addrs => exact .inl ⟨addrs, rfl, by simp [startup, hl]⟩
  | none =>
      cases hnew : newServiceProxy service.transport visitorNew udpProxyNew with
      | ok u => exact .inr (.inl ⟨rfl, rfl, by simp [startup, hl, hnew]⟩)
      | error err => exact .inr (.inr ⟨rfl, err, rfl, by simp [startup, hl, hnew]⟩)

/-- Shutdown all connected services, and respective proxy connections/listeners: each visitor,
in the map's order, is asked to stop and to shut down its connections, answering
`visitorShutdown`; failures are collected, each rendered by `debugError` as `{:?}` renders it. -/
def shutdown (m : ServiceMgr) (visitorShutdown : UInt64 → Except AppError Unit)
    (debugError : AppError → String) : Except AppError Unit × List VisitorCall :=
  let ids := m.serviceProxyVisitors.keys
  let errors := ids.filterMap fun id =>
    match visitorShutdown id with
    | .error err => some ("Failed shutting down service proxy: svc_id=" ++ toString id ++
        ", err=" ++ debugError err)
    | .ok () => none
  (if errors.isEmpty then .ok ()
    else .error (.general ("Error shutting down services: err(s)=" ++ ",".intercalate errors)),
    ids.flatMap fun id => [.setShutdownRequested id, .shutdownConnections id])

/-- Shutdown all service proxy connections for a service (`_shutdown_for_service`), the error
rendered by `displayError` as `{}` renders it. -/
def shutdownForService (m : ServiceMgr) (serviceId : UInt64)
    (visitorShutdown : Except AppError Unit) (displayError : AppError → String) :
    Except AppError Unit × List VisitorCall :=
  match m.serviceProxyVisitors.lookup serviceId with
  | some _ =>
      (match visitorShutdown with
        | .error err => .error (.general ("Error shutting down service: svc_id=" ++
            toString serviceId ++ ", err(s)=" ++ displayError err))
        | .ok () => .ok (),
        [.setShutdownRequested serviceId, .shutdownConnections serviceId])
  | none => (.ok (), [])

/-- One turn of `poll_proxy_events` on a received event: for `Closed`, the visitor of the key's
service, of `u64::MAX` for an unknown key, is asked to remove the key; other events are
skipped. -/
def onProxyEvent (m : ServiceMgr) : ProxyEvent → List VisitorCall
  | .closed proxyKey =>
      let serviceId := (m.servicesByProxyKey.lookup proxyKey).getD u64Max
      match m.serviceProxyVisitors.lookup serviceId with
      | some _ => [.removeProxyForKey serviceId proxyKey]
      | none => []
  | .message => []

section Shutdown

variable (m : ServiceMgr) (visitorShutdown : UInt64 → Except AppError Unit)
  (debugError : AppError → String)

/-- The calls are the two calls for each visitor of the map. -/
theorem mem_shutdown_calls (call : VisitorCall) :
    call ∈ (m.shutdown visitorShutdown debugError).2 ↔
      ∃ id ∈ m.serviceProxyVisitors,
        call = .setShutdownRequested id ∨ call = .shutdownConnections id := by
  simp only [shutdown, List.mem_flatMap, AList.mem_keys, List.mem_cons, List.mem_singleton,
    List.not_mem_nil, or_false]

theorem shutdown_calls_nodup : (m.shutdown visitorShutdown debugError).2.Nodup := by
  refine List.nodup_flatMap.2 ⟨fun id _ => by simp, (m.serviceProxyVisitors.keys_nodup).imp
    fun hne call h1 h2 => ?_⟩
  simp only [List.mem_cons, List.mem_singleton, List.not_mem_nil, or_false] at h1 h2
  rcases h1 with rfl | rfl <;> rcases h2 with h2 | h2 <;> cases h2 <;> exact hne rfl

/-- Each visitor is asked to stop right before it is asked to shut down its connections. -/
theorem stop_before_shutdown_calls {id : UInt64} (hid : id ∈ m.serviceProxyVisitors) :
    [VisitorCall.setShutdownRequested id, .shutdownConnections id] <:+:
      (m.shutdown visitorShutdown debugError).2 :=
  List.infix_of_mem_flatten (List.mem_map_of_mem _ (AList.mem_keys.2 hid))

/-- The call returns `Err` exactly when one of the visitors failed. -/
theorem shutdown_error_iff :
    (∃ err, (m.shutdown visitorShutdown debugError).1 = .error err) ↔
      ∃ id ∈ m.serviceProxyVisitors, ∃ err, visitorShutdown id = .error err := by
  simp only [shutdown]
  split_ifs with hempty <;>
    simp only [List.isEmpty_iff, List.filterMap_eq_nil_iff, AList.mem_keys] at hempty
  · refine iff_of_false (fun ⟨_, h⟩ => by cases h) fun ⟨id, hid, err, herr⟩ => ?_
    simpa [herr] using hempty id hid
  · obtain ⟨id, hid, hfail⟩ := not_forall₂.1 hempty
    refine iff_of_true ⟨_, rfl⟩ ⟨id, hid, ?_⟩
    cases h : visitorShutdown id with
    | error err => exact ⟨err, rfl⟩
    | ok u => simp [h] at hfail

end Shutdown

/-- `shutdown` on any manager: every service's visitor, and no other, is asked once to stop and,
right after, once to shut down its connections, whatever the others answer; the call fails
exactly when one of them fails. -/
theorem client_shutdown_asks_every_visitor (m : ServiceMgr)
    (visitorShutdown : UInt64 → Except AppError Unit) (debugError : AppError → String) :
    (∀ call ∈ (m.shutdown visitorShutdown debugError).2,
      ∃ id, call = .setShutdownRequested id ∨ call = .shutdownConnections id) ∧
    (∀ id, (m.shutdown visitorShutdown debugError).2.count (.setShutdownRequested id) =
      if id ∈ m.serviceProxyVisitors then 1 else 0) ∧
    (∀ id, (m.shutdown visitorShutdown debugError).2.count (.shutdownConnections id) =
      if id ∈ m.serviceProxyVisitors then 1 else 0) ∧
    (∀ id ∈ m.serviceProxyVisitors,
      [VisitorCall.setShutdownRequested id, .shutdownConnections id] <:+:
        (m.shutdown visitorShutdown debugError).2) ∧
    ((∃ err, (m.shutdown visitorShutdown debugError).1 = .error err) ↔
      ∃ id ∈ m.serviceProxyVisitors, ∃ err, visitorShutdown id = .error err) := by
  have hmem := mem_shutdown_calls m visitorShutdown debugError
  have hnodup := shutdown_calls_nodup m visitorShutdown debugError
  refine ⟨fun call hcall => ?_, fun id => ?_, fun id => ?_,
    fun id hid => stop_before_shutdown_calls m visitorShutdown debugError hid,
    shutdown_error_iff m visitorShutdown debugError⟩
  · obtain ⟨id, -, hcall⟩ := (hmem call).1 hcall
    exact ⟨id, hcall⟩
  all_goals rw [List.count_eq_of_nodup hnodup]; simp [hmem]

end ServiceMgr

/-- One `startup` call: the service, the addresses passed, and the answers of the constructors
it may call. -/
structure StartupCall where
  service : Service
  proxyAddrs : ProxyAddrs
  visitorNew : Except AppError Unit
  udpProxyNew : Except AppError Unit

/-- An operation on the manager, with the answers of the constructors and visitors it calls. -/
inductive ClientOp
  | startup (call : StartupCall)
  | shutdown (visitorShutdown : UInt64 → Except AppError Unit)
  | shutdownForService (serviceId : UInt64) (visitorShutdown : Except AppError Unit)
  | proxyEvent (event : ProxyEvent)

namespace ServiceMgr

/-- The manager after an operation: only `startup` writes its fields. -/
def apply (m : ServiceMgr) : ClientOp → ServiceMgr
  | .startup call =>
      (m.startup call.service call.proxyAddrs call.visitorNew call.udpProxyNew).2
  | .shutdown _ | .shutdownForService .. | .proxyEvent _ => m

/-- The manager after a sequence of operations. -/
def run (m : ServiceMgr) (ops : List ClientOp) : ServiceMgr :=
  ops.foldl apply m

@[simp] theorem run_nil (m : ServiceMgr) : m.run [] = m := rfl

@[simp] theorem run_cons (m : ServiceMgr) (op : ClientOp) (ops : List ClientOp) :
    m.run (op :: ops) = (m.apply op).run ops := rfl

end ServiceMgr

end Client

end Trust0
