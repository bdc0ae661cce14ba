import Trust0.Model
/-
`GatewayServiceMgr` of `gateway/src/service/manager.rs`: one proxy listener and one proxy
visitor per started service, a port per service taken from the gateway's shared listener port or
from a distinct port range, and the routing of closed-proxy events to the visitors.

The visitors and proxies are built by constructors outside the sources; the model keeps what
the manager passes them, and each constructor's success or failure is an input. Calls on a
visitor are returned as a list, in the order the manager makes them. Ports are `u16`:
`next_service_port += 1` wraps at `u16::MAX` here, as in a release build (a debug build panics
at the same point instead).
-/

namespace Trust0

namespace Gateway

/-- `DEFAULT_SERVICE_PORT_START` -/
def defaultServicePortStart : UInt16 := 8200

/-- `DEFAULT_SERVICE_PORT_END` -/
def defaultServicePortEnd : UInt16 := 8250

/-- The fields of `AppConfig` the manager reads. -/
structure AppConfig where
  serverPort : UInt16
  gatewayServiceHost : Option String
  gatewayServicePorts : Option (UInt16 × UInt16)
  deriving DecidableEq, Repr

/-- A service proxy listener (`TcpGatewayProxy` or `UdpGatewayProxy`) and its port. -/
structure GatewayServiceProxy where
  transport : Transport
  servicePort : UInt16
  deriving DecidableEq, Repr

/-- A service's proxy visitor, as its constructor was called: the service, the gateway service
host and the service port. -/
structure GatewayServiceProxyVisitor where
  service : Service
  gatewayServiceHost : Option String
  servicePort : UInt16
  deriving DecidableEq, Repr

/-- A call the manager makes on a service's visitor. -/
inductive VisitorCall
  | getProxyAddrsForUser (serviceId userId : UInt64)
  | shutdownConnections (serviceId : UInt64) (userId : Option UInt64)
  | removeProxyForKey (serviceId : UInt64) (proxyKey : String)
  deriving DecidableEq, Repr

/-- Manage (Gateway <-> Service) service connections. `serviceProxyThreads` holds, for each
listener thread, the proxy whose `startup` it runs. -/
structure GatewayServiceMgr where
  appConfig : AppConfig
  serviceProxies : HashMap UInt64 GatewayServiceProxy
  serviceProxyVisitors : HashMap UInt64 GatewayServiceProxyVisitor
  serviceProxyThreads : HashMap UInt64 GatewayServiceProxy
  servicesByProxyKey : HashMap String UInt64
  servicePorts : HashMap UInt64 UInt16
  sharedServicePort : Option UInt16
  nextServicePort : UInt16
  lastServicePort : UInt16
  deriving DecidableEq

/-- The error `startup` returns when the distinct port range is used up. -/
def portsExhausted : AppError := .general "Service ports exhausted, please extend range"

namespace GatewayServiceMgr

/-- ServiceMgr constructor: a configured port range makes ports distinct, else every service
shares the server port. -/
def new (appConfig : AppConfig) : GatewayServiceMgr :=
  let (nextServicePort, lastServicePort, sharedServicePort) :=
    match appConfig.gatewayServicePorts with
    | some (portStart, portEnd) => (portStart, portEnd, none)
    | none => (defaultServicePortStart, defaultServicePortEnd, some appConfig.serverPort)
  { appConfig, serviceProxies := ∅, serviceProxyVisitors := ∅, serviceProxyThreads := ∅,
    servicesByProxyKey := ∅, servicePorts := ∅, sharedServicePort, nextServicePort,
    lastServicePort }

section New

variable (appConfig : AppConfig)

@[simp] theorem new_appConfig : (new appConfig).appConfig = appConfig := rfl

@[simp] theorem new_serviceProxies : (new appConfig).serviceProxies = ∅ := rfl

@[simp] theorem new_serviceProxyVisitors : (new appConfig).serviceProxyVisitors = ∅ := rfl

@[simp] theorem new_serviceProxyThreads : (new appConfig).serviceProxyThreads = ∅ := rfl

@[simp] theorem new_servicePorts : (new appConfig).servicePorts = ∅ := rfl

/-- A configured range `(portStart, portEnd)` gives distinct ports from `portStart` on. -/
theorem new_of_gatewayServicePorts {portStart portEnd : UInt16}
    (h : appConfig.gatewayServicePorts = some (portStart, portEnd)) :
    (new appConfig).sharedServicePort = none ∧ (new appConfig).nextServicePort = portStart ∧
      (new appConfig).lastServicePort = portEnd := by
  simp [new, h]

/-- With no range every service shares the server port. -/
theorem new_sharedServicePort_of_none (h : appConfig.gatewayServicePorts = none) :
    (new appConfig).sharedServicePort = some appConfig.serverPort := by
  simp [new, h]

end New

/-- The port of a new service proxy: the shared port, else the next port of the range, which
`next_service_port += 1; next_service_port - 1` hands out. -/
def allocateServicePort (m : GatewayServiceMgr) : Except AppError (UInt16 × GatewayServiceMgr) :=
  match m.sharedServicePort with
  | some port => .ok (port, m)
  | none =>
      if m.nextServicePort > m.lastServicePort then .error portsExhausted
      else .ok (m.nextServicePort, { m with nextServicePort := m.nextServicePort + 1 })

/-- The inserts that end `startup`: the port, the proxy, the visitor, and the listener thread
when the port is not shared. -/
def addServiceProxy (m : GatewayServiceMgr) (service : Service) (servicePort : UInt16) :
    GatewayServiceMgr :=
  let proxy : GatewayServiceProxy := ⟨service.transport, servicePort⟩
  { m with
    servicePorts := m.servicePorts.insert service.serviceId servicePort
    serviceProxies := m.serviceProxies.insert service.serviceId proxy
    serviceProxyVisitors := m.serviceProxyVisitors.insert service.serviceId
      ⟨service, m.appConfig.gatewayServiceHost, servicePort⟩
    serviceProxyThreads :=
      if m.sharedServicePort.isNone then m.serviceProxyThreads.insert service.serviceId proxy
      else m.serviceProxyThreads }

section AddServiceProxy

variable (m : GatewayServiceMgr) (service : Service) (servicePort : UInt16)

@[simp] theorem addServiceProxy_servicePorts :
    (m.addServiceProxy service servicePort).servicePorts =
      m.servicePorts.insert service.serviceId servicePort := rfl

@[simp] theorem addServiceProxy_serviceProxies :
    (m.addServiceProxy service servicePort).serviceProxies =
      m.serviceProxies.insert service.serviceId ⟨service.transport, servicePort⟩ := rfl

@[simp] theorem addServiceProxy_serviceProxyVisitors :
    (m.addServiceProxy service servicePort).serviceProxyVisitors =
      m.serviceProxyVisitors.insert service.serviceId
        ⟨service, m.appConfig.gatewayServiceHost, servicePort⟩ := rfl

@[simp] theorem addServiceProxy_serviceProxyThreads :
    (m.addServiceProxy service servicePort).serviceProxyThreads =
      if m.sharedServicePort.isNone then
        m.serviceProxyThreads.insert service.serviceId ⟨service.transport, servicePort⟩
      else m.serviceProxyThreads := rfl

@[simp] theorem addServiceProxy_appConfig :
    (m.addServiceProxy service servicePort).appConfig = m.appConfig := rfl

@[simp] theorem addServiceProxy_sharedServicePort :
    (m.addServiceProxy service servicePort).sharedServicePort = m.sharedServicePort := rfl

@[simp] theorem addServiceProxy_nextServicePort :
    (m.addServiceProxy service servicePort).nextServicePort = m.nextServicePort := rfl

@[simp] theorem addServiceProxy_lastServicePort :
    (m.addServiceProxy service servicePort).lastServicePort = m.lastServicePort := rfl

end AddServiceProxy

/-- What an allocation that succeeds hands out: the shared port with the manager unchanged, or
the next port of a range not yet used up, the counter moving one on. -/
theorem allocateServicePort_ok {m allocated : GatewayServiceMgr} {port : UInt16}
    (h : m.allocateServicePort = .ok (port, allocated)) :
    (m.sharedServicePort = some port ∧ allocated = m) ∨
      (m.sharedServicePort = none ∧ m.nextServicePort ≤ m.lastServicePort ∧
        port = m.nextServicePort ∧
        allocated = { m with nextServicePort := m.nextServicePort + 1 }) := by
  unfold allocateServicePort at h
  split at h
  · cases h; exact .inl ⟨by assumption, rfl⟩
  · split at h
    · cases h
    · cases h; exact .inr ⟨by assumption, UInt16.not_lt.1 (by assumption), rfl, rfl⟩

theorem allocateServicePort_error {m : GatewayServiceMgr} {err : AppError}
    (h : m.allocateServicePort = .error err) :
    m.sharedServicePort = none ∧ m.lastServicePort < m.nextServicePort ∧ err = portsExhausted := by
  unfold allocateServicePort at h
  split at h
  · cases h
  · split at h
    · cases h; exact ⟨by assumption, by assumption, rfl⟩
    · cases h

/-- `startup` for `service`, the TCP or UDP proxy visitor's constructor answering `visitorNew`.
A service already started gets its stored port back. -/
def startup (m : GatewayServiceMgr) (service : Service) (visitorNew : Except AppError Unit) :
    Except AppError (Option String × UInt16) × GatewayServiceMgr :=
  match m.servicePorts.lookup service.serviceId with
  | some servicePort => (.ok (m.appConfig.gatewayServiceHost, servicePort), m)
  | none =>
      match m.allocateServicePort with
      | .error err => (.error err, m)
      | .ok (servicePort, allocated) =>
          match visitorNew with
          | .error err => (.error err, allocated)
          | .ok () =>
              (.ok (m.appConfig.gatewayServiceHost, servicePort),
                allocated.addServiceProxy service servicePort)

theorem startup_of_lookup {m : GatewayServiceMgr} {service : Service} {servicePort : UInt16}
    (h : m.servicePorts.lookup service.serviceId = some servicePort)
    (visitorNew : Except AppError Unit) :
    m.startup service visitorNew = (.ok (m.appConfig.gatewayServiceHost, servicePort), m) := by
  simp [startup, h]

/-- Everything `startup` can do: give back the stored port of a started service; build the
proxy on a freshly allocated port; or fail, either before allocating (the range is used up)
or after it (the visitor's constructor failed), keeping the allocation. -/
theorem startup_cases (m : GatewayServiceMgr) (service : Service)
    (visitorNew : Except AppError Unit) :
    (∃ servicePort, m.servicePorts.lookup service.serviceId = some servicePort ∧
      m.startup service visitorNew = (.ok (m.appConfig.gatewayServiceHost, servicePort), m)) ∨
    (m.servicePorts.lookup service.serviceId = none ∧
      ∃ servicePort allocated, m.allocateServicePort = .ok (servicePort, allocated) ∧
        visitorNew = .ok () ∧
        m.startup service visitorNew = (.ok (m.appConfig.gatewayServiceHost, servicePort),
          allocated.addServiceProxy service servicePort)) ∨
    (m.servicePorts.lookup service.serviceId = none ∧ ∃ err,
      (m.allocateServicePort = .error err ∧ m.startup service visitorNew = (.error err, m)) ∨
      (∃ servicePort allocated, m.allocateServicePort = .ok (servicePort, allocated) ∧
        visitorNew = .error err ∧ m.startup service visitorNew = (.error err, allocated))) := by
  cases hlookup : m.servicePorts.lookup service.serviceId with
  | some servicePort => exact .inl ⟨servicePort, rfl, startup_of_lookup hlookup visitorNew⟩
  | none =>
      cases halloc : m.allocateServicePort with
      | error err => exact .inr (.inr ⟨rfl, err, .inl ⟨rfl, by simp [startup, hlookup, halloc]⟩⟩)
      | ok allocation =>
          obtain ⟨servicePort, allocated⟩ := allocation
          cases visitorNew with
          | ok u =>
              exact .inr (.inl ⟨rfl, servicePort, allocated, rfl, rfl,
                by simp [startup, hlookup, halloc]⟩)
          | error err =>
              exact .inr (.inr ⟨rfl, err, .inr ⟨servicePort, allocated, rfl, rfl,
                by simp [startup, hlookup, halloc]⟩⟩)

/-- `has_proxy_for_user_and_service`, the service's visitor answering `proxyAddrs` for the
user. -/
def hasProxyForUserAndService (m : GatewayServiceMgr) (userId serviceId : UInt64)
    (proxyAddrs : List (String × String)) : Bool × List VisitorCall :=
  match m.serviceProxyVisitors.lookup serviceId with
  | some _ => (!proxyAddrs.isEmpty, [.getProxyAddrsForUser serviceId userId])
  | none => (false, [])

/-- Rust's `{:?}` of an `Option<u64>`. -/
def debugUserId : Option UInt64 → String
  | none => "None"
  | some userId => "Some(" ++ toString userId ++ ")"

/-- `shutdown_connections`: the visitor of each selected service (every service when
`serviceId` is `None`) shuts down its connections of `userId`, in the map's order, answering
`visitorShutdown`; failures are collected, each rendered by `debugError` as `{:?}` renders it. -/
def shutdownConnections (m : GatewayServiceMgr) (userId serviceId : Option UInt64)
    (visitorShutdown : UInt64 → Except AppError Unit) (debugError : AppError → String) :
    Except AppError Unit × List VisitorCall :=
  let selected := m.serviceProxyVisitors.keys.filter fun id =>
    serviceId.isNone || serviceId == some id
  let errors := selected.filterMap fun id =>
    match visitorShutdown id with
    | .error err => some ("Failed shutting down service proxy connection: svc_id=" ++
        toString id ++ ", user_id=" ++ debugUserId userId ++ ", err=" ++ debugError err)
    | .ok () => none
  (if errors.isEmpty then .ok ()
    else .error (.general ("Error shutting down services: user_id=" ++ debugUserId userId ++
      ", err(s)=" ++ ",".intercalate errors)),
    selected.map fun id => .shutdownConnections id userId)

def getServiceIdByProxyKey (m : GatewayServiceMgr) (proxyKey : String) : Option UInt64 :=
  m.servicesByProxyKey.lookup proxyKey

def getServiceProxy (m : GatewayServiceMgr) (serviceId : UInt64) :
    Option GatewayServiceProxyVisitor :=
  m.serviceProxyVisitors.lookup serviceId

/-- `on_closed_proxy`: the visitor of the key's service, of `u64::MAX` for an unknown key, is
asked to remove the key. -/
def onClosedProxy (m : GatewayServiceMgr) (proxyKey : String) : List VisitorCall :=
  let serviceId := (m.getServiceIdByProxyKey proxyKey).getD u64Max
  match m.getServiceProxy serviceId with
  | some _ => [.removeProxyForKey serviceId proxyKey]
  | none => []

/-- One turn of `poll_proxy_events` on a received event: `Closed` goes to `on_closed_proxy`,
`Message` reaches `unimplemented!()` (`none`). -/
def handleProxyEvent (m : GatewayServiceMgr) : ProxyEvent → Option (List VisitorCall)
  | .closed proxyKey => some (m.onClosedProxy proxyKey)
  | .message => none

end GatewayServiceMgr

/-- An operation on the manager, with the answers of the visitors it calls. -/
inductive GatewayOp
  | startup (service : Service) (visitorNew : Except AppError Unit)
  | shutdownConnections (userId serviceId : Option UInt64)
      (visitorShutdown : UInt64 → Except AppError Unit)
  | onClosedProxy (proxyKey : String)
  | hasProxyForUserAndService (userId serviceId : UInt64) (proxyAddrs : List (String × String))

namespace GatewayServiceMgr

/-- The manager after an operation: only `startup` writes its fields; the other three only
read them and call visitors. -/
def apply (m : GatewayServiceMgr) : GatewayOp → GatewayServiceMgr
  | .startup service visitorNew => (m.startup service visitorNew).2
  | .shutdownConnections .. | .onClosedProxy _ | .hasProxyForUserAndService .. => m

/-- The manager after a sequence of operations. -/
def run (m : GatewayServiceMgr) (ops : List GatewayOp) : GatewayServiceMgr :=
  ops.foldl apply m

@[simp] theorem run_nil (m : GatewayServiceMgr) : m.run [] = m := rfl

@[simp] theorem run_cons (m : GatewayServiceMgr) (op : GatewayOp) (ops : List GatewayOp) :
    m.run (op :: ops) = (m.apply op).run ops := rfl

end GatewayServiceMgr

end Gateway

end Trust0
