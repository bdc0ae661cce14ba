import Trust0.Gateway.ServiceMgr
/-
`GatewayServiceMgr::shutdown_connections(user_id, service_id)`: which visitors it asks to shut
down their connections, what it returns when some of them fail, and, for visitors that close
exactly their own connections of the given user, which proxy connections end up closed.
-/

namespace Trust0

namespace Gateway

/-- A live proxy connection: the service whose visitor holds it, and its user. -/
structure ProxyConnection where
  serviceId : UInt64
  userId : UInt64
  deriving DecidableEq, Repr

/-- Whether a call closes a connection, for a visitor that closes its own connections of the
given user, every one of them when no user is given. -/
def VisitorCall.closes : VisitorCall → ProxyConnection → Bool
  | .shutdownConnections serviceId userId, conn =>
      conn.serviceId == serviceId && (userId.isNone || userId == some conn.userId)
  | _, _ => false

/-- The connections that the calls close. -/
def closedBy (calls : List VisitorCall) (conns : List ProxyConnection) : List ProxyConnection :=
  conns.filter fun conn => calls.any (·.closes conn)

namespace GatewayServiceMgr

section ShutdownConnections

variable (m : GatewayServiceMgr) (userId serviceId : Option UInt64)
  (visitorShutdown : UInt64 → Except AppError Unit) (debugError : AppError → String)

/-- The calls name each visitor of the filter, with the user. -/
theorem mem_shutdownConnections_calls (call : VisitorCall) :
    call ∈ (m.shutdownConnections userId serviceId visitorShutdown debugError).2 ↔
      ∃ id ∈ m.serviceProxyVisitors, (serviceId = none ∨ serviceId = some id) ∧
        call = .shutdownConnections id userId := by
  simp only [shutdownConnections, List.mem_map, List.mem_filter, AList.mem_keys, Bool.or_eq_true,
    Option.isNone_iff_eq_none, beq_iff_eq, and_assoc]
  exact exists_congr fun _ => and_congr_right' (and_congr_right' eq_comm)

theorem shutdownConnections_calls_nodup :
    (m.shutdownConnections userId serviceId visitorShutdown debugError).2.Nodup :=
  ((m.serviceProxyVisitors.keys_nodup).filter _).map fun _ _ h => by cases h; rfl

/-- The call returns `Err` exactly when one of the visitors it called failed. -/
theorem shutdownConnections_error_iff :
    (∃ err, (m.shutdownConnections userId serviceId visitorShutdown debugError).1 = .error err) ↔
      ∃ id ∈ m.serviceProxyVisitors, (serviceId = none ∨ serviceId = some id) ∧
        ∃ err, visitorShutdown id = .error err := by
  simp only [shutdownConnections]
  split_ifs with hempty <;>
    simp only [List.isEmpty_iff, List.filterMap_eq_nil_iff, List.mem_filter, AList.mem_keys,
      Bool.or_eq_true, Option.isNone_iff_eq_none, beq_iff_eq] at hempty
  · refine iff_of_false (fun ⟨_, h⟩ => by cases h) fun ⟨id, hid, hsel, err, herr⟩ => ?_
    simpa [herr] using hempty id ⟨hid, hsel⟩
  · obtain ⟨id, ⟨hid, hsel⟩, hfail⟩ := not_forall₂.1 hempty
    refine iff_of_true ⟨_, rfl⟩ ⟨id, hid, hsel, ?_⟩
    cases h : visitorShutdown id with
    | error err => exact ⟨err, rfl⟩
    | ok u => simp [h] at hfail

/-- A visitor closing its own connections of the user closes a connection exactly when it is
one of the visitors called and the connection is of the user. -/
theorem closedBy_shutdownConnections_iff (conn : ProxyConnection) :
    (m.shutdownConnections userId serviceId visitorShutdown debugError).2.any (·.closes conn) ↔
      conn.serviceId ∈ m.serviceProxyVisitors ∧ (userId = none ∨ userId = some conn.userId) ∧
        (serviceId = none ∨ serviceId = some conn.serviceId) := by
  simp only [List.any_eq_true, mem_shutdownConnections_calls]
  constructor
  · rintro ⟨_, ⟨id, hid, hsel, rfl⟩, hcloses⟩
    simp only [VisitorCall.closes, Bool.and_eq_true, Bool.or_eq_true, beq_iff_eq,
      Option.isNone_iff_eq_none] at hcloses
    obtain ⟨rfl, huser⟩ := hcloses
    exact ⟨hid, huser, hsel⟩
  · rintro ⟨hid, huser, hsel⟩
    refine ⟨_, ⟨conn.serviceId, hid, hsel, rfl⟩, ?_⟩
    simpa [VisitorCall.closes, Option.isNone_iff_eq_none] using huser

end ShutdownConnections

/-- `shutdown_connections` on any manager: each visitor of the filter is called once with the
user, whatever the others answer, and no other visitor is; the call fails exactly when one of
them fails; and the connections that visitors closing their own connections of the user close
are exactly the live ones of the user (all when `None`) and of the service (all when `None`). -/
theorem gateway_shutdown_connections_closes_selection (m : GatewayServiceMgr)
    (userId serviceId : Option UInt64) (visitorShutdown : UInt64 → Except AppError Unit)
    (debugError : AppError → String) :
    (∀ call ∈ (m.shutdownConnections userId serviceId visitorShutdown debugError).2,
      ∃ id, call = .shutdownConnections id userId) ∧
    (∀ id, (m.shutdownConnections userId serviceId visitorShutdown debugError).2.count
        (.shutdownConnections id userId) =
      if id ∈ m.serviceProxyVisitors ∧ (serviceId = none ∨ serviceId = some id) then 1 else 0) ∧
    ((∃ err, (m.shutdownConnections userId serviceId visitorShutdown debugError).1 = .error err) ↔
      ∃ id ∈ m.serviceProxyVisitors, (serviceId = none ∨ serviceId = some id) ∧
        ∃ err, visitorShutdown id = .error err) ∧
    (∀ conns : List ProxyConnection,
      closedBy (m.shutdownConnections userId serviceId visitorShutdown debugError).2 conns =
        conns.filter fun conn => decide (conn.serviceId ∈ m.serviceProxyVisitors ∧
          (userId = none ∨ userId = some conn.userId) ∧
          (serviceId = none ∨ serviceId = some conn.serviceId))) := by
  have hmem := mem_shutdownConnections_calls m userId serviceId visitorShutdown debugError
  refine ⟨fun call hcall => ?_, fun id => ?_,
    shutdownConnections_error_iff m userId serviceId visitorShutdown debugError,
    fun conns => List.filter_congr fun conn _ => ?_⟩
  · obtain ⟨id, -, -, rfl⟩ := (hmem call).1 hcall
    exact ⟨id, rfl⟩
  · rw [List.count_eq_of_nodup (shutdownConnections_calls_nodup m userId serviceId
      visitorShutdown debugError)]
    simp [hmem]
  · exact Bool.eq_iff_iff.2 ((closedBy_shutdownConnections_iff m userId serviceId visitorShutdown
      debugError conn).trans decide_eq_true_iff.symm)

end GatewayServiceMgr

end Gateway

end Trust0
