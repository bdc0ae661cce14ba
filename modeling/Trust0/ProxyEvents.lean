import Trust0.Gateway.ServiceMgr
import Trust0.Client.ServiceMgr
/-
`ProxyEvent::Closed(proxy_key)` as both managers handle it: the gateway's `poll_proxy_events`
through `on_closed_proxy`, and the client's own `poll_proxy_events` loop. Each looks the key up
in the proxy-key registry the visitors fill, falls back to `u64::MAX` for a key it does not
find, and asks the visitor of that service id, if there is one, to remove the key. Neither
writes a field of its manager.
-/

namespace Trust0

/-- The service whose visitor should be asked to remove `proxyKey`: the one the registry names
for the key, when that service has a visitor. -/
def closedProxyTarget {V : Type} (servicesByProxyKey : HashMap String UInt64)
    (visitors : HashMap UInt64 V) (proxyKey : String) : Option UInt64 :=
  (servicesByProxyKey.lookup proxyKey).filter fun serviceId => decide (serviceId ∈ visitors)

/-- The visitor lookup both handlers make: the registered service's id, else `u64::MAX`; the
handler calls the visitor found. This is the intended target whenever the key is registered or
no service has the id `u64::MAX`. -/
theorem sentinel_lookup_eq_target {V : Type} (servicesByProxyKey : HashMap String UInt64)
    (visitors : HashMap UInt64 V) (proxyKey : String)
    (h : proxyKey ∈ servicesByProxyKey ∨ u64Max ∉ visitors) :
    ((visitors.lookup ((servicesByProxyKey.lookup proxyKey).getD u64Max)).map fun _ =>
      (servicesByProxyKey.lookup proxyKey).getD u64Max) =
      closedProxyTarget servicesByProxyKey visitors proxyKey := by
  simp only [closedProxyTarget]
  cases hk : servicesByProxyKey.lookup proxyKey with
  | none =>
      have hmax : u64Max ∉ visitors := h.resolve_left (AList.lookup_eq_none.1 hk)
      simp [AList.lookup_eq_none.2 hmax]
  | some serviceId =>
      cases hv : visitors.lookup serviceId <;>
        simp [Option.filter_some, ← AList.lookup_isSome, hv]

namespace Gateway.GatewayServiceMgr

/-- The gateway removes a closed proxy's key through the intended visitor, whenever the key is
registered or no service has the id `u64::MAX`. -/
theorem handleProxyEvent_closed (m : GatewayServiceMgr) (proxyKey : String)
    (h : proxyKey ∈ m.servicesByProxyKey ∨ u64Max ∉ m.serviceProxyVisitors) :
    m.handleProxyEvent (.closed proxyKey) =
      some ((closedProxyTarget m.servicesByProxyKey m.serviceProxyVisitors proxyKey).map
        (VisitorCall.removeProxyForKey · proxyKey)).toList := by
  rw [← sentinel_lookup_eq_target _ _ _ h]
  simp only [handleProxyEvent, onClosedProxy, getServiceIdByProxyKey, getServiceProxy]
  split <;> simp_all

end Gateway.GatewayServiceMgr

namespace Client.ServiceMgr

/-- The client removes a closed proxy's key through the intended visitor, whenever the key is
registered or no service has the id `u64::MAX`. -/
theorem onProxyEvent_closed (m : ServiceMgr) (proxyKey : String)
    (h : proxyKey ∈ m.servicesByProxyKey ∨ u64Max ∉ m.serviceProxyVisitors) :
    m.onProxyEvent (.closed proxyKey) =
      ((closedProxyTarget m.servicesByProxyKey m.serviceProxyVisitors proxyKey).map
        (VisitorCall.removeProxyForKey · proxyKey)).toList := by
  rw [← sentinel_lookup_eq_target _ _ _ h]
  simp only [onProxyEvent]
  split <;> simp_all

end Client.ServiceMgr

/-- A closed proxy whose key is not registered reaches the visitor of a service with the id
`u64::MAX`, in both managers, where no visitor should be called. -/
theorem unregistered_key_reaches_sentinel_service (proxyKey : String)
    (gateway : Gateway.GatewayServiceMgr) (client : Client.ServiceMgr)
    (hgateway : proxyKey ∉ gateway.servicesByProxyKey ∧ u64Max ∈ gateway.serviceProxyVisitors)
    (hclient : proxyKey ∉ client.servicesByProxyKey ∧ u64Max ∈ client.serviceProxyVisitors) :
    closedProxyTarget gateway.servicesByProxyKey gateway.serviceProxyVisitors proxyKey = none ∧
      gateway.handleProxyEvent (.closed proxyKey) = some [.removeProxyForKey u64Max proxyKey] ∧
      closedProxyTarget client.servicesByProxyKey client.serviceProxyVisitors proxyKey = none ∧
      client.onProxyEvent (.closed proxyKey) = [.removeProxyForKey u64Max proxyKey] := by
  obtain ⟨v, hv⟩ := Option.isSome_iff_exists.1 (AList.lookup_isSome.2 hgateway.2)
  obtain ⟨w, hw⟩ := Option.isSome_iff_exists.1 (AList.lookup_isSome.2 hclient.2)
  simp only [closedProxyTarget, Gateway.GatewayServiceMgr.handleProxyEvent,
    Gateway.GatewayServiceMgr.onClosedProxy, Gateway.GatewayServiceMgr.getServiceIdByProxyKey,
    Gateway.GatewayServiceMgr.getServiceProxy, Client.ServiceMgr.onProxyEvent]
  rw [AList.lookup_eq_none.2 hgateway.1, AList.lookup_eq_none.2 hclient.1]
  simp [hv, hw]

theorem unregistered_key_reaches_sentinel_service_after_startup :
    let gateway := ((Gateway.GatewayServiceMgr.new ⟨443, none, none⟩).startup
      ⟨u64Max, "svc", .tcp, "host", 80⟩ (.ok ())).2
    let client := (Client.ServiceMgr.new.startup ⟨u64Max, "svc", .tcp, "host", 80⟩
      ⟨3000, "gw", 8200⟩ (.ok ()) (.ok ())).2
    (("k" ∉ gateway.servicesByProxyKey ∧ u64Max ∈ gateway.serviceProxyVisitors) ∧
      ("k" ∉ client.servicesByProxyKey ∧ u64Max ∈ client.serviceProxyVisitors)) ∧
    closedProxyTarget gateway.servicesByProxyKey gateway.serviceProxyVisitors "k" = none ∧
      gateway.handleProxyEvent (.closed "k") = some [.removeProxyForKey u64Max "k"] ∧
      closedProxyTarget client.servicesByProxyKey client.serviceProxyVisitors "k" = none ∧
      client.onProxyEvent (.closed "k") = [.removeProxyForKey u64Max "k"] :=
  ⟨⟨by decide, by decide⟩,
    unregistered_key_reaches_sentinel_service "k" _ _ (by decide) (by decide)⟩

end Trust0
