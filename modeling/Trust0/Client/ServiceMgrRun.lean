import Trust0.Client.ServiceMgr
/-
Runs of the client's `ServiceMgr` from `ServiceMgr::new`: the key sets of its four maps, and the
addresses it keeps for a service, against a specification that reads them off the calls made:
the addresses of the first call for the service whose constructors all succeed.
-/

namespace Trust0

namespace Client

/-- A call's constructors all succeed: the visitor's, and for UDP also the proxy's. -/
def StartupCall.constructed (call : StartupCall) : Bool :=
  call.visitorNew.isOk && (call.service.transport != .udp || call.udpProxyNew.isOk)

/-- The addresses the specification assigns a service after `calls`: those of the first call
for it whose constructors all succeed. -/
def firstStartup (calls : List StartupCall) (serviceId : UInt64) : Option ProxyAddrs :=
  (calls.find? fun call => call.service.serviceId == serviceId && call.constructed).map
    StartupCall.proxyAddrs

theorem newServiceProxy_isOk (call : StartupCall) :
    (ServiceMgr.newServiceProxy call.service.transport call.visitorNew call.udpProxyNew).isOk =
      call.constructed := by
  obtain ⟨⟨_, _, transport, _, _⟩, _, visitorNew, udpProxyNew⟩ := call
  cases transport <;> cases visitorNew <;> cases udpProxyNew <;> rfl

namespace ServiceMgr

variable {m : ServiceMgr}

/-- The addresses stored after one `startup`: the old ones, else the call's when its
constructors all succeed. -/
theorem lookup_apply_startup (m : ServiceMgr) (call : StartupCall) (id : UInt64) :
    (m.apply (.startup call)).serviceAddrs.lookup id =
      (m.serviceAddrs.lookup id).or
        (if (call.service.serviceId == id && call.constructed) = true then some call.proxyAddrs
          else none) := by
  have hok := newServiceProxy_isOk call
  rcases startup_cases m call.service call.proxyAddrs call.visitorNew call.udpProxyNew with
    ⟨addrs, hl, hs⟩ | ⟨hl, hnew, hs⟩ | ⟨hl, err, hnew, hs⟩ <;>
    simp only [apply, hs] <;> by_cases hid : call.service.serviceId = id
  · subst hid; simp [hl]
  · simp [hid, Option.or_none]
  · subst hid
    rw [hnew] at hok
    simp [hl, ← hok, AList.lookup_insert, Except.isOk, Except.toBool]
  · simp [hid, AList.lookup_insert_ne (Ne.symm hid), Option.or_none]
  · subst hid
    rw [hnew] at hok
    simp [hl, ← hok, Except.isOk, Except.toBool]
  · simp [hid, Option.or_none]

/-- The addresses stored after a sequence of `startup` calls: the old ones, else the
specification's. -/
theorem lookup_run_startups (m : ServiceMgr) (calls : List StartupCall) (id : UInt64) :
    (m.run (calls.map .startup)).serviceAddrs.lookup id =
      (m.serviceAddrs.lookup id).or (firstStartup calls id) := by
  induction calls generalizing m with
  | nil => simp [firstStartup, Option.or_none]
  | cons call calls ih =>
      simp only [List.map_cons, run_cons, ih, lookup_apply_startup, Option.or_assoc,
        firstStartup, List.find?_cons]
      cases call.service.serviceId == id && call.constructed <;> rfl

/-- The four maps have one key set. -/
structure Wellformed (m : ServiceMgr) : Prop where
  proxies : ∀ id, id ∈ m.serviceProxies ↔ id ∈ m.serviceAddrs
  visitors : ∀ id, id ∈ m.serviceProxyVisitors ↔ id ∈ m.serviceAddrs
  threads : ∀ id, id ∈ m.serviceProxyThreads ↔ id ∈ m.serviceAddrs

theorem wellformed_new : Wellformed new where
  proxies id := by simp [new]
  visitors id := by simp [new]
  threads id := by simp [new]

theorem Wellformed.addServiceProxy (h : Wellformed m) (service : Service)
    (proxyAddrs : ProxyAddrs) : Wellformed (m.addServiceProxy service proxyAddrs) where
  proxies id := by simp [AList.mem_insert, h.proxies]
  visitors id := by simp [AList.mem_insert, h.visitors]
  threads id := by simp [AList.mem_insert, h.threads]

theorem Wellformed.run (h : Wellformed m) (ops : List ClientOp) : Wellformed (m.run ops) := by
  induction ops generalizing m with
  | nil => exact h
  | cons op ops ih =>
      refine ih ?_
      rcases op with ⟨call⟩ | _ | _ | _
      · rcases startup_cases m call.service call.proxyAddrs call.visitorNew call.udpProxyNew with
          ⟨_, -, hs⟩ | ⟨-, -, hs⟩ | ⟨-, _, -, hs⟩ <;> simp only [apply, hs]
        · exact h
        · exact h.addServiceProxy _ _
        · exact h
      all_goals exact h

/-- A `startup` that fails changes nothing. -/
theorem startup_error_state {service : Service} {proxyAddrs : ProxyAddrs}
    {visitorNew udpProxyNew : Except AppError Unit} {err : AppError}
    (h : (m.startup service proxyAddrs visitorNew udpProxyNew).1 = .error err) :
    (m.startup service proxyAddrs visitorNew udpProxyNew).2 = m := by
  rcases startup_cases m service proxyAddrs visitorNew udpProxyNew with
    ⟨_, -, hs⟩ | ⟨-, -, hs⟩ | ⟨-, _, -, hs⟩ <;> rw [hs] at h ⊢
  cases h

/-- The client manager along any sequence of `startup` calls from `new`: its four maps share
their keys; a service's addresses are those of its first call whose constructors all succeed;
a started service gets them back from every later `startup` and nothing changes; and a failed
`startup` changes nothing. -/
theorem client_startup_keeps_first_addrs (calls : List StartupCall) :
    let m := new.run (calls.map .startup)
    (∀ id, id ∈ m.serviceProxies ↔ id ∈ m.serviceAddrs) ∧
    (∀ id, id ∈ m.serviceProxyVisitors ↔ id ∈ m.serviceAddrs) ∧
    (∀ id, id ∈ m.serviceProxyThreads ↔ id ∈ m.serviceAddrs) ∧
    (∀ id, m.getProxyAddrsForService id = firstStartup calls id) ∧
    (∀ service proxyAddrs visitorNew udpProxyNew addrs,
      m.getProxyAddrsForService service.serviceId = some addrs →
      m.startup service proxyAddrs visitorNew udpProxyNew = (.ok addrs, m)) ∧
    (∀ service proxyAddrs visitorNew udpProxyNew err,
      (m.startup service proxyAddrs visitorNew udpProxyNew).1 = .error err →
      (m.startup service proxyAddrs visitorNew udpProxyNew).2 = m) := by
  intro m
  have hw : Wellformed m := wellformed_new.run _
  refine ⟨hw.proxies, hw.visitors, hw.threads, fun id => ?_, fun service _ _ _ addrs hl => ?_,
    fun _ _ _ _ _ => startup_error_state⟩
  · simpa [new] using lookup_run_startups new calls id
  · simp only [getProxyAddrsForService] at hl
    simp [startup, hl]

end ServiceMgr

end Client

end Trust0
