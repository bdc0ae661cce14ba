import Trust0.Gateway.ServiceMgr
/-
Runs of the gateway's `GatewayServiceMgr` from `GatewayServiceMgr::new`: what one `startup` can
do to the manager, the key sets of its maps along every run, the ports of the distinct range,
and what a failed `startup` leaves behind.
-/

namespace Trust0

namespace Gateway

namespace GatewayServiceMgr

variable {m : GatewayServiceMgr}

/-- Allocation writes nothing but the port counter. -/
theorem allocateServicePort_frame {allocated : GatewayServiceMgr} {port : UInt16}
    (h : m.allocateServicePort = .ok (port, allocated)) :
    allocated = { m with nextServicePort := allocated.nextServicePort } := by
  rcases allocateServicePort_ok h with ⟨-, rfl⟩ | ⟨-, -, -, rfl⟩ <;> rfl

/-- With a shared port, allocation hands out that port. -/
theorem allocateServicePort_shared {allocated : GatewayServiceMgr} {port p : UInt16}
    (h : m.allocateServicePort = .ok (port, allocated)) (hp : m.sharedServicePort = some p) :
    port = p := by
  rcases allocateServicePort_ok h with ⟨hshared, -⟩ | ⟨hshared, -⟩
  · exact Option.some.inj (hshared.symm.trans hp)
  · simp [hshared] at hp

/-- Everything `startup` can do to the manager: move the port counter, and on success add the
service's proxy, on the shared port when there is one, for a service not yet started. -/
theorem startup_state_cases (m : GatewayServiceMgr) (service : Service)
    (visitorNew : Except AppError Unit) :
    ∃ n, (m.startup service visitorNew).2 = { m with nextServicePort := n } ∨
      ∃ port, m.servicePorts.lookup service.serviceId = none ∧
        (∀ p, m.sharedServicePort = some p → port = p) ∧
        (m.startup service visitorNew).2 =
          ({ m with nextServicePort := n } : GatewayServiceMgr).addServiceProxy service port := by
  rcases startup_cases m service visitorNew with
    ⟨_, -, hs⟩ | ⟨hl, port, allocated, ha, -, hs⟩ | ⟨-, err, ⟨-, hs⟩ | ⟨_, allocated, ha, -, hs⟩⟩
  · exact ⟨m.nextServicePort, .inl (by rw [hs])⟩
  · exact ⟨allocated.nextServicePort, .inr ⟨port, hl, fun _ => allocateServicePort_shared ha,
      by rw [hs, ← allocateServicePort_frame ha]⟩⟩
  · exact ⟨m.nextServicePort, .inl (by rw [hs])⟩
  · exact ⟨allocated.nextServicePort, .inl (by rw [hs, ← allocateServicePort_frame ha])⟩

/-- The fields `startup` never writes: the configuration, the shared port and the range's
end. -/
theorem startup_settings (service : Service) (visitorNew : Except AppError Unit) :
    (m.startup service visitorNew).2.appConfig = m.appConfig ∧
      (m.startup service visitorNew).2.sharedServicePort = m.sharedServicePort ∧
      (m.startup service visitorNew).2.lastServicePort = m.lastServicePort := by
  obtain ⟨n, hs | ⟨port, -, -, hs⟩⟩ := startup_state_cases m service visitorNew <;>
    simp [hs]

theorem run_settings (m : GatewayServiceMgr) (ops : List GatewayOp) :
    (m.run ops).appConfig = m.appConfig ∧ (m.run ops).sharedServicePort = m.sharedServicePort ∧
      (m.run ops).lastServicePort = m.lastServicePort := by
  induction ops generalizing m with
  | nil => simp
  | cons op ops ih =>
      obtain ⟨hconfig, hshared, hlast⟩ := ih (m.apply op)
      rw [run_cons, hconfig, hshared, hlast]
      cases op <;> simp [apply, startup_settings]

/-- A started service keeps its port: no later `startup` moves it. -/
theorem lookup_startup_of_lookup {id : UInt64} {p : UInt16}
    (h : m.servicePorts.lookup id = some p) (service : Service)
    (visitorNew : Except AppError Unit) :
    (m.startup service visitorNew).2.servicePorts.lookup id = some p := by
  obtain ⟨n, hs | ⟨port, hl, -, hs⟩⟩ := startup_state_cases m service visitorNew <;> rw [hs]
  · exact h
  · have hne : id ≠ service.serviceId := by rintro rfl; simp [h] at hl
    simpa [AList.lookup_insert_ne hne] using h

theorem lookup_run_of_lookup {id : UInt64} {p : UInt16} (ops : List GatewayOp)
    (h : m.servicePorts.lookup id = some p) : (m.run ops).servicePorts.lookup id = some p := by
  induction ops generalizing m with
  | nil => exact h
  | cons op ops ih =>
      cases op <;> exact ih (by first | exact lookup_startup_of_lookup h _ _ | exact h)

/-- What a successful `startup` returns: the configured host, and the port stored for the
service, which is the shared port unless the service had been started before. -/
theorem startup_ok {service : Service} {visitorNew : Except AppError Unit}
    {result : Option String × UInt16} (h : (m.startup service visitorNew).1 = .ok result) :
    result.1 = m.appConfig.gatewayServiceHost ∧
      (m.startup service visitorNew).2.servicePorts.lookup service.serviceId = some result.2 ∧
      (m.servicePorts.lookup service.serviceId = some result.2 ∨
        ∀ p, m.sharedServicePort = some p → result.2 = p) := by
  rcases startup_cases m service visitorNew with
    ⟨port, hl, hs⟩ | ⟨-, port, allocated, ha, -, hs⟩ | ⟨-, err, ⟨-, hs⟩ | ⟨_, _, -, -, hs⟩⟩ <;>
    rw [hs] at h ⊢ <;> cases h
  · exact ⟨rfl, hl, .inl hl⟩
  · exact ⟨rfl, AList.lookup_insert _, .inr fun _ => allocateServicePort_shared ha⟩

/-! ## The maps' key sets -/

/-- The manager's maps agree: `service_proxies` and `service_proxy_visitors` have the key set of
`service_ports`, and `service_proxy_threads` too unless the port is shared, when it has none;
every stored port is the shared port when there is one. -/
structure Wellformed (m : GatewayServiceMgr) : Prop where
  proxies : ∀ id, id ∈ m.serviceProxies ↔ id ∈ m.servicePorts
  visitors : ∀ id, id ∈ m.serviceProxyVisitors ↔ id ∈ m.servicePorts
  threads : ∀ id, id ∈ m.serviceProxyThreads ↔ m.sharedServicePort = none ∧ id ∈ m.servicePorts
  sharedPort : ∀ port, m.sharedServicePort = some port →
    ∀ id p, m.servicePorts.lookup id = some p → p = port

theorem wellformed_new (appConfig : AppConfig) : Wellformed (new appConfig) where
  proxies id := by simp
  visitors id := by simp
  threads id := by simp
  sharedPort port _ id p := by simp

theorem Wellformed.setNext (h : Wellformed m) (n : UInt16) :
    Wellformed { m with nextServicePort := n } :=
  ⟨h.proxies, h.visitors, h.threads, h.sharedPort⟩

theorem Wellformed.addServiceProxy (h : Wellformed m) (service : Service) {port : UInt16}
    (hport : ∀ p, m.sharedServicePort = some p → port = p) :
    Wellformed (m.addServiceProxy service port) where
  proxies id := by simp [AList.mem_insert, h.proxies]
  visitors id := by simp [AList.mem_insert, h.visitors]
  threads id := by cases hs : m.sharedServicePort <;> simp [hs, AList.mem_insert, h.threads]
  sharedPort p hp id q hq := by
    by_cases hid : id = service.serviceId
    · subst hid
      simp only [addServiceProxy_servicePorts, AList.lookup_insert, Option.some.injEq] at hq
      exact hq ▸ hport p hp
    · rw [addServiceProxy_servicePorts, AList.lookup_insert_ne hid] at hq
      exact h.sharedPort p hp id q hq

theorem Wellformed.startup (h : Wellformed m) (service : Service)
    (visitorNew : Except AppError Unit) : Wellformed (m.startup service visitorNew).2 := by
  obtain ⟨n, hs | ⟨port, -, hport, hs⟩⟩ := startup_state_cases m service visitorNew <;> rw [hs]
  · exact h.setNext n
  · exact (h.setNext n).addServiceProxy service hport

theorem Wellformed.run (h : Wellformed m) (ops : List GatewayOp) : Wellformed (m.run ops) := by
  induction ops generalizing m with
  | nil => exact h
  | cons op ops ih => cases op <;> exact ih (by first | exact h.startup _ _ | exact h)

/-- The manager's maps along any run from `new`: the three maps share their keys; with no port
range every successful `startup` gives the server port and no listener thread is started; with a
range every service has its own listener thread; a successful `startup` stores the port it returns
under the service's id, and a started service gets its stored port back and changes nothing, for
as long as the manager runs. -/
theorem gateway_startup_keeps_maps_aligned (appConfig : AppConfig) (ops : List GatewayOp) :
    let m := (new appConfig).run ops
    (∀ id, id ∈ m.serviceProxies ↔ id ∈ m.servicePorts) ∧
    (∀ id, id ∈ m.serviceProxyVisitors ↔ id ∈ m.servicePorts) ∧
    (appConfig.gatewayServicePorts = none → m.serviceProxyThreads = ∅ ∧
      ∀ service visitorNew result, (m.startup service visitorNew).1 = .ok result →
        result = (appConfig.gatewayServiceHost, appConfig.serverPort)) ∧
    (appConfig.gatewayServicePorts.isSome →
      ∀ id, id ∈ m.serviceProxyThreads ↔ id ∈ m.servicePorts) ∧
    (∀ service visitorNew result, (m.startup service visitorNew).1 = .ok result →
      (m.startup service visitorNew).2.servicePorts.lookup service.serviceId = some result.2) ∧
    (∀ service visitorNew servicePort, m.servicePorts.lookup service.serviceId = some servicePort →
      m.startup service visitorNew = (.ok (appConfig.gatewayServiceHost, servicePort), m)) ∧
    (∀ service visitorNew result ops' service' visitorNew',
      service'.serviceId = service.serviceId → (m.startup service visitorNew).1 = .ok result →
      let m' := m.run (.startup service visitorNew :: ops')
      m'.startup service' visitorNew' = (.ok result, m')) := by
  intro m
  have hw : Wellformed m := (wellformed_new appConfig).run ops
  have hconfig : m.appConfig = appConfig := (run_settings (new appConfig) ops).1
  have hshared : m.sharedServicePort = (new appConfig).sharedServicePort :=
    (run_settings (new appConfig) ops).2.1
  refine ⟨hw.proxies, hw.visitors, fun hnone => ⟨?_, ?_⟩, fun hsome id => ?_,
    fun _ _ _ hok => (startup_ok hok).2.1, ?_, ?_⟩
  · refine HashMap.eq_empty_of_forall_not_mem fun id hid => ?_
    simp [hw.threads, hshared, new_sharedServicePort_of_none appConfig hnone] at hid
  · intro service visitorNew result hok
    obtain ⟨hhost, -, hport⟩ := startup_ok hok
    have hm : m.sharedServicePort = some appConfig.serverPort := by
      rw [hshared, new_sharedServicePort_of_none appConfig hnone]
    rcases hport with hl | hport
    · exact Prod.ext (hhost.trans (by rw [hconfig])) (hw.sharedPort _ hm _ _ hl)
    · exact Prod.ext (hhost.trans (by rw [hconfig])) (hport _ hm)
  · obtain ⟨ports, hports⟩ := Option.isSome_iff_exists.1 hsome
    simp [hw.threads, hshared, (new_of_gatewayServicePorts appConfig hports).1]
  · intro service visitorNew servicePort hl
    rw [startup_of_lookup hl, hconfig]
  · intro service visitorNew result ops' service' visitorNew' hid hok
    obtain ⟨hhost, hl, -⟩ := startup_ok hok
    have hl' := lookup_run_of_lookup ops' hl
    rw [← hid] at hl'
    simp only [run_cons, apply]
    rw [startup_of_lookup hl', (run_settings _ ops').1, (startup_settings service visitorNew).1,
      ← hhost]

/-! ## Failed startups -/

/-- A failed `startup` changes no map: at most the port counter has moved. -/
theorem startup_error_frame {service : Service} {visitorNew : Except AppError Unit}
    {err : AppError} (h : (m.startup service visitorNew).1 = .error err) :
    (m.startup service visitorNew).2 =
      { m with nextServicePort := (m.startup service visitorNew).2.nextServicePort } := by
  rcases startup_cases m service visitorNew with
    ⟨_, -, hs⟩ | ⟨-, _, _, -, -, hs⟩ | ⟨-, _, ⟨-, hs⟩ | ⟨_, allocated, ha, -, hs⟩⟩ <;>
    rw [hs] at h ⊢
  · cases h
  · exact allocateServicePort_frame ha

/-- With distinct ports, a new service whose visitor constructor fails still moves the port
counter one on. -/
theorem failed_visitor_constructor_consumes_port {service : Service} {err : AppError}
    (hshared : m.sharedServicePort = none) (hfree : m.nextServicePort ≤ m.lastServicePort)
    (hl : m.servicePorts.lookup service.serviceId = none) :
    (m.startup service (.error err)).1 = .error err ∧
      (m.startup service (.error err)).2.nextServicePort = m.nextServicePort + 1 := by
  have hnot : ¬ m.lastServicePort < m.nextServicePort := UInt16.not_lt.2 hfree
  simp [startup, allocateServicePort, hl, hshared, hnot]

theorem failed_visitor_constructor_consumes_port_4100 :
    let m := new ⟨443, none, some (4100, 4102)⟩
    let service : Service := ⟨1, "svc1", .tcp, "host1", 80⟩
    (m.sharedServicePort = none ∧ m.nextServicePort ≤ m.lastServicePort ∧
      m.servicePorts.lookup service.serviceId = none) ∧
    (m.startup service (.error (.general "visitor"))).1 = .error (.general "visitor") ∧
      (m.startup service (.error (.general "visitor"))).2.nextServicePort = 4101 :=
  ⟨⟨by decide, by decide, by decide⟩,
    failed_visitor_constructor_consumes_port (by decide) (by decide) (by decide)⟩

/-! ## The distinct port range -/

theorem uint16_le_iff {a b : UInt16} : a ≤ b ↔ a.toNat ≤ b.toNat :=
  UInt16.le_def.trans BitVec.le_def

theorem uint16_lt_iff {a b : UInt16} : a < b ↔ a.toNat < b.toNat :=
  UInt16.lt_def.trans BitVec.lt_def

theorem uint16_toNat_add_one {a : UInt16} (h : a.toNat < 65535) :
    (a + 1).toNat = a.toNat + 1 := by
  have hone : (1 : UInt16).toBitVec.toNat = 1 := rfl
  simp only [UInt16.add_def, UInt16.toNat, BitVec.toNat_add, hone]
  exact Nat.mod_eq_of_lt (by change a.toBitVec.toNat < 65535 at h; omega)

/-- Distinct ports from the range `[portStart, portEnd]` with no failed constructor: the
counter has moved one port per started service, at most the range's size of them, and their
ports are distinct ports of the range below the counter. -/
structure RangeInv (portStart portEnd : UInt16) (m : GatewayServiceMgr) : Prop where
  shared : m.sharedServicePort = none
  last : m.lastServicePort = portEnd
  counter : m.nextServicePort.toNat = portStart.toNat + m.servicePorts.keys.length
  bound : m.servicePorts.keys.length ≤ portEnd.toNat + 1 - portStart.toNat
  inRange : ∀ id p, m.servicePorts.lookup id = some p →
    portStart.toNat ≤ p.toNat ∧ p.toNat < m.nextServicePort.toNat
  distinct : ∀ id id' p, m.servicePorts.lookup id = some p →
    m.servicePorts.lookup id' = some p → id = id'

section Range

variable {portStart portEnd : UInt16}

theorem rangeInv_new {appConfig : AppConfig}
    (h : appConfig.gatewayServicePorts = some (portStart, portEnd)) :
    RangeInv portStart portEnd (new appConfig) := by
  obtain ⟨hshared, hnext, hlast⟩ := new_of_gatewayServicePorts appConfig h
  exact ⟨hshared, hlast, by simp [hnext, AList.keys_empty], by simp [AList.keys_empty],
    by simp, by simp⟩

/-- Starting a new service on the counter's port keeps the range's invariant, as long as the
range ends below `u16::MAX`, so that the counter does not wrap. -/
theorem RangeInv.addServiceProxy (h : RangeInv portStart portEnd m)
    (hend : portEnd.toNat < 65535) {service : Service}
    (hl : m.servicePorts.lookup service.serviceId = none)
    (hle : m.nextServicePort.toNat ≤ m.lastServicePort.toNat) :
    RangeInv portStart portEnd
      (({ m with nextServicePort := m.nextServicePort + 1 } : GatewayServiceMgr).addServiceProxy
        service m.nextServicePort) := by
  have hlast := h.last
  have hcounter := h.counter
  have hbound := h.bound
  subst hlast
  have hnext := uint16_toNat_add_one (a := m.nextServicePort) (by omega)
  have hlength : (m.servicePorts.insert service.serviceId m.nextServicePort).keys.length =
      m.servicePorts.keys.length + 1 := by
    rw [AList.keys_insert, List.erase_of_not_mem (AList.lookup_eq_none.1 hl), List.length_cons]
  refine ⟨h.shared, rfl, ?_, ?_, fun id p hp => ?_, fun id id' p hp hp' => ?_⟩
  · simp only [addServiceProxy_nextServicePort, addServiceProxy_servicePorts, hlength, hnext]
    omega
  · simp only [addServiceProxy_servicePorts, hlength]
    omega
  · simp only [addServiceProxy_servicePorts, HashMap.lookup_insert_eq_some] at hp
    simp only [addServiceProxy_nextServicePort, hnext]
    rcases hp with ⟨-, rfl⟩ | ⟨-, hp⟩
    · omega
    · have := h.inRange id p hp
      omega
  · simp only [addServiceProxy_servicePorts, HashMap.lookup_insert_eq_some] at hp hp'
    rcases hp with ⟨rfl, rfl⟩ | ⟨-, hp⟩
    · rcases hp' with ⟨rfl, -⟩ | ⟨-, hp'⟩
      · rfl
      · have := h.inRange id' _ hp'
        omega
    · rcases hp' with ⟨rfl, rfl⟩ | ⟨-, hp'⟩
      · have := h.inRange id _ hp
        omega
      · exact h.distinct id id' p hp hp'

theorem RangeInv.startup (h : RangeInv portStart portEnd m) (hend : portEnd.toNat < 65535)
    (service : Service) : RangeInv portStart portEnd (m.startup service (.ok ())).2 := by
  rcases startup_cases m service (.ok ()) with
    ⟨_, -, hs⟩ | ⟨hl, port, allocated, ha, -, hs⟩ | ⟨-, _, ⟨-, hs⟩ | ⟨_, _, -, hv, -⟩⟩
  · rw [hs]; exact h
  · rcases allocateServicePort_ok ha with ⟨hshared, -⟩ | ⟨-, hle, rfl, rfl⟩
    · simp [h.shared] at hshared
    · rw [hs]; exact h.addServiceProxy hend hl (uint16_le_iff.1 hle)
  · rw [hs]; exact h
  · cases hv

theorem RangeInv.run (h : RangeInv portStart portEnd m) (hend : portEnd.toNat < 65535)
    (ops : List GatewayOp)
    (hok : ∀ service visitorNew, GatewayOp.startup service visitorNew ∈ ops → visitorNew = .ok ()) :
    RangeInv portStart portEnd (m.run ops) := by
  induction ops generalizing m with
  | nil => exact h
  | cons op ops ih =>
      refine ih ?_ fun service visitorNew hmem => hok service visitorNew (List.mem_cons_of_mem _ hmem)
      rcases op with ⟨service, visitorNew⟩ | _ | _ | _
      · obtain rfl := hok service visitorNew (List.mem_cons_self _ _)
        exact h.startup hend service
      all_goals exact h

/-- A new service's `startup` fails on the used-up range exactly when the counter is past the
range's end. -/
theorem startup_exhausted_iff {service : Service}
    (hl : m.servicePorts.lookup service.serviceId = none) (hshared : m.sharedServicePort = none) :
    (m.startup service (.ok ())).1 = .error portsExhausted ↔
      m.lastServicePort < m.nextServicePort := by
  by_cases hlt : m.lastServicePort < m.nextServicePort <;>
    simp [startup, allocateServicePort, hl, hshared, hlt]

/-- With no failed constructor and a range `[portStart, portEnd]` ending below `u16::MAX`, the
started services have distinct ports of the range, and a new service is refused exactly when
`portEnd - portStart + 1` services have been started. -/
theorem distinct_ports_stay_in_range {appConfig : AppConfig}
    (hports : appConfig.gatewayServicePorts = some (portStart, portEnd))
    (hend : portEnd < 65535) (ops : List GatewayOp)
    (hok : ∀ service visitorNew, GatewayOp.startup service visitorNew ∈ ops → visitorNew = .ok ()) :
    let m := (new appConfig).run ops
    (∀ id p, m.servicePorts.lookup id = some p → portStart ≤ p ∧ p ≤ portEnd) ∧
    (∀ id id' p, m.servicePorts.lookup id = some p → m.servicePorts.lookup id' = some p →
      id = id') ∧
    ∀ service, m.servicePorts.lookup service.serviceId = none →
      ((m.startup service (.ok ())).1 = .error portsExhausted ↔
        m.servicePorts.keys.length = portEnd.toNat + 1 - portStart.toNat) := by
  intro m
  have hend' : portEnd.toNat < 65535 := uint16_lt_iff.1 hend
  have h : RangeInv portStart portEnd m := (rangeInv_new hports).run hend' ops hok
  have hcounter := h.counter
  have hbound := h.bound
  refine ⟨fun id p hp => ?_, h.distinct, fun service hl => ?_⟩
  · have := h.inRange id p hp
    rw [uint16_le_iff, uint16_le_iff]
    omega
  · rw [startup_exhausted_iff hl h.shared, uint16_lt_iff, h.last]
    omega

/-- Two services started on the range `4100-4102`. -/
theorem distinct_ports_stay_in_range_two_services :
    let appConfig : AppConfig := ⟨443, none, some (4100, 4102)⟩
    let ops := [GatewayOp.startup ⟨1, "svc1", .tcp, "host1", 80⟩ (.ok ()),
      .startup ⟨2, "svc2", .tcp, "host2", 80⟩ (.ok ())]
    appConfig.gatewayServicePorts = some (4100, 4102) ∧ (4102 : UInt16) < 65535 ∧
    (∀ service visitorNew, GatewayOp.startup service visitorNew ∈ ops → visitorNew = .ok ()) ∧
    let m := (new appConfig).run ops
    (∀ id p, m.servicePorts.lookup id = some p → 4100 ≤ p ∧ p ≤ 4102) ∧
    (∀ id id' p, m.servicePorts.lookup id = some p → m.servicePorts.lookup id' = some p →
      id = id') ∧
    ∀ service, m.servicePorts.lookup service.serviceId = none →
      ((m.startup service (.ok ())).1 = .error portsExhausted ↔
        m.servicePorts.keys.length = (4102 : UInt16).toNat + 1 - (4100 : UInt16).toNat) :=
  have hok : ∀ service visitorNew, GatewayOp.startup service visitorNew ∈
      [GatewayOp.startup ⟨1, "svc1", .tcp, "host1", 80⟩ (.ok ()),
        .startup ⟨2, "svc2", .tcp, "host2", 80⟩ (.ok ())] → visitorNew = .ok () := by
    simp only [List.mem_cons, GatewayOp.startup.injEq, List.mem_nil_iff, or_false]
    rintro _ _ (⟨-, rfl⟩ | ⟨-, rfl⟩) <;> rfl
  ⟨rfl, by decide, hok, distinct_ports_stay_in_range rfl (by decide) _ hok⟩

/-- A new service started on port `65535` wraps the counter to `0`, which the exhaustion check
lets through: the next new service gets port `0`, outside a range that ends at `65535`. -/
theorem port_counter_wraps_at_u16_max {service service' : Service}
    (hshared : m.sharedServicePort = none) (hnext : m.nextServicePort = 65535)
    (hlast : m.lastServicePort = 65535) (hl : m.servicePorts.lookup service.serviceId = none)
    (hl' : m.servicePorts.lookup service'.serviceId = none)
    (hne : service'.serviceId ≠ service.serviceId) :
    (m.startup service (.ok ())).1 = .ok (m.appConfig.gatewayServiceHost, 65535) ∧
      (m.startup service (.ok ())).2.nextServicePort = 0 ∧
      ((m.startup service (.ok ())).2.startup service' (.ok ())).1 =
        .ok (m.appConfig.gatewayServiceHost, 0) := by
  have hwrap : (65535 : UInt16) + 1 = 0 := rfl
  have hfull : ¬ (65535 : UInt16) < 65535 := by decide
  have hzero : ¬ (65535 : UInt16) < 0 := by decide
  simp [startup, allocateServicePort, hl, hshared, hnext, hlast, hwrap, hfull, hzero,
    AList.lookup_insert_ne hne, hl']

theorem port_counter_wraps_at_u16_max_from_new :
    let m := new ⟨443, some "gw", some (65535, 65535)⟩
    let service : Service := ⟨1, "svc1", .tcp, "host1", 80⟩
    let service' : Service := ⟨2, "svc2", .tcp, "host2", 80⟩
    (m.sharedServicePort = none ∧ m.nextServicePort = 65535 ∧ m.lastServicePort = 65535 ∧
      m.servicePorts.lookup service.serviceId = none ∧
      m.servicePorts.lookup service'.serviceId = none ∧ service'.serviceId ≠ service.serviceId) ∧
    (m.startup service (.ok ())).1 = .ok (some "gw", 65535) ∧
      (m.startup service (.ok ())).2.nextServicePort = 0 ∧
      ((m.startup service (.ok ())).2.startup service' (.ok ())).1 = .ok (some "gw", 0) :=
  ⟨⟨by decide, by decide, by decide, by decide, by decide, by decide⟩,
    port_counter_wraps_at_u16_max (by decide) (by decide) (by decide) (by decide) (by decide)
      (by decide)⟩

end Range

end GatewayServiceMgr

end Gateway

end Trust0
