import Trust0.Net.UdpServer
/-
Runs of the UDP server. First the server alone: what one iteration of the polling loop
changes, what the loop leaves when it ends, what `poll_new_messages` returns, and that between
calls, over any sequence of the server's operations, the server is idle: unbound, listening or
shut down, never polling.

Then the server with its socket while the loop runs: datagrams arrive between iterations, and
the socket is registered edge-triggered, so an arrival raises one readiness event and a poll that
returns it clears it, while data that stays queued raises none. Each iteration polls (at once
when an event is pending, otherwise after waiting out the 1 s timeout), receives the head of
the queue, and asks the visitor about shutdown.
-/

namespace Trust0

namespace Udp

namespace Server

section Iterate

variable (s : Server) (pollingError : Option AppError) (input : LoopInput)

@[simp] theorem iterate_serverSocket :
    (s.iterate pollingError input).1.serverSocket = s.serverSocket := by
  obtain ⟨poll, recv, shutdownRequested⟩ := input
  cases poll <;> cases shutdownRequested <;> rfl

@[simp] theorem iterate_closed : (s.iterate pollingError input).1.closed = s.closed := by
  obtain ⟨poll, recv, shutdownRequested⟩ := input
  cases poll <;> cases shutdownRequested <;> rfl

@[simp] theorem iterate_serverAddr : (s.iterate pollingError input).1.serverAddr = s.serverAddr := by
  obtain ⟨poll, recv, shutdownRequested⟩ := input
  cases poll <;> cases shutdownRequested <;> rfl

/-- The loop goes on exactly when the poll did not fail and no shutdown was requested. -/
@[simp] theorem iterate_polling : (s.iterate pollingError input).1.polling =
    (s.polling && input.poll != .error && !input.shutdownRequested) := by
  obtain ⟨poll, recv, shutdownRequested⟩ := input
  cases poll <;> cases shutdownRequested <;> simp [iterate]

@[simp] theorem iterate_closing :
    (s.iterate pollingError input).1.closing = (s.closing || input.shutdownRequested) := by
  obtain ⟨poll, recv, shutdownRequested⟩ := input
  cases poll <;> cases shutdownRequested <;> simp [iterate]

@[simp] theorem iterate_pollingError : (s.iterate pollingError input).2.1 =
    if input.poll = .error then some (.genWithMsgAndErr "Error while polling for IO events")
    else pollingError := by
  obtain ⟨poll, recv, shutdownRequested⟩ := input
  cases poll <;> cases shutdownRequested <;> rfl

end Iterate

/-- When the loop ends: it is no longer polling, its socket and `closed` are as they were, and it
ended on a shutdown request, on a poll error, or without running at all. -/
theorem pollLoop_exit {s s' : Server} {pollingError pollingError' : Option AppError}
    {inputs : List LoopInput} {calls : List VisitorCall}
    (h : s.pollLoop pollingError inputs = some (s', pollingError', calls)) :
    s'.polling = false ∧ s'.serverSocket = s.serverSocket ∧ s'.closed = s.closed ∧
      s'.serverAddr = s.serverAddr ∧ (s.closing = true → s'.closing = true) ∧
      (s'.closing = true ∨ pollingError'.isSome ∨ (s' = s ∧ pollingError' = pollingError)) := by
  induction inputs generalizing s pollingError calls <;> cases hpolling : s.polling
  case nil.false | cons.false =>
    -- the loop does not run
    rw [pollLoop_not_polling hpolling] at h
    cases h
    exact ⟨hpolling, rfl, rfl, rfl, id, .inr (.inr ⟨rfl, rfl⟩)⟩
  case nil.true => simp [pollLoop_nil hpolling] at h
  case cons.true input rest ih =>
    rw [pollLoop_cons hpolling] at h
    obtain ⟨⟨s'', pollingError'', calls''⟩, hrest, hres⟩ := Option.map_eq_some'.1 h
    cases hres
    obtain ⟨hpolling', hsocket, hclosed, haddr, hclosing, hreason⟩ := ih hrest
    simp only [iterate_serverSocket, iterate_closed, iterate_serverAddr, iterate_closing,
      Bool.or_eq_true] at hsocket hclosed haddr hclosing
    refine ⟨hpolling', hsocket, hclosed, haddr, fun h => hclosing (.inl h), ?_⟩
    rcases hreason with hclosing' | hsome | ⟨rfl, rfl⟩
    · exact .inl hclosing'
    · exact .inr (.inl hsome)
    · -- the iteration itself stopped the loop
      simp only [iterate_polling, hpolling, Bool.true_and, Bool.and_eq_false_iff,
        bne_eq_false_iff_eq, Bool.not_eq_false'] at hpolling'
      rcases hpolling' with herror | hshutdown
      · exact .inr (.inl (by simp [herror]))
      · exact .inl (by simp [hshutdown])

/-- `poll_new_messages` either returns before its loop, leaving the server as it was, or returns
`Ok(())` after its loop, shutting the server down when it is closing. -/
theorem pollNewMessages_cases {s s' : Server} {setup : SetupInput} {inputs : List LoopInput}
    {result : Except AppError Unit} {calls : List VisitorCall}
    (h : s.pollNewMessages setup inputs = some (result, s', calls)) :
    (∃ err, result = .error err ∧ s' = s) ∨ ∃ s'' pollingError,
      pollLoop { s with polling := true } none inputs = some (s'', pollingError, calls) ∧
        result = .ok () ∧ s' = if s''.closing then s''.performShutdown else s'' := by
  have early : ∀ err, some (.error err, s, []) = some (result, s', calls) →
      (∃ err, result = .error err ∧ s' = s) := fun err h => by cases h; exact ⟨err, rfl, rfl⟩
  unfold pollNewMessages at h
  -- every check and setup step before the loop returns an error and the server as it was
  by_cases hnone : s.serverSocket.isNone = true
  · exact .inl (early _ (by rwa [if_pos hnone] at h))
  rw [if_neg hnone] at h
  by_cases hpolling : s.polling = true
  · exact .inl (early _ (by rwa [if_pos hpolling] at h))
  rw [if_neg hpolling] at h
  cases hclone : setup.cloneSocket with
  | error err => exact .inl (early err (by rwa [hclone] at h))
  | ok u =>
    rw [hclone] at h
    dsimp only at h
    by_cases hpoll : setup.pollNew = false
    · exact .inl (early _ (by rwa [if_pos (by simp [hpoll])] at h))
    rw [if_neg (by simpa using hpoll)] at h
    by_cases hregister : setup.register = false
    · exact .inl (early _ (by rwa [if_pos (by simp [hregister])] at h))
    rw [if_neg (by simpa using hregister)] at h
    obtain ⟨⟨s'', pollingError, calls''⟩, hloop, hres⟩ := Option.map_eq_some'.1 h
    cases hres
    exact .inr ⟨s'', pollingError, hloop, rfl, rfl⟩

/-- What `poll_new_messages` leaves when it returns `Ok(())`: polling is off, and a server that
is closing has been shut down; otherwise its socket and `closed` are as they were. -/
theorem pollNewMessages_ok {s s' : Server} {setup : SetupInput} {inputs : List LoopInput}
    {calls : List VisitorCall} (h : s.pollNewMessages setup inputs = some (.ok (), s', calls)) :
    s'.polling = false ∧
      (s'.closing = true → s'.closed = true ∧ s'.serverSocket = none) ∧
      (s'.closing = false → s'.serverSocket = s.serverSocket ∧ s'.closed = s.closed) := by
  rcases pollNewMessages_cases h with ⟨err, herr, -⟩ | ⟨s'', pollingError, hloop, -, rfl⟩
  · cases herr
  · obtain ⟨hpolling, hsocket, hclosed, -⟩ := pollLoop_exit hloop
    cases hclosing : s''.closing
    · simp [hclosing, hpolling, hsocket, hclosed]
    · simp [hclosing, performShutdown]

/-- The failing input: after a successful `bind_listener`, a loop whose first poll fails makes
`poll_new_messages` return `Ok(())` with the server neither closing nor closed and its socket
still bound. -/
theorem poll_error_returns_ok_with_socket_bound (s : Server) (socket : UdpSocket)
    (onListening : Except AppError Unit) (recv : RecvResult) (rest : List LoopInput) :
    (s.bindListener (.ok socket) (.ok ()) onListening).2.1.pollNewMessages ⟨.ok (), true, true⟩
        (⟨.error, recv, false⟩ :: rest) =
      some (.ok (),
        { s with serverSocket := some socket, closing := false, closed := false, polling := false },
        [.getShutdownRequested]) := by
  simp [bindListener, pollNewMessages, pollLoop, iterate]

/-- The operations of a `Server` that change it, each called to its return. -/
inductive ServerOp
  | bindListener (bind : Except AppError UdpSocket) (setNonblocking onListening : Except AppError Unit)
  | shutdown
  | stopPoller
  | pollNewMessages (setup : SetupInput) (inputs : List LoopInput)

/-- One operation; `none` when a `poll_new_messages` call has not returned on its script. -/
def apply (s : Server) : ServerOp → Option Server
  | .bindListener bind setNonblocking onListening =>
    some (s.bindListener bind setNonblocking onListening).2.1
  | .shutdown => some s.shutdown
  | .stopPoller => some s.stopPoller
  | .pollNewMessages setup inputs => (s.pollNewMessages setup inputs).map (·.2.1)

/-- A sequence of operations, each called after the previous one returned. -/
def run (s : Server) : List ServerOp → Option Server
  | [] => some s
  | op :: ops => (s.apply op).bind fun s' => s'.run ops

/-- What every operation keeps holds after every sequence of completed operations. -/
theorem run_invariant (P : Server → Prop)
    (hstep : ∀ {s s' : Server} {op : ServerOp}, P s → s.apply op = some s' → P s')
    {s₀ s : Server} (h₀ : P s₀) {ops : List ServerOp} (h : s₀.run ops = some s) : P s := by
  induction ops generalizing s₀ with
  | nil => cases h; exact h₀
  | cons op ops ih =>
    obtain ⟨s₁, happly, hrest⟩ := Option.bind_eq_some.1 h
    exact ih (hstep h₀ happly) hrest

/-- A server between calls: not polling, `closing` and `closed` agreeing, and no socket once
closed. That is one of three states: unbound, listening, or shut down. -/
structure Idle (s : Server) : Prop where
  polling : s.polling = false
  closing : s.closing = s.closed
  socket : s.closed = true → s.serverSocket = none

theorem idle_new (serverPort : UInt16) : Idle (new serverPort) := ⟨rfl, rfl, nofun⟩

theorem Idle.performShutdown (s : Server) : Idle s.performShutdown := ⟨rfl, rfl, fun _ => rfl⟩

/-- `poll_new_messages` returns `Ok(())` only on a bound server. -/
theorem pollNewMessages_ok_bound {s s' : Server} {setup : SetupInput} {inputs : List LoopInput}
    {calls : List VisitorCall} (h : s.pollNewMessages setup inputs = some (.ok (), s', calls)) :
    s.serverSocket.isSome := by
  cases hsock : s.serverSocket with
  | some _ => rfl
  | none => simp [pollNewMessages, hsock] at h

theorem Idle.apply {s s' : Server} {op : ServerOp} (hs : Idle s) (happly : s.apply op = some s') :
    Idle s' := by
  cases op with
  | bindListener bind setNonblocking onListening =>
    cases happly
    unfold bindListener
    split
    · exact hs
    · split
      · exact hs
      · exact ⟨rfl, rfl, nofun⟩
  | shutdown =>
    cases happly
    simp only [shutdown, hs.polling, Bool.not_false, if_true]
    exact Idle.performShutdown s
  | stopPoller => cases happly; exact ⟨rfl, hs.closing, hs.socket⟩
  | pollNewMessages setup inputs =>
    obtain ⟨⟨result, s'', calls⟩, hpoll, rfl⟩ := Option.map_eq_some'.1 happly
    rcases pollNewMessages_cases hpoll with ⟨err, -, rfl⟩ | ⟨s₁, pollingError, hloop, rfl, rfl⟩
    · exact hs
    · -- a bound server is not closed, so neither is it closing; the loop keeps `closed`
      have hbound := pollNewMessages_ok_bound hpoll
      have hclosed : s.closed = false := by
        cases hc : s.closed
        · rfl
        · simp [hs.socket hc] at hbound
      obtain ⟨hpolling, -, hclosed', -⟩ := pollLoop_exit hloop
      dsimp only
      split
      · exact Idle.performShutdown s₁
      · rename_i hclosing
        simp only at hclosed'
        exact ⟨hpolling, by simp [hclosing, hclosed', hclosed], by simp [hclosed', hclosed]⟩

/-- Every sequence of completed calls on a new server leaves it idle: not polling, with
`closing` and `closed` agreeing, and without a socket once closed, so that it is unbound,
listening, or shut down. -/
theorem idle_between_calls (serverPort : UInt16) (ops : List ServerOp) (s : Server)
    (h : (new serverPort).run ops = some s) :
    s.polling = false ∧ s.closing = s.closed ∧ (s.closed = true → s.serverSocket = none) :=
  let hidle := run_invariant Idle Idle.apply (idle_new serverPort) h
  ⟨hidle.polling, hidle.closing, hidle.socket⟩

/-- A server bound, polled until the visitor requests shutdown, then bound again. -/
theorem idle_after_bind_poll_bind :
    ∃ s, (new 4000).run [.bindListener (.ok ⟨"[::]:4000"⟩) (.ok ()) (.ok ()),
        .pollNewMessages ⟨.ok (), true, true⟩ [⟨.ok, .wouldBlock, true⟩],
        .bindListener (.ok ⟨"[::]:4000"⟩) (.ok ()) (.ok ())] = some s ∧
      s.polling = false ∧ s.closing = s.closed ∧ (s.closed = true → s.serverSocket = none) :=
  ⟨_, rfl, idle_between_calls 4000 [.bindListener (.ok ⟨"[::]:4000"⟩) (.ok ()) (.ok ()),
    .pollNewMessages ⟨.ok (), true, true⟩ [⟨.ok, .wouldBlock, true⟩],
    .bindListener (.ok ⟨"[::]:4000"⟩) (.ok ()) (.ok ())] _ rfl⟩

end Server

/-- The socket as the poller sees it: the datagrams queued on it, and whether a readiness event
is pending. -/
structure Socket where
  queue : List Datagram
  ready : Bool
  deriving DecidableEq, Repr

/-- What happens while the loop runs: a datagram arrives, or the loop runs one iteration with
the visitor's answer to `get_shutdown_requested`. -/
inductive Event
  | arrive (d : Datagram)
  | iterate (shutdownRequested : Bool)
  deriving DecidableEq, Repr

/-- The server, its socket, and the loop's `polling_error`. -/
structure System where
  server : Server
  socket : Socket
  pollingError : Option AppError

namespace Socket

/-- An iteration's input from the socket: the poll returns `Ok(())`, at once or after the
timeout, and `recv_from` takes the head of the queue. -/
def loopInput (socket : Socket) (shutdownRequested : Bool) : LoopInput :=
  ⟨.ok, (match socket.queue with | d :: _ => .datagram d | [] => .wouldBlock), shutdownRequested⟩

/-- Whether an iteration's poll waits out its timeout with a datagram queued: no event pending,
yet the queue is not empty. -/
def stalls (socket : Socket) : Bool :=
  !socket.ready && !socket.queue.isEmpty

end Socket

/-- What a datagram delivers: its sender and the bytes the 64 KiB buffer holds. -/
def Datagram.delivery (d : Datagram) : String × List UInt8 :=
  (d.peerAddr, d.data.take recvBufferSize)

/-- The datagram an event brings. -/
def Event.arrivals : Event → List Datagram
  | .arrive d => [d]
  | .iterate _ => []

namespace System

/-- One event, with the calls on the visitor and whether the iteration's poll stalled. -/
def step (sys : System) : Event → System × List VisitorCall × Bool
  | .arrive d => ({ sys with socket := ⟨sys.socket.queue ++ [d], true⟩ }, [], false)
  | .iterate shutdownRequested =>
    if !sys.server.polling then (sys, [], false)
    else
      let next := sys.server.iterate sys.pollingError (sys.socket.loopInput shutdownRequested)
      (⟨next.1, ⟨sys.socket.queue.tail, false⟩, next.2.1⟩, next.2.2, sys.socket.stalls)

/-- A run of events: the final system, the calls on the visitor, and the number of stalls. -/
def run (sys : System) : List Event → System × List VisitorCall × Nat
  | [] => (sys, [], 0)
  | event :: events =>
    let first := sys.step event
    let rest := first.1.run events
    (rest.1, first.2.1 ++ rest.2.1, (if first.2.2 then 1 else 0) + rest.2.2)

/-- Two datagrams arriving together: the loop receives the first, then polls with the second
queued and no event pending, waits out the timeout, and only then receives it. -/
theorem burst_second_datagram_waits_for_timeout (s : Server) (socket : UdpSocket)
    (pollingError : Option AppError) (d₁ d₂ : Datagram) :
    (System.run ⟨{ s with serverSocket := some socket, polling := true }, ⟨[], false⟩,
        pollingError⟩ [.arrive d₁, .arrive d₂, .iterate false, .iterate false]).2 =
      ([.onMessageReceived socket.localAddr d₁.peerAddr (d₁.data.take recvBufferSize),
        .getShutdownRequested,
        .onMessageReceived socket.localAddr d₂.peerAddr (d₂.data.take recvBufferSize),
        .getShutdownRequested], 1) := by
  simp [run, step, Socket.loopInput, Socket.stalls, Server.iterate, Server.acceptMessage]

/-- What the visitor receives: the sender and bytes of each message. -/
def received : List VisitorCall → List (String × List UInt8)
  | [] => []
  | .onMessageReceived _ peerAddr data :: calls => (peerAddr, data) :: received calls
  | _ :: calls => received calls

@[simp] theorem received_nil : received [] = [] := rfl

@[simp] theorem received_append (xs ys : List VisitorCall) :
    received (xs ++ ys) = received xs ++ received ys := by
  induction xs with
  | nil => rfl
  | cons call xs ih => cases call <;> simp [received, ih]

/-- One event delivers from the head of the queue what it takes off it, and an arrival joins
its end. -/
theorem step_delivers_in_order (sys : System) (event : Event) :
    received (sys.step event).2.1 ++ (sys.step event).1.socket.queue.map Datagram.delivery =
      (sys.socket.queue ++ event.arrivals).map Datagram.delivery := by
  cases event with
  | arrive d => simp [step, Event.arrivals]
  | iterate shutdownRequested =>
    cases hpolling : sys.server.polling
    · simp [step, hpolling, Event.arrivals]
    · obtain ⟨server, ⟨queue, ready⟩, pollingError⟩ := sys
      cases queue <;> cases shutdownRequested <;>
        simp_all [step, Event.arrivals, Socket.loopInput, Server.iterate, Server.acceptMessage,
          received, Datagram.delivery]

/-- Over every run, the visitor receives the queued and arriving datagrams in order, each once,
their bytes cut only at the 64 KiB buffer, and what it has not received is still queued. -/
theorem run_delivers_in_order (sys : System) (events : List Event) :
    received (sys.run events).2.1 ++ (sys.run events).1.socket.queue.map Datagram.delivery =
      (sys.socket.queue ++ events.flatMap Event.arrivals).map Datagram.delivery := by
  induction events generalizing sys with
  | nil => simp [run]
  | cons event events ih =>
    have hstep := step_delivers_in_order sys event
    simp only [run, received_append, List.append_assoc, ih, List.flatMap_cons, List.map_append]
      at hstep ⊢
    rw [← List.append_assoc, hstep, List.append_assoc]

end System

end Udp

end Trust0
