import Trust0.Model
/-
The UDP server of `net/udp_server/server_std.rs`: its constructor, `bind_listener`,
`shutdown`, `clone_server_socket`, `send_message`, `stop_poller`, and `poll_new_messages` with
its polling loop and `accept_message`.

Every outcome the code gets from the system and the visitor is an input: the socket's bind and
`set_nonblocking`, the poller's setup, and for each iteration of the loop the result of
`poll`, of `recv_from`, and the visitor's `get_shutdown_requested`. A call of
`poll_new_messages` runs its loop on a script of such iterations; when the script ends before
the loop does, the call has not returned.
-/

namespace Trust0

namespace Udp

/-- `RECV_BUFFER_SIZE`: the buffer `accept_message` receives into. -/
def recvBufferSize : Nat := 64 * 1024

/-- A bound UDP socket; the model keeps its local address. -/
structure UdpSocket where
  localAddr : String
  deriving DecidableEq, Repr

/-- A datagram queued on the socket: its sender and its bytes. -/
structure Datagram where
  peerAddr : String
  data : List UInt8
  deriving DecidableEq, Repr

/-- A call the server makes on its visitor. -/
inductive VisitorCall
  | onListening
  | onMessageReceived (localAddr peerAddr : String) (data : List UInt8)
  | getShutdownRequested
  deriving DecidableEq, Repr

/-- The fields of `Server` its methods read and write; `server_addr` is kept as the text its
messages print. -/
structure Server where
  serverSocket : Option UdpSocket
  serverAddr : String
  polling : Bool
  closing : Bool
  closed : Bool
  deriving DecidableEq, Repr

/-- `poll.poll(&mut events, 1 s)`: `Ok(())` (readiness or timeout alike), `WouldBlock`, or
another error. -/
inductive PollResult
  | ok
  | wouldBlock
  | error
  deriving DecidableEq, Repr

/-- `recv_from` on the non-blocking socket: a datagram, `WouldBlock`, or another error. -/
inductive RecvResult
  | datagram (d : Datagram)
  | wouldBlock
  | error
  deriving DecidableEq, Repr

/-- What one iteration of the polling loop gets: the poll's result, the receive's result (read
only when the poll returns `Ok`), and the visitor's answer to `get_shutdown_requested`. -/
structure LoopInput where
  poll : PollResult
  recv : RecvResult
  shutdownRequested : Bool
  deriving DecidableEq, Repr

/-- What the poller's setup gets: `clone_std_udp_socket`, `Poll::new` and `register`. -/
structure SetupInput where
  cloneSocket : Except AppError Unit
  pollNew : Bool
  register : Bool

namespace Server

/-- `Server::new`: the address `[::]:port` always parses. -/
def new (serverPort : UInt16) : Server :=
  { serverSocket := none, serverAddr := "[::]:" ++ toString serverPort, polling := false,
    closing := false, closed := false }

/-- `bind_listener`, given the bind, `set_nonblocking` and `on_listening` results. -/
def bindListener (s : Server) (bind : Except AppError UdpSocket)
    (setNonblocking : Except AppError Unit) (onListening : Except AppError Unit) :
    Except AppError Unit × Server × List VisitorCall :=
  match bind with
  | .error _ =>
    (.error (.genWithMsgAndErr ("Error binding UDP socket: server_addr=" ++ s.serverAddr)), s, [])
  | .ok socket =>
    match setNonblocking with
    | .error _ =>
      (.error (.genWithMsgAndErr
        ("Failed making UDP server socket non-blocking: server_addr=" ++ s.serverAddr)), s, [])
    | .ok () =>
      (onListening,
        { s with serverSocket := some socket, closing := false, closed := false, polling := false },
        [.onListening])

/-- `perform_shutdown`. -/
def performShutdown (s : Server) : Server :=
  { s with closing := true, closed := true, polling := false, serverSocket := none }

/-- `shutdown`: immediate when not polling, else a request to the loop. -/
def shutdown (s : Server) : Server :=
  if !s.polling then s.performShutdown else { s with polling := false }

/-- `clone_server_socket`, given the answer of `try_clone`. -/
def cloneServerSocket (s : Server) (tryClone : Except AppError Unit) :
    Except AppError UdpSocket :=
  match s.serverSocket with
  | some socket =>
    match tryClone with
    | .ok () => .ok socket
    | .error _ => .error (.genWithMsgAndErr "Failed to clone UDP server socket")
  | none => .error (.general "Server socket not available for cloning")

/-- `send_message`, given the answer of `send_to`; `socketAddr` is the destination as `{:?}`
prints it. -/
def sendMessage (sendTo : Except AppError Nat) (socketAddr : String) : Except AppError Nat :=
  match sendTo with
  | .ok sent => .ok sent
  | .error _ =>
    .error (.genWithMsgAndErr ("Error while sending message on UDP socket: dest=" ++ socketAddr))

/-- `stop_poller`. -/
def stopPoller (s : Server) : Server :=
  { s with polling := false }

/-- `accept_message`: one `recv_from` into the 64 KiB buffer, then the message to the visitor.
The socket is bound while the loop runs. -/
def acceptMessage (s : Server) (recv : RecvResult) : Except AppError Unit × List VisitorCall :=
  match recv with
  | .datagram d =>
    (.ok (), [.onMessageReceived ((s.serverSocket.map UdpSocket.localAddr).getD "") d.peerAddr
      (d.data.take recvBufferSize)])
  | .wouldBlock => (.error .wouldBlock, [])
  | .error =>
    (.error (.genWithMsgAndErr ("Error receiving message: server_addr=" ++ s.serverAddr)), [])

/-- One iteration of the polling loop: the poll, `accept_message` on `Ok` (its error is only
logged), then the shutdown check. -/
def iterate (s : Server) (pollingError : Option AppError) (input : LoopInput) :
    Server × Option AppError × List VisitorCall :=
  let (s, pollingError, calls) : Server × Option AppError × List VisitorCall :=
    match input.poll with
    | .wouldBlock => (s, pollingError, [])
    | .error =>
      ({ s with polling := false },
        some (.genWithMsgAndErr "Error while polling for IO events"), [])
    | .ok => (s, pollingError, (s.acceptMessage input.recv).2)
  if input.shutdownRequested then
    ({ s with polling := false, closing := true }, pollingError,
      calls ++ [.getShutdownRequested])
  else (s, pollingError, calls ++ [.getShutdownRequested])

/-- `while self.polling { .. }` over a script of iterations; `none` when the script ends with
the loop still running. -/
def pollLoop (s : Server) (pollingError : Option AppError) :
    List LoopInput → Option (Server × Option AppError × List VisitorCall)
  | [] => if !s.polling then some (s, pollingError, []) else none
  | input :: rest =>
    if !s.polling then some (s, pollingError, [])
    else
      let next := s.iterate pollingError input
      (pollLoop next.1 next.2.1 rest).map fun r => (r.1, r.2.1, next.2.2 ++ r.2.2)

/-- `poll_new_messages`: the checks, the poller's setup, the loop, and the shutdown it performs
when the loop ended by a shutdown request. `none` when the loop has not ended. -/
def pollNewMessages (s : Server) (setup : SetupInput) (inputs : List LoopInput) :
    Option (Except AppError Unit × Server × List VisitorCall) :=
  if s.serverSocket.isNone then some (.error (.general "Gateway not listening"), s, [])
  else if s.polling then
    some (.error (.general ("Already polling for new messages: server_addr=" ++ s.serverAddr)),
      s, [])
  else
    match setup.cloneSocket with
    | .error err => some (.error err, s, [])
    | .ok () =>
      if !setup.pollNew then
        some (.error (.genWithMsgAndErr "Error creating new MIO poller"), s, [])
      else if !setup.register then
        some (.error (.genWithMsgAndErr "Error registering udp server socket in MIO registry"),
          s, [])
      else
        (pollLoop { s with polling := true } none inputs).map fun (s', _, calls) =>
          (.ok (), if s'.closing then s'.performShutdown else s', calls)

@[simp] theorem pollLoop_not_polling {s : Server} (h : s.polling = false)
    (pollingError : Option AppError) (inputs : List LoopInput) :
    s.pollLoop pollingError inputs = some (s, pollingError, []) := by
  cases inputs <;> simp [pollLoop, h]

@[simp] theorem pollLoop_nil {s : Server} (h : s.polling = true) (pollingError : Option AppError) :
    s.pollLoop pollingError [] = none := by
  simp [pollLoop, h]

theorem pollLoop_cons {s : Server} (h : s.polling = true) (pollingError : Option AppError)
    (input : LoopInput) (rest : List LoopInput) :
    s.pollLoop pollingError (input :: rest) =
      ((s.iterate pollingError input).1.pollLoop (s.iterate pollingError input).2.1 rest).map
        fun r => (r.1, r.2.1, (s.iterate pollingError input).2.2 ++ r.2.2) := by
  simp [pollLoop, h]

end Server

end Udp

end Trust0
