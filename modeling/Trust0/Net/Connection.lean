import Trust0.Model
/-
The accepted TCP connection of `net/tcp_server/conn_std.rs`: its event channel, its
constructor, the `read`, `write` and `shutdown` handlers, and `poll_connection` taken one atomic
action at a time.

Each call the connection makes on its stream or on its visitor is answered by an input of the
step that makes it, so a run ranges over every behaviour of the reader, the writer, the TCP
shutdown and the visitor. The connection holds both ends of its channel: a send never fails
and `try_recv` never reports `Disconnected`. Other holders of the sender (the visitor, the
proxy executor) enqueue `Closing` or `Write` between any two steps of the loop.
-/

namespace Trust0

/-- `READ_BLOCK_SIZE`: the chunk `read_tcp_stream` reads into. -/
def readBlockSize : Nat := 1024

/-- Connection event message channel. -/
inductive ConnectionEvent
  | closing
  | closed
  | write (data : List UInt8)
  deriving DecidableEq, Repr

/-- One `stream_reader.read` into the 1 KiB chunk: `Ok(n)` with the `n` bytes it placed in the
chunk (never more than the chunk holds, as the `Read` contract promises), or an error by kind. -/
inductive ReadResult
  | ok (bytes : List UInt8) (fits : bytes.length ≤ readBlockSize)
  | wouldBlock
  | unexpectedEof
  | other
  deriving DecidableEq, Repr

/-- One `stream_writer.write_all`: it succeeds having written the whole buffer, or fails by kind
having written the first `written` bytes. -/
inductive WriteAllResult
  | ok
  | wouldBlock (written : Nat)
  | unexpectedEof (written : Nat)
  | other (written : Nat)
  deriving DecidableEq, Repr

/-- A call the connection makes on its stream, its visitor or its own channel. -/
inductive Effect
  | streamWrite (bytes : List UInt8)
  | shutdownStream
  | connectionRead (data : List UInt8)
  | pollingCycle
  | onShutdown
  | send (event : ConnectionEvent)
  deriving DecidableEq, Repr

/-- The events a list of effects sends on the channel, in order. -/
def sentEvents : List Effect → List ConnectionEvent
  | [] => []
  | .send event :: rest => event :: sentEvents rest
  | _ :: rest => sentEvents rest

@[simp] theorem sentEvents_nil : sentEvents [] = [] := rfl

@[simp] theorem sentEvents_append (xs ys : List Effect) :
    sentEvents (xs ++ ys) = sentEvents xs ++ sentEvents ys := by
  induction xs with
  | nil => rfl
  | cons x xs ih => cases x <;> simp [sentEvents, ih]

@[simp] theorem sentEvents_cons_send (event : ConnectionEvent) (rest : List Effect) :
    sentEvents (.send event :: rest) = event :: sentEvents rest := rfl

@[simp] theorem sentEvents_cons_streamWrite (bytes : List UInt8) (rest : List Effect) :
    sentEvents (.streamWrite bytes :: rest) = sentEvents rest := rfl

@[simp] theorem sentEvents_cons_shutdownStream (rest : List Effect) :
    sentEvents (.shutdownStream :: rest) = sentEvents rest := rfl

@[simp] theorem sentEvents_cons_connectionRead (data : List UInt8) (rest : List Effect) :
    sentEvents (.connectionRead data :: rest) = sentEvents rest := rfl

@[simp] theorem sentEvents_cons_pollingCycle (rest : List Effect) :
    sentEvents (.pollingCycle :: rest) = sentEvents rest := rfl

@[simp] theorem sentEvents_cons_onShutdown (rest : List Effect) :
    sentEvents (.onShutdown :: rest) = sentEvents rest := rfl

/-- Where `poll_connection` is: at the top of its loop about to read, inside the `'EVENTS`
loop, or returned. -/
inductive PollPhase
  | reading
  | draining
  | exited
  deriving DecidableEq, Repr

/-- The connection's own state: its `closed` flag, the events waiting on its channel (front
first), and where its poll loop is. -/
structure Connection where
  closed : Bool
  events : List ConnectionEvent
  phase : PollPhase
  deriving DecidableEq, Repr

/-- The answers to the calls one step of `poll_connection` may make. -/
structure PollInput where
  reads : List ReadResult
  visitorRead : Except AppError Unit
  writeAll : WriteAllResult
  tcpShutdown : Bool
  visitorShutdown : Except AppError Unit

/-- One thing that happens to a connection: another sender enqueues an event, or the poll loop
takes its next step. -/
inductive Action
  | produce (event : ConnectionEvent)
  | poll (input : PollInput)

namespace Connection

/-- `read_tcp_stream`: whole chunks are kept and reading goes on; a short read ends the read
with its bytes; `UnexpectedEof` sends `Closing` and `WouldBlock` ends the read; any other error
drops what was read. A reader past its script answers `WouldBlock`, as a drained non-blocking
socket does. -/
def readTcpStream : List ReadResult → List UInt8 → Except AppError (List UInt8) × List Effect
  | [], buffer => (.ok buffer, [])
  | .ok bytes _ :: rest, buffer =>
      if bytes.length < readBlockSize then (.ok (buffer ++ bytes), [])
      else readTcpStream rest (buffer ++ bytes)
  | .wouldBlock :: _, buffer => (.ok buffer, [])
  | .unexpectedEof :: _, buffer => (.ok buffer, [.send .closing])
  | .other :: _, _ => (.error (.genWithMsgAndErr "Error reading from TCP connection"), [])

/-- `Connection::read`: a non-empty buffer goes to `on_connection_read`, whose answer is
`visitorRead`; a read error or a visitor error sends `Closing` and is returned. -/
def read (reads : List ReadResult) (visitorRead : Except AppError Unit) :
    Except AppError (List UInt8) × List Effect :=
  match readTcpStream reads [] with
  | (.ok buffer, effects) =>
      if buffer.isEmpty then (.ok [], effects)
      else
        match visitorRead with
        | .ok () => (.ok buffer, effects ++ [.connectionRead buffer])
        | .error err => (.error err, effects ++ [.connectionRead buffer, .send .closing])
  | (.error err, effects) => (.error err, effects ++ [.send .closing])

/-- `write_tcp_stream`: `UnexpectedEof` sends `Closing`, `WouldBlock` sends the whole buffer
back to the channel as a new `Write`, and any other error is returned. -/
def writeTcpStream (buffer : List UInt8) :
    WriteAllResult → Except AppError Unit × List Effect
  | .ok => (.ok (), [.streamWrite buffer])
  | .unexpectedEof written => (.ok (), [.streamWrite (buffer.take written), .send .closing])
  | .wouldBlock written =>
      (.ok (), [.streamWrite (buffer.take written), .send (.write buffer)])
  | .other written =>
      (.error (.genWithMsgAndErr "Error writing to TCP connection"),
        [.streamWrite (buffer.take written)])

/-- `Connection::write`: an error of `write_tcp_stream` sends `Closing` and is returned. -/
def write (buffer : List UInt8) (writeAll : WriteAllResult) : Except AppError Unit × List Effect :=
  match writeTcpStream buffer writeAll with
  | (.ok (), effects) => (.ok (), effects)
  | (.error err, effects) => (.error err, effects ++ [.send .closing])

/-- `Connection::shutdown` from `closed`, with the TCP shutdown answering `tcpShutdown` and the
visitor's `on_shutdown` answering `visitorShutdown`; also returns the new `closed`. A failed
TCP shutdown returns before `closed` is set. -/
def shutdown (closed tcpShutdown : Bool) (visitorShutdown : Except AppError Unit) :
    Except AppError Unit × Bool × List Effect :=
  if closed then (.ok (), true, [])
  else if tcpShutdown then
    (visitorShutdown, true, [.shutdownStream, .send .closed, .onShutdown])
  else
    (.error (.genWithMsgAndErr "Error shutting down TCP connection"), false, [.shutdownStream])

/-- A connection as `Connection::new` returns it. -/
def init : Connection := ⟨false, [], .reading⟩

/-- `Connection::new`, given the answers of the visitor's `set_event_channel_sender` and
`on_connected` and of the two stream clones: the first failure is returned, and no connection
is made. -/
def new (setEventChannelSender onConnected cloneReader cloneWriter : Except AppError Unit) :
    Except AppError Connection := do
  setEventChannelSender
  onConnected
  cloneReader
  cloneWriter
  pure init

/-- The end of one poll cycle: `if self.closed { break }`, else back to reading. -/
def endOfCycle (closed : Bool) : PollPhase := if closed then .exited else .reading

/-- One turn of the `'EVENTS` loop: `try_recv` and the handler of what it returns. -/
def drainOne (c : Connection) (input : PollInput) : Connection × List Effect :=
  match c.events with
  | [] => ({ c with phase := endOfCycle c.closed }, [])
  | .closed :: rest => ({ c with events := rest, phase := endOfCycle c.closed }, [])
  | .write data :: rest =>
      let effects := (write data input.writeAll).2
      ({ c with events := rest ++ sentEvents effects }, effects)
  | .closing :: rest =>
      let (_, closed, effects) := shutdown c.closed input.tcpShutdown input.visitorShutdown
      ({ closed, events := rest ++ sentEvents effects, phase := .draining }, effects)

/-- One step of a connection. At the top of its loop `poll_connection` reads and then calls
`on_polling_cycle`; inside the `'EVENTS` loop it handles one event. -/
def step (c : Connection) : Action → Connection × List Effect
  | .produce event => ({ c with events := c.events ++ [event] }, [])
  | .poll input =>
      match c.phase with
      | .reading =>
          let effects := (read input.reads input.visitorRead).2
          ({ c with events := c.events ++ sentEvents effects, phase := .draining },
            effects ++ [.pollingCycle])
      | .draining => drainOne c input
      | .exited => (c, [])

/-- A run: the actions in order, and every effect they have. -/
def run (c : Connection) : List Action → Connection × List Effect
  | [] => (c, [])
  | a :: rest =>
      let next := step c a
      let after := run next.1 rest
      (after.1, next.2 ++ after.2)

@[simp] theorem run_nil (c : Connection) : run c [] = (c, []) := rfl

@[simp] theorem run_cons (c : Connection) (a : Action) (rest : List Action) :
    run c (a :: rest) = ((run (step c a).1 rest).1, (step c a).2 ++ (run (step c a).1 rest).2) :=
  rfl

theorem run_append (c : Connection) (xs ys : List Action) :
    run c (xs ++ ys) = ((run (run c xs).1 ys).1, (run c xs).2 ++ (run (run c xs).1 ys).2) := by
  induction xs generalizing c with
  | nil => simp
  | cons a xs ih => simp [ih]

end Connection

end Trust0
