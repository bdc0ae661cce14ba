import Trust0.Net.Connection
/-
What every run of a connection does: the `closed` flag only goes up, and `on_shutdown` and the
`Closed` event happen once per rise; with a writer that never fails the stream carries exactly
the enqueued payloads in order; with a writer that never blocks the `'EVENTS` loop ends within
the weight of the queue, and the loop returns exactly when the connection is closed. Each of
these is one step lemma and one run lemma by induction.

The failing runs of the same loop follow each part: a blocked write is re-enqueued behind later
writes and resent whole, a failed TCP shutdown leaves the connection open, a zero-length read
is not taken for end of stream, and a writer that keeps blocking keeps the loop spinning.
-/

namespace Trust0

/-- The bytes an effect puts on the TCP stream. -/
@[simp] def Effect.written : Effect → List UInt8
  | .streamWrite bytes => bytes
  | .shutdownStream | .connectionRead _ | .pollingCycle | .onShutdown | .send _ => []

/-- The payload of a queued event. -/
@[simp] def ConnectionEvent.payload : ConnectionEvent → List UInt8
  | .write data => data
  | .closing | .closed => []

namespace Connection

/-- The bytes a list of effects puts on the TCP stream, in order. -/
def streamBytes (effects : List Effect) : List UInt8 := (effects.map Effect.written).flatten

/-- The payloads of the `Write` events of a queue, front first. -/
def writePayloads (events : List ConnectionEvent) : List UInt8 :=
  (events.map ConnectionEvent.payload).flatten

@[simp] theorem streamBytes_nil : streamBytes [] = [] := rfl

@[simp] theorem streamBytes_cons (e : Effect) (rest : List Effect) :
    streamBytes (e :: rest) = e.written ++ streamBytes rest := rfl

@[simp] theorem writePayloads_nil : writePayloads [] = [] := rfl

@[simp] theorem writePayloads_cons (event : ConnectionEvent) (rest : List ConnectionEvent) :
    writePayloads (event :: rest) = event.payload ++ writePayloads rest := rfl

@[simp] theorem writePayloads_append (xs ys : List ConnectionEvent) :
    writePayloads (xs ++ ys) = writePayloads xs ++ writePayloads ys := by
  simp [writePayloads]

theorem readTcpStream_effects (reads : List ReadResult) (buffer : List UInt8) :
    (readTcpStream reads buffer).2 = [] ∨ (readTcpStream reads buffer).2 = [.send .closing] := by
  induction reads generalizing buffer with
  | nil => simp [readTcpStream]
  | cons result rest ih =>
      cases result with
      | ok bytes _ =>
          by_cases hshort : bytes.length < readBlockSize
          · simp [readTcpStream, hshort]
          · simpa [readTcpStream, hshort] using ih (buffer ++ bytes)
      | _ => simp [readTcpStream]

/-- `read` only sends `Closing` and calls `on_connection_read`. -/
theorem mem_read_effects {reads : List ReadResult} {visitorRead : Except AppError Unit}
    {e : Effect} (he : e ∈ (read reads visitorRead).2) :
    e = .send .closing ∨ ∃ data, e = .connectionRead data := by
  have hclosing : ∀ e ∈ (readTcpStream reads []).2, e = .send .closing := by
    rcases readTcpStream_effects reads [] with h | h <;> simp [h]
  unfold read at he
  rcases hr : readTcpStream reads [] with ⟨_ | buffer, effects⟩ <;> rw [hr] at he hclosing <;>
    dsimp only at he
  · -- a read error: the reader's effects, then `Closing`
    simp only [List.mem_append, List.mem_singleton] at he
    exact he.elim (fun h => .inl (hclosing e h)) .inl
  · -- the reader's effects, then `on_connection_read` and `Closing` on a visitor error
    have hmem : e ∈ effects ∨ e = .connectionRead buffer ∨ e = .send .closing := by
      split_ifs at he
      · exact .inl he
      · cases visitorRead <;> simp only [List.mem_append, List.mem_cons, List.mem_singleton,
          List.not_mem_nil, or_false] at he <;> tauto
    rcases hmem with h | h | h
    · exact .inl (hclosing e h)
    · exact .inr ⟨buffer, h⟩
    · exact .inl h

/-- A zero-length read, which is how a TCP stream reports end of stream, sends no `Closing`;
and a full chunk followed by a read error never reaches `on_connection_read`. -/
theorem read_misses_zero_length_eof_and_drops_full_chunk :
    (read [.ok [] (Nat.zero_le _)] (.ok ())).2 = [] ∧
      (read [.ok (List.replicate 1024 0) (List.length_replicate 1024 0).le, .other] (.ok ())).2 =
        [.send .closing] := by
  constructor
  · rfl
  · simp only [read, readTcpStream, List.length_replicate, readBlockSize, lt_self_iff_false,
      if_false]
    rfl

/-! ## The `closed` flag, `on_shutdown` and `Closed` -/

section Closing

variable {e : Effect}

/-- The read and write handlers never call `on_shutdown` or send `Closed`. -/
theorem read_count_eq_zero (he : e = .onShutdown ∨ e = .send .closed)
    (reads : List ReadResult) (visitorRead : Except AppError Unit) :
    (read reads visitorRead).2.count e = 0 := by
  refine List.count_eq_zero.2 fun hmem => ?_
  rcases mem_read_effects hmem with h | ⟨_, h⟩ <;> rcases he with rfl | rfl <;> cases h

theorem write_count_eq_zero (he : e = .onShutdown ∨ e = .send .closed)
    (buffer : List UInt8) (writeAll : WriteAllResult) :
    (write buffer writeAll).2.count e = 0 := by
  rcases he with rfl | rfl <;> cases writeAll <;> simp [write, writeTcpStream]

/-- `shutdown` calls `on_shutdown` and sends `Closed` exactly when it sets `closed`. -/
theorem shutdown_count (he : e = .onShutdown ∨ e = .send .closed)
    (closed tcpShutdown : Bool) (visitorShutdown : Except AppError Unit) :
    (shutdown closed tcpShutdown visitorShutdown).2.2.count e + closed.toNat =
      (shutdown closed tcpShutdown visitorShutdown).2.1.toNat := by
  rcases he with rfl | rfl <;> cases closed <;> cases tcpShutdown <;> simp [shutdown]

theorem drainOne_count (he : e = .onShutdown ∨ e = .send .closed) (c : Connection)
    (input : PollInput) :
    (drainOne c input).2.count e + c.closed.toNat = (drainOne c input).1.closed.toNat := by
  rcases c with ⟨closed, _ | ⟨event, rest⟩, phase⟩
  · simp [drainOne]
  · cases event with
    | closing =>
        simpa [drainOne] using shutdown_count he closed input.tcpShutdown input.visitorShutdown
    | closed => simp [drainOne]
    | write data => simp [drainOne, write_count_eq_zero he]

theorem step_count (he : e = .onShutdown ∨ e = .send .closed) (c : Connection) (a : Action) :
    (step c a).2.count e + c.closed.toNat = (step c a).1.closed.toNat := by
  have hcycle : [Effect.pollingCycle].count e = 0 := by rcases he with rfl | rfl <;> rfl
  cases a with
  | produce event => simp [step]
  | poll input =>
      cases hphase : c.phase <;>
        simp [step, hphase, read_count_eq_zero he, hcycle, drainOne_count he]

/-- Over any run, `on_shutdown` calls (and sent `Closed` events) number exactly the rises of
`closed`. -/
theorem run_count (he : e = .onShutdown ∨ e = .send .closed) (c : Connection)
    (actions : List Action) :
    (run c actions).2.count e + c.closed.toNat = (run c actions).1.closed.toNat := by
  induction actions generalizing c with
  | nil => simp
  | cons a rest ih =>
      have hstep := step_count he c a
      have hrest := ih (step c a).1
      simp only [run_cons, List.count_append]
      omega

/-- Over any run: `on_shutdown` is called at most once, `Closed` is sent at most once, and a
closed connection stays closed. -/
theorem run_shutdown_at_most_once (c : Connection) (actions : List Action) :
    (run c actions).2.count .onShutdown ≤ 1 ∧ (run c actions).2.count (.send .closed) ≤ 1 ∧
      (c.closed = true → (run c actions).1.closed = true) := by
  have hshutdown := run_count (.inl rfl) c actions
  have hclosed := run_count (.inr rfl) c actions
  have hbound : (run c actions).1.closed.toNat ≤ 1 := Bool.toNat_le _
  refine ⟨by omega, by omega, fun h => ?_⟩
  rw [h] at hshutdown
  cases hc : (run c actions).1.closed <;> simp_all

end Closing

/-- A `Closing` dequeued while open, with the TCP shutdown failing: the connection stays open,
`on_shutdown` is not called, no `Closed` is sent, and the cycle ends back at reading. -/
theorem failed_tcp_shutdown_keeps_connection_open :
    run ⟨false, [.closing], .draining⟩
        [.poll ⟨[], .ok (), .ok, false, .ok ()⟩, .poll ⟨[], .ok (), .ok, false, .ok ()⟩] =
      (⟨false, [], .reading⟩, [.shutdownStream]) := by
  decide

/-! ## Bytes on the stream -/

/-- A write that blocks goes back behind the writes queued after it, and after a partial write
it is sent again whole: `[1]` then `[2]` reach the stream as `[2, 1]`, and `[1, 2]` as
`[1, 1, 2]`. -/
theorem blocked_write_reordered_and_repeated :
    streamBytes (run init
        [.produce (.write [1]), .produce (.write [2]), .poll ⟨[], .ok (), .ok, true, .ok ()⟩,
          .poll ⟨[], .ok (), .wouldBlock 0, true, .ok ()⟩, .poll ⟨[], .ok (), .ok, true, .ok ()⟩,
          .poll ⟨[], .ok (), .ok, true, .ok ()⟩]).2 = [2, 1] ∧
      streamBytes (run init
        [.produce (.write [1, 2]), .poll ⟨[], .ok (), .ok, true, .ok ()⟩,
          .poll ⟨[], .ok (), .wouldBlock 1, true, .ok ()⟩,
          .poll ⟨[], .ok (), .ok, true, .ok ()⟩]).2 = [1, 1, 2] := by
  decide

/-! ## The `'EVENTS` loop -/

/-- A weight on queued events that every turn of the `'EVENTS` loop lowers while no write
blocks. -/
def eventWeight : ConnectionEvent → Nat
  | .closed => 1
  | .closing => 2
  | .write _ => 3

/-- The total weight of a queue. -/
def queueWeight : List ConnectionEvent → Nat
  | [] => 0
  | event :: rest => eventWeight event + queueWeight rest

@[simp] theorem queueWeight_nil : queueWeight [] = 0 := rfl

@[simp] theorem queueWeight_cons (event : ConnectionEvent) (rest : List ConnectionEvent) :
    queueWeight (event :: rest) = eventWeight event + queueWeight rest := rfl

@[simp] theorem queueWeight_append (xs ys : List ConnectionEvent) :
    queueWeight (xs ++ ys) = queueWeight xs + queueWeight ys := by
  induction xs with
  | nil => simp
  | cons x xs ih => simp [ih]; omega

theorem endOfCycle_ne_draining (closed : Bool) : endOfCycle closed ≠ .draining := by
  cases closed <;> simp [endOfCycle]

theorem drainOne_progress (c : Connection) (input : PollInput)
    (hnb : ∀ n, input.writeAll ≠ .wouldBlock n) :
    (drainOne c input).1.phase ≠ .draining ∨
      queueWeight (drainOne c input).1.events < queueWeight c.events := by
  rcases c with ⟨closed, _ | ⟨event, rest⟩, phase⟩
  · simp [drainOne, endOfCycle_ne_draining]
  · cases event with
    | closing =>
        right
        cases closed <;> cases h : input.tcpShutdown <;> simp [drainOne, shutdown, h, eventWeight]
        omega
    | closed => simp [drainOne, endOfCycle_ne_draining]
    | write data =>
        right
        cases h : input.writeAll with
        | wouldBlock n => exact absurd h (hnb n)
        | ok => simp [drainOne, write, writeTcpStream, h, eventWeight]
        | unexpectedEof _ | other _ => simp [drainOne, write, writeTcpStream, h, eventWeight]; omega

/-- The measure argument for the `'EVENTS` loop: while no write blocks, each turn leaves the
loop or lowers the queue's weight, so a loop that starts where `P` holds, with every turn
keeping `P`, is left within `queueWeight + 1` turns, in a state where `P` holds. -/
theorem drain_leaves (P : Connection → Prop)
    (hkeep : ∀ c input, c.phase = .draining → P c → P (drainOne c input).1)
    (inputs : List PollInput) (c : Connection) (hd : c.phase = .draining) (hP : P c)
    (hnb : ∀ input ∈ inputs, ∀ n, input.writeAll ≠ .wouldBlock n)
    (hlen : queueWeight c.events < inputs.length) :
    ∃ k ≤ queueWeight c.events,
      (run c ((inputs.take (k + 1)).map .poll)).1.phase ≠ .draining ∧
        P (run c ((inputs.take (k + 1)).map .poll)).1 := by
  induction inputs generalizing c with
  | nil => simp at hlen
  | cons input rest ih =>
      have hstep : step c (.poll input) = drainOne c input := by simp [step, hd]
      have hP' := hkeep c input hd hP
      by_cases hd' : (drainOne c input).1.phase = .draining
      · have hlt := (drainOne_progress c input (hnb input (List.mem_cons_self _ _))).resolve_left
          (not_not_intro hd')
        obtain ⟨k, hk, hrun⟩ := ih (drainOne c input).1 hd' hP'
          (fun i hi => hnb i (List.mem_cons_of_mem _ hi)) (by simp at hlen; omega)
        exact ⟨k + 1, by omega, by simpa [hstep] using hrun⟩
      · exact ⟨0, Nat.zero_le _, by simpa [hstep] using ⟨hd', hP'⟩⟩

/-- While no write blocks and nothing else is enqueued, the `'EVENTS` loop ends within
`queueWeight + 1` turns, whatever the writer, the TCP shutdown and the visitor answer. -/
theorem drain_exits (inputs : List PollInput) (c : Connection) (hd : c.phase = .draining)
    (hnb : ∀ input ∈ inputs, ∀ n, input.writeAll ≠ .wouldBlock n)
    (hlen : queueWeight c.events < inputs.length) :
    ∃ k ≤ queueWeight c.events,
      (run c ((inputs.take (k + 1)).map .poll)).1.phase ≠ .draining := by
  obtain ⟨k, hk, hrun, -⟩ :=
    drain_leaves (fun _ => True) (fun _ _ _ _ => trivial) inputs c hd trivial hnb hlen
  exact ⟨k, hk, hrun⟩

/-- A queued write and a `Closing`, weight 5, drained by six turns whose writer never blocks. -/
theorem drain_exits_write_then_closing :
    let c : Connection := ⟨false, [.write [7], .closing], .draining⟩
    let inputs := List.replicate 6 (⟨[], .ok (), .ok, true, .ok ()⟩ : PollInput)
    c.phase = .draining ∧ (∀ input ∈ inputs, ∀ n, input.writeAll ≠ .wouldBlock n) ∧
      queueWeight c.events < inputs.length ∧
      ∃ k ≤ queueWeight c.events, (run c ((inputs.take (k + 1)).map .poll)).1.phase ≠ .draining :=
  ⟨rfl, by simp, by decide, drain_exits _ _ rfl (by simp) (by decide)⟩

/-- With a writer that keeps answering `WouldBlock`, the pending `Write` is dequeued and
re-enqueued at every turn: after any number of turns the loop is where it started. -/
theorem blocked_write_keeps_events_loop_spinning (n : Nat) :
    (run ⟨false, [.write [0]], .draining⟩
        (List.replicate n (.poll ⟨[], .ok (), .wouldBlock 0, true, .ok ()⟩))).1 =
      ⟨false, [.write [0]], .draining⟩ := by
  induction n with
  | zero => rfl
  | succ n ih => simpa [List.replicate_succ] using ih

/-! ## Returning from `poll_connection` -/

/-- The loop ends only through `endOfCycle`: a turn that leaves the queue's events to be handled
keeps the phase, and one that leaves the `'EVENTS` loop returns exactly when `closed` is set. -/
theorem drainOne_exited (c : Connection) (input : PollInput) (hd : c.phase = .draining)
    (h : (drainOne c input).1.phase = .exited) : (drainOne c input).1.closed = true := by
  rcases c with ⟨closed, _ | ⟨event, rest⟩, phase⟩
  · cases closed <;> simp_all [drainOne, endOfCycle]
  · cases event <;> cases closed <;> simp_all [drainOne, endOfCycle]

/-- A turn of the `'EVENTS` loop on a closed connection keeps it closed and never goes back to
reading. -/
theorem drainOne_closed (c : Connection) (input : PollInput) (hc : c.closed = true)
    (hd : c.phase ≠ .reading) :
    (drainOne c input).1.closed = true ∧ (drainOne c input).1.phase ≠ .reading := by
  rcases c with ⟨closed, _ | ⟨event, rest⟩, phase⟩ <;> subst hc
  · simp [drainOne, endOfCycle]
  · cases event <;> simp_all [drainOne, endOfCycle, shutdown]

theorem step_exited (c : Connection) (a : Action) (hc : c.phase = .exited → c.closed = true) :
    (step c a).1.phase = .exited → (step c a).1.closed = true := by
  cases a with
  | produce event => exact hc
  | poll input =>
    cases hphase : c.phase with
    | reading => simp [step, hphase]
    | draining => simpa [step, hphase] using drainOne_exited c input hphase
    | exited => simpa [step, hphase] using hc hphase

/-- Along any run, the poll loop has returned only if the connection is closed. -/
theorem run_exited (c : Connection) (actions : List Action)
    (hc : c.phase = .exited → c.closed = true) :
    (run c actions).1.phase = .exited → (run c actions).1.closed = true := by
  induction actions generalizing c with
  | nil => exact hc
  | cons a rest ih => exact ih (step c a).1 (step_exited c a hc)

/-- `read` sends at most two `Closing` events: one for end of stream, one for an error. -/
theorem queueWeight_read_le (reads : List ReadResult) (visitorRead : Except AppError Unit) :
    queueWeight (sentEvents (read reads visitorRead).2) ≤ 4 := by
  unfold read
  rcases readTcpStream_effects reads [] with h | h <;>
    rcases hr : readTcpStream reads [] with ⟨_ | buffer, effects⟩ <;> rw [hr] at h <;> subst h <;>
    dsimp only <;> (try split) <;> (try cases visitorRead) <;> simp [eventWeight]

/-- Inside the `'EVENTS` loop, a closed connection stays closed and leaves only by returning. -/
theorem closed_drain_exits (inputs : List PollInput) (c : Connection) (hd : c.phase = .draining)
    (hc : c.closed = true) (hnb : ∀ input ∈ inputs, ∀ n, input.writeAll ≠ .wouldBlock n)
    (hlen : queueWeight c.events < inputs.length) :
    ∃ k ≤ queueWeight c.events, (run c ((inputs.take (k + 1)).map .poll)).1.phase = .exited := by
  obtain ⟨k, hk, hne, -, hread⟩ := drain_leaves (fun c => c.closed = true ∧ c.phase ≠ .reading)
    (fun c input _ h => drainOne_closed c input h.1 h.2) inputs c hd ⟨hc, by simp [hd]⟩ hnb hlen
  refine ⟨k, hk, ?_⟩
  generalize (run c ((inputs.take (k + 1)).map .poll)).1.phase = p at hne hread
  cases p
  · exact absurd rfl hread
  · exact absurd rfl hne
  · rfl

/-- Once the connection is closed, its poll loop returns at the end of the cycle under way:
while no write blocks, within the queue's weight plus six poll steps. -/
theorem closed_run_exits (inputs : List PollInput) (c : Connection) (hc : c.closed = true)
    (hnb : ∀ input ∈ inputs, ∀ n, input.writeAll ≠ .wouldBlock n)
    (hlen : queueWeight c.events + 5 < inputs.length) :
    ∃ k ≤ queueWeight c.events + 5,
      (run c ((inputs.take (k + 1)).map .poll)).1.phase = .exited := by
  obtain ⟨input, rest, rfl⟩ :=
    List.exists_cons_of_ne_nil (List.ne_nil_of_length_pos (show 0 < inputs.length by omega))
  cases hphase : c.phase with
  | draining =>
    exact (closed_drain_exits _ c hphase hc hnb (by omega)).imp fun k ⟨hk, h⟩ => ⟨by omega, h⟩
  | exited => exact ⟨0, Nat.zero_le _, by simp [step, hphase]⟩
  | reading =>
    -- the read of the cycle under way adds at most two `Closing` events, then the loop drains
    have hread := queueWeight_read_le input.reads input.visitorRead
    obtain ⟨k, hk, h⟩ := closed_drain_exits rest (step c (.poll input)).1 (by simp [step, hphase])
      (by simp [step, hphase, hc]) (fun i hi => hnb i (List.mem_cons_of_mem _ hi))
      (by simp [step, hphase] at hlen ⊢; omega)
    refine ⟨k + 1, by simp [step, hphase] at hk; omega, ?_⟩
    simpa using h

/-- `poll_connection` returns exactly when the connection is closed: on no run from
`Connection::new` has it returned with the connection open; and once the connection is closed
it returns, while no write blocks, within the queue's weight plus six poll steps, whatever the
reads, the writer's other answers, the TCP shutdown and the visitor answer. -/
theorem poll_connection_returns_iff_closed :
    (∀ actions, (run init actions).1.phase = .exited → (run init actions).1.closed = true) ∧
    ∀ (inputs : List PollInput) (c : Connection), c.closed = true →
      (∀ input ∈ inputs, ∀ n, input.writeAll ≠ .wouldBlock n) →
      queueWeight c.events + 5 < inputs.length →
      ∃ k ≤ queueWeight c.events + 5,
        (run c ((inputs.take (k + 1)).map .poll)).1.phase = .exited :=
  ⟨fun actions => run_exited init actions (by simp [init]), closed_run_exits⟩

/-- A closed connection with a one-byte write queued, polled with a writer that never blocks:
the loop returns within eight poll steps. -/
theorem poll_connection_returns_closed_write :
    ∃ k ≤ queueWeight [ConnectionEvent.write [1]] + 5,
      (run ⟨true, [.write [1]], .reading⟩
        (((List.replicate 9 (⟨[], .ok (), .ok, true, .ok ()⟩ : PollInput)).take (k + 1)).map
          .poll)).1.phase = .exited :=
  poll_connection_returns_iff_closed.2 _ ⟨true, [.write [1]], .reading⟩ rfl
    (fun _ hinput _ => by rw [List.eq_of_mem_replicate hinput]; exact nofun) (by decide)

end Connection

end Trust0
