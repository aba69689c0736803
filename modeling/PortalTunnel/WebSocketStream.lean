import PortalTunnel.Frame

/-!
# The WebSocket byte-stream adapter

`WebSocketStream` turns a browser `WebSocket`, which delivers whole binary messages through
callbacks, into an `AsyncRead + AsyncWrite` byte stream.  The callbacks append to a byte
queue and wake the reader; `poll_read` drains the queue, `poll_write` hands a buffer to the
socket unless its buffered amount is above 64 KiB, in which case it registers a write waker.
The adapter is a step system: the transport's events (a binary or text message, an error, a
close, a change of the buffered amount) and the four poll functions each take one step.
-/

namespace PortalTunnel

/-- `Poll<T>`. -/
inductive Poll (α : Type)
  | ready (value : α)
  | pending
deriving DecidableEq, Repr

/-- The browser `WebSocket` as the adapter uses it: its buffered amount, which each send raises by
the bytes it queues and the browser lowers as it transmits them, the messages handed to
`send_with_u8_array`, and how many times `close` has been called. -/
structure WebSocket where
  bufferedAmount : Nat
  sent : List Bytes
  closeCalls : Nat

/-- `WebSocketStream`, each waker given by the task it wakes. -/
structure WebSocketStream where
  ws : WebSocket
  readBuffer : Bytes
  readWaker : Option Nat
  writeWaker : Option Nat
  closed : Bool
  error : Option String

namespace WebSocketStream

/-- The stream `connect` returns: nothing buffered, no waker, open, no error. -/
def connected : WebSocketStream :=
  ⟨⟨0, [], 0⟩, [], none, none, false, none⟩

/-- `MAX_BUFFER_SIZE`. -/
def maxBufferSize : Nat := 64 * 1024

/-! ## The callbacks `connect` installs; each returns the waker it wakes -/

/-- The `onmessage` callback on a binary message. -/
def onMessage (data : Bytes) (self : WebSocketStream) : Option Nat × WebSocketStream :=
  (self.readWaker, { self with readBuffer := self.readBuffer ++ data, readWaker := none })

/-- The `onerror` callback. -/
def onError (self : WebSocketStream) : Option Nat × WebSocketStream :=
  (self.readWaker, { self with error := some "WebSocket error", closed := true, readWaker := none })

/-- The `onclose` callback. -/
def onClose (self : WebSocketStream) : Option Nat × WebSocketStream :=
  (self.readWaker, { self with closed := true, readWaker := none })

/-! ## The poll functions -/

/-- `check_error`. -/
def checkError (self : WebSocketStream) : Except IoError Unit :=
  match self.error with
  | some err => .error ⟨.other, err⟩
  | none => .ok ()

/-- `poll_read` with a buffer of `bufLen` bytes, polled by the task `waker`: the bytes it
copies into the buffer. -/
def pollRead (waker bufLen : Nat) (self : WebSocketStream) :
    Poll (Except IoError Bytes) × WebSocketStream :=
  match checkError self with
  | .error e => (.ready (.error e), self)
  | .ok () =>
      if self.closed ∧ self.readBuffer.isEmpty then (.ready (.ok []), self)
      else if self.readBuffer.isEmpty then (.pending, { self with readWaker := some waker })
      else
        let toCopy := min bufLen self.readBuffer.length
        (.ready (.ok (self.readBuffer.take toCopy)),
          { self with readBuffer := self.readBuffer.drop toCopy })

/-- `poll_write` of `buf`, polled by the task `waker`; `sendResult` is what
`send_with_u8_array` returns, with the debug text of its error. -/
def pollWrite (waker : Nat) (buf : Bytes) (sendResult : Except String Unit)
    (self : WebSocketStream) : Poll (Except IoError Nat) × WebSocketStream :=
  match checkError self with
  | .error e => (.ready (.error e), self)
  | .ok () =>
      if self.closed then (.ready (.error ⟨.brokenPipe, "WebSocket closed"⟩), self)
      else if self.ws.bufferedAmount > maxBufferSize then
        (.pending, { self with writeWaker := some waker })
      else
        match sendResult with
        | .ok () =>
            let ws := { self.ws with sent := self.ws.sent ++ [buf],
                                     bufferedAmount := self.ws.bufferedAmount + buf.length }
            (.ready (.ok buf.length), { self with ws })
        | .error e => (.ready (.error ⟨.other, s!"WebSocket send failed: {e}"⟩), self)

/-- `poll_close`. -/
def pollClose (self : WebSocketStream) : WebSocketStream :=
  if !self.closed then { self with ws := { self.ws with closeCalls := self.ws.closeCalls + 1 }, closed := true }
  else self

/-! ## The step system -/

/-- One step of the adapter: a transport event, or a poll by a task. -/
inductive Event
  | message (data : Bytes)
  | textMessage
  | error
  | close
  | buffered (amount : Nat)
  | pollRead (waker bufLen : Nat)
  | pollWrite (waker : Nat) (buf : Bytes) (sendResult : Except String Unit)
  | pollFlush
  | pollClose

/-- What a step returns: the waker an event woke, or what a poll returned. -/
inductive Outcome
  | woke (waker : Option Nat)
  | read (poll : Poll (Except IoError Bytes))
  | wrote (poll : Poll (Except IoError Nat))
  | done

/-- The waker a step woke, if any. -/
def Outcome.woken : Outcome → Option Nat
  | .woke waker => waker
  | _ => none

/-- One step: a non-binary message fails the `ArrayBuffer` cast and is dropped, a change of the
buffered amount has no callback, and `poll_flush` returns `Ready(Ok(()))` at once. -/
def step (self : WebSocketStream) : Event → Outcome × WebSocketStream
  | .message data => let (woken, self) := onMessage data self; (.woke woken, self)
  | .textMessage => (.woke none, self)
  | .error => let (woken, self) := onError self; (.woke woken, self)
  | .close => let (woken, self) := onClose self; (.woke woken, self)
  | .buffered amount => (.done, { self with ws := { self.ws with bufferedAmount := amount } })
  | .pollRead waker bufLen => let (poll, self) := pollRead waker bufLen self; (.read poll, self)
  | .pollWrite waker buf sendResult =>
      let (poll, self) := pollWrite waker buf sendResult self; (.wrote poll, self)
  | .pollFlush => (.done, self)
  | .pollClose => (.done, pollClose self)

/-- A sequence of steps, with what each returned. -/
def run : WebSocketStream → List Event → List Outcome × WebSocketStream
  | self, [] => ([], self)
  | self, event :: events =>
      ((step self event).1 :: (run (step self event).2 events).1, (run (step self event).2 events).2)

/-! ## The byte queue -/

/-- The binary chunks the transport delivered, concatenated in arrival order. -/
def received : List Event → Bytes
  | [] => []
  | .message data :: events => data ++ received events
  | _ :: events => received events

/-- The bytes successful `poll_read` calls returned, concatenated. -/
def returned : List Outcome → Bytes
  | [] => []
  | .read (.ready (.ok bytes)) :: outcomes => bytes ++ returned outcomes
  | _ :: outcomes => returned outcomes

theorem received_cons (event : Event) (events : List Event) :
    received (event :: events) = received [event] ++ received events := by
  cases event <;> simp [received]

theorem returned_cons (outcome : Outcome) (outcomes : List Outcome) :
    returned (outcome :: outcomes) = returned [outcome] ++ returned outcomes := by
  rcases outcome with _ | ((_ | _) | _) | _ | _ <;> simp [returned]

/-- `poll_read` hands out a prefix of the queue and keeps the rest, in order. -/
theorem pollRead_queue (waker bufLen : Nat) (self : WebSocketStream) :
    returned [.read (pollRead waker bufLen self).1] ++ (pollRead waker bufLen self).2.readBuffer =
      self.readBuffer := by
  unfold pollRead
  split
  · simp [returned]
  · split
    · simp_all [returned]
    · split
      · simp [returned]
      · simp [returned, List.take_append_drop]

/-- One step never loses, duplicates or reorders a queued byte: what it hands out followed by
the queue it leaves is the queue it found followed by what it received. -/
theorem step_queue (self : WebSocketStream) (event : Event) :
    returned [(step self event).1] ++ (step self event).2.readBuffer =
      self.readBuffer ++ received [event] := by
  cases event with
  | pollRead waker bufLen => simpa [step, received] using pollRead_queue waker bufLen self
  | pollWrite waker buf sendResult =>
      simp only [step, pollWrite, checkError]
      split <;> (try split) <;> (try split) <;> (try split) <;> simp [returned, received]
  | _ => simp [step, onMessage, onError, onClose, pollClose, returned, received] <;> split <;> rfl

/-- Over any run, what the reads handed out followed by the queue is the queue at the start
followed by everything received. -/
theorem run_queue (self : WebSocketStream) (events : List Event) :
    returned (run self events).1 ++ (run self events).2.readBuffer =
      self.readBuffer ++ received events := by
  induction events generalizing self with
  | nil => simp [run, returned, received]
  | cons event events ih =>
      simp only [run]
      rw [returned_cons, List.append_assoc, ih, ← List.append_assoc, step_queue,
        received_cons event events, List.append_assoc]

/-- `poll_read` with a non-empty buffer reports end of stream only on a closed, empty queue. -/
theorem pollRead_eof {waker bufLen : Nat} {self : WebSocketStream} (nonEmpty : 0 < bufLen)
    (eof : (pollRead waker bufLen self).1 = .ready (.ok [])) :
    self.closed = true ∧ self.readBuffer = [] := by
  unfold pollRead at eof
  split at eof
  · cases eof
  · split at eof
    · rename_i closedEmpty
      simpa using closedEmpty
    · split at eof
      · cases eof
      · rename_i notEmpty
        simp only [Poll.ready.injEq, Except.ok.injEq, List.take_eq_nil_iff] at eof
        simp_all

/-- Over any run from `connect`, the bytes reads returned followed by the queue are the binary
chunks received, in order, and a read returns `Ok(0)` only at the end of a closed stream. -/
theorem byte_queue_exact (events : List Event) :
    returned (run connected events).1 ++ (run connected events).2.readBuffer = received events ∧
      ∀ waker bufLen, 0 < bufLen →
        (pollRead waker bufLen (run connected events).2).1 = .ready (.ok []) →
          (run connected events).2.closed = true ∧
            returned (run connected events).1 = received events := by
  have queue := run_queue connected events
  refine ⟨queue, fun waker bufLen nonEmpty eof => ?_⟩
  obtain ⟨closed, empty⟩ := pollRead_eof nonEmpty eof
  rw [empty, List.append_nil] at queue
  exact ⟨closed, queue⟩

/-! ## The error latch -/

/-- Once `onerror` has stored its text, a step keeps it and hands out no byte. -/
theorem step_of_error {self : WebSocketStream} (failed : self.error = some "WebSocket error")
    (event : Event) :
    (step self event).2.error = some "WebSocket error" ∧ returned [(step self event).1] = [] := by
  have checked : checkError self = .error ⟨.other, "WebSocket error"⟩ := by simp [checkError, failed]
  cases event with
  | pollRead => simp [step, pollRead, checked, failed, returned]
  | pollWrite => simp [step, pollWrite, checked, failed, returned]
  | pollClose => simp only [step, pollClose]; split <;> simp [failed, returned]
  | _ => simp [step, onMessage, onError, onClose, failed, returned]

theorem run_of_error {self : WebSocketStream} (failed : self.error = some "WebSocket error")
    (events : List Event) :
    (run self events).2.error = some "WebSocket error" ∧ returned (run self events).1 = [] := by
  induction events generalizing self with
  | nil => exact ⟨failed, rfl⟩
  | cons event events ih =>
    obtain ⟨kept, silent⟩ := step_of_error failed event
    obtain ⟨keptAfter, silentAfter⟩ := ih kept
    exact ⟨keptAfter, by rw [run, returned_cons, silent, silentAfter]; rfl⟩

/-- An error is final: from the `onerror` callback on, over any run, the error is never
cleared, every `poll_read` and `poll_write` fails with it, and no read hands out a byte, so every
byte queued when the error came, or received after it, stays in the queue for good. -/
theorem error_is_final (self : WebSocketStream) (events : List Event) :
    (run (step self .error).2 events).2.error = some "WebSocket error" ∧
      returned (run (step self .error).2 events).1 = [] ∧
      (run (step self .error).2 events).2.readBuffer = self.readBuffer ++ received events ∧
      (∀ waker bufLen, (pollRead waker bufLen (run (step self .error).2 events).2).1 =
        .ready (.error ⟨.other, "WebSocket error"⟩)) ∧
      ∀ waker buf sendResult,
        (pollWrite waker buf sendResult (run (step self .error).2 events).2).1 =
          .ready (.error ⟨.other, "WebSocket error"⟩) := by
  obtain ⟨kept, silent⟩ := @run_of_error (step self .error).2 rfl events
  have queue := run_queue (step self .error).2 events
  rw [silent, List.nil_append] at queue
  exact ⟨kept, silent, queue, fun _ _ => by simp [pollRead, checkError, kept],
    fun _ _ _ => by simp [pollWrite, checkError, kept]⟩

/-! ## The closed latch -/

/-- On a closed stream a step keeps it closed, hands the socket nothing and does not close it
again, and a `poll_write` fails at once. -/
theorem step_of_closed {self : WebSocketStream} (closed : self.closed = true) (event : Event) :
    (step self event).2.closed = true ∧ (step self event).2.ws.sent = self.ws.sent ∧
      (step self event).2.ws.closeCalls = self.ws.closeCalls ∧
      ∀ poll, (step self event).1 = .wrote poll → ∃ e, poll = .ready (.error e) := by
  cases event with
  | pollRead => simp only [step, pollRead]; split <;> (try split) <;> (try split) <;> simp [closed]
  | pollWrite => simp only [step, pollWrite]; split <;> simp [closed]
  | pollClose => simp [step, pollClose, closed]
  | _ => simp [step, onMessage, onError, onClose, closed]

/-- Closing is final: once the stream is closed, by the socket's close or error event or by
`poll_close`, it stays closed over every run, every `poll_write` fails at once, no byte is handed
to the socket again, and `poll_close` never calls the socket's `close` a second time. -/
theorem closed_is_final {self : WebSocketStream} (closed : self.closed = true)
    (events : List Event) :
    (run self events).2.closed = true ∧ (run self events).2.ws.sent = self.ws.sent ∧
      (run self events).2.ws.closeCalls = self.ws.closeCalls ∧
      ∀ poll, Outcome.wrote poll ∈ (run self events).1 → ∃ e, poll = .ready (.error e) := by
  induction events generalizing self with
  | nil => exact ⟨closed, rfl, rfl, fun _ wrote => nomatch wrote⟩
  | cons event events ih =>
    obtain ⟨stillClosed, unsent, unclosed, failed⟩ := step_of_closed closed event
    obtain ⟨closedAfter, unsentAfter, unclosedAfter, failedAfter⟩ := ih stillClosed
    refine ⟨closedAfter, unsentAfter.trans unsent, unclosedAfter.trans unclosed, fun poll wrote => ?_⟩
    rcases List.mem_cons.mp wrote with first | later
    · exact failed poll first.symm
    · exact failedAfter poll later

/-- After `poll_close` a second `poll_close` does not call `close` again, and a write fails. -/
theorem closed_after_poll_close :
    (pollClose connected).closed = true ∧
      (run (pollClose connected) [.pollClose, .pollWrite 1 [0] (.ok ())]).2.closed = true ∧
      (run (pollClose connected) [.pollClose, .pollWrite 1 [0] (.ok ())]).2.ws.sent =
        (pollClose connected).ws.sent ∧
      (run (pollClose connected) [.pollClose, .pollWrite 1 [0] (.ok ())]).2.ws.closeCalls =
        (pollClose connected).ws.closeCalls ∧
      ∀ poll, Outcome.wrote poll ∈
          (run (pollClose connected) [.pollClose, .pollWrite 1 [0] (.ok ())]).1 →
        ∃ e, poll = .ready (.error e) :=
  ⟨rfl, closed_is_final rfl _⟩

/-! ## The write waker -/

/-- The buffered amount rises above 64 KiB, task 1 polls a write, and the amount drops to zero. -/
def backpressureThenDrain : List Event :=
  [.buffered (maxBufferSize + 1), .pollWrite 1 [0] (.ok ()), .buffered 0]

/-- A writer suspended on backpressure is stranded once the buffered amount drops: the last
state has the write waker registered while the socket is open, error-free and below 64 KiB. -/
theorem write_waker_stranded :
    (run connected backpressureThenDrain).1.map Outcome.woken = [none, none, none] ∧
      (run connected backpressureThenDrain).1[1]? = some (.wrote .pending) ∧
      (run connected backpressureThenDrain).2.writeWaker = some 1 ∧
      ¬ (run connected backpressureThenDrain).2.ws.bufferedAmount > maxBufferSize ∧
      (run connected backpressureThenDrain).2.closed = false ∧
      (run connected backpressureThenDrain).2.error = none :=
  ⟨rfl, rfl, rfl, by decide, rfl, rfl⟩

end WebSocketStream

end PortalTunnel
