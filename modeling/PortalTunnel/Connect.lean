import PortalTunnel.WebSocketStream

/-!
# Waiting for the socket to open

`WebSocketStream::connect` creates a browser `WebSocket`, installs its `onmessage`, `onerror`
and `onclose` handlers, and then awaits a `oneshot` receiver.  The sender sits in an
`Arc<Mutex<Option<Sender<()>>>>`; the `onopen` callback takes it out and sends.  The receiver
fails with `Canceled`, which `connect` maps to `"WebSocket connection failed"`, only once the
sender is dropped without sending: taken and dropped, or still in the mutex when the last owner
of the `Arc` goes.  One owner is `connect`'s own `tx`, which lives as long as its future; the
other is the clone the `onopen` closure captured, and `Closure::forget` leaks that closure, so
while `connect` waits the sender always has an owner.  `WebSocketAdapter::connect` waits on the
same channel, with `"connection failed"` as its error.
-/

namespace PortalTunnel

/-- The `oneshot` channel a `connect` awaits, with the `Arc` that holds its sender. -/
structure OpenSignal where
  /-- The mutex still holds the sender. -/
  held : Bool
  /-- The sender has sent `()`. -/
  sent : Bool
  /-- The live clones of the `Arc`: `connect`'s own `tx`, and the one the `onopen` closure
  captured. -/
  owners : Nat
deriving DecidableEq, Repr

namespace OpenSignal

/-- The channel as `connect` sets it up, before it waits. -/
def created : OpenSignal := ⟨true, false, 2⟩

/-- The `onopen` callback: take the sender out of the mutex and send `()`. -/
def onOpen (self : OpenSignal) : OpenSignal :=
  if self.held then { self with held := false, sent := true } else self

/-- The sender is gone without having sent: taken and dropped unsent, or still in the mutex
when the last owner of the `Arc` went. -/
def canceled (self : OpenSignal) : Bool :=
  !self.sent && (!self.held || self.owners == 0)

/-- `rx.await` polled inside a `connect` whose `map_err` turns `Canceled` into `failure`; once it
is ready, the `connect` returns and drops its own `tx`. -/
def await (failure : String) (self : OpenSignal) : Poll (Except String Unit) × OpenSignal :=
  if self.sent then (.ready (.ok ()), { self with owners := self.owners - 1 })
  else if self.canceled then (.ready (.error failure), { self with owners := self.owners - 1 })
  else (.pending, self)

/-- While `connect` waits, its channel is as created or has been signalled: both owners of the
`Arc` are alive, and the sender is in the mutex until it has sent. -/
def Waiting (self : OpenSignal) : Prop :=
  self.owners = 2 ∧ self.held = !self.sent

theorem created_waiting : created.Waiting := ⟨rfl, rfl⟩

theorem onOpen_waiting {self : OpenSignal} (waiting : self.Waiting) : self.onOpen.Waiting := by
  obtain ⟨owners, held⟩ := waiting
  unfold onOpen
  split
  · exact ⟨owners, rfl⟩
  · exact ⟨owners, held⟩

theorem onOpen_sent {self : OpenSignal} (waiting : self.Waiting) : self.onOpen.sent = true := by
  obtain ⟨-, held⟩ := waiting
  unfold onOpen
  split
  · rfl
  · cases sent : self.sent <;> simp_all

/-- A waiting `connect` is never cancelled: it returns `Ok` once the sender has sent, dropping
its own `tx`, and is pending until then. -/
theorem await_of_waiting (failure : String) {self : OpenSignal} (waiting : self.Waiting) :
    self.await failure =
      if self.sent then (.ready (.ok ()), { self with owners := 1 }) else (.pending, self) := by
  obtain ⟨owners, held⟩ := waiting
  unfold await canceled
  cases sent : self.sent <;> simp [sent, held, owners]

end OpenSignal

/-- What the browser does to a socket while a `connect` waits. -/
inductive SocketEvent
  | opened
  | message (data : Bytes)
  | textMessage
  | error
  | close
deriving DecidableEq

/-- A step while a `connect` waits: an event on the socket, or a poll of its future. -/
inductive ConnectStep
  | event (event : SocketEvent)
  | poll
deriving DecidableEq

/-- A step list that polls after an open event; `signalled` says the channel already has its
value. -/
def PollsAfterOpen (signalled : Bool) (steps : List ConnectStep) : Prop :=
  ∃ before after, steps = before ++ .poll :: after ∧
    (signalled = true ∨ ConnectStep.event .opened ∈ before)

theorem pollsAfterOpen_nil (signalled : Bool) : ¬PollsAfterOpen signalled [] := by
  rintro ⟨before, after, split, -⟩
  simp at split

/-- A step list that starts with `step` polls after an open event when `step` is that poll, or
when the rest does, counting `step` among the events before. -/
theorem pollsAfterOpen_cons {signalled : Bool} {step : ConnectStep} {steps : List ConnectStep} :
    PollsAfterOpen signalled (step :: steps) ↔
      (step = .poll ∧ signalled = true) ∨
        ∃ before after, steps = before ++ .poll :: after ∧
          (signalled = true ∨ ConnectStep.event .opened ∈ step :: before) := by
  constructor
  · rintro ⟨before, after, split, signalledOrOpened⟩
    cases before with
    | nil =>
        obtain ⟨rfl, -⟩ := List.cons.inj split
        exact .inl ⟨rfl, signalledOrOpened.resolve_right (List.not_mem_nil _)⟩
    | cons first before =>
        obtain ⟨rfl, rest⟩ := List.cons.inj split
        exact .inr ⟨before, after, rest, signalledOrOpened⟩
  · rintro (⟨rfl, signalled⟩ | ⟨before, after, rfl, signalledOrOpened⟩)
    · exact ⟨[], steps, rfl, .inl signalled⟩
    · exact ⟨step :: before, after, rfl, signalledOrOpened⟩

/-- An event before the first poll counts as the open event when it is one. -/
theorem pollsAfterOpen_event {signalled : Bool} {event : SocketEvent} {steps : List ConnectStep} :
    PollsAfterOpen signalled (.event event :: steps) ↔
      PollsAfterOpen (signalled || event == .opened) steps := by
  rw [pollsAfterOpen_cons]
  simp [PollsAfterOpen, or_assoc, @eq_comm _ SocketEvent.opened]

/-- A poll polls after the open event when the channel already has its value, and otherwise the
rest must. -/
theorem pollsAfterOpen_poll {signalled : Bool} {steps : List ConnectStep} :
    PollsAfterOpen signalled (.poll :: steps) ↔ signalled = true ∨ PollsAfterOpen signalled steps := by
  rw [pollsAfterOpen_cons]
  simp [PollsAfterOpen]

namespace WebSocketStream

/-- `WebSocketStream::connect` once `WebSocket::new` has returned: the stream state its handlers
share, and the channel it waits on. -/
structure Connecting where
  stream : WebSocketStream
  signal : OpenSignal

/-- `WebSocketStream::connect` up to its wait: `WebSocket::new` fails with the text of its
`JsValue`, or the handlers are installed on a fresh stream. -/
def connect (created : Except String Unit) : Except String Connecting :=
  match created with
  | .error e => .error e
  | .ok () => .ok ⟨connected, OpenSignal.created⟩

namespace Connecting

/-- An event on the socket: `onopen` signals the channel, and the other handlers act on the
stream as `step` says. -/
def event (self : Connecting) : SocketEvent → Connecting
  | .opened => { self with signal := self.signal.onOpen }
  | .message data => { self with stream := (self.stream.step (.message data)).2 }
  | .textMessage => { self with stream := (self.stream.step .textMessage).2 }
  | .error => { self with stream := (self.stream.step .error).2 }
  | .close => { self with stream := (self.stream.step .close).2 }

/-- One poll of `connect`'s future: the stream, once the channel has its value. -/
def poll (self : Connecting) : Poll (Except String WebSocketStream) × Connecting :=
  match self.signal.await "WebSocket connection failed" with
  | (.ready (.ok ()), signal) => (.ready (.ok self.stream), { self with signal })
  | (.ready (.error e), signal) => (.ready (.error e), { self with signal })
  | (.pending, signal) => (.pending, { self with signal })

/-- What `connect` returns over a run of steps, if it returns; a future that is ready is not
polled again. -/
def run (self : Connecting) : List ConnectStep → Option (Except String WebSocketStream)
  | [] => none
  | .event event :: steps => (self.event event).run steps
  | .poll :: steps =>
      match self.poll with
      | (.ready result, _) => some result
      | (.pending, self) => self.run steps

theorem event_waiting {self : Connecting} (waiting : self.signal.Waiting) (event : SocketEvent) :
    (self.event event).signal.Waiting := by
  cases event
  case opened => exact OpenSignal.onOpen_waiting waiting
  all_goals exact waiting

/-- An event signals the channel exactly when it is the open event or the channel already was. -/
theorem event_sent {self : Connecting} (waiting : self.signal.Waiting) (event : SocketEvent) :
    (self.event event).signal.sent = (self.signal.sent || event == .opened) := by
  cases event
  case opened => simp [Connecting.event, OpenSignal.onOpen_sent waiting]
  all_goals simp [Connecting.event]

/-- A poll of a waiting `connect` returns its stream once the channel has its value, and
otherwise is pending and changes nothing. -/
theorem poll_of_waiting {self : Connecting} (waiting : self.signal.Waiting) :
    self.poll =
      if self.signal.sent then
        (.ready (.ok self.stream), { self with signal := { self.signal with owners := 1 } })
      else (.pending, self) := by
  unfold poll
  rw [OpenSignal.await_of_waiting _ waiting]
  by_cases sent : self.signal.sent = true
  · rw [if_pos sent, if_pos sent]
  · rw [if_neg sent, if_neg sent]

/-- Over every run from a waiting `connect`: it returns only `Ok`, and it returns exactly when a
poll comes after the channel has its value. -/
theorem run_of_waiting (steps : List ConnectStep) : ∀ {self : Connecting}, self.signal.Waiting →
    (∀ result, self.run steps = some result → ∃ stream, result = .ok stream) ∧
      (self.run steps = none ↔ ¬PollsAfterOpen self.signal.sent steps) := by
  induction steps with
  | nil => exact fun _ => ⟨fun _ returned => (nomatch returned), iff_of_true rfl (pollsAfterOpen_nil _)⟩
  | cons step steps ih =>
      intro self waiting
      cases step with
      | event event =>
          rw [pollsAfterOpen_event, ← event_sent waiting]
          exact ih (event_waiting waiting event)
      | poll =>
          rw [pollsAfterOpen_poll]
          by_cases sent : self.signal.sent = true
          · simp only [run, poll_of_waiting waiting, if_pos sent]
            exact ⟨fun _ returned => ⟨_, (Option.some.inj returned).symm⟩,
              iff_of_false (by simp) (by simp [sent])⟩
          · simp only [run, poll_of_waiting waiting, if_neg sent]
            simpa [sent] using ih waiting

end Connecting

/-- Once `WebSocket::new` succeeds, `connect` returns only `Ok`, and exactly when a poll follows
the socket's open event; a socket that never opens leaves it pending for ever. -/
theorem connect_waits_for_open (steps : List ConnectStep) :
    connect (.ok ()) = .ok ⟨connected, OpenSignal.created⟩ ∧
      (∀ result, Connecting.run ⟨connected, OpenSignal.created⟩ steps = some result →
        ∃ stream, result = .ok stream) ∧
      (Connecting.run ⟨connected, OpenSignal.created⟩ steps = none ↔ ¬PollsAfterOpen false steps) :=
  ⟨rfl, Connecting.run_of_waiting steps OpenSignal.created_waiting⟩

end WebSocketStream

end PortalTunnel
