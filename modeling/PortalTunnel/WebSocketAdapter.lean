import PortalTunnel.Connect

/-!
# The browser WebSocket adapter

`WebSocketAdapter` wraps one browser `WebSocket` for the page: `connect` creates a socket and
waits for it to open, `on_message` and `on_error` record a callback and, when the adapter holds a
socket, install a handler on it that calls the callback, and `send_text`, `send_binary` and
`close` act on the socket it holds.  The handlers belong to the browser socket, not to the
adapter: `connect` installs none of the recorded callbacks on the socket it opens, and a socket
the adapter no longer holds keeps the handlers it had.  The model keeps every socket the adapter
has opened, each with the callbacks its handlers call, and the adapter's `ws` as an index into
them; a callback is named by a number.
-/

namespace PortalTunnel

/-- The data of a message event: with the binary type set to `ArrayBuffer`, a binary message
arrives as an `ArrayBuffer` and a text message as a string. -/
inductive SocketData
  | arrayBuffer (data : Bytes)
  | text (data : String)
deriving DecidableEq

/-- The object a handler passes to its callback. -/
inductive CallbackObject
  /-- `{ type: "binary", data: Uint8Array }`. -/
  | binary (data : Bytes)
  /-- `{ type: "text", data }`. -/
  | text (data : String)
  /-- `{ error: message }`. -/
  | error (message : String)
deriving DecidableEq

/-- A browser socket the adapter opened: the callbacks its `onmessage` and `onerror` handlers
call, what was sent on it, and whether `close` was called. -/
structure AdapterSocket where
  onmessage : Option Nat
  onerror : Option Nat
  sent : List SocketData
  closeCalled : Bool
deriving DecidableEq

/-- A socket as `connect` leaves it: no handler of the adapter's. -/
def AdapterSocket.opened : AdapterSocket := ⟨none, none, [], false⟩

/-- `WebSocketAdapter`, its `ws` the index of the socket it holds. -/
structure WebSocketAdapter where
  url : String
  ws : Option Nat
  messageCallback : Option Nat
  errorCallback : Option Nat
deriving DecidableEq

/-- An adapter and every socket it has opened, in the order it opened them. -/
structure AdapterWorld where
  adapter : WebSocketAdapter
  sockets : List AdapterSocket

namespace WebSocketAdapter

/-- `WebSocketAdapter::new`. -/
def new (url : String) : WebSocketAdapter := ⟨url, none, none, none⟩

/-- `WebSocketAdapter::connect` once `WebSocket::new` has returned: the index the socket will
have, and the channel it waits on. -/
structure Connecting where
  socket : Nat
  signal : OpenSignal

/-- One poll of `connect`'s future: the adapter holds the socket once the channel has its
value. -/
def Connecting.poll (self : Connecting) (adapter : WebSocketAdapter) :
    Poll (Except String Unit) × WebSocketAdapter :=
  match (self.signal.await "connection failed").1 with
  | .ready (.ok ()) => (.ready (.ok ()), { adapter with ws := some self.socket })
  | .ready (.error e) => (.ready (.error e), adapter)
  | .pending => (.pending, adapter)

/-- A waiting `connect` of the adapter never returns its `"connection failed"` error: it takes
the socket once the socket has opened, and is pending until then. -/
theorem Connecting.poll_of_waiting {self : Connecting} (waiting : self.signal.Waiting)
    (adapter : WebSocketAdapter) :
    self.poll adapter =
      if self.signal.sent then (.ready (.ok ()), { adapter with ws := some self.socket })
      else (.pending, adapter) := by
  unfold poll
  rw [OpenSignal.await_of_waiting _ waiting]
  by_cases sent : self.signal.sent = true
  · rw [if_pos sent, if_pos sent]
  · rw [if_neg sent, if_neg sent]

end WebSocketAdapter

/-- A call of the page that returned, or an event on one of the sockets.  A `connect` call
returns once its socket has opened; `created` is what `WebSocket::new` returned, and each send
or close carries what the socket's method returned. -/
inductive AdapterStep
  | connect (created : Except String Unit)
  | onMessage (callback : Nat)
  | onError (callback : Nat)
  | sendText (message : String) (result : Except String Unit)
  | sendBinary (data : Bytes) (result : Except String Unit)
  | close (result : Except String Unit)
  | message (socket : Nat) (data : SocketData)
  | error (socket : Nat) (message : String)

/-- What a step gives back: what a call returned, or the callback a handler called. -/
inductive AdapterOutcome
  | returned (result : Except String Unit)
  | called (callback : Nat) (object : CallbackObject)
  | ignored

namespace AdapterWorld

/-- The callback a socket's `onmessage` handler calls, if it has one. -/
def messageHandler (world : AdapterWorld) (socket : Nat) : Option Nat :=
  world.sockets[socket]?.bind AdapterSocket.onmessage

/-- The callback a socket's `onerror` handler calls, if it has one. -/
def errorHandler (world : AdapterWorld) (socket : Nat) : Option Nat :=
  world.sockets[socket]?.bind AdapterSocket.onerror

/-- `connect` that returned: the opened socket is the adapter's. -/
def connect (world : AdapterWorld) : AdapterWorld :=
  ⟨(WebSocketAdapter.Connecting.poll ⟨world.sockets.length, OpenSignal.created.onOpen⟩
      world.adapter).2,
    world.sockets ++ [AdapterSocket.opened]⟩

/-- `on_message` and `on_error`: record the callback in the adapter, and install a handler that
calls it on the socket the adapter holds. -/
def register (record : WebSocketAdapter → Nat → WebSocketAdapter)
    (install : AdapterSocket → Nat → AdapterSocket) (world : AdapterWorld) (callback : Nat) :
    AdapterWorld :=
  let adapter := record world.adapter callback
  match world.adapter.ws with
  | some socket => ⟨adapter, world.sockets.modify (fun ws => install ws callback) socket⟩
  | none => ⟨adapter, world.sockets⟩

/-- `on_message`. -/
def onMessage : AdapterWorld → Nat → AdapterWorld :=
  register (fun adapter callback => { adapter with messageCallback := some callback })
    (fun ws callback => { ws with onmessage := some callback })

/-- `on_error`. -/
def onError : AdapterWorld → Nat → AdapterWorld :=
  register (fun adapter callback => { adapter with errorCallback := some callback })
    (fun ws callback => { ws with onerror := some callback })

/-- `send_text` and `send_binary`: send on the socket the adapter holds. -/
def send (world : AdapterWorld) (data : SocketData) (result : Except String Unit) :
    Except String Unit × AdapterWorld :=
  match world.adapter.ws with
  | some socket =>
      match result with
      | .ok () => (.ok (), { world with
          sockets := world.sockets.modify (fun ws => { ws with sent := ws.sent ++ [data] }) socket })
      | .error e => (.error e, world)
  | none => (.error "not connected", world)

/-- `close`: close the socket the adapter holds, which it keeps holding. -/
def close (world : AdapterWorld) (result : Except String Unit) : Except String Unit × AdapterWorld :=
  match world.adapter.ws with
  | some socket =>
      (result, { world with
        sockets := world.sockets.modify (fun ws => { ws with closeCalled := true }) socket })
  | none => (.ok (), world)

/-- The object the `onmessage` handler makes of a message. -/
def messageObject : SocketData → CallbackObject
  | .arrayBuffer data => .binary data
  | .text data => .text data

/-- An event on a socket: its handler calls its callback with the event's object; with no
handler the event goes nowhere. -/
def dispatch (handler : Option Nat) (object : CallbackObject) : AdapterOutcome :=
  match handler with
  | some callback => .called callback object
  | none => .ignored

/-- One step. -/
def step (world : AdapterWorld) : AdapterStep → AdapterOutcome × AdapterWorld
  | .connect (.error e) => (.returned (.error e), world)
  | .connect (.ok ()) => (.returned (.ok ()), world.connect)
  | .onMessage callback => (.returned (.ok ()), world.onMessage callback)
  | .onError callback => (.returned (.ok ()), world.onError callback)
  | .sendText message result =>
      let (result, world) := world.send (.text message) result
      (.returned result, world)
  | .sendBinary data result =>
      let (result, world) := world.send (.arrayBuffer data) result
      (.returned result, world)
  | .close result =>
      let (result, world) := world.close result
      (.returned result, world)
  | .message socket data => (dispatch (world.messageHandler socket) (messageObject data), world)
  | .error socket message => (dispatch (world.errorHandler socket) (.error message), world)

/-- The world after a run of steps. -/
def run (world : AdapterWorld) : List AdapterStep → AdapterWorld
  | [] => world
  | step :: steps => (world.step step).2.run steps

/-- The adapter holds the socket it opened last, and none before it has opened one. -/
def HoldsLast (world : AdapterWorld) : Prop :=
  ∀ socket, world.adapter.ws = some socket ↔ world.sockets.length = socket + 1

theorem holdsLast_new (url : String) : HoldsLast ⟨WebSocketAdapter.new url, []⟩ := by
  intro socket
  simp [WebSocketAdapter.new]

end AdapterWorld

namespace AdapterStep

/-- Whether the step is a `connect` that opened a socket. -/
def opensSocket : AdapterStep → Bool
  | .connect (.ok ()) => true
  | _ => false

/-- The callback an `on_message` call passes. -/
def messageCallback : AdapterStep → Option Nat
  | .onMessage callback => some callback
  | _ => none

/-- The callback an `on_error` call passes. -/
def errorCallback : AdapterStep → Option Nat
  | .onError callback => some callback
  | _ => none

end AdapterStep

/-- Which callback a socket's handler calls, read off the page's calls alone: that of the last
registration made while the adapter held the socket, from the `socket + 1`-th `connect` that
opened one to the next.  `opened` counts the sockets opened so far and `found` is the callback
found so far. -/
def registeredFor (registration : AdapterStep → Option Nat) (socket : Nat) :
    Nat → Option Nat → List AdapterStep → Option Nat
  | _, found, [] => found
  | opened, found, step :: steps =>
      registeredFor registration socket (if step.opensSocket then opened + 1 else opened)
        (if opened = socket + 1 then (registration step).or found else found) steps

namespace AdapterWorld

/-- What one step does to the sockets: a `connect` that opens one adds a socket with no handler
of the adapter's, and every other step changes at most the socket the adapter holds, setting a
handler there only as an `on_message` or an `on_error` call. -/
theorem sockets_step (world : AdapterWorld) (action : AdapterStep) :
    (action = .connect (.ok ()) ∧ (world.step action).2.sockets = world.sockets ++ [.opened]) ∨
      (action.opensSocket = false ∧
        (world.adapter.ws = none → (world.step action).2.sockets = world.sockets) ∧
        ∀ held, world.adapter.ws = some held → ∃ touch : AdapterSocket → AdapterSocket,
          (world.step action).2.sockets = world.sockets.modify touch held ∧
          ∀ ws, (touch ws).onmessage = action.messageCallback.or ws.onmessage ∧
            (touch ws).onerror = action.errorCallback.or ws.onerror) := by
  -- One case per held socket or none and per step: the opening `connect`, a step that leaves
  -- the sockets alone, one that touches the held socket, or a failed send that touches nothing.
  obtain ⟨⟨_, _ | _, _, _⟩, _⟩ := world <;>
  rcases action with ⟨_ | ⟨⟨⟩⟩⟩ | _ | _ | ⟨_, _ | ⟨⟨⟩⟩⟩ | ⟨_, _ | ⟨⟨⟩⟩⟩ | _ | _ | _ <;>
  first
    | exact .inl ⟨rfl, rfl⟩
    | refine .inr ⟨rfl, fun held => ?_, fun _ held => ?_⟩ <;> cases held
      all_goals first
        | rfl
        | exact ⟨_, rfl, fun _ => ⟨rfl, rfl⟩⟩
        | exact ⟨id, (List.modify_id _ _).symm, fun _ => ⟨rfl, rfl⟩⟩

/-- Only a `connect` that opens a socket changes the socket the adapter holds: it takes the new
one. -/
theorem ws_step (world : AdapterWorld) (action : AdapterStep) :
    (world.step action).2.adapter.ws =
      if action.opensSocket then some world.sockets.length else world.adapter.ws := by
  obtain ⟨⟨_, _ | _, _, _⟩, _⟩ := world <;>
  rcases action with ⟨_ | ⟨⟨⟩⟩⟩ | _ | _ | ⟨_, _ | ⟨⟨⟩⟩⟩ | ⟨_, _ | ⟨⟨⟩⟩⟩ | _ | _ | _ <;> rfl

theorem length_step (world : AdapterWorld) (action : AdapterStep) :
    (world.step action).2.sockets.length =
      if action.opensSocket then world.sockets.length + 1 else world.sockets.length := by
  rcases sockets_step world action with ⟨rfl, grows⟩ | ⟨keeps, unheld, held⟩
  · simp [grows, AdapterStep.opensSocket]
  · rw [keeps, if_neg Bool.false_ne_true]
    cases ws : world.adapter.ws with
    | none => rw [unheld ws]
    | some socket =>
      obtain ⟨touch, touched, -⟩ := held socket ws
      rw [touched, List.length_modify]

theorem holdsLast_step {world : AdapterWorld} (holds : world.HoldsLast) (action : AdapterStep) :
    (world.step action).2.HoldsLast := by
  intro socket
  rw [ws_step, length_step]
  split
  · simp [eq_comm]
  · exact holds socket

/-- The adapter holds no socket after a run exactly when it held none before and no step of the
run opened one: nothing lets a socket go, `close` included. -/
theorem ws_run_eq_none_iff (world : AdapterWorld) (steps : List AdapterStep) :
    (world.run steps).adapter.ws = none ↔
      world.adapter.ws = none ∧ steps.any AdapterStep.opensSocket = false := by
  induction steps generalizing world with
  | nil => simp [run]
  | cons action steps ih =>
    rw [run, ih, ws_step, List.any_cons]
    cases action.opensSocket <;> simp

end AdapterWorld

/-- A handler slot of the sockets, `onmessage` or `onerror`: how to read it off a socket, which
call fills it, and that a step's touch of the held socket fills it exactly as that call. -/
structure HandlerSlot where
  read : AdapterSocket → Option Nat
  registration : AdapterStep → Option Nat
  read_opened : read .opened = none
  registration_connect : registration (.connect (.ok ())) = none
  read_touch : ∀ (action : AdapterStep) (touch : AdapterSocket → AdapterSocket),
    (∀ ws, (touch ws).onmessage = action.messageCallback.or ws.onmessage ∧
      (touch ws).onerror = action.errorCallback.or ws.onerror) →
    ∀ ws, read (touch ws) = (registration action).or (read ws)

namespace HandlerSlot

/-- The `onmessage` slot, filled by `on_message`. -/
def onmessage : HandlerSlot :=
  ⟨AdapterSocket.onmessage, AdapterStep.messageCallback, rfl, rfl, fun _ _ fields ws => (fields ws).1⟩

/-- The `onerror` slot, filled by `on_error`. -/
def onerror : HandlerSlot :=
  ⟨AdapterSocket.onerror, AdapterStep.errorCallback, rfl, rfl, fun _ _ fields ws => (fields ws).2⟩

variable (slot : HandlerSlot)

theorem bind_append_opened (sockets : List AdapterSocket) (socket : Nat) :
    (sockets ++ [.opened])[socket]?.bind slot.read = sockets[socket]?.bind slot.read := by
  rcases lt_trichotomy socket sockets.length with before | rfl | after
  · rw [List.getElem?_append_left before]
  · simp [slot.read_opened]
  · simp [List.getElem?_eq_none, Nat.le_of_lt after, Nat.succ_le_of_lt after]

/-- One step sets a socket's slot only while the adapter holds that socket, and then as the
step's registration says. -/
theorem read_step {world : AdapterWorld} (holds : world.HoldsLast) (action : AdapterStep)
    (socket : Nat) :
    (world.step action).2.sockets[socket]?.bind slot.read =
      if world.sockets.length = socket + 1 then
        (slot.registration action).or (world.sockets[socket]?.bind slot.read)
      else world.sockets[socket]?.bind slot.read := by
  rcases AdapterWorld.sockets_step world action with ⟨rfl, grows⟩ | ⟨-, unheld, held⟩
  · rw [grows, bind_append_opened, slot.registration_connect, Option.none_or, ite_self]
  · cases ws : world.adapter.ws with
    | none =>
      have unopened : world.sockets.length ≠ socket + 1 := fun opened => by
        simpa [ws] using (holds socket).mpr opened
      rw [unheld ws, if_neg unopened]
    | some current =>
      obtain ⟨touch, touched, fields⟩ := held current ws
      have opened : world.sockets.length = current + 1 := (holds current).mp ws
      rw [touched, List.getElem?_modify]
      by_cases same : current = socket
      · subst same
        rw [if_pos opened, List.getElem?_eq_getElem (by omega)]
        simp [slot.read_touch action touch fields]
      · rw [if_neg (by omega)]
        cases world.sockets[socket]? <;> simp [same]

/-- Over a run, a socket's slot holds what the page's calls alone say it holds. -/
theorem read_run {world : AdapterWorld} (holds : world.HoldsLast) (steps : List AdapterStep)
    (socket : Nat) :
    (world.run steps).sockets[socket]?.bind slot.read =
      registeredFor slot.registration socket world.sockets.length
        (world.sockets[socket]?.bind slot.read) steps := by
  induction steps generalizing world with
  | nil => rfl
  | cons action steps ih =>
    rw [AdapterWorld.run, ih (AdapterWorld.holdsLast_step holds action), registeredFor,
      AdapterWorld.length_step, read_step slot holds]

end HandlerSlot

/-- Every message and error on a socket reaches the callback of the page's last `on_message`,
or `on_error`, call while the adapter held that socket, and nowhere if there was none. -/
theorem socket_events_reach_registered (url : String) (steps : List AdapterStep) (socket : Nat)
    (data : SocketData) (message : String) :
    ((AdapterWorld.run ⟨WebSocketAdapter.new url, []⟩ steps).step (.message socket data)).1 =
        AdapterWorld.dispatch (registeredFor AdapterStep.messageCallback socket 0 none steps)
          (AdapterWorld.messageObject data) ∧
      ((AdapterWorld.run ⟨WebSocketAdapter.new url, []⟩ steps).step (.error socket message)).1 =
        AdapterWorld.dispatch (registeredFor AdapterStep.errorCallback socket 0 none steps)
          (.error message) :=
  ⟨congrArg (AdapterWorld.dispatch · _)
      (HandlerSlot.onmessage.read_run (AdapterWorld.holdsLast_new url) steps socket),
    congrArg (AdapterWorld.dispatch · _)
      (HandlerSlot.onerror.read_run (AdapterWorld.holdsLast_new url) steps socket)⟩

/-- After any run from a new adapter, `send_text` and `send_binary` return what the socket's
send returned once a `connect` has opened a socket, also after `close`, and `"not connected"`
before. -/
theorem adapter_send_after_run (url : String) (steps : List AdapterStep) (data : SocketData)
    (result : Except String Unit) :
    ((AdapterWorld.run ⟨WebSocketAdapter.new url, []⟩ steps).send data result).1 =
      if steps.any AdapterStep.opensSocket then result else .error "not connected" := by
  have held := AdapterWorld.ws_run_eq_none_iff ⟨WebSocketAdapter.new url, []⟩ steps
  unfold AdapterWorld.send
  split
  · next socket holds =>
    have opened : steps.any AdapterStep.opensSocket = true :=
      Bool.eq_true_of_not_eq_false fun unopened => by
        rw [held.mpr ⟨rfl, unopened⟩] at holds
        cases holds
    rw [if_pos opened]
    cases result <;> rfl
  · next holds =>
    have unopened : steps.any AdapterStep.opensSocket = false := (held.mp holds).2
    rw [if_neg (by simp [unopened])]

/-- A callback passed before `connect` is lost: the first socket's messages go nowhere. -/
example : ((AdapterWorld.run ⟨WebSocketAdapter.new "ws://relay", []⟩
    [.onMessage 7, .connect (.ok ())]).step (.message 0 (.text "hello"))).1 = .ignored := rfl

end PortalTunnel
