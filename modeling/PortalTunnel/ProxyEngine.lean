import PortalTunnel.Frame
import PortalTunnel.ProtocolCodec

/-!
# The proxy engine and its tunnel manager

`ProxyEngine` turns the browser's calls into tunnels: `handleHttpRequest`, `openWebSocket` and
`connectTcp` create a tunnel, which `TunnelManager::create_tunnel` inserts into its map, send
one request on it and read one response; `sendWebSocketMessage`, `receiveWebSocketMessage` and
`closeWebSocket` look a tunnel up by id and use it.  The outcome of each tunnel operation (the
connection and handshake of `create_tunnel` with the fresh id it draws, the write of
`send_request`, the read of `receive_response`) is an input of the call, so one call is a
function of its arguments, those outcomes and the engine's state.  Each call is an
`EStateM` computation: the state a failing call leaves is the state the error finds.

Besides the manager's map the state carries three records the source does not keep: the ids
handed to the caller, the ids of tunnels whose send or receive failed, and the requests sent.
-/

namespace PortalTunnel

/-- `ProtocolType`. -/
inductive ProtocolType
  | http
  | webSocket
  | tcp
deriving DecidableEq, Repr

/-! ## The codecs' checks -/

/-- `char::to_uppercase` on the characters whose upper case is ASCII: the ASCII letters, `ß`, `ı`,
`ſ` and the ligatures `ﬀ` to `ﬆ`.  Any other character keeps itself here; its upper case, like
itself, holds a character outside ASCII, so neither can spell a method name. -/
def charToUppercase : Char → List Char
  | 'ß' => ['S', 'S']
  | 'ı' => ['I']
  | 'ſ' => ['S']
  | 'ﬀ' => ['F', 'F']
  | 'ﬁ' => ['F', 'I']
  | 'ﬂ' => ['F', 'L']
  | 'ﬃ' => ['F', 'F', 'I']
  | 'ﬄ' => ['F', 'F', 'L']
  | 'ﬅ' => ['S', 'T']
  | 'ﬆ' => ['S', 'T']
  | c => [c.toUpper]

/-- `str::to_uppercase`, as far as `parse_method` reads it. -/
def toUppercase (text : String) : String := String.mk (text.toList.flatMap charToUppercase)

/-- `HttpCodec::parse_method`. -/
def HttpCodec.parseMethod (method : String) : Except String String :=
  let upper := toUppercase method
  if upper ∈ ["GET", "POST", "PUT", "DELETE", "PATCH", "HEAD", "OPTIONS"] then .ok upper
  else .error s!"unsupported HTTP method: {method}"

/-- `str::starts_with`. -/
def startsWith (text pref : String) : Bool := pref.toList.isPrefixOf text.toList

/-- `HttpCodec::validate_url`. -/
def HttpCodec.validateUrl (url : String) : Except String Unit :=
  if startsWith url "http://" ∨ startsWith url "https://" then .ok ()
  else .error s!"invalid HTTP URL: {url}"

/-- `WebSocketCodec::validate_url`. -/
def WebSocketCodec.validateUrl (url : String) : Except String Unit :=
  if startsWith url "ws://" ∨ startsWith url "wss://" then .ok ()
  else .error s!"invalid WebSocket URL: {url}"

/-- `TcpCodec::validate_address`. -/
def TcpCodec.validateAddress (host : String) (port : UInt16) : Except String Unit :=
  if host.isEmpty then .error "empty host"
  else if port = 0 then .error "invalid port"
  else .ok ()

/-! ## The tunnel manager's map -/

/-- The keys of `TunnelManager::tunnels`, each once. -/
structure TunnelMap where
  ids : List String
  nodup : ids.Nodup

namespace TunnelMap

/-- `HashMap::new`. -/
def empty : TunnelMap := ⟨[], List.nodup_nil⟩

/-- `HashMap::insert`: a present key keeps its place. -/
def insert (map : TunnelMap) (id : String) : TunnelMap :=
  if present : id ∈ map.ids then map
  else ⟨map.ids ++ [id], List.nodup_append.mpr ⟨map.nodup, List.nodup_singleton id, by simpa using present⟩⟩

/-- `HashMap::remove`. -/
def remove (map : TunnelMap) (id : String) : TunnelMap :=
  ⟨map.ids.erase id, map.nodup.erase id⟩

/-- `TunnelManager::close_all`. -/
def closeAll (_ : TunnelMap) : TunnelMap := empty

@[simp]
theorem mem_insert {map : TunnelMap} {id other : String} :
    other ∈ (map.insert id).ids ↔ other = id ∨ other ∈ map.ids := by
  unfold insert
  split
  · constructor
    · exact Or.inr
    · rintro (rfl | present) <;> assumption
  · simp [or_comm]

@[simp]
theorem mem_remove {map : TunnelMap} {id other : String} :
    other ∈ (map.remove id).ids ↔ other ≠ id ∧ other ∈ map.ids :=
  map.nodup.mem_erase_iff

end TunnelMap

/-! ## The engine -/

/-- The proxy engine's state: the tunnel manager's map, and the three records kept for the
specification. -/
structure Engine where
  tunnels : TunnelMap
  handedOut : List String
  failed : List String
  sent : List (String × ProxyRequest)

/-- A new engine: no tunnels, nothing handed out, failed or sent. -/
def Engine.new : Engine := ⟨TunnelMap.empty, [], [], []⟩

/-- A call of the engine. -/
abbrev EngineM := EStateM String Engine

/-- What the tunnel operations of one call return: `create_tunnel` (the id it drew, or its
error), `send_request` and `receive_response`. -/
structure TunnelIo where
  created : Except String String
  sendResult : Except String Unit
  receiveResult : Except String ProxyResponse

/-- The JavaScript value a call resolves to. -/
inductive JsValue
  | http (status : UInt16) (statusText : String) (headers : StringMap) (body : Bytes)
  | webSocketOpened (tunnelId : String) (protocol : String)
  | message (data : WsData)
  | closed (code : UInt16) (reason : String)
  | tcpConnected (tunnelId : String)
  | done

namespace Engine

/-- The `?` of a check: its error is the call's error. -/
def check (result : Except String α) : EngineM α :=
  match result with
  | .ok value => pure value
  | .error e => throw e

/-- The `map_err` of a call: its error text is wrapped by `context`. -/
def withContext (context : String → String) (call : EngineM α) : EngineM α :=
  EStateM.adaptExcept context call

/-- The state right after `create_tunnel` stored a tunnel under `id`: the records about `id`
start afresh, since a drawn id that is already in use replaces that tunnel. -/
def created (self : Engine) (id : String) : Engine :=
  { self with
    tunnels := self.tunnels.insert id
    handedOut := self.handedOut.filter (· ≠ id)
    failed := self.failed.filter (· ≠ id) }

/-- `TunnelManager::create_tunnel`. -/
def createTunnel (created : Except String String) : EngineM String :=
  match created with
  | .ok id => do
      modify fun self => self.created id
      pure id
  | .error e => throw e

/-- `TunnelManager::get_tunnel`, with the call's `ok_or_else`. -/
def getTunnel (tunnelId : String) : EngineM Unit := do
  if tunnelId ∈ (← get).tunnels.ids then pure () else throw "tunnel not found"

/-- `TunnelManager::remove_tunnel`. -/
def removeTunnel (tunnelId : String) : EngineM Unit :=
  modify fun self => { self with tunnels := self.tunnels.remove tunnelId }

/-- A successful `openWebSocket` or `connectTcp` hands its tunnel's id to the caller. -/
def handOut (tunnelId : String) : EngineM Unit :=
  modify fun self => { self with handedOut := self.handedOut ++ [tunnelId] }

/-- A failed send or receive marks its tunnel. -/
def markFailed (tunnelId : String) : EngineM Unit :=
  modify fun self => { self with failed := self.failed ++ [tunnelId] }

/-- `Tunnel::send_request`. -/
def sendRequest (tunnelId : String) (request : ProxyRequest) (sendResult : Except String Unit) :
    EngineM Unit := do
  modify fun self => { self with sent := self.sent ++ [(tunnelId, request)] }
  match sendResult with
  | .ok () => pure ()
  | .error e => do markFailed tunnelId; throw e

/-- `Tunnel::receive_response`. -/
def receiveResponse (tunnelId : String) (receiveResult : Except String ProxyResponse) :
    EngineM ProxyResponse :=
  match receiveResult with
  | .ok response => pure response
  | .error e => do markFailed tunnelId; throw e

/-- The reply `handle_http_request` builds from the tunnel's response. -/
def httpReply : ProxyResponse → Except String JsValue
  | .httpResponse status statusText headers body => .ok (.http status statusText headers body)
  | .error _ error => .error s!"proxy error: {error}"
  | _ => .error "unexpected response type"

/-- `ProxyEngine::handle_http_request`; `headers` is the header object when it reads as a map
of strings. -/
def handleHttpRequest (method url : String) (headers : Option StringMap) (body : Option Bytes)
    (io : TunnelIo) : EngineM JsValue := do
  let _ ← check (HttpCodec.parseMethod method)
  check (HttpCodec.validateUrl url)
  let headersMap := headers.getD StringMap.empty
  let tunnel ← withContext (fun e => s!"failed to create tunnel: {e}") (createTunnel io.created)
  withContext (fun e => s!"failed to send request: {e}")
    (sendRequest tunnel (.httpRequest method url headersMap body) io.sendResult)
  let response ← withContext (fun e => s!"failed to receive response: {e}")
    (receiveResponse tunnel io.receiveResult)
  removeTunnel tunnel
  check (httpReply response)

/-- The shape `open_websocket` and `connect_tcp` share: check the arguments, create a tunnel,
send one request and read one response.  The tunnel is handed out with the reply `accept`
builds from the expected response, and removed on any other response. -/
def openTunnel (validation : Except String Unit) (request : ProxyRequest)
    (sendContext receiveContext refusal : String → String)
    (accept : String → ProxyResponse → Option JsValue) (io : TunnelIo) : EngineM JsValue := do
  check validation
  let tunnelId ← withContext (fun e => s!"failed to create tunnel: {e}") (createTunnel io.created)
  withContext sendContext (sendRequest tunnelId request io.sendResult)
  let response ← withContext receiveContext (receiveResponse tunnelId io.receiveResult)
  match accept tunnelId response, response with
  | some reply, _ => do
      handOut tunnelId
      pure reply
  | none, .error _ error => do
      removeTunnel tunnelId
      throw (refusal error)
  | none, _ => do
      removeTunnel tunnelId
      throw "unexpected response type"

/-- `ProxyEngine::open_websocket`. -/
def openWebSocket (url : String) (protocols : List String) (io : TunnelIo) : EngineM JsValue :=
  openTunnel (WebSocketCodec.validateUrl url) (.webSocketOpen url protocols)
    (fun e => s!"failed to send request: {e}") (fun e => s!"failed to receive response: {e}")
    (fun error => s!"failed to open websocket: {error}")
    (fun tunnelId response => match response with
      | .webSocketOpened _ protocol => some (.webSocketOpened tunnelId (protocol.getD ""))
      | _ => none)
    io

/-- The message `send_websocket_message` makes of its data. -/
def wsDataOf (isBinary : Bool) (bytes : Bytes) (text : Option String) : Except String WsData :=
  if isBinary then .ok (.binary bytes) else
    match text with
    | some content => .ok (.text content)
    | none => .error "invalid text data"

/-- `ProxyEngine::send_websocket_message`; the data is given as the bytes `Uint8Array::from`
reads from it and the string `as_string` reads from it, if any. -/
def sendWebSocketMessage (tunnelId : String) (isBinary : Bool) (bytes : Bytes)
    (text : Option String) (sendResult : Except String Unit) : EngineM JsValue := do
  getTunnel tunnelId
  let wsData ← check (wsDataOf isBinary bytes text)
  withContext (fun e => s!"failed to send message: {e}")
    (sendRequest tunnelId (.webSocketMessage tunnelId wsData) sendResult)
  pure .done

/-- The reply `receive_websocket_message` builds from the tunnel's response. -/
def messageReply : ProxyResponse → Except String JsValue
  | .webSocketMessage _ data => .ok (.message data)
  | .webSocketClosed _ code reason => .ok (.closed code reason)
  | _ => .error "unexpected response type"

/-- `ProxyEngine::receive_websocket_message`. -/
def receiveWebSocketMessage (tunnelId : String) (receiveResult : Except String ProxyResponse) :
    EngineM JsValue := do
  getTunnel tunnelId
  let response ← withContext (fun e => s!"failed to receive: {e}")
    (receiveResponse tunnelId receiveResult)
  check (messageReply response)

/-- `ProxyEngine::close_websocket`. -/
def closeWebSocket (tunnelId : String) (code : UInt16) (reason : String)
    (sendResult : Except String Unit) : EngineM JsValue := do
  getTunnel tunnelId
  withContext (fun e => s!"failed to close: {e}")
    (sendRequest tunnelId (.webSocketClose tunnelId code reason) sendResult)
  removeTunnel tunnelId
  pure .done

/-- `ProxyEngine::connect_tcp`. -/
def connectTcp (host : String) (port : UInt16) (io : TunnelIo) : EngineM JsValue :=
  openTunnel (TcpCodec.validateAddress host port) (.tcpConnect host port)
    (fun e => s!"failed to send: {e}") (fun e => s!"failed to receive: {e}")
    (fun error => s!"failed to connect: {error}")
    (fun tunnelId response => match response with
      | .tcpConnected _ => some (.tcpConnected tunnelId)
      | _ => none)
    io

/-- `ProxyEngine::get_status`'s count of active tunnels. -/
def activeTunnels (self : Engine) : Nat := self.tunnels.ids.length

end Engine

/-- One call of the engine with the outcomes of its tunnel operations. -/
inductive Operation
  | handleHttpRequest (method url : String) (headers : Option StringMap) (body : Option Bytes)
      (io : TunnelIo)
  | openWebSocket (url : String) (protocols : List String) (io : TunnelIo)
  | sendWebSocketMessage (tunnelId : String) (isBinary : Bool) (bytes : Bytes)
      (text : Option String) (sendResult : Except String Unit)
  | receiveWebSocketMessage (tunnelId : String) (receiveResult : Except String ProxyResponse)
  | closeWebSocket (tunnelId : String) (code : UInt16) (reason : String)
      (sendResult : Except String Unit)
  | connectTcp (host : String) (port : UInt16) (io : TunnelIo)

namespace Operation

/-- The call an operation makes. -/
def call : Operation → EngineM JsValue
  | .handleHttpRequest method url headers body io => Engine.handleHttpRequest method url headers body io
  | .openWebSocket url protocols io => Engine.openWebSocket url protocols io
  | .sendWebSocketMessage tunnelId isBinary bytes text sendResult =>
      Engine.sendWebSocketMessage tunnelId isBinary bytes text sendResult
  | .receiveWebSocketMessage tunnelId receiveResult =>
      Engine.receiveWebSocketMessage tunnelId receiveResult
  | .closeWebSocket tunnelId code reason sendResult =>
      Engine.closeWebSocket tunnelId code reason sendResult
  | .connectTcp host port io => Engine.connectTcp host port io

end Operation

/-- The engine's state after a sequence of calls, one after another. -/
def Engine.runAll : Engine → List Operation → Engine
  | self, [] => self
  | self, operation :: operations => runAll (resultState (operation.call.run self)) operations

/-! ## Each helper's effect -/

namespace Engine

theorem run_bind {α β : Type} (x : EngineM α) (f : α → EngineM β) (self : Engine) :
    (x >>= f).run self = match x.run self with
      | .ok value next => (f value).run next
      | .error e next => .error e next := by
  simp only [bind, EStateM.bind, EStateM.run]
  cases x self <;> rfl

@[simp]
theorem run_pure {α : Type} (value : α) (self : Engine) :
    (pure value : EngineM α).run self = .ok value self := rfl

@[simp]
theorem run_throw {α : Type} (e : String) (self : Engine) :
    (throw e : EngineM α).run self = .error e self := rfl

@[simp]
theorem check_run {α : Type} (result : Except String α) (self : Engine) :
    (check result).run self = match result with
      | .ok value => .ok value self
      | .error e => .error e self := by
  cases result <;> rfl

@[simp]
theorem withContext_run {α : Type} (context : String → String) (call : EngineM α) (self : Engine) :
    (withContext context call).run self = match call.run self with
      | .ok value next => .ok value next
      | .error e next => .error (context e) next := by
  simp only [withContext, EStateM.run, EStateM.adaptExcept]
  cases call self <;> rfl

@[simp]
theorem createTunnel_run (created : Except String String) (self : Engine) :
    (createTunnel created).run self = match created with
      | .ok id => .ok id (self.created id)
      | .error e => .error e self := by
  cases created <;> rfl

@[simp]
theorem getTunnel_run (tunnelId : String) (self : Engine) :
    (getTunnel tunnelId).run self =
      if tunnelId ∈ self.tunnels.ids then .ok () self else .error "tunnel not found" self := by
  simp only [getTunnel, EStateM.run, bind, EStateM.bind, get, getThe, MonadStateOf.get, EStateM.get]
  split <;> rfl

@[simp]
theorem removeTunnel_run (tunnelId : String) (self : Engine) :
    (removeTunnel tunnelId).run self = .ok () { self with tunnels := self.tunnels.remove tunnelId } :=
  rfl

@[simp]
theorem handOut_run (tunnelId : String) (self : Engine) :
    (handOut tunnelId).run self = .ok () { self with handedOut := self.handedOut ++ [tunnelId] } :=
  rfl

@[simp]
theorem sendRequest_run (tunnelId : String) (request : ProxyRequest)
    (sendResult : Except String Unit) (self : Engine) :
    (sendRequest tunnelId request sendResult).run self = match sendResult with
      | .ok () => .ok () { self with sent := self.sent ++ [(tunnelId, request)] }
      | .error e => .error e { self with
          sent := self.sent ++ [(tunnelId, request)], failed := self.failed ++ [tunnelId] } := by
  cases sendResult <;> rfl

@[simp]
theorem receiveResponse_run (tunnelId : String) (receiveResult : Except String ProxyResponse)
    (self : Engine) :
    (receiveResponse tunnelId receiveResult).run self = match receiveResult with
      | .ok response => .ok response self
      | .error e => .error e { self with failed := self.failed ++ [tunnelId] } := by
  cases receiveResult <;> rfl

/-! ## The invariant the engine is meant to keep, and the one that holds -/

/-- Every tunnel in the map was handed to the caller and has had no failed send or receive. -/
def Live (self : Engine) : Prop :=
  ∀ id ∈ self.tunnels.ids, id ∈ self.handedOut ∧ id ∉ self.failed

theorem Live.of_fields {self next : Engine} (live : self.Live)
    (tunnels : ∀ id ∈ next.tunnels.ids, id ∈ self.tunnels.ids)
    (handedOut : self.handedOut ⊆ next.handedOut) (failed : next.failed = self.failed) :
    next.Live := fun id mem =>
  ⟨handedOut (live id (tunnels id mem)).1, failed ▸ (live id (tunnels id mem)).2⟩

/-- Removing the tunnel a call created restores the invariant the call found. -/
theorem Live.created_remove {self next : Engine} (live : self.Live) (id : String)
    (tunnels : next.tunnels = (self.created id).tunnels.remove id)
    (handedOut : next.handedOut = (self.created id).handedOut)
    (failed : next.failed = (self.created id).failed) : next.Live := by
  intro other mem
  simp only [tunnels, handedOut, failed, TunnelMap.mem_remove, created, TunnelMap.mem_insert] at mem ⊢
  obtain ⟨differs, rfl | present⟩ := mem
  · exact absurd rfl differs
  · simpa [differs] using live other present

/-- Handing out the tunnel a call created restores the invariant the call found. -/
theorem Live.created_handOut {self next : Engine} (live : self.Live) (id : String)
    (tunnels : next.tunnels = (self.created id).tunnels)
    (handedOut : next.handedOut = (self.created id).handedOut ++ [id])
    (failed : next.failed = (self.created id).failed) : next.Live := by
  intro other mem
  simp only [tunnels, handedOut, failed, created, TunnelMap.mem_insert] at mem ⊢
  by_cases same : other = id
  · simp [same]
  · simpa [same] using live other (mem.resolve_left same)

theorem handleHttpRequest_live (method url : String) (headers body) (io : TunnelIo) {self : Engine}
    (sendOk : io.sendResult = .ok ()) (receiveOk : ∃ response, io.receiveResult = .ok response)
    (live : self.Live) :
    (resultState ((handleHttpRequest method url headers body io).run self)).Live := by
  obtain ⟨response, receiveOk⟩ := receiveOk
  simp only [handleHttpRequest, run_bind, check_run, withContext_run, createTunnel_run,
    sendRequest_run, sendOk, receiveResponse_run, receiveOk, removeTunnel_run]
  cases HttpCodec.parseMethod method <;> cases HttpCodec.validateUrl url <;> cases io.created <;>
    try exact live
  cases httpReply response <;> exact live.created_remove _ rfl rfl rfl

theorem openTunnel_live (validation request sendContext receiveContext refusal accept)
    (io : TunnelIo) {self : Engine}
    (sendOk : io.sendResult = .ok ()) (receiveOk : ∃ response, io.receiveResult = .ok response)
    (live : self.Live) :
    (resultState ((openTunnel validation request sendContext receiveContext refusal accept io).run self)).Live := by
  obtain ⟨response, receiveOk⟩ := receiveOk
  simp only [openTunnel, run_bind, check_run, withContext_run, createTunnel_run,
    sendRequest_run, sendOk, receiveResponse_run, receiveOk]
  cases validation <;> cases io.created <;> simp only [resultState] <;> try exact live
  rename_i id
  cases accept id response
  · cases response <;> exact live.created_remove _ rfl rfl rfl
  · exact live.created_handOut _ rfl rfl rfl

theorem sendWebSocketMessage_live (tunnelId isBinary bytes text) {self : Engine} (live : self.Live) :
    (resultState ((sendWebSocketMessage tunnelId isBinary bytes text (.ok ())).run self)).Live := by
  by_cases present : tunnelId ∈ self.tunnels.ids <;>
    simp only [sendWebSocketMessage, run_bind, getTunnel_run, present, if_true, if_false,
      check_run, withContext_run, sendRequest_run]
  · cases wsDataOf isBinary bytes text <;> exact live
  · exact live

theorem receiveWebSocketMessage_live (tunnelId response) {self : Engine} (live : self.Live) :
    (resultState ((receiveWebSocketMessage tunnelId (.ok response)).run self)).Live := by
  by_cases present : tunnelId ∈ self.tunnels.ids <;>
    simp only [receiveWebSocketMessage, run_bind, getTunnel_run, present, if_true, if_false,
      check_run, withContext_run, receiveResponse_run]
  · cases messageReply response <;> exact live
  · exact live

theorem closeWebSocket_live (tunnelId code reason) {self : Engine} (live : self.Live) :
    (resultState ((closeWebSocket tunnelId code reason (.ok ())).run self)).Live := by
  by_cases present : tunnelId ∈ self.tunnels.ids <;>
    simp only [closeWebSocket, run_bind, getTunnel_run, present, if_true, if_false,
      withContext_run, sendRequest_run, removeTunnel_run]
  · exact live.of_fields (fun _ mem => (TunnelMap.mem_remove.mp mem).2) (fun _ => id) rfl
  · exact live

/-- Every tunnel in the map was handed out or has had a failed send or receive. -/
def Accounted (self : Engine) : Prop :=
  ∀ id ∈ self.tunnels.ids, id ∈ self.handedOut ∨ id ∈ self.failed

/-- What every call keeps, whatever its tunnel I/O does: the accounting invariant, and each
tunnel it marks failed is still in the map when it returns. -/
structure Keeps (before after : Engine) : Prop where
  accounted : before.Accounted → after.Accounted
  failedStay : ∀ id ∈ after.failed, id ∈ before.failed ∨ id ∈ after.tunnels.ids

theorem Keeps.refl (self : Engine) : Keeps self self :=
  ⟨id, fun _ mem => .inl mem⟩

/-- A call that only records what it sent keeps everything. -/
theorem Keeps.of_sent {self next : Engine} (tunnels : next.tunnels = self.tunnels)
    (handedOut : next.handedOut = self.handedOut) (failed : next.failed = self.failed) :
    Keeps self next :=
  ⟨fun accounted other mem => by simpa [handedOut, failed] using accounted other (tunnels ▸ mem),
    fun _ mem => .inl (failed ▸ mem)⟩

/-- Removing a tunnel keeps everything. -/
theorem Keeps.of_remove {self next : Engine} (tunnelId : String)
    (tunnels : next.tunnels = self.tunnels.remove tunnelId)
    (handedOut : next.handedOut = self.handedOut) (failed : next.failed = self.failed) :
    Keeps self next := by
  refine ⟨fun accounted other mem => ?_, fun _ mem => .inl (failed ▸ mem)⟩
  rw [tunnels, TunnelMap.mem_remove] at mem
  simpa [handedOut, failed] using accounted other mem.2

/-- Marking a tunnel of the map failed keeps everything. -/
theorem Keeps.of_mark {self next : Engine} {tunnelId : String} (present : tunnelId ∈ self.tunnels.ids)
    (tunnels : next.tunnels = self.tunnels) (handedOut : next.handedOut = self.handedOut)
    (failed : next.failed = self.failed ++ [tunnelId]) : Keeps self next := by
  refine ⟨fun accounted other mem => ?_, fun other mem => ?_⟩
  · rw [tunnels] at mem
    simpa [handedOut, failed] using (accounted other mem).imp id .inl
  · rw [failed, List.mem_append, List.mem_singleton] at mem
    exact mem.imp id fun (same : other = tunnelId) => by rw [tunnels, same]; exact present

/-- A created tunnel that is removed again keeps everything. -/
theorem Keeps.created_remove {self next : Engine} (id : String)
    (tunnels : next.tunnels = (self.created id).tunnels.remove id)
    (handedOut : next.handedOut = (self.created id).handedOut)
    (failed : next.failed = (self.created id).failed) : Keeps self next := by
  refine ⟨fun accounted other mem => ?_, fun other mem => ?_⟩
  · simp only [tunnels, handedOut, failed, TunnelMap.mem_remove, created, TunnelMap.mem_insert]
      at mem ⊢
    obtain ⟨differs, rfl | present⟩ := mem
    · exact absurd rfl differs
    · simpa [differs] using accounted other present
  · simp only [failed, created, List.mem_filter] at mem
    exact .inl mem.1

/-- A created tunnel that is handed out, or marked failed, keeps everything. -/
theorem Keeps.created_mark {self next : Engine} (id : String)
    (tunnels : next.tunnels = (self.created id).tunnels)
    (marked : (next.handedOut = (self.created id).handedOut ++ [id] ∧
        next.failed = (self.created id).failed) ∨
      (next.handedOut = (self.created id).handedOut ∧
        next.failed = (self.created id).failed ++ [id])) :
    Keeps self next := by
  refine ⟨fun accounted other mem => ?_, fun other mem => ?_⟩
  · simp only [tunnels, created, TunnelMap.mem_insert] at mem
    by_cases same : other = id
    · rcases marked with ⟨handedOut, _⟩ | ⟨_, failed⟩
      · simp [handedOut, same]
      · simp [failed, same]
    · have before := accounted other (mem.resolve_left same)
      rcases marked with ⟨handedOut, failed⟩ | ⟨handedOut, failed⟩ <;>
        simpa [handedOut, failed, created, same] using before
  · by_cases same : other = id
    · simp [tunnels, created, same]
    · rcases marked with ⟨_, failed⟩ | ⟨_, failed⟩ <;>
        simp only [failed, created, List.mem_append, List.mem_filter, List.mem_singleton, same,
          or_false] at mem <;>
        exact .inl mem.1

/-! ## What each call keeps -/

theorem handleHttpRequest_keeps (method url : String) (headers body) (io : TunnelIo) (self : Engine) :
    Keeps self (resultState ((handleHttpRequest method url headers body io).run self)) := by
  simp only [handleHttpRequest, run_bind, check_run, withContext_run, createTunnel_run,
    sendRequest_run, receiveResponse_run, removeTunnel_run]
  cases HttpCodec.parseMethod method <;> cases HttpCodec.validateUrl url <;> cases io.created <;>
    cases io.sendResult <;> cases io.receiveResult <;> simp only [resultState] <;>
    try exact Keeps.refl self
  all_goals try exact Keeps.created_mark _ rfl (.inr ⟨rfl, rfl⟩)
  rename_i response
  cases httpReply response <;> exact Keeps.created_remove _ rfl rfl rfl

theorem openTunnel_keeps (validation request sendContext receiveContext refusal accept)
    (io : TunnelIo) (self : Engine) :
    Keeps self
      (resultState ((openTunnel validation request sendContext receiveContext refusal accept io).run self)) := by
  simp only [openTunnel, run_bind, check_run, withContext_run, createTunnel_run,
    sendRequest_run, receiveResponse_run]
  cases validation <;> cases io.created <;> cases io.sendResult <;> cases io.receiveResult <;>
    simp only [resultState] <;> try exact Keeps.refl self
  all_goals try exact Keeps.created_mark _ rfl (.inr ⟨rfl, rfl⟩)
  rename_i id _ response
  cases accept id response
  · cases response <;> exact Keeps.created_remove _ rfl rfl rfl
  · exact Keeps.created_mark _ rfl (.inl ⟨rfl, rfl⟩)

theorem sendWebSocketMessage_keeps (tunnelId isBinary bytes text sendResult) (self : Engine) :
    Keeps self (resultState ((sendWebSocketMessage tunnelId isBinary bytes text sendResult).run self)) := by
  by_cases present : tunnelId ∈ self.tunnels.ids <;>
    simp only [sendWebSocketMessage, run_bind, getTunnel_run, present, if_true, if_false,
      check_run, withContext_run, sendRequest_run]
  · cases wsDataOf isBinary bytes text
    · exact Keeps.refl self
    · cases sendResult
      · exact Keeps.of_mark present rfl rfl rfl
      · exact Keeps.of_sent rfl rfl rfl
  · exact Keeps.refl self

theorem receiveWebSocketMessage_keeps (tunnelId receiveResult) (self : Engine) :
    Keeps self (resultState ((receiveWebSocketMessage tunnelId receiveResult).run self)) := by
  by_cases present : tunnelId ∈ self.tunnels.ids <;>
    simp only [receiveWebSocketMessage, run_bind, getTunnel_run, present, if_true, if_false,
      check_run, withContext_run, receiveResponse_run]
  · cases receiveResult with
    | error => exact Keeps.of_mark present rfl rfl rfl
    | ok response =>
        simp only [resultState]
        cases messageReply response <;> exact Keeps.refl self
  · exact Keeps.refl self

theorem closeWebSocket_keeps (tunnelId code reason sendResult) (self : Engine) :
    Keeps self (resultState ((closeWebSocket tunnelId code reason sendResult).run self)) := by
  by_cases present : tunnelId ∈ self.tunnels.ids <;>
    simp only [closeWebSocket, run_bind, getTunnel_run, present, if_true, if_false,
      withContext_run, sendRequest_run, removeTunnel_run]
  · cases sendResult
    · exact Keeps.of_mark present rfl rfl rfl
    · exact Keeps.of_remove tunnelId rfl rfl rfl
  · exact Keeps.refl self

end Engine

/-- The tunnel I/O of a call sends and receives without error; creating a tunnel may fail. -/
def Operation.Reliable : Operation → Prop
  | .handleHttpRequest _ _ _ _ io | .openWebSocket _ _ io | .connectTcp _ _ io =>
      io.sendResult = .ok () ∧ ∃ response, io.receiveResult = .ok response
  | .sendWebSocketMessage _ _ _ _ sendResult | .closeWebSocket _ _ _ sendResult =>
      sendResult = .ok ()
  | .receiveWebSocketMessage _ receiveResult => ∃ response, receiveResult = .ok response

namespace Operation

theorem call_keeps (operation : Operation) (self : Engine) :
    Engine.Keeps self (resultState (operation.call.run self)) := by
  cases operation with
  | handleHttpRequest => exact Engine.handleHttpRequest_keeps _ _ _ _ _ self
  | openWebSocket => exact Engine.openTunnel_keeps _ _ _ _ _ _ _ self
  | sendWebSocketMessage => exact Engine.sendWebSocketMessage_keeps _ _ _ _ _ self
  | receiveWebSocketMessage => exact Engine.receiveWebSocketMessage_keeps _ _ self
  | closeWebSocket => exact Engine.closeWebSocket_keeps _ _ _ _ self
  | connectTcp => exact Engine.openTunnel_keeps _ _ _ _ _ _ _ self

theorem call_live {operation : Operation} (reliable : operation.Reliable) {self : Engine}
    (live : self.Live) : (resultState (operation.call.run self)).Live := by
  cases operation with
  | handleHttpRequest => exact Engine.handleHttpRequest_live _ _ _ _ _ reliable.1 reliable.2 live
  | openWebSocket => exact Engine.openTunnel_live _ _ _ _ _ _ _ reliable.1 reliable.2 live
  | sendWebSocketMessage => cases reliable; exact Engine.sendWebSocketMessage_live _ _ _ _ live
  | receiveWebSocketMessage =>
      obtain ⟨response, rfl⟩ := reliable
      exact Engine.receiveWebSocketMessage_live _ _ live
  | closeWebSocket => cases reliable; exact Engine.closeWebSocket_live _ _ _ live
  | connectTcp => exact Engine.openTunnel_live _ _ _ _ _ _ _ reliable.1 reliable.2 live

end Operation

namespace Engine

/-- Over any sequence of calls, under any outcome of their tunnel I/O, every tunnel in the map
was handed out or has had a failed send or receive. -/
theorem runAll_accounted (operations : List Operation) {self : Engine} (accounted : self.Accounted) :
    (runAll self operations).Accounted := by
  induction operations generalizing self with
  | nil => exact accounted
  | cons operation operations ih => exact ih ((operation.call_keeps self).accounted accounted)

/-- An HTTP request whose send fails and a TCP connection that goes through, from a new engine. -/
theorem runAll_accounted_after_failed_send :
    Engine.new.Accounted ∧
      (runAll Engine.new
        [.handleHttpRequest "GET" "https://example.com" none none
            ⟨.ok "t1", .error "failed to write to tunnel: broken pipe", .error "tunnel closed"⟩,
          .connectTcp "example.com" 80 ⟨.ok "t2", .ok (), .ok (.tcpConnected "t2")⟩]).Accounted :=
  have fresh : Engine.new.Accounted := fun _ mem => absurd mem (List.not_mem_nil _)
  ⟨fresh, runAll_accounted _ fresh⟩

/-- Over any sequence of calls whose sends and receives all succeed, every tunnel in the map was
handed out and has had no failed send or receive. -/
theorem runAll_live {operations : List Operation} (reliable : ∀ operation ∈ operations, operation.Reliable)
    {self : Engine} (live : self.Live) : (runAll self operations).Live := by
  induction operations generalizing self with
  | nil => exact live
  | cons operation operations ih =>
      exact ih (fun other mem => reliable other (List.mem_cons_of_mem _ mem))
        (Operation.call_live (reliable operation (List.mem_cons_self _ _)) live)

theorem new_live : Engine.new.Live := fun _ mem => absurd mem (List.not_mem_nil _)

/-- A TCP connection and a WebSocket message over it, every send and receive succeeding. -/
theorem runAll_live_reliable_calls :
    (∀ operation ∈ [Operation.connectTcp "example.com" 80 ⟨.ok "t2", .ok (), .ok (.tcpConnected "t2")⟩,
        .sendWebSocketMessage "t2" true [1, 2] none (.ok ())], operation.Reliable) ∧
      Engine.new.Live ∧
      (runAll Engine.new [.connectTcp "example.com" 80 ⟨.ok "t2", .ok (), .ok (.tcpConnected "t2")⟩,
        .sendWebSocketMessage "t2" true [1, 2] none (.ok ())]).Live :=
  have reliable : ∀ operation ∈ [Operation.connectTcp "example.com" 80
      ⟨.ok "t2", .ok (), .ok (.tcpConnected "t2")⟩, .sendWebSocketMessage "t2" true [1, 2] none (.ok ())],
      operation.Reliable := by
    simp [Operation.Reliable]
  ⟨reliable, new_live, runAll_live reliable new_live⟩

/-- An HTTP request whose send fails leaves its tunnel in the map: never handed out, marked
failed, and the map's keys grow from none to one. -/
theorem http_send_failure_leaks_tunnel :
    let call := handleHttpRequest "GET" "https://example.com" none none
      ⟨.ok "t1", .error "failed to write to tunnel: broken pipe", .error "tunnel closed"⟩
    resultValue (call.run Engine.new)
        = .error "failed to send request: failed to write to tunnel: broken pipe" ∧
      (resultState (call.run Engine.new)).tunnels.ids = ["t1"] ∧
      "t1" ∉ (resultState (call.run Engine.new)).handedOut ∧
      "t1" ∈ (resultState (call.run Engine.new)).failed :=
  ⟨rfl, rfl, by decide, by decide⟩

end Engine

/-! ## Which requests the engine takes -/

/-- The part of `ProxyConfig` that `should_intercept` reads. -/
structure ProxyConfig where
  interceptPatterns : List String
  bypassPatterns : List String

/-- `ProxyConfig::default`, which `ProxyEngine::new` keeps: intercept `"*"`, bypass nothing. -/
def ProxyConfig.default : ProxyConfig := ⟨["*"], []⟩

/-- `str::contains` with a string pattern. -/
def strContains (text pattern : String) : Bool := decide (pattern.toList <:+: text.toList)

/-- `ProxyEngine::should_intercept`; each loop returns at its first matching pattern. -/
def shouldIntercept (config : ProxyConfig) (url : String) : Bool :=
  if strContains url "localhost:8000" || strContains url "relaydns_wasm" then false
  else if config.bypassPatterns.any (strContains url) then false
  else if config.interceptPatterns.contains "*" then true
  else config.interceptPatterns.any (strContains url)

end PortalTunnel
