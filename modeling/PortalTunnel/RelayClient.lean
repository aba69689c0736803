import PortalTunnel.FrameBound
import PortalTunnel.Handshake

/-!
# The relay client

`RelayClient` talks to the relay one request per WebSocket: `get_relay_info`, `register_lease`
and `request_connection` each connect a fresh `WebSocketStream` to the server URL, write one
`Packet` with `write_packet_async`, read one back with `read_packet_async`, check its type and
decode its payload; the stream is dropped when the call returns.  The state every clone of a
client shares is its server URL, its credential and a map of leases, which only an accepted
`register_lease` changes.  The lock on it is taken only in blocks with no await, and no call
changes the URL or the credential, so whatever the order in which concurrent calls finish, the
state is the one those calls give run one after another in that order.

The transport is a `ByteIo` whose stream each call gets from `WebSocketStream::connect`, an
input here.  The protobuf codecs are parameters, and so are the numbers prost gives
`PacketType` and `ResponseCode::Accepted`, whose `.proto` files are not among the sources.
-/

namespace PortalTunnel

namespace Proto

/-- The `PacketType` variants the client sends or expects. -/
inductive PacketType
  | relayInfoRequest
  | relayInfoResponse
  | leaseUpdateRequest
  | leaseUpdateResponse
  | connectionRequest
  | connectionResponse
deriving DecidableEq, Repr

/-- `proto::Packet`. -/
structure Packet where
  type : Int
  payload : Bytes
deriving DecidableEq

/-- `proto::RelayInfoRequest`, which has no fields. -/
structure RelayInfoRequest
deriving DecidableEq

/-- `proto::RelayInfo`. -/
structure RelayInfo where
  identity : Option Identity
  address : List String
  leases : List String
deriving DecidableEq

/-- `proto::RelayInfoResponse`. -/
structure RelayInfoResponse where
  relayInfo : Option RelayInfo
deriving DecidableEq

/-- `proto::Lease`. -/
structure Lease where
  identity : Option Identity
  expires : Int
  name : String
  alpn : List String
deriving DecidableEq

/-- `proto::LeaseUpdateRequest`. -/
structure LeaseUpdateRequest where
  lease : Option Lease
  nonce : Bytes
  timestamp : Int
deriving DecidableEq

/-- `proto::LeaseUpdateResponse`. -/
structure LeaseUpdateResponse where
  code : Int
deriving DecidableEq

/-- `proto::ConnectionRequest`. -/
structure ConnectionRequest where
  leaseId : String
  clientIdentity : Option Identity
deriving DecidableEq

/-- `proto::ConnectionResponse`. -/
structure ConnectionResponse where
  code : Int
deriving DecidableEq

end Proto

open Proto

/-- The numbers prost gives the enum values the client compares with: `PacketType as i32` and
`ResponseCode::Accepted as i32`. -/
structure ProtoEnums where
  packetType : PacketType → Int
  accepted : Int

/-- `encode_message` and `decode_message` for the messages the client writes and reads. -/
structure RelayCodecs where
  packet : ProtoCodec Packet
  relayInfoRequest : ProtoCodec RelayInfoRequest
  relayInfoResponse : ProtoCodec RelayInfoResponse
  leaseUpdateRequest : ProtoCodec LeaseUpdateRequest
  signed : ProtoCodec SignedPayload
  leaseUpdateResponse : ProtoCodec LeaseUpdateResponse
  connectionRequest : ProtoCodec ConnectionRequest
  connectionResponse : ProtoCodec ConnectionResponse

/-- A `JsValue` error of the client: `utils::to_js_error` of an `io::Error` or of a prost
`DecodeError`, or a text.  An error of `WebSocketStream::connect` is passed on as the text its
`Debug` prints. -/
inductive JsError
  | io (error : IoError)
  | decode (error : String)
  | text (message : String)
deriving DecidableEq

/-- `LeaseInfo`. -/
structure LeaseInfo where
  name : String
  alpns : List String
  expires : Int
deriving DecidableEq

/-- `IdentityInfo`. -/
structure IdentityInfo where
  id : String
  publicKey : String
deriving DecidableEq

/-- `RelayInfo`, the form `get_relay_info` returns. -/
structure RelayInfo where
  identity : IdentityInfo
  address : List String
  leases : List String
deriving DecidableEq

/-- `RelayClientInner`, the state every clone of a `RelayClient` shares. -/
structure RelayClient where
  serverUrl : String
  credential : Credential
  leases : AList (fun _ : String => LeaseInfo)

/-! ## `hex::encode` -/

/-- The lowercase hexadecimal digit of a value below 16. -/
def hexDigit (value : Nat) : Char :=
  if value < 10 then Char.ofNat (48 + value) else Char.ofNat (87 + value)

/-- `hex::encode`: two lowercase hexadecimal digits per byte, the high one first. -/
def hexEncode (bytes : Bytes) : String :=
  ⟨bytes.flatMap fun byte => [hexDigit (byte.toNat / 16), hexDigit (byte.toNat % 16)]⟩

/-! ## The calls -/

section Calls

variable (crypto : HandshakeCrypto) (codecs : RelayCodecs) (enums : ProtoEnums) {T : Type}
  (io : ByteIo T)

/-- `Credential::new` for the signing key it generates: the id is the hex of the verifying key. -/
def Credential.new (signingKey : Bytes) : Credential :=
  ⟨signingKey, hexEncode (crypto.verifyingKey signingKey)⟩

/-- `RelayClient::connect`, given what the test connection's `WebSocketStream::connect`
returned and the credential it generates. -/
def RelayClient.connect (serverUrl : String) (testConnection : Except String T)
    (credential : Credential) : Except JsError RelayClient :=
  match testConnection with
  | .error e => .error (.text s!"WebSocket connection failed: {e}")
  | .ok _ => .ok ⟨serverUrl, credential, ∅⟩

/-- `get_credential_id`. -/
def RelayClient.getCredentialId (self : RelayClient) : String :=
  self.credential.id

/-- The check each request makes on the packet it read back: it must be of `responseType`. -/
def checkResponseType (responseType : PacketType) (responsePacket : Packet) :
    EStateM JsError T Bytes :=
  if responsePacket.type ≠ enums.packetType responseType then
    throw (.text "invalid response type")
  else pure responsePacket.payload

/-- What each request does on its fresh stream: `write_packet_async` of its packet, then
`read_packet_async`, whose packet must be of `responseType`; an `io::Error` of either goes
through `to_js_error`. -/
def exchange (request : Packet) (responseType : PacketType) : EStateM JsError T Bytes := do
  (writePacketAsync io codecs.packet request).adaptExcept .io
  let responsePacket ← (readPacketAsync io codecs.packet).adaptExcept .io
  checkResponseType enums responseType responsePacket

/-- `decode_message` of a response's payload, its error through `to_js_error`. -/
def decodeResponse {Message : Type} (codec : ProtoCodec Message) (payload : Bytes) :
    EStateM JsError T Message :=
  match codec.decode payload with
  | .ok message => pure message
  | .error e => throw (.decode e)

/-- The check `register_lease` and `request_connection` make on their response's code, `what`
naming the request in the error. -/
def checkAccepted (what : String) (code : Int) : EStateM JsError T Unit :=
  if code ≠ enums.accepted then throw (.text s!"{what} rejected: code {code}") else pure ()

/-- The `RelayInfo` `get_relay_info` makes of the relay's: a missing identity gives empty
strings. -/
def RelayInfo.ofProto (info : Proto.RelayInfo) : RelayInfo where
  identity :=
    ⟨(info.identity.map fun identity => identity.id).getD "",
      (info.identity.map fun identity => hexEncode identity.publicKey).getD ""⟩
  address := info.address
  leases := info.leases

/-- The packet `get_relay_info` writes. -/
def relayInfoPacket : Packet :=
  ⟨enums.packetType .relayInfoRequest, codecs.relayInfoRequest.encode ⟨⟩⟩

/-- What `get_relay_info` does on its stream. -/
def relayInfoExchange : EStateM JsError T RelayInfo := do
  let payload ← exchange codecs enums io (relayInfoPacket codecs enums) .relayInfoResponse
  let response ← decodeResponse codecs.relayInfoResponse payload
  match response.relayInfo with
  | none => throw (.text "missing relay info")
  | some relayInfo => pure (RelayInfo.ofProto relayInfo)

/-- `get_relay_info`, given what `WebSocketStream::connect` returned for the server URL. -/
def RelayClient.getRelayInfo (connected : Except String T) : Except JsError RelayInfo :=
  match connected with
  | .error e => .error (.text e)
  | .ok ws => resultValue (relayInfoExchange codecs enums io ws)

/-- The `Lease` `register_lease` builds under its first lock, `now` being the clock it reads
there: it expires 60 seconds later. -/
def RelayClient.lease (self : RelayClient) (name : String) (alpns : List String) (now : Int) :
    Lease :=
  ⟨some (self.credential.identity crypto), now + 60, name, alpns⟩

/-- The `SignedPayload` of a lease update: the encoded request and the signature over it. -/
def signedLeaseUpdate (credential : Credential) (request : LeaseUpdateRequest) : SignedPayload :=
  let payload := codecs.leaseUpdateRequest.encode request
  ⟨payload, crypto.sign credential.signingKey payload⟩

/-- The packet `register_lease` writes, with the bytes `random_bytes(12)` returns and the clock's
`unix_timestamp()`: the signed request, encoded. -/
def leaseUpdatePacket (credential : Credential) (lease : Lease) (nonce : Bytes) (timestamp : Int) :
    Packet :=
  ⟨enums.packetType .leaseUpdateRequest,
    codecs.signed.encode (signedLeaseUpdate crypto codecs credential ⟨some lease, nonce, timestamp⟩)⟩

/-- What `register_lease` does on its stream. -/
def leaseUpdateExchange (credential : Credential) (lease : Lease) (nonce : Bytes)
    (timestamp : Int) : EStateM JsError T Unit := do
  let payload ← exchange codecs enums io (leaseUpdatePacket crypto codecs enums credential lease nonce timestamp)
    .leaseUpdateResponse
  let response ← decodeResponse codecs.leaseUpdateResponse payload
  checkAccepted enums "lease registration" response.code

/-- `register_lease`: what it returns, the client it leaves (the lease stored under the
credential's id once the relay accepts it) and the stream as it drops it. -/
def RelayClient.registerLease (self : RelayClient) (name : String) (alpns : List String)
    (now : Int) (connected : Except String T) (nonce : Bytes) (timestamp : Int) :
    Except JsError Unit × RelayClient × Option T :=
  let lease := self.lease crypto name alpns now
  match connected with
  | .error e => (.error (.text e), self, none)
  | .ok ws =>
      match leaseUpdateExchange crypto codecs enums io self.credential lease nonce timestamp ws with
      | .error e ws => (.error e, self, some ws)
      | .ok () ws =>
          (.ok (), { self with
            leases := self.leases.insert self.credential.id ⟨name, alpns, lease.expires⟩ }, some ws)

/-- The packet `request_connection` writes. -/
def connectionPacket (credential : Credential) (leaseId : String) : Packet :=
  ⟨enums.packetType .connectionRequest,
    codecs.connectionRequest.encode ⟨leaseId, some (credential.identity crypto)⟩⟩

/-- What `request_connection` does on its stream. -/
def connectionExchange (credential : Credential) (leaseId : String) :
    EStateM JsError T String := do
  let payload ← exchange codecs enums io (connectionPacket crypto codecs enums credential leaseId)
    .connectionResponse
  let response ← decodeResponse codecs.connectionResponse payload
  checkAccepted enums "connection" response.code
  pure "connection established"

/-- `request_connection`; its ALPN argument is not used. -/
def RelayClient.requestConnection (self : RelayClient) (leaseId _alpn : String)
    (connected : Except String T) : Except JsError String :=
  match connected with
  | .error e => .error (.text e)
  | .ok ws => resultValue (connectionExchange crypto codecs enums io self.credential leaseId ws)

end Calls

/-! ## What each step of a call does -/

section Steps

variable (crypto : HandshakeCrypto) (codecs : RelayCodecs) (enums : ProtoEnums) {T : Type}
  (io : ByteIo T)

theorem bind_eq_ok_iff {ε σ α β : Type} {x : EStateM ε σ α} {f : α → EStateM ε σ β} {s s' : σ}
    {b : β} : (x >>= f) s = .ok b s' ↔ ∃ a s₁, x s = .ok a s₁ ∧ f a s₁ = .ok b s' := by
  show (match x s with | .ok a s => f a s | .error e s => .error e s) = _ ↔ _
  rcases x s with ⟨a, s₁⟩ | ⟨e, s₁⟩
  · exact ⟨fun ran => ⟨a, s₁, rfl, ran⟩, fun ⟨_, _, first, ran⟩ => by cases first; exact ran⟩
  · simp

theorem resultState_bind {ε σ α β : Type} (x : EStateM ε σ α) (f : α → EStateM ε σ β) (s : σ) :
    resultState ((x >>= f) s) =
      match x s with
      | .ok a s₁ => resultState (f a s₁)
      | .error _ s₁ => s₁ := by
  show resultState (match x s with | .ok a s => f a s | .error e s => .error e s) = _
  rcases x s with ⟨a, s₁⟩ | ⟨e, s₁⟩ <;> rfl

theorem adaptExcept_eq_ok_iff {ε ε' σ α : Type} {f : ε → ε'} {x : EStateM ε σ α} {s s' : σ}
    {a : α} : x.adaptExcept f s = .ok a s' ↔ x s = .ok a s' := by
  simp only [EStateM.adaptExcept]
  rcases x s with ⟨b, s₁⟩ | ⟨e, s₁⟩ <;> simp

theorem resultState_adaptExcept {ε ε' σ α : Type} (f : ε → ε') (x : EStateM ε σ α) (s : σ) :
    resultState (x.adaptExcept f s) = resultState (x s) := by
  simp only [EStateM.adaptExcept]
  rcases x s with ⟨b, s₁⟩ | ⟨e, s₁⟩ <;> rfl

theorem decodeResponse_eq_ok_iff {Message : Type} {codec : ProtoCodec Message} {payload : Bytes}
    {ws ws' : T} {message : Message} :
    decodeResponse codec payload ws = .ok message ws' ↔ codec.decode payload = .ok message ∧ ws' = ws := by
  unfold decodeResponse
  cases codec.decode payload <;>
    simp [pure, throw, throwThe, MonadExceptOf.throw, EStateM.pure, EStateM.throw, eq_comm]

theorem checkResponseType_eq_ok_iff {responseType : PacketType} {responsePacket : Packet}
    {ws ws' : T} {payload : Bytes} :
    checkResponseType enums responseType responsePacket ws = .ok payload ws' ↔
      responsePacket.type = enums.packetType responseType ∧ payload = responsePacket.payload ∧ ws' = ws := by
  unfold checkResponseType
  by_cases typed : responsePacket.type = enums.packetType responseType <;>
    simp [typed, pure, throw, throwThe, MonadExceptOf.throw, EStateM.pure, EStateM.throw, eq_comm]

theorem checkAccepted_eq_ok_iff {what : String} {code : Int} {ws ws' : T} :
    checkAccepted enums what code ws = .ok () ws' ↔ code = enums.accepted ∧ ws' = ws := by
  unfold checkAccepted
  by_cases accepted : code = enums.accepted <;>
    simp [accepted, pure, throw, throwThe, MonadExceptOf.throw, EStateM.pure, EStateM.throw, eq_comm]

/-- A request returns a payload exactly when its packet was written and the packet read back is of
the expected type. -/
theorem exchange_eq_ok_iff {request : Packet} {responseType : PacketType} {response : Bytes}
    {ws ws' : T} :
    exchange codecs enums io request responseType ws = .ok response ws' ↔
      ∃ written packet,
        writePacketAsync io codecs.packet request ws = .ok () written ∧
        readPacketAsync io codecs.packet written = .ok packet ws' ∧
        packet.type = enums.packetType responseType ∧ packet.payload = response := by
  simp only [exchange, bind_eq_ok_iff, adaptExcept_eq_ok_iff, checkResponseType_eq_ok_iff]
  constructor
  · rintro ⟨⟨⟩, written, wrote, packet, _, read, typed, rfl, rfl⟩
    exact ⟨written, packet, wrote, read, typed, rfl⟩
  · rintro ⟨written, packet, wrote, read, typed, rfl⟩
    exact ⟨(), written, wrote, packet, ws', read, typed, rfl, rfl⟩

theorem resultState_checkResponseType (responseType : PacketType) (responsePacket : Packet) (ws : T) :
    resultState (checkResponseType enums responseType responsePacket ws) = ws := by
  unfold checkResponseType
  split <;> rfl

theorem resultState_checkAccepted (what : String) (code : Int) (ws : T) :
    resultState (checkAccepted enums what code ws) = ws := by
  unfold checkAccepted
  split <;> rfl

/-- Over the in-memory transport a request writes exactly its packet's frame, whatever the reply. -/
theorem exchange_pipe_outgoing (request : Packet) (responseType : PacketType)
    (reply outgoing : Bytes) :
    (resultState (exchange codecs enums Pipe.io request responseType ⟨reply, outgoing⟩)).outgoing =
      outgoing ++ lengthPrefixed (codecs.packet.encode request) := by
  have wrote := (adaptExcept_eq_ok_iff (f := JsError.io)).mpr
    (Pipe.writePacketAsync_eq codecs.packet request ⟨reply, outgoing⟩)
  simp only [exchange, resultState_bind, wrote]
  have unread := Pipe.readPacketAsync_outgoing codecs.packet
    ⟨reply, outgoing ++ lengthPrefixed (codecs.packet.encode request)⟩
  rw [← resultState_adaptExcept JsError.io] at unread
  generalize (readPacketAsync Pipe.io codecs.packet).adaptExcept JsError.io _ = read at unread ⊢
  rcases read with ⟨packet, state⟩ | ⟨e, state⟩
  · exact (congrArg Pipe.outgoing (resultState_checkResponseType enums responseType packet state)).trans
      unread
  · exact unread

/-- Over the in-memory transport a request returns a payload exactly when the reply starts with a
frame of at most `2 ^ 26` bytes holding a packet of the expected type, and then it has read only
that frame. -/
theorem exchange_pipe_eq_ok_iff {request : Packet} {responseType : PacketType}
    {response reply outgoing : Bytes} {pipe' : Pipe} :
    exchange codecs enums Pipe.io request responseType ⟨reply, outgoing⟩ = .ok response pipe' ↔
      ∃ msg rest packet, reply = lengthPrefixed msg ++ rest ∧ msg.length ≤ maxRawPacketSize ∧
        codecs.packet.decode msg = .ok packet ∧ packet.type = enums.packetType responseType ∧
        packet.payload = response ∧
        pipe' = ⟨rest, outgoing ++ lengthPrefixed (codecs.packet.encode request)⟩ := by
  rw [exchange_eq_ok_iff]
  constructor
  · rintro ⟨written, packet, wrote, read, typed, rfl⟩
    rw [Pipe.writePacketAsync_eq] at wrote
    cases wrote
    obtain ⟨msg, rest, replyEq, fits, decoded, rfl⟩ := (Pipe.readPacketAsync_eq_ok_iff codecs.packet).mp read
    exact ⟨msg, rest, packet, replyEq, fits, decoded, typed, rfl, rfl⟩
  · rintro ⟨msg, rest, packet, replyEq, fits, decoded, typed, rfl, rfl⟩
    exact ⟨_, packet, Pipe.writePacketAsync_eq _ _ _,
      (Pipe.readPacketAsync_eq_ok_iff codecs.packet).mpr ⟨msg, rest, replyEq, fits, decoded, rfl⟩,
      typed, rfl⟩

variable {crypto codecs enums io}

/-- A lease update succeeds exactly when its request returns a payload that decodes to a
response with the accepted code. -/
theorem leaseUpdateExchange_eq_ok_iff {credential : Credential} {lease : Lease} {nonce : Bytes}
    {timestamp : Int} {ws ws' : T} :
    leaseUpdateExchange crypto codecs enums io credential lease nonce timestamp ws = .ok () ws' ↔
      ∃ payload response,
        exchange codecs enums io (leaseUpdatePacket crypto codecs enums credential lease nonce timestamp)
          .leaseUpdateResponse ws = .ok payload ws' ∧
        codecs.leaseUpdateResponse.decode payload = .ok response ∧ response.code = enums.accepted := by
  simp only [leaseUpdateExchange, bind_eq_ok_iff, decodeResponse_eq_ok_iff, checkAccepted_eq_ok_iff]
  constructor
  · rintro ⟨payload, _, exchanged, response, _, ⟨decoded, rfl⟩, accepted, rfl⟩
    exact ⟨payload, response, exchanged, decoded, accepted⟩
  · rintro ⟨payload, response, exchanged, decoded, accepted⟩
    exact ⟨payload, ws', exchanged, response, ws', ⟨decoded, rfl⟩, accepted, rfl⟩

/-- Decoding and checking the response leave the stream where the request left it. -/
theorem resultState_leaseUpdateExchange (credential : Credential) (lease : Lease) (nonce : Bytes)
    (timestamp : Int) (ws : T) :
    resultState (leaseUpdateExchange crypto codecs enums io credential lease nonce timestamp ws) =
      resultState (exchange codecs enums io
        (leaseUpdatePacket crypto codecs enums credential lease nonce timestamp) .leaseUpdateResponse ws) := by
  simp only [leaseUpdateExchange, resultState_bind]
  rcases exchange codecs enums io _ _ ws with ⟨payload, state⟩ | ⟨e, state⟩
  · simp only [decodeResponse]
    cases codecs.leaseUpdateResponse.decode payload
    · rfl
    · exact resultState_checkAccepted enums _ _ state
  · rfl

/-- `register_lease` changes the client only when it returns `Ok`, and then only by storing the
lease under the credential's id. -/
theorem registerLease_state (self : RelayClient) (name : String) (alpns : List String) (now : Int)
    (connected : Except String T) (nonce : Bytes) (timestamp : Int) :
    (self.registerLease crypto codecs enums io name alpns now connected nonce timestamp).2.1 =
      match (self.registerLease crypto codecs enums io name alpns now connected nonce timestamp).1 with
      | .ok () => { self with leases := self.leases.insert self.credential.id ⟨name, alpns, now + 60⟩ }
      | .error _ => self := by
  cases connected with
  | error e => rfl
  | ok ws =>
      unfold RelayClient.registerLease
      dsimp only
      split <;> rfl

/-- What `register_lease` returns depends on the client only through its credential. -/
theorem registerLease_fst (self : RelayClient) (name : String) (alpns : List String) (now : Int)
    (connected : Except String T) (nonce : Bytes) (timestamp : Int) :
    (self.registerLease crypto codecs enums io name alpns now connected nonce timestamp).1 =
      match connected with
      | .error e => .error (.text e)
      | .ok ws => resultValue (leaseUpdateExchange crypto codecs enums io self.credential
          (self.lease crypto name alpns now) nonce timestamp ws) := by
  cases connected with
  | error e => rfl
  | ok ws =>
      unfold RelayClient.registerLease
      dsimp only
      generalize leaseUpdateExchange crypto codecs enums io _ _ nonce timestamp ws = outcome
      rcases outcome with ⟨⟨⟩, _⟩ | ⟨_, _⟩ <;> rfl

theorem registerLease_eq_ok_iff {self : RelayClient} {name : String} {alpns : List String}
    {now : Int} {ws : T} {nonce : Bytes} {timestamp : Int} :
    (self.registerLease crypto codecs enums io name alpns now (.ok ws) nonce timestamp).1 = .ok () ↔
      ∃ ws', leaseUpdateExchange crypto codecs enums io self.credential
        (self.lease crypto name alpns now) nonce timestamp ws = .ok () ws' := by
  unfold RelayClient.registerLease
  dsimp only
  split <;> simp_all

/-- The stream `register_lease` drops is the one its lease update leaves. -/
theorem registerLease_stream (self : RelayClient) (name : String) (alpns : List String) (now : Int)
    (ws : T) (nonce : Bytes) (timestamp : Int) :
    (self.registerLease crypto codecs enums io name alpns now (.ok ws) nonce timestamp).2.2 =
      some (resultState (leaseUpdateExchange crypto codecs enums io self.credential
        (self.lease crypto name alpns now) nonce timestamp ws)) := by
  unfold RelayClient.registerLease
  dsimp only
  split <;> simp_all only [resultState]

/-- Over the in-memory transport, for every reply: `register_lease` leaves one frame on its stream,
the signed `LeaseUpdateRequest` for the lease it built, returns `Ok` exactly when the reply is an
accepting `LeaseUpdateResponse`, and stores the lease only then. -/
theorem registerLease_pipe (self : RelayClient) (name : String) (alpns : List String) (now : Int)
    (reply outgoing nonce : Bytes) (timestamp : Int) :
    (self.registerLease crypto codecs enums Pipe.io name alpns now (.ok ⟨reply, outgoing⟩) nonce
        timestamp).2.2.map Pipe.outgoing =
      some (outgoing ++ lengthPrefixed (codecs.packet.encode (leaseUpdatePacket crypto codecs enums
        self.credential ⟨some (self.credential.identity crypto), now + 60, name, alpns⟩ nonce
        timestamp))) ∧
    ((self.registerLease crypto codecs enums Pipe.io name alpns now (.ok ⟨reply, outgoing⟩) nonce
        timestamp).1 = .ok () ↔
      ∃ msg rest packet response, reply = lengthPrefixed msg ++ rest ∧
        msg.length ≤ maxRawPacketSize ∧ codecs.packet.decode msg = .ok packet ∧
        packet.type = enums.packetType .leaseUpdateResponse ∧
        codecs.leaseUpdateResponse.decode packet.payload = .ok response ∧
        response.code = enums.accepted) ∧
    (self.registerLease crypto codecs enums Pipe.io name alpns now (.ok ⟨reply, outgoing⟩) nonce
        timestamp).2.1 =
      match (self.registerLease crypto codecs enums Pipe.io name alpns now (.ok ⟨reply, outgoing⟩)
          nonce timestamp).1 with
      | .ok () => { self with leases := self.leases.insert self.credential.id ⟨name, alpns, now + 60⟩ }
      | .error _ => self := by
  refine ⟨?_, ?_, registerLease_state _ _ _ _ _ _ _⟩
  · rw [registerLease_stream, Option.map_some', resultState_leaseUpdateExchange]
    exact congrArg some (exchange_pipe_outgoing codecs enums _ _ reply outgoing)
  · rw [registerLease_eq_ok_iff]
    constructor
    · rintro ⟨_, updated⟩
      obtain ⟨payload, response, exchanged, decoded, accepted⟩ :=
        leaseUpdateExchange_eq_ok_iff.mp updated
      obtain ⟨msg, rest, packet, replyEq, fits, packetDecoded, typed, rfl, -⟩ :=
        (exchange_pipe_eq_ok_iff codecs enums).mp exchanged
      exact ⟨msg, rest, packet, response, replyEq, fits, packetDecoded, typed, decoded, accepted⟩
    · rintro ⟨msg, rest, packet, response, replyEq, fits, packetDecoded, typed, decoded, accepted⟩
      exact ⟨_, leaseUpdateExchange_eq_ok_iff.mpr ⟨packet.payload, response,
        (exchange_pipe_eq_ok_iff codecs enums).mpr
          ⟨msg, rest, packet, replyEq, fits, packetDecoded, typed, rfl, rfl⟩, decoded, accepted⟩⟩

end Steps

/-! ## Runs of calls -/

section Runs

variable (crypto : HandshakeCrypto) (codecs : RelayCodecs) (enums : ProtoEnums) {T : Type}
  (io : ByteIo T)

/-- A call on a client, with what `WebSocketStream::connect` returned for it and the values it
reads from the clock and the random source. -/
inductive RelayCall (T : Type)
  | getRelayInfo (connected : Except String T)
  | registerLease (name : String) (alpns : List String) (now : Int) (connected : Except String T)
      (nonce : Bytes) (timestamp : Int)
  | getCredentialId
  | requestConnection (leaseId alpn : String) (connected : Except String T)

/-- The client's state after a call: `get_relay_info`, `get_credential_id` and
`request_connection` only read it. -/
def RelayClient.perform (self : RelayClient) : RelayCall T → RelayClient
  | .registerLease name alpns now connected nonce timestamp =>
      (self.registerLease crypto codecs enums io name alpns now connected nonce timestamp).2.1
  | _ => self

/-- The client's state after calls that finish in the order of the list. -/
def RelayClient.run (self : RelayClient) : List (RelayCall T) → RelayClient
  | [] => self
  | call :: calls => (self.perform crypto codecs enums io call).run calls

/-- The lease a call stores: that of a `register_lease` the relay accepts. -/
def RelayCall.storedLease (self : RelayClient) : RelayCall T → Option LeaseInfo
  | .registerLease name alpns now connected nonce timestamp =>
      match (self.registerLease crypto codecs enums io name alpns now connected nonce timestamp).1 with
      | .ok () => some ⟨name, alpns, now + 60⟩
      | .error _ => none
  | _ => none

/-- One call stores at most one lease, under the credential's id. -/
theorem RelayClient.perform_eq (self : RelayClient) (call : RelayCall T) :
    self.perform crypto codecs enums io call =
      match RelayCall.storedLease crypto codecs enums io self call with
      | none => self
      | some lease => { self with leases := self.leases.insert self.credential.id lease } := by
  cases call with
  | registerLease name alpns now connected nonce timestamp =>
      simp only [RelayClient.perform, RelayCall.storedLease]
      rw [registerLease_state]
      split <;> rfl
  | _ => rfl

/-- Which lease a call stores depends on the client only through its credential. -/
theorem RelayCall.storedLease_perform (self : RelayClient) (call : RelayCall T) :
    RelayCall.storedLease crypto codecs enums io (self.perform crypto codecs enums io call) =
      RelayCall.storedLease crypto codecs enums io self := by
  rw [RelayClient.perform_eq]
  split
  · rfl
  · funext later
    cases later with
    | registerLease =>
        simp only [RelayCall.storedLease, registerLease_fst]
        rfl
    | _ => rfl

/-- Over a run the URL and the credential stay, and the leases are those the calls stored,
inserted in order under the credential's id. -/
theorem RelayClient.run_eq (self : RelayClient) (calls : List (RelayCall T)) :
    (self.run crypto codecs enums io calls).serverUrl = self.serverUrl ∧
      (self.run crypto codecs enums io calls).credential = self.credential ∧
      (self.run crypto codecs enums io calls).leases =
        (calls.filterMap (RelayCall.storedLease crypto codecs enums io self)).foldl
          (fun leases lease => leases.insert self.credential.id lease) self.leases := by
  induction calls generalizing self with
  | nil => exact ⟨rfl, rfl, rfl⟩
  | cons call calls ih =>
      have step := RelayClient.perform_eq crypto codecs enums io self call
      obtain ⟨serverUrl, credential, leases⟩ := ih (self.perform crypto codecs enums io call)
      rw [RelayCall.storedLease_perform] at leases
      simp only [RelayClient.run, List.filterMap_cons]
      cases stored : RelayCall.storedLease crypto codecs enums io self call <;>
        rw [stored] at step <;> rw [step] at serverUrl credential leases ⊢ <;>
        exact ⟨serverUrl, credential, leases⟩

/-- Inserting under one key into a map that holds only that key leaves the last value. -/
theorem foldl_insert_singleton (key : String) (first : LeaseInfo) (leases : List LeaseInfo) :
    leases.foldl (fun map lease => map.insert key lease)
        (AList.singleton key first : AList fun _ : String => LeaseInfo) =
      AList.singleton key (leases.getLast?.getD first) := by
  induction leases generalizing first with
  | nil => rfl
  | cons lease leases ih =>
      rw [List.foldl_cons, AList.insert_singleton_eq, ih, List.getLast?_cons]
      rfl

/-- Over every run of calls from `RelayClient::connect`, the URL and the credential stay, and the
lease map holds at most one lease, under the credential's id: the last accepted one. -/
theorem leases_after_run (serverUrl : String) (testConnection : Except String T)
    (credential : Credential) (client : RelayClient)
    (connected : RelayClient.connect serverUrl testConnection credential = .ok client)
    (calls : List (RelayCall T)) :
    (client.run crypto codecs enums io calls).serverUrl = serverUrl ∧
      (client.run crypto codecs enums io calls).credential = credential ∧
      (client.run crypto codecs enums io calls).leases =
        match (calls.filterMap (RelayCall.storedLease crypto codecs enums io client)).getLast? with
        | none => ∅
        | some lease => AList.singleton credential.id lease := by
  unfold RelayClient.connect at connected
  split at connected <;> cases connected
  obtain ⟨serverUrlEq, credentialEq, leasesEq⟩ :=
    RelayClient.run_eq crypto codecs enums io ⟨serverUrl, credential, ∅⟩ calls
  refine ⟨serverUrlEq, credentialEq, leasesEq.trans ?_⟩
  generalize calls.filterMap _ = stored
  cases stored with
  | nil => rfl
  | cons first rest =>
      rw [List.foldl_cons, AList.insert_empty, foldl_insert_singleton, List.getLast?_cons]

end Runs

/-! ## What the relay reads -/

section Relay

variable (crypto : HandshakeCrypto) (codecs : RelayCodecs) (enums : ProtoEnums)

/-- Ed25519 as `verify_signature` needs it for one signing key: its verifying key is 32 bytes
that `VerifyingKey::from_bytes` accepts, and every signature it makes is 64 bytes that
`verify_strict` accepts. -/
structure SignsSoundly (signingKey : Bytes) : Prop where
  keyLength : (crypto.verifyingKey signingKey).length = 32
  validKey : crypto.validVerifyingKey (crypto.verifyingKey signingKey) = true
  signatureLength : ∀ data, (crypto.sign signingKey data).length = 64
  verifies : ∀ data,
    crypto.verifyStrict (crypto.verifyingKey signingKey) data (crypto.sign signingKey data) = true

variable {crypto}

/-- `verify_signature` accepts what a sound credential signs, under the credential's identity. -/
theorem verifySignature_signed {credential : Credential}
    (sound : SignsSoundly crypto credential.signingKey) (data : Bytes) :
    verifySignature crypto (credential.identity crypto)
      ⟨data, crypto.sign credential.signingKey data⟩ = .ok () := by
  simp [verifySignature, Credential.identity, sound.keyLength, sound.validKey,
    sound.signatureLength, sound.verifies]

/-- What the relay reads from the stream `register_lease` leaves, when the messages round-trip and
the key signs soundly: the signed `LeaseUpdateRequest` for the lease, whose signature
`verify_signature` accepts under the identity inside it. -/
theorem relay_reads_lease_update (self : RelayClient) (name : String) (alpns : List String)
    (now : Int) (nonce : Bytes) (timestamp : Int) (reply rest : Bytes) (relay : Pipe)
    (fits : (codecs.packet.encode (leaseUpdatePacket crypto codecs enums self.credential
      (self.lease crypto name alpns now) nonce timestamp)).length ≤ maxRawPacketSize)
    (packetDecodes : codecs.packet.decode (codecs.packet.encode (leaseUpdatePacket crypto codecs
      enums self.credential (self.lease crypto name alpns now) nonce timestamp)) =
        .ok (leaseUpdatePacket crypto codecs enums self.credential (self.lease crypto name alpns now)
          nonce timestamp))
    (signedDecodes : codecs.signed.decode (codecs.signed.encode (signedLeaseUpdate crypto codecs
      self.credential ⟨some (self.lease crypto name alpns now), nonce, timestamp⟩)) =
        .ok (signedLeaseUpdate crypto codecs self.credential
          ⟨some (self.lease crypto name alpns now), nonce, timestamp⟩))
    (requestDecodes : codecs.leaseUpdateRequest.decode (codecs.leaseUpdateRequest.encode
      ⟨some (self.lease crypto name alpns now), nonce, timestamp⟩) =
        .ok ⟨some (self.lease crypto name alpns now), nonce, timestamp⟩)
    (sound : SignsSoundly crypto self.credential.signingKey) :
    ∃ sent packet signed request lease identity,
      (self.registerLease crypto codecs enums Pipe.io name alpns now (.ok ⟨reply, []⟩) nonce
          timestamp).2.2 = some sent ∧
      readPacketAsync Pipe.io codecs.packet { relay with incoming := sent.outgoing ++ rest } =
        .ok packet { relay with incoming := rest } ∧
      packet.type = enums.packetType .leaseUpdateRequest ∧
      codecs.signed.decode packet.payload = .ok signed ∧
      codecs.leaseUpdateRequest.decode signed.data = .ok request ∧
      request = ⟨some lease, nonce, timestamp⟩ ∧
      lease = ⟨some identity, now + 60, name, alpns⟩ ∧
      identity = self.credential.identity crypto ∧
      verifySignature crypto identity signed = .ok () := by
  have sent := exchange_pipe_outgoing codecs enums
    (leaseUpdatePacket crypto codecs enums self.credential (self.lease crypto name alpns now) nonce
      timestamp) .leaseUpdateResponse reply []
  rw [← resultState_leaseUpdateExchange, List.nil_append] at sent
  refine ⟨_, leaseUpdatePacket crypto codecs enums self.credential (self.lease crypto name alpns now)
    nonce timestamp, _, _, self.lease crypto name alpns now, self.credential.identity crypto,
    registerLease_stream _ _ _ _ _ _ _, ?_, rfl, signedDecodes, requestDecodes, rfl, rfl, rfl,
    verifySignature_signed sound _⟩
  rw [sent]
  exact (Pipe.readPacketAsync_eq_ok_iff codecs.packet).mpr ⟨_, rest, rfl, fits, packetDecodes, rfl⟩

end Relay

/-! ## A relay for the witnesses -/

/-- The packet types numbered in the order `PacketType` lists them, and `Accepted` as 1. -/
def listedEnums : ProtoEnums where
  packetType
    | .relayInfoRequest => 0
    | .relayInfoResponse => 1
    | .leaseUpdateRequest => 2
    | .leaseUpdateResponse => 3
    | .connectionRequest => 4
    | .connectionResponse => 5
  accepted := 1

/-- A codec that writes one byte and reads every payload as `message`. -/
def fixedCodec {Message : Type} (message : Message) : ProtoCodec Message :=
  ⟨fun _ => [0], fun _ => .ok message⟩

/-- A client whose credential signs with `relayKey`, connected to `ws://relay`. -/
def sampleClient : RelayClient :=
  ⟨"ws://relay", Credential.new toyCrypto relayKey, ∅⟩

/-- The request `sampleClient` sends to register `"web"` for HTTP/1.1 at clock 1000. -/
def sampleLeaseRequest : LeaseUpdateRequest :=
  ⟨some (sampleClient.lease toyCrypto "web" ["http/1.1"] 1000), List.replicate 12 0, 1000⟩

/-- Codecs under which every message `sampleClient` sends for that lease decodes back to itself. -/
def sampleCodecs : RelayCodecs where
  packet := fixedCodec ⟨2, [0]⟩
  relayInfoRequest := fixedCodec ⟨⟩
  relayInfoResponse := fixedCodec ⟨none⟩
  leaseUpdateRequest := fixedCodec sampleLeaseRequest
  signed := fixedCodec ⟨[0], relayKey ++ relayKey⟩
  leaseUpdateResponse := fixedCodec ⟨1⟩
  connectionRequest := fixedCodec ⟨"", none⟩
  connectionResponse := fixedCodec ⟨1⟩

/-- `toyCrypto` signs soundly with `relayKey`. -/
theorem relayKey_signsSoundly : SignsSoundly toyCrypto relayKey :=
  ⟨rfl, rfl, fun _ => rfl, fun _ => beq_self_eq_true _⟩

/-- A client made by `RelayClient::connect` keeps at most its last accepted lease. -/
theorem leases_after_run_sample :
    RelayClient.connect "ws://relay" (.ok (⟨[], []⟩ : Pipe)) (Credential.new toyCrypto relayKey) =
        .ok sampleClient ∧
      (sampleClient.run toyCrypto sampleCodecs listedEnums Pipe.io
          [.registerLease "web" ["http/1.1"] 1000 (.ok ⟨[], []⟩) (List.replicate 12 0) 1000,
            .getCredentialId]).serverUrl = "ws://relay" ∧
      (sampleClient.run toyCrypto sampleCodecs listedEnums Pipe.io
          [.registerLease "web" ["http/1.1"] 1000 (.ok ⟨[], []⟩) (List.replicate 12 0) 1000,
            .getCredentialId]).credential = Credential.new toyCrypto relayKey ∧
      (sampleClient.run toyCrypto sampleCodecs listedEnums Pipe.io
          [.registerLease "web" ["http/1.1"] 1000 (.ok ⟨[], []⟩) (List.replicate 12 0) 1000,
            .getCredentialId]).leases =
        match ([RelayCall.registerLease "web" ["http/1.1"] 1000 (.ok (⟨[], []⟩ : Pipe))
              (List.replicate 12 0) 1000, .getCredentialId].filterMap
            (RelayCall.storedLease toyCrypto sampleCodecs listedEnums Pipe.io sampleClient)).getLast? with
        | none => ∅
        | some lease => AList.singleton (Credential.new toyCrypto relayKey).id lease :=
  ⟨rfl, leases_after_run toyCrypto sampleCodecs listedEnums Pipe.io "ws://relay" (.ok ⟨[], []⟩)
    (Credential.new toyCrypto relayKey) sampleClient rfl _⟩

/-- The relay reads back the lease update `sampleClient` sends for `"web"`, whatever it then
replies. -/
theorem relay_reads_sample_lease_update :
    (sampleCodecs.packet.encode (leaseUpdatePacket toyCrypto sampleCodecs listedEnums sampleClient.credential
          (sampleClient.lease toyCrypto "web" ["http/1.1"] 1000) (List.replicate 12 0) 1000)).length ≤ maxRawPacketSize ∧
      sampleCodecs.packet.decode (sampleCodecs.packet.encode (leaseUpdatePacket toyCrypto sampleCodecs listedEnums sampleClient.credential
          (sampleClient.lease toyCrypto "web" ["http/1.1"] 1000) (List.replicate 12 0) 1000)) =
        .ok (leaseUpdatePacket toyCrypto sampleCodecs listedEnums sampleClient.credential
          (sampleClient.lease toyCrypto "web" ["http/1.1"] 1000) (List.replicate 12 0) 1000) ∧
      sampleCodecs.signed.decode (sampleCodecs.signed.encode (signedLeaseUpdate toyCrypto
          sampleCodecs sampleClient.credential sampleLeaseRequest)) =
        .ok (signedLeaseUpdate toyCrypto sampleCodecs sampleClient.credential sampleLeaseRequest) ∧
      sampleCodecs.leaseUpdateRequest.decode (sampleCodecs.leaseUpdateRequest.encode
          sampleLeaseRequest) = .ok sampleLeaseRequest ∧
      SignsSoundly toyCrypto sampleClient.credential.signingKey ∧
      ∃ sent packet signed request lease identity,
        (sampleClient.registerLease toyCrypto sampleCodecs listedEnums Pipe.io "web" ["http/1.1"] 1000
            (.ok ⟨[], []⟩) (List.replicate 12 0) 1000).2.2 = some sent ∧
        readPacketAsync Pipe.io sampleCodecs.packet
            { (⟨[], []⟩ : Pipe) with incoming := sent.outgoing ++ [] } =
          .ok packet { (⟨[], []⟩ : Pipe) with incoming := [] } ∧
        packet.type = listedEnums.packetType .leaseUpdateRequest ∧
        sampleCodecs.signed.decode packet.payload = .ok signed ∧
        sampleCodecs.leaseUpdateRequest.decode signed.data = .ok request ∧
        request = ⟨some lease, List.replicate 12 0, 1000⟩ ∧
        lease = ⟨some identity, 1000 + 60, "web", ["http/1.1"]⟩ ∧
        identity = sampleClient.credential.identity toyCrypto ∧
        verifySignature toyCrypto identity signed = .ok () :=
  ⟨by decide, rfl, rfl, rfl, relayKey_signsSoundly,
    relay_reads_lease_update sampleCodecs listedEnums sampleClient "web" ["http/1.1"] 1000
      (List.replicate 12 0) 1000 [] [] ⟨[], []⟩ (by decide) rfl rfl rfl relayKey_signsSoundly⟩

end PortalTunnel
