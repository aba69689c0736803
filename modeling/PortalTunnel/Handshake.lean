import PortalTunnel.SecureConnection

/-!
# `client_handshake`

The client sends its signed `ClientInitPayload` as one frame, reads one frame back, decodes it
as a `SignedPayload` and its data as a `ServerInitPayload`, checks the version, the identity, the
Ed25519 signature and the length of the server's session key, derives one key per direction by
X25519 and HKDF, and builds the `SecureConnection` with its own nonce as the encrypt counter and
the server's nonce as the decrypt counter.  Both counters are `[u8; 12]`.  The client's nonce is
the twelve bytes `random_bytes(NONCE_SIZE)` returns; the server's is converted with
`try_into().unwrap()`, and no check before it looks at its length.  A call therefore ends in one
of three ways: `Ok`, `Err`, or a panic.

X25519, Ed25519, HKDF and the protobuf codecs are library code and parameters here.
-/

namespace PortalTunnel

/-- `proto::Identity`. -/
structure Identity where
  id : String
  publicKey : Bytes
deriving DecidableEq

/-- `proto::SignedPayload`. -/
structure SignedPayload where
  data : Bytes
  signature : Bytes
deriving DecidableEq

/-- `proto::ClientInitPayload`. -/
structure ClientInitPayload where
  version : Int
  nonce : Bytes
  timestamp : Int
  identity : Option Identity
  alpn : String
  sessionPublicKey : Bytes

/-- `proto::ServerInitPayload`, with the fields `client_handshake` reads. -/
structure ServerInitPayload where
  version : Int
  nonce : Bytes
  identity : Option Identity
  sessionPublicKey : Bytes
deriving DecidableEq

/-- `ProtocolVersion::ProtocolVersion1 as i32`. -/
def protocolVersion1 : Int := 1

/-- `SESSION_KEY_SIZE`. -/
def sessionKeySize : Nat := 32

/-- `CLIENT_KEY_INFO`. -/
def clientKeyInfo : Bytes := "RDSEC_KEY_CLIENT".toUTF8.data.toList

/-- `SERVER_KEY_INFO`. -/
def serverKeyInfo : Bytes := "RDSEC_KEY_SERVER".toUTF8.data.toList

/-- The X25519, Ed25519 and HKDF-SHA256 operations of the handshake, each given by what it
computes from bytes. -/
structure HandshakeCrypto where
  /-- `PublicKey::from(&EphemeralSecret)`. -/
  ephemeralPublic : Bytes → Bytes
  /-- `EphemeralSecret::diffie_hellman`: the shared secret with a peer's public key. -/
  diffieHellman : Bytes → Bytes → Bytes
  /-- `SigningKey::verifying_key().as_bytes()`. -/
  verifyingKey : Bytes → Bytes
  /-- `SigningKey::sign(data).to_bytes()`. -/
  sign : Bytes → Bytes → Bytes
  /-- Whether `VerifyingKey::from_bytes` accepts 32 bytes as a public key. -/
  validVerifyingKey : Bytes → Bool
  /-- `VerifyingKey::verify_strict(data, signature)`. -/
  verifyStrict : Bytes → Bytes → Bytes → Bool
  /-- `Hkdf::<Sha256>::new(Some(salt), ikm)` expanded with `info` into `length` bytes. -/
  hkdf : Bytes → Bytes → Bytes → Nat → Bytes

/-- `encode_message` and `decode_message` for the three handshake messages. -/
structure HandshakeCodecs where
  clientInit : ProtoCodec ClientInitPayload
  signed : ProtoCodec SignedPayload
  serverInit : ProtoCodec ServerInitPayload

/-- `Credential`: a long-term Ed25519 signing key and its id. -/
structure Credential where
  signingKey : Bytes
  id : String

/-- How a call ends: it returns, or it panics with the message the panic prints. -/
inductive Exit (α : Type)
  | returned (result : Except IoError α)
  | panicked (message : String)

/-- What `Result::unwrap` prints when `<[u8; N]>::try_from` refuses a slice. -/
def unwrapTryFromSliceFailed : String :=
  "called `Result::unwrap()` on an `Err` value: TryFromSliceError(())"

section Handshake

variable (crypto : HandshakeCrypto) (codecs : HandshakeCodecs)

/-- `Credential::identity`. -/
def Credential.identity (credential : Credential) : Identity :=
  ⟨credential.id, crypto.verifyingKey credential.signingKey⟩

/-- `verify_signature`: the identity's key must be 32 bytes that `VerifyingKey::from_bytes`
accepts, the signature 64 bytes, and `verify_strict` must accept it over the signed data. -/
def verifySignature (identity : Identity) (signed : SignedPayload) : Except IoError Unit :=
  if identity.publicKey.length ≠ 32 then .error ⟨.invalidData, "invalid public key"⟩
  else if !crypto.validVerifyingKey identity.publicKey then
    .error ⟨.invalidData, "invalid public key"⟩
  else if signed.signature.length ≠ 64 then .error ⟨.invalidData, "invalid signature"⟩
  else if !crypto.verifyStrict identity.publicKey signed.data signed.signature then
    .error ⟨.invalidData, "signature verification failed"⟩
  else .ok ()

/-- `derive_key`. -/
def deriveKey (sharedSecret salt info : Bytes) : Bytes :=
  crypto.hkdf salt sharedSecret info sessionKeySize

/-- The `ClientInitPayload` the client builds. -/
def clientInitPayload (credential : Credential) (alpn : String) (ephemeralSecret : Bytes)
    (clientNonce : Nonce) (timestamp : Int) : ClientInitPayload where
  version := protocolVersion1
  nonce := clientNonce.bytes
  timestamp := timestamp
  identity := some (credential.identity crypto)
  alpn := alpn
  sessionPublicKey := crypto.ephemeralPublic ephemeralSecret

/-- The `SignedPayload` the client sends: the encoded `ClientInitPayload` and its signature. -/
def signedClientInit (clientInit : ClientInitPayload) (credential : Credential) : SignedPayload :=
  let payload := codecs.clientInit.encode clientInit
  ⟨payload, crypto.sign credential.signingKey payload⟩

/-- The frame the client writes first: its signed `ClientInitPayload`, encoded. -/
def clientInitFrame (credential : Credential) (alpn : String) (ephemeralSecret : Bytes)
    (clientNonce : Nonce) (timestamp : Int) : Bytes :=
  codecs.signed.encode (signedClientInit crypto codecs
    (clientInitPayload crypto credential alpn ephemeralSecret clientNonce timestamp) credential)

namespace SecureConnection

variable {T : Type} (io : ByteIo T)

/-- `SecureConnection::client_handshake`, given the ephemeral secret, the twelve bytes
`random_bytes(NONCE_SIZE)` returns and the clock's `unix_timestamp()`.  The transport is dropped
on every `Err`. -/
def clientHandshake (credential : Credential) (alpn : String) (ephemeralSecret : Bytes)
    (clientNonce : Nonce) (timestamp : Int) (conn : T) : Exit (SecureConnection T) :=
  match writeLengthPrefixed io
      (clientInitFrame crypto codecs credential alpn ephemeralSecret clientNonce timestamp) conn with
  | .error e _ => .returned (.error e)
  | .ok () conn =>
  match readLengthPrefixed io conn with
  | .error e _ => .returned (.error e)
  | .ok serverInitBytes conn =>
  match codecs.signed.decode serverInitBytes with
  | .error e => .returned (.error ⟨.invalidData, e⟩)
  | .ok serverSigned =>
  match codecs.serverInit.decode serverSigned.data with
  | .error e => .returned (.error ⟨.invalidData, e⟩)
  | .ok serverInit =>
  if serverInit.version ≠ protocolVersion1 then
    .returned (.error ⟨.invalidData, "invalid protocol version"⟩)
  else
  match serverInit.identity with
  | none => .returned (.error ⟨.invalidData, "missing identity"⟩)
  | some serverIdentity =>
  match verifySignature crypto serverIdentity serverSigned with
  | .error e => .returned (.error e)
  | .ok () =>
  if serverInit.sessionPublicKey.length ≠ 32 then
    .returned (.error ⟨.invalidData, "invalid server public key"⟩)
  else
  let sharedSecret := crypto.diffieHellman ephemeralSecret serverInit.sessionPublicKey
  let encryptKey := deriveKey crypto sharedSecret (clientNonce.bytes ++ serverInit.nonce) clientKeyInfo
  let decryptKey := deriveKey crypto sharedSecret (serverInit.nonce ++ clientNonce.bytes) serverKeyInfo
  if twelve : serverInit.nonce.length = nonceSize then
    .returned (.ok ⟨conn, encryptKey, decryptKey, clientNonce, ⟨serverInit.nonce, twelve⟩⟩)
  else .panicked unwrapTryFromSliceFailed

end SecureConnection

/-! ## What the handshake accepts -/

/-- What `client_handshake` accepts of the relay's frame `serverInitBytes`: it decodes as a
`SignedPayload` whose data decodes as a `ServerInitPayload` of version 1, carrying an identity
whose 32-byte key `VerifyingKey::from_bytes` accepts and under which `verify_strict` accepts the
64-byte signature over the data, and a 32-byte session key. -/
structure ServerInitAccepted (serverInitBytes : Bytes) (serverSigned : SignedPayload)
    (serverInit : ServerInitPayload) : Prop where
  signedDecodes : codecs.signed.decode serverInitBytes = .ok serverSigned
  initDecodes : codecs.serverInit.decode serverSigned.data = .ok serverInit
  version : serverInit.version = protocolVersion1
  identityVerifies : ∃ identity, serverInit.identity = some identity ∧
    identity.publicKey.length = 32 ∧ crypto.validVerifyingKey identity.publicKey = true ∧
    serverSigned.signature.length = 64 ∧
    crypto.verifyStrict identity.publicKey serverSigned.data serverSigned.signature = true
  sessionKey : serverInit.sessionPublicKey.length = 32

theorem verifySignature_eq_ok_iff {identity : Identity} {signed : SignedPayload} :
    verifySignature crypto identity signed = .ok () ↔
      identity.publicKey.length = 32 ∧ crypto.validVerifyingKey identity.publicKey = true ∧
        signed.signature.length = 64 ∧
        crypto.verifyStrict identity.publicKey signed.data signed.signature = true := by
  unfold verifySignature
  by_cases keyLength : identity.publicKey.length = 32 <;>
    by_cases valid : crypto.validVerifyingKey identity.publicKey = true <;>
    by_cases signatureLength : signed.signature.length = 64 <;>
    by_cases verified : crypto.verifyStrict identity.publicKey signed.data signed.signature = true <;>
    simp [keyLength, valid, signatureLength, verified]

/-- The connection a handshake returns once the relay's `ServerInitPayload` is accepted and its
nonce has twelve bytes: the keys derived from the shared secret and the two nonces, the client's
nonce as the encrypt counter and the server's as the decrypt counter. -/
def handshakeConnection {T : Type} (ephemeralSecret : Bytes) (clientNonce : Nonce)
    (serverInit : ServerInitPayload) (twelve : serverInit.nonce.length = nonceSize) (conn : T) :
    SecureConnection T :=
  let sharedSecret := crypto.diffieHellman ephemeralSecret serverInit.sessionPublicKey
  ⟨conn, deriveKey crypto sharedSecret (clientNonce.bytes ++ serverInit.nonce) clientKeyInfo,
    deriveKey crypto sharedSecret (serverInit.nonce ++ clientNonce.bytes) serverKeyInfo,
    clientNonce, ⟨serverInit.nonce, twelve⟩⟩

/-- How a handshake ends once the relay's frame is read and accepted: `Ok` with the connection
when the server's nonce has twelve bytes, and the panic of `unwrap` when it has not. -/
def acceptedExit {T : Type} (ephemeralSecret : Bytes) (clientNonce : Nonce)
    (serverInit : ServerInitPayload) (conn : T) : Exit (SecureConnection T) :=
  if twelve : serverInit.nonce.length = nonceSize then
    .returned (.ok (handshakeConnection crypto ephemeralSecret clientNonce serverInit twelve conn))
  else .panicked unwrapTryFromSliceFailed

namespace SecureConnection

variable {T : Type} (io : ByteIo T) (credential : Credential) (alpn : String)
  (ephemeralSecret : Bytes) (clientNonce : Nonce) (timestamp : Int)

/-- A handshake either returns `Err`, or it wrote its `ClientInit` frame, read a frame the checks
accept, and ends as `acceptedExit` says. -/
theorem clientHandshake_cases (conn : T) :
    (∃ e, clientHandshake crypto codecs io credential alpn ephemeralSecret clientNonce timestamp
        conn = .returned (.error e)) ∨
      ∃ written serverInitBytes read serverSigned serverInit,
        writeLengthPrefixed io
            (clientInitFrame crypto codecs credential alpn ephemeralSecret clientNonce timestamp)
            conn = .ok () written ∧
        readLengthPrefixed io written = .ok serverInitBytes read ∧
        ServerInitAccepted crypto codecs serverInitBytes serverSigned serverInit ∧
        clientHandshake crypto codecs io credential alpn ephemeralSecret clientNonce timestamp conn =
          acceptedExit crypto ephemeralSecret clientNonce serverInit read := by
  generalize outcome : clientHandshake crypto codecs io credential alpn ephemeralSecret clientNonce
    timestamp conn = exit
  unfold clientHandshake at outcome
  split at outcome
  · exact .inl ⟨_, outcome.symm⟩
  rename_i written wrote
  split at outcome
  · exact .inl ⟨_, outcome.symm⟩
  rename_i serverInitBytes read readOk
  split at outcome
  · exact .inl ⟨_, outcome.symm⟩
  rename_i serverSigned signedDecodes
  split at outcome
  · exact .inl ⟨_, outcome.symm⟩
  rename_i serverInit initDecodes
  split at outcome
  · exact .inl ⟨_, outcome.symm⟩
  rename_i version
  split at outcome
  · exact .inl ⟨_, outcome.symm⟩
  rename_i identity identityEq
  split at outcome
  · exact .inl ⟨_, outcome.symm⟩
  rename_i verified
  split at outcome
  · exact .inl ⟨_, outcome.symm⟩
  rename_i sessionKey
  exact .inr ⟨written, serverInitBytes, read, serverSigned, serverInit, wrote, readOk,
    ⟨signedDecodes, initDecodes, not_not.mp version,
      ⟨identity, identityEq, (verifySignature_eq_ok_iff crypto).mp verified⟩,
      not_not.mp sessionKey⟩, outcome.symm⟩

/-- Once the `ClientInit` frame is written and the frame read back is accepted, the handshake
ends as `acceptedExit` says. -/
theorem clientHandshake_of_accepted {conn written read : T} {serverInitBytes : Bytes}
    {serverSigned : SignedPayload} {serverInit : ServerInitPayload}
    (wrote : writeLengthPrefixed io
      (clientInitFrame crypto codecs credential alpn ephemeralSecret clientNonce timestamp)
      conn = .ok () written)
    (readOk : readLengthPrefixed io written = .ok serverInitBytes read)
    (accepted : ServerInitAccepted crypto codecs serverInitBytes serverSigned serverInit) :
    clientHandshake crypto codecs io credential alpn ephemeralSecret clientNonce timestamp conn =
      acceptedExit crypto ephemeralSecret clientNonce serverInit read := by
  obtain ⟨identity, identityEq, verifies⟩ := accepted.identityVerifies
  unfold clientHandshake
  simp only [wrote, readOk, accepted.signedDecodes, accepted.initDecodes,
    accepted.version, identityEq, (verifySignature_eq_ok_iff crypto).mpr verifies,
    accepted.sessionKey, ne_eq, not_true_eq_false, if_false]
  rfl

/-! ## Over the in-memory transport -/

/-- Over the in-memory transport, a handshake whose relay sends `reply` either returns `Err`, or
the reply starts with a frame of at most `2 ^ 26` bytes that the checks accept, and the handshake
ends as `acceptedExit` says, with the `ClientInit` frame sent and the rest of the reply unread. -/
theorem clientHandshake_pipe_cases (reply outgoing : Bytes) :
    (∃ e, clientHandshake crypto codecs Pipe.io credential alpn ephemeralSecret clientNonce
        timestamp ⟨reply, outgoing⟩ = .returned (.error e)) ∨
      ∃ msg rest serverSigned serverInit,
        reply = lengthPrefixed msg ++ rest ∧ msg.length ≤ maxRawPacketSize ∧
        ServerInitAccepted crypto codecs msg serverSigned serverInit ∧
        clientHandshake crypto codecs Pipe.io credential alpn ephemeralSecret clientNonce timestamp
            ⟨reply, outgoing⟩ =
          acceptedExit crypto ephemeralSecret clientNonce serverInit ⟨rest, outgoing ++
            lengthPrefixed (clientInitFrame crypto codecs credential alpn ephemeralSecret
              clientNonce timestamp)⟩ := by
  rcases clientHandshake_cases crypto codecs Pipe.io credential alpn ephemeralSecret clientNonce
      timestamp ⟨reply, outgoing⟩ with
    failed | ⟨written, msg, read, serverSigned, serverInit, wrote, readOk, accepted, exit⟩
  · exact .inl failed
  · rw [Pipe.writeLengthPrefixed_eq] at wrote
    cases wrote
    obtain ⟨rest, replyEq, fits, rfl⟩ := Pipe.readLengthPrefixed_eq_ok_iff.mp readOk
    exact .inr ⟨msg, rest, serverSigned, serverInit, replyEq, fits, accepted, exit⟩

/-- Over the in-memory transport, a reply that starts with an accepted frame of at most `2 ^ 26`
bytes ends the handshake as `acceptedExit` says. -/
theorem clientHandshake_pipe_of_accepted {msg rest outgoing : Bytes} {serverSigned : SignedPayload}
    {serverInit : ServerInitPayload} (fits : msg.length ≤ maxRawPacketSize)
    (accepted : ServerInitAccepted crypto codecs msg serverSigned serverInit) :
    clientHandshake crypto codecs Pipe.io credential alpn ephemeralSecret clientNonce timestamp
        ⟨lengthPrefixed msg ++ rest, outgoing⟩ =
      acceptedExit crypto ephemeralSecret clientNonce serverInit ⟨rest, outgoing ++
        lengthPrefixed (clientInitFrame crypto codecs credential alpn ephemeralSecret
          clientNonce timestamp)⟩ :=
  clientHandshake_of_accepted crypto codecs Pipe.io credential alpn ephemeralSecret clientNonce
    timestamp (Pipe.writeLengthPrefixed_eq _ _)
    (Pipe.readLengthPrefixed_eq_ok_iff.mpr ⟨rest, rfl, fits, rfl⟩) accepted

/-- A relay whose reply passes every check `client_handshake` makes, but whose server nonce does
not have twelve bytes, makes the client panic instead of returning `Err`: nothing guards the
`unwrap` that turns the server's nonce into the decrypt counter. -/
theorem handshake_panics_on_server_nonce {msg rest outgoing : Bytes}
    {serverSigned : SignedPayload} {serverInit : ServerInitPayload}
    (fits : msg.length ≤ maxRawPacketSize)
    (accepted : ServerInitAccepted crypto codecs msg serverSigned serverInit)
    (unchecked : serverInit.nonce.length ≠ nonceSize) :
    clientHandshake crypto codecs Pipe.io credential alpn ephemeralSecret clientNonce timestamp
      ⟨lengthPrefixed msg ++ rest, outgoing⟩ = .panicked unwrapTryFromSliceFailed := by
  rw [clientHandshake_pipe_of_accepted crypto codecs credential alpn ephemeralSecret clientNonce
    timestamp fits accepted]
  exact dif_neg unchecked

/-- Over the in-memory transport, for every reply: the handshake returns `Ok` exactly on an
accepted `ServerInit` frame with a twelve-byte server nonce, counters set from the two nonces,
panics on any other nonce length, and returns `Err` otherwise. -/
theorem clientHandshake_pipe_iff (reply outgoing : Bytes) :
    (∀ connection, clientHandshake crypto codecs Pipe.io credential alpn ephemeralSecret
        clientNonce timestamp ⟨reply, outgoing⟩ = .returned (.ok connection) ↔
      ∃ msg rest serverSigned serverInit, reply = lengthPrefixed msg ++ rest ∧
        msg.length ≤ maxRawPacketSize ∧
        ServerInitAccepted crypto codecs msg serverSigned serverInit ∧
        ∃ twelve : serverInit.nonce.length = nonceSize,
          connection = handshakeConnection crypto ephemeralSecret clientNonce serverInit twelve
            ⟨rest, outgoing ++ lengthPrefixed (clientInitFrame crypto codecs credential alpn
              ephemeralSecret clientNonce timestamp)⟩) ∧
      (∀ message, clientHandshake crypto codecs Pipe.io credential alpn ephemeralSecret
          clientNonce timestamp ⟨reply, outgoing⟩ = .panicked message ↔
        ∃ msg rest serverSigned serverInit, reply = lengthPrefixed msg ++ rest ∧
          msg.length ≤ maxRawPacketSize ∧
          ServerInitAccepted crypto codecs msg serverSigned serverInit ∧
          serverInit.nonce.length ≠ nonceSize ∧ message = unwrapTryFromSliceFailed) ∧
      (clientInitPayload crypto credential alpn ephemeralSecret clientNonce timestamp).nonce =
        clientNonce.bytes := by
  refine ⟨fun connection => ⟨fun returned => ?_, ?_⟩, fun message => ⟨fun panicked => ?_, ?_⟩, rfl⟩
  · rcases clientHandshake_pipe_cases crypto codecs credential alpn ephemeralSecret clientNonce
        timestamp reply outgoing with
      ⟨e, failed⟩ | ⟨msg, rest, serverSigned, serverInit, replyEq, fits, accepted, exit⟩
    · cases failed.symm.trans returned
    · rw [exit, acceptedExit] at returned
      split at returned <;> cases returned
      exact ⟨msg, rest, serverSigned, serverInit, replyEq, fits, accepted, ‹_›, rfl⟩
  · rintro ⟨msg, rest, serverSigned, serverInit, rfl, fits, accepted, twelve, rfl⟩
    rw [clientHandshake_pipe_of_accepted crypto codecs credential alpn ephemeralSecret clientNonce
      timestamp fits accepted, acceptedExit, dif_pos twelve]
  · rcases clientHandshake_pipe_cases crypto codecs credential alpn ephemeralSecret clientNonce
        timestamp reply outgoing with
      ⟨e, failed⟩ | ⟨msg, rest, serverSigned, serverInit, replyEq, fits, accepted, exit⟩
    · cases failed.symm.trans panicked
    · rw [exit, acceptedExit] at panicked
      split at panicked <;> cases panicked
      exact ⟨msg, rest, serverSigned, serverInit, replyEq, fits, accepted, ‹_›, rfl⟩
  · rintro ⟨msg, rest, serverSigned, serverInit, rfl, fits, accepted, unchecked, rfl⟩
    rw [clientHandshake_pipe_of_accepted crypto codecs credential alpn ephemeralSecret clientNonce
      timestamp fits accepted, acceptedExit, dif_neg unchecked]

end SecureConnection

end Handshake

/-- The 32-byte key of a relay. -/
def relayKey : Bytes := List.replicate 32 7

/-- A signature scheme in which a key is its own verifying key and signs anything as the key
twice; `verify_strict` accepts exactly the signatures a key makes.  X25519 and HKDF are left
as concatenations. -/
def toyCrypto : HandshakeCrypto where
  ephemeralPublic secret := secret
  diffieHellman secret peer := secret ++ peer
  verifyingKey key := key
  sign key _ := key ++ key
  validVerifyingKey key := key.length == 32
  verifyStrict key _ signature := signature == key ++ key
  hkdf salt ikm info length := (salt ++ ikm ++ info).take length

/-- The `ServerInitPayload` of a relay that identifies itself by `relayKey` and sends an empty
nonce. -/
def emptyNonceServerInit : ServerInitPayload :=
  ⟨protocolVersion1, [], some ⟨"relay", relayKey⟩, List.replicate 32 9⟩

/-- Codecs under which the relay's frame decodes as its `SignedPayload`, signed with
`relayKey`, and the signed data as `emptyNonceServerInit`. -/
def relayCodecs : HandshakeCodecs where
  clientInit := ⟨fun _ => [], fun _ => .error "unused"⟩
  signed := ⟨fun _ => [], fun _ => .ok ⟨[], relayKey ++ relayKey⟩⟩
  serverInit := ⟨fun _ => [], fun _ => .ok emptyNonceServerInit⟩

/-- A relay that signs an empty-nonce `ServerInitPayload` with its own key makes the client
panic. -/
theorem handshake_panics_on_empty_server_nonce :
    ([] : Bytes).length ≤ maxRawPacketSize ∧
      ServerInitAccepted toyCrypto relayCodecs [] ⟨[], relayKey ++ relayKey⟩ emptyNonceServerInit ∧
      emptyNonceServerInit.nonce.length ≠ nonceSize ∧
      SecureConnection.clientHandshake toyCrypto relayCodecs Pipe.io ⟨[1], "client"⟩ "http" [2]
          (Nonce.ofNat 0) 0 ⟨lengthPrefixed [] ++ [], []⟩ =
        .panicked unwrapTryFromSliceFailed := by
  have accepted : ServerInitAccepted toyCrypto relayCodecs [] ⟨[], relayKey ++ relayKey⟩
      emptyNonceServerInit :=
    ⟨rfl, rfl, rfl, ⟨_, rfl, rfl, by decide, rfl, by decide⟩, rfl⟩
  exact ⟨Nat.zero_le _, accepted, by decide,
    SecureConnection.handshake_panics_on_server_nonce toyCrypto relayCodecs ⟨[1], "client"⟩ "http"
      [2] (Nonce.ofNat 0) 0 (Nat.zero_le _) accepted (by decide)⟩

end PortalTunnel
