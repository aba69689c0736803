import PortalTunnel.Bytes
import PortalTunnel.Frame
import PortalTunnel.SecureConnection
import PortalTunnel.ChannelRun
import PortalTunnel.NonceDiscipline
import PortalTunnel.Delivery
import PortalTunnel.WebSocketStream
import PortalTunnel.ProtocolCodec
import PortalTunnel.ProxyEngine
import PortalTunnel.TunnelLock
import PortalTunnel.FrameReassembly
import PortalTunnel.DataInterpreter
import PortalTunnel.FrameBound
import PortalTunnel.Handshake
import PortalTunnel.WriteFuture
import PortalTunnel.RelayClient
import PortalTunnel.Connect
import PortalTunnel.WebSocketAdapter
import PortalTunnel.TunnelManager
