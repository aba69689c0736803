import PortalTunnel.Bytes

/-!
# The browser packets of `DataInterpreter`

`create_packet` writes a message as a type byte, three reserved zero bytes and the message's
payload; `parse_packet` reads a packet back by its type byte, ignoring the reserved bytes.
`serde_wasm_bindgen`'s conversions between a `Message` and a `JsValue` are left out: here a
message is the Rust value itself, of which only what `create_packet` reads is kept.
`String::from_utf8` is a parameter, its error rendered as `Display` renders it.
-/

namespace PortalTunnel

/-- `Message`, each variant with the fields `create_packet` reads. -/
inductive Message
  | text (data : String)
  | binary (data : Bytes)
  | file (data : Bytes)
  | api (body : Option Bytes)
deriving DecidableEq, Repr

namespace DataInterpreter

/-- `str::as_bytes`: the UTF-8 encoding of a string. -/
def asBytes (text : String) : Bytes := text.toUTF8.data.toList

/-- `parse_packet`. -/
def parsePacket (fromUtf8 : Bytes → Except String String) (data : Bytes) : Except String Message :=
  if data.length < 4 then .error "packet too short"
  else
    let packetType := data.headD 0
    if packetType = 0x01 then
      match fromUtf8 (data.drop 4) with
      | .ok text => .ok (.text text)
      | .error e => .error s!"utf8 error: {e}"
    else if packetType = 0x02 then .ok (.binary (data.drop 4))
    else .error s!"unknown packet type: {packetType}"

/-- `create_packet`. -/
def createPacket : Message → Bytes
  | .text data => [0x01] ++ [0, 0, 0] ++ asBytes data
  | .binary data => [0x02] ++ [0, 0, 0] ++ data
  | .file data => [0x03] ++ [0, 0, 0] ++ data
  | .api body => [0x04] ++ [0, 0, 0] ++ body.getD []

end DataInterpreter

end PortalTunnel
