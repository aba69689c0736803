import PortalTunnel.Bytes

/-!
# The JSON envelope of the proxy protocol

`ProxyPacket` carries an id, a version and a payload that is either a `ProxyRequest` or a
`ProxyResponse`.  Both enums are internally tagged by a `"type"` field and the payload enum is
untagged, so serde reads a payload by trying `ProxyRequest` first and `ProxyResponse` only if
that fails.  The model writes and reads serde's data model, a JSON value: serde_json writes a
value as text and reads the same value back, so its text syntax is left out.  The derived
serializers and deserializers are written out variant by variant, with the field names and
tags of the `#[serde(...)]` attributes.
-/

namespace PortalTunnel

/-- JSON values; the only numbers the protocol writes are unsigned integers. -/
inductive Json
  | null
  | bool (value : Bool)
  | number (value : Nat)
  | string (value : String)
  | array (items : List Json)
  | object (fields : List (String × Json))

/-- `HashMap<String, String>`: its entries in iteration order, each key once. -/
@[ext]
structure StringMap where
  entries : List (String × String)
  nodup : (entries.map Prod.fst).Nodup

namespace StringMap

/-- `HashMap::new`. -/
def empty : StringMap := ⟨[], List.nodup_nil⟩

/-- `HashMap::insert` on the entries: a present key takes the new value in place, a new key
goes last. -/
def insertEntry (key value : String) : List (String × String) → List (String × String)
  | [] => [(key, value)]
  | entry :: rest =>
      if entry.1 = key then (key, value) :: rest else entry :: insertEntry key value rest

theorem insertEntry_keys_of_mem (key value : String) :
    ∀ {entries : List (String × String)}, key ∈ entries.map Prod.fst →
      (insertEntry key value entries).map Prod.fst = entries.map Prod.fst
  | [], present => absurd present (List.not_mem_nil _)
  | entry :: rest, present => by
      by_cases same : entry.1 = key
      · simp [insertEntry, same]
      · have inRest : key ∈ rest.map Prod.fst := by
          simpa [Ne.symm same] using present
        simp [insertEntry, same, insertEntry_keys_of_mem key value inRest]

theorem insertEntry_of_not_mem (key value : String) :
    ∀ {entries : List (String × String)}, key ∉ entries.map Prod.fst →
      insertEntry key value entries = entries ++ [(key, value)]
  | [], _ => rfl
  | entry :: rest, absent => by
      have differs : entry.1 ≠ key := fun same => absent (by simp [same])
      have notInRest : key ∉ rest.map Prod.fst := fun inRest => absent (by simp [inRest])
      simp [insertEntry, differs, insertEntry_of_not_mem key value notInRest]

theorem insertEntry_nodup (key value : String) {entries : List (String × String)}
    (nodup : (entries.map Prod.fst).Nodup) : ((insertEntry key value entries).map Prod.fst).Nodup := by
  by_cases present : key ∈ entries.map Prod.fst
  · rwa [insertEntry_keys_of_mem key value present]
  · rw [insertEntry_of_not_mem key value present, List.map_append]
    exact List.nodup_append.mpr ⟨nodup, List.nodup_singleton key, by simpa using present⟩

/-- `HashMap::insert`. -/
def insert (map : StringMap) (key value : String) : StringMap :=
  ⟨insertEntry key value map.entries, insertEntry_nodup key value map.nodup⟩

end StringMap

/-- `WsData`, tagged by `"data_type"`. -/
inductive WsData
  | text (content : String)
  | binary (content : Bytes)

/-- `ProxyRequest`, tagged by `"type"`. -/
inductive ProxyRequest
  | httpRequest (method url : String) (headers : StringMap) (body : Option Bytes)
  | webSocketOpen (url : String) (protocols : List String)
  | webSocketMessage (tunnelId : String) (data : WsData)
  | webSocketClose (tunnelId : String) (code : UInt16) (reason : String)
  | tcpConnect (host : String) (port : UInt16)
  | tcpData (tunnelId : String) (data : Bytes)
  | tcpClose (tunnelId : String)

/-- `ProxyResponse`, tagged by `"type"`. -/
inductive ProxyResponse
  | httpResponse (status : UInt16) (statusText : String) (headers : StringMap) (body : Bytes)
  | webSocketOpened (tunnelId : String) (protocol : Option String)
  | webSocketMessage (tunnelId : String) (data : WsData)
  | webSocketClosed (tunnelId : String) (code : UInt16) (reason : String)
  | tcpConnected (tunnelId : String)
  | tcpData (tunnelId : String) (data : Bytes)
  | tcpClosed (tunnelId : String)
  | error (requestId : String) (error : String)

/-- `ProxyPayload`, untagged. -/
inductive ProxyPayload
  | request (request : ProxyRequest)
  | response (response : ProxyResponse)

/-- `ProxyPacket`. -/
structure ProxyPacket where
  id : String
  version : UInt8
  payload : ProxyPayload

namespace ProxyPacket

/-- `ProxyPacket::new_request`. -/
def newRequest (id : String) (request : ProxyRequest) : ProxyPacket :=
  ⟨id, 1, .request request⟩

/-- `ProxyPacket::new_response`. -/
def newResponse (id : String) (response : ProxyResponse) : ProxyPacket :=
  ⟨id, 1, .response response⟩

end ProxyPacket

/-! ## Serialization -/

/-- `Vec<u8>` as a JSON array of numbers. -/
def bytesJson (bytes : Bytes) : Json :=
  .array (bytes.map fun byte => .number byte.toNat)

def StringMap.toJson (map : StringMap) : Json :=
  .object (map.entries.map fun entry => (entry.1, .string entry.2))

def WsData.toJson : WsData → Json
  | .text content => .object [("data_type", .string "text"), ("content", .string content)]
  | .binary content => .object [("data_type", .string "binary"), ("content", bytesJson content)]

def ProxyRequest.toJson : ProxyRequest → Json
  | .httpRequest method url headers body =>
      .object [("type", .string "http"), ("method", .string method), ("url", .string url),
        ("headers", headers.toJson), ("body", (body.map bytesJson).getD .null)]
  | .webSocketOpen url protocols =>
      .object [("type", .string "ws_open"), ("url", .string url),
        ("protocols", .array (protocols.map Json.string))]
  | .webSocketMessage tunnelId data =>
      .object [("type", .string "ws_message"), ("tunnel_id", .string tunnelId), ("data", data.toJson)]
  | .webSocketClose tunnelId code reason =>
      .object [("type", .string "ws_close"), ("tunnel_id", .string tunnelId),
        ("code", .number code.toNat), ("reason", .string reason)]
  | .tcpConnect host port =>
      .object [("type", .string "tcp_connect"), ("host", .string host), ("port", .number port.toNat)]
  | .tcpData tunnelId data =>
      .object [("type", .string "tcp_data"), ("tunnel_id", .string tunnelId), ("data", bytesJson data)]
  | .tcpClose tunnelId => .object [("type", .string "tcp_close"), ("tunnel_id", .string tunnelId)]

def ProxyResponse.toJson : ProxyResponse → Json
  | .httpResponse status statusText headers body =>
      .object [("type", .string "http"), ("status", .number status.toNat),
        ("status_text", .string statusText), ("headers", headers.toJson), ("body", bytesJson body)]
  | .webSocketOpened tunnelId protocol =>
      .object [("type", .string "ws_opened"), ("tunnel_id", .string tunnelId),
        ("protocol", (protocol.map Json.string).getD .null)]
  | .webSocketMessage tunnelId data =>
      .object [("type", .string "ws_message"), ("tunnel_id", .string tunnelId), ("data", data.toJson)]
  | .webSocketClosed tunnelId code reason =>
      .object [("type", .string "ws_closed"), ("tunnel_id", .string tunnelId),
        ("code", .number code.toNat), ("reason", .string reason)]
  | .tcpConnected tunnelId => .object [("type", .string "tcp_connected"), ("tunnel_id", .string tunnelId)]
  | .tcpData tunnelId data =>
      .object [("type", .string "tcp_data"), ("tunnel_id", .string tunnelId), ("data", bytesJson data)]
  | .tcpClosed tunnelId => .object [("type", .string "tcp_closed"), ("tunnel_id", .string tunnelId)]
  | .error requestId message =>
      .object [("type", .string "error"), ("request_id", .string requestId), ("error", .string message)]

/-- The untagged payload is written as its variant's content. -/
def ProxyPayload.toJson : ProxyPayload → Json
  | .request content => content.toJson
  | .response content => content.toJson

def ProxyPacket.toJson (packet : ProxyPacket) : Json :=
  .object [("id", .string packet.id), ("version", .number packet.version.toNat),
    ("payload", packet.payload.toJson)]

/-- `ProxyPacket::encode`: `serde_json::to_vec`, which cannot fail on these types. -/
def ProxyPacket.encode (packet : ProxyPacket) : Except String Json :=
  .ok packet.toJson

/-! ## Deserialization

The derived visitors look fields up by name, ignore fields they do not know, read a missing
`Option` field as `None`, and read an internally tagged enum by its tag field first.
-/

namespace Json

def asString : Json → Except String String
  | .string value => .ok value
  | _ => .error "invalid type: expected a string"

def asU8 : Json → Except String UInt8
  | .number value =>
      if value < 256 then .ok (UInt8.ofNat value) else .error "invalid value: expected u8"
  | _ => .error "invalid type: expected u8"

def asU16 : Json → Except String UInt16
  | .number value =>
      if value < 65536 then .ok (UInt16.ofNat value) else .error "invalid value: expected u16"
  | _ => .error "invalid type: expected u16"

/-- A `Vec` read item by item; the first bad item is the error. -/
def asArray (decode : Json → Except String α) : Json → Except String (List α)
  | .array items => items.mapM decode
  | _ => .error "invalid type: expected a sequence"

/-- A `HashMap<String, String>` read entry by entry into a new map. -/
def asStringMap : Json → Except String StringMap
  | .object fields =>
      fields.foldlM (fun map field => do
        let value ← asString field.2
        pure (map.insert field.1 value)) StringMap.empty
  | _ => .error "invalid type: expected a map"

end Json

/-- A required field of a derived struct or struct variant. -/
def requiredField (fields : List (String × Json)) (name : String)
    (decode : Json → Except String α) : Except String α :=
  match fields.lookup name with
  | some value => decode value
  | none => .error s!"missing field {name}"

/-- An `Option` field: missing or null is `None`. -/
def optionalField (fields : List (String × Json)) (name : String)
    (decode : Json → Except String α) : Except String (Option α) :=
  match fields.lookup name with
  | none | some .null => .ok none
  | some value => some <$> decode value

def WsData.decode : Json → Except String WsData
  | .object fields =>
      match fields.lookup "data_type" with
      | some (.string "text") => WsData.text <$> requiredField fields "content" Json.asString
      | some (.string "binary") =>
          WsData.binary <$> requiredField fields "content" (Json.asArray Json.asU8)
      | some (.string tag) => .error s!"unknown variant {tag}"
      | some _ => .error "invalid type: expected a variant tag"
      | none => .error "missing field data_type"
  | _ => .error "invalid type: expected internally tagged enum WsData"

def ProxyRequest.decode : Json → Except String ProxyRequest
  | .object fields =>
      match fields.lookup "type" with
      | some (.string "http") => do
          let method ← requiredField fields "method" Json.asString
          let url ← requiredField fields "url" Json.asString
          let headers ← requiredField fields "headers" Json.asStringMap
          let body ← optionalField fields "body" (Json.asArray Json.asU8)
          pure (.httpRequest method url headers body)
      | some (.string "ws_open") => do
          let url ← requiredField fields "url" Json.asString
          let protocols ← requiredField fields "protocols" (Json.asArray Json.asString)
          pure (.webSocketOpen url protocols)
      | some (.string "ws_message") => do
          let tunnelId ← requiredField fields "tunnel_id" Json.asString
          let data ← requiredField fields "data" WsData.decode
          pure (.webSocketMessage tunnelId data)
      | some (.string "ws_close") => do
          let tunnelId ← requiredField fields "tunnel_id" Json.asString
          let code ← requiredField fields "code" Json.asU16
          let reason ← requiredField fields "reason" Json.asString
          pure (.webSocketClose tunnelId code reason)
      | some (.string "tcp_connect") => do
          let host ← requiredField fields "host" Json.asString
          let port ← requiredField fields "port" Json.asU16
          pure (.tcpConnect host port)
      | some (.string "tcp_data") => do
          let tunnelId ← requiredField fields "tunnel_id" Json.asString
          let data ← requiredField fields "data" (Json.asArray Json.asU8)
          pure (.tcpData tunnelId data)
      | some (.string "tcp_close") => .tcpClose <$> requiredField fields "tunnel_id" Json.asString
      | some (.string tag) => .error s!"unknown variant {tag}"
      | some _ => .error "invalid type: expected a variant tag"
      | none => .error "missing field type"
  | _ => .error "invalid type: expected internally tagged enum ProxyRequest"

def ProxyResponse.decode : Json → Except String ProxyResponse
  | .object fields =>
      match fields.lookup "type" with
      | some (.string "http") => do
          let status ← requiredField fields "status" Json.asU16
          let statusText ← requiredField fields "status_text" Json.asString
          let headers ← requiredField fields "headers" Json.asStringMap
          let body ← requiredField fields "body" (Json.asArray Json.asU8)
          pure (.httpResponse status statusText headers body)
      | some (.string "ws_opened") => do
          let tunnelId ← requiredField fields "tunnel_id" Json.asString
          let protocol ← optionalField fields "protocol" Json.asString
          pure (.webSocketOpened tunnelId protocol)
      | some (.string "ws_message") => do
          let tunnelId ← requiredField fields "tunnel_id" Json.asString
          let data ← requiredField fields "data" WsData.decode
          pure (.webSocketMessage tunnelId data)
      | some (.string "ws_closed") => do
          let tunnelId ← requiredField fields "tunnel_id" Json.asString
          let code ← requiredField fields "code" Json.asU16
          let reason ← requiredField fields "reason" Json.asString
          pure (.webSocketClosed tunnelId code reason)
      | some (.string "tcp_connected") =>
          .tcpConnected <$> requiredField fields "tunnel_id" Json.asString
      | some (.string "tcp_data") => do
          let tunnelId ← requiredField fields "tunnel_id" Json.asString
          let data ← requiredField fields "data" (Json.asArray Json.asU8)
          pure (.tcpData tunnelId data)
      | some (.string "tcp_closed") => .tcpClosed <$> requiredField fields "tunnel_id" Json.asString
      | some (.string "error") => do
          let requestId ← requiredField fields "request_id" Json.asString
          let message ← requiredField fields "error" Json.asString
          pure (.error requestId message)
      | some (.string tag) => .error s!"unknown variant {tag}"
      | some _ => .error "invalid type: expected a variant tag"
      | none => .error "missing field type"
  | _ => .error "invalid type: expected internally tagged enum ProxyResponse"

/-- The untagged payload: the first variant whose deserializer accepts the value. -/
def ProxyPayload.decode (json : Json) : Except String ProxyPayload :=
  match ProxyRequest.decode json with
  | .ok decoded => .ok (.request decoded)
  | .error _ =>
      match ProxyResponse.decode json with
      | .ok decoded => .ok (.response decoded)
      | .error _ => .error "data did not match any variant of untagged enum ProxyPayload"

namespace ProxyPacket

def decodeJson : Json → Except String ProxyPacket
  | .object fields => do
      let id ← requiredField fields "id" Json.asString
      let version ← requiredField fields "version" Json.asU8
      let payload ← requiredField fields "payload" ProxyPayload.decode
      pure ⟨id, version, payload⟩
  | _ => .error "invalid type: expected struct ProxyPacket"

/-- `ProxyPacket::decode`. -/
def decode (data : Json) : Except String ProxyPacket :=
  match decodeJson data with
  | .ok packet => .ok packet
  | .error e => .error s!"failed to decode packet: {e}"

end ProxyPacket

/-- `Tunnel::receive_response` after its read: decode the packet and accept only a response. -/
def Tunnel.acceptResponse (data : Json) : Except String ProxyResponse := do
  let packet ← ProxyPacket.decode data
  match packet.payload with
  | .response response => pure response
  | _ => throw "unexpected packet type"

/-! ## Reading back what was written -/

@[simp]
theorem except_ok_bind {ε α β : Type} (value : α) (next : α → Except ε β) :
    (Except.ok value >>= next) = next value := rfl

@[simp]
theorem except_error_bind {ε α β : Type} (error : ε) (next : α → Except ε β) :
    (Except.error error >>= next) = .error error := rfl

@[simp]
theorem except_map_ok {ε α β : Type} (f : α → β) (value : α) :
    (f <$> (Except.ok value : Except ε α)) = .ok (f value) := rfl

namespace Json

@[simp]
theorem asString_string (value : String) : asString (.string value) = .ok value := rfl

@[simp]
theorem asU8_number (byte : UInt8) : asU8 (.number byte.toNat) = .ok byte := by
  have fits := byte.toNat_lt_size
  simp only [asU8, show byte.toNat < 256 from fits, if_true,
    UInt8.toNat.inj (UInt8.toNat_ofNat_of_lt fits)]

@[simp]
theorem asU16_number (value : UInt16) : asU16 (.number value.toNat) = .ok value := by
  have fits := value.toNat_lt_size
  simp only [asU16, show value.toNat < 65536 from fits, if_true,
    UInt16.toNat.inj (UInt16.toNat_ofNat_of_lt fits)]

/-- A sequence reads back item by item when each item does. -/
theorem asArray_map {decode : Json → Except String α} {encode : α → Json}
    (roundTrip : ∀ item, decode (encode item) = .ok item) (items : List α) :
    asArray decode (.array (items.map encode)) = .ok items := by
  induction items with
  | nil => rfl
  | cons item rest ih =>
      simp only [asArray, List.map_cons] at ih ⊢
      rw [List.mapM_cons, roundTrip, ih]
      rfl

@[simp]
theorem asArray_bytesJson (bytes : Bytes) : asArray asU8 (bytesJson bytes) = .ok bytes :=
  asArray_map asU8_number bytes

@[simp]
theorem asArray_strings (items : List String) :
    asArray asString (.array (items.map Json.string)) = .ok items :=
  asArray_map asString_string items

/-- Inserting entries with fresh keys one by one appends them. -/
theorem foldlM_insert_fresh (entries : List (String × String)) (map : StringMap)
    (fresh : ((map.entries ++ entries).map Prod.fst).Nodup) :
    (entries.map fun entry => (entry.1, Json.string entry.2)).foldlM
        (fun map field => do
          let value ← asString field.2
          pure (map.insert field.1 value)) map
      = .ok ⟨map.entries ++ entries, fresh⟩ := by
  induction entries generalizing map with
  | nil =>
      show Except.ok map = _
      congr 1
      ext1
      simp
  | cons entry rest ih =>
      have notMem : entry.1 ∉ map.entries.map Prod.fst := by
        simp only [List.map_append, List.map_cons, List.nodup_append, List.disjoint_cons_right]
          at fresh
        exact fresh.2.2.1
      have inserted : (map.insert entry.1 entry.2).entries = map.entries ++ [entry] := by
        simp [StringMap.insert, StringMap.insertEntry_of_not_mem _ _ notMem]
      simp only [List.map_cons, List.foldlM_cons, asString_string]
      have restFresh : (((map.insert entry.1 entry.2).entries ++ rest).map Prod.fst).Nodup := by
        simpa [inserted] using fresh
      show List.foldlM _ (map.insert entry.1 entry.2) _ = _
      rw [ih _ restFresh]
      congr 1
      ext1
      simp [inserted]

@[simp]
theorem asStringMap_toJson (map : StringMap) : asStringMap map.toJson = .ok map := by
  simpa [asStringMap, StringMap.toJson, StringMap.empty] using
    foldlM_insert_fresh map.entries StringMap.empty map.nodup

end Json

@[simp]
theorem WsData.decode_toJson (data : WsData) : WsData.decode data.toJson = .ok data := by
  cases data <;> simp [toJson, decode, requiredField, List.lookup]

@[simp]
theorem ProxyRequest.decode_toJson (request : ProxyRequest) :
    ProxyRequest.decode request.toJson = .ok request := by
  cases request
  case httpRequest method url headers body =>
    cases body <;> simp [toJson, decode, requiredField, optionalField, List.lookup, bytesJson,
      Json.asArray_map Json.asU8_number]
  all_goals simp [toJson, decode, requiredField, List.lookup]

@[simp]
theorem ProxyResponse.decode_toJson (response : ProxyResponse) :
    ProxyResponse.decode response.toJson = .ok response := by
  cases response
  case webSocketOpened tunnelId protocol =>
    cases protocol <;> simp [toJson, decode, requiredField, optionalField, List.lookup]
  all_goals simp [toJson, decode, requiredField, List.lookup]

/-- The request variant that shares a response variant's tag and field names, if any. -/
def ProxyResponse.asRequest : ProxyResponse → Option ProxyRequest
  | .webSocketMessage tunnelId data => some (.webSocketMessage tunnelId data)
  | .tcpData tunnelId data => some (.tcpData tunnelId data)
  | _ => none

/-- A written response reads as a request exactly when a request variant shares its tag and
fields: the tags `"ws_message"` and `"tcp_data"`.  The other shared tag, `"http"`, names
request and response variants with different required fields. -/
theorem ProxyRequest.decode_response (response : ProxyResponse) :
    (ProxyRequest.decode response.toJson).toOption = response.asRequest := by
  cases response <;> simp [ProxyResponse.toJson, decode, requiredField, ProxyResponse.asRequest,
    Except.toOption, List.lookup]

/-- The payload the untagged enum reads back from a written one. -/
def ProxyPayload.readBack : ProxyPayload → ProxyPayload
  | .request sent => .request sent
  | .response written => (written.asRequest.map ProxyPayload.request).getD (.response written)

theorem ProxyPayload.decode_toJson (payload : ProxyPayload) :
    ProxyPayload.decode payload.toJson = .ok payload.readBack := by
  cases payload with
  | request sent => simp [decode, toJson, readBack]
  | response written =>
      have readsAs := ProxyRequest.decode_response written
      simp only [decode, toJson, readBack]
      cases decoded : ProxyRequest.decode written.toJson with
      | ok request =>
          simp only [decoded, Except.toOption] at readsAs
          simp [← readsAs]
      | error _ =>
          simp only [decoded, Except.toOption] at readsAs
          simp [← readsAs]

theorem ProxyPacket.decode_toJson (packet : ProxyPacket) :
    ProxyPacket.decode packet.toJson = .ok { packet with payload := packet.payload.readBack } := by
  simp [decode, decodeJson, toJson, requiredField, List.lookup, ProxyPayload.decode_toJson]

/-- Decoding an encoded packet keeps its id and version and reads its payload back. -/
theorem ProxyPacket.decode_encode (packet : ProxyPacket) :
    (packet.encode >>= ProxyPacket.decode) = .ok { packet with payload := packet.payload.readBack } :=
  decode_toJson packet

/-- Every request packet survives the envelope. -/
theorem ProxyPacket.decode_encode_newRequest (id : String) (request : ProxyRequest) :
    ((newRequest id request).encode >>= ProxyPacket.decode) = .ok (newRequest id request) :=
  decode_toJson (newRequest id request)

/-- A peer's encoded response is accepted by the tunnel exactly when it does not read back as a
request. -/
theorem Tunnel.acceptResponse_encode (id : String) (response : ProxyResponse) :
    ((ProxyPacket.newResponse id response).encode >>= Tunnel.acceptResponse)
      = match response.asRequest with
        | some _ => .error "unexpected packet type"
        | none => .ok response := by
  show acceptResponse (ProxyPacket.newResponse id response).toJson = _
  simp only [acceptResponse, ProxyPacket.decode_toJson, ProxyPacket.newResponse,
    ProxyPayload.readBack]
  cases response.asRequest <;> rfl

/-- A WebSocket message sent back by the peer decodes as a request, and the tunnel rejects it. -/
theorem ws_message_response_read_as_request :
    ((ProxyPacket.newResponse "1" (.webSocketMessage "t" (.text "hi"))).encode
        >>= ProxyPacket.decode) = .ok (ProxyPacket.newRequest "1" (.webSocketMessage "t" (.text "hi")))
      ∧ ((ProxyPacket.newResponse "1" (.webSocketMessage "t" (.text "hi"))).encode
        >>= Tunnel.acceptResponse) = .error "unexpected packet type" :=
  ⟨ProxyPacket.decode_encode _, Tunnel.acceptResponse_encode _ _⟩

end PortalTunnel
