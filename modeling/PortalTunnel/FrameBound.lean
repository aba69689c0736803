import PortalTunnel.SecureConnection

/-!
# The frame writers against the readers' bound

`proto/mod.rs` has its own copy of the frame codec for `Packet`s: `write_packet_async` encodes
the packet and writes it as `write_length_prefixed` writes a payload, and `read_packet_async`
reads a frame as `read_length_prefixed` does and then decodes it.  Both readers refuse a
length above `2 ^ 26`, but neither writer compares its payload's length with that bound: each
writes `len as u32` and then the whole payload.  Over the in-memory transport this file relates
what each writer emits to what the matching reader returns from it, for every payload.
-/

namespace PortalTunnel

section PacketCodec

variable {σ : Type} (io : ByteIo σ) {Packet : Type} (codec : ProtoCodec Packet)

/-- The `MAX_PACKET_SIZE` of `read_packet_async`. -/
def maxPacketSize : Nat := 2 ^ 26

/-- `write_packet_async`. -/
def writePacketAsync (packet : Packet) : EStateM IoError σ Unit := do
  let payload := codec.encode packet
  let len := payload.length % 2 ^ 32
  io.writeAll (beBytes 4 len)
  io.writeAll payload
  io.flush

/-- `read_packet_async`. -/
def readPacketAsync : EStateM IoError σ Packet := do
  let lenBuf ← io.readExact 4
  let len := beValue lenBuf
  if len > maxPacketSize then
    throw ⟨.invalidData, "packet too large"⟩
  let payload ← io.readExact len
  match codec.decode payload with
  | .ok packet => pure packet
  | .error e => throw ⟨.invalidData, e⟩

/-- `write_packet_async` writes the packet's encoding as `write_length_prefixed` writes a payload. -/
theorem writePacketAsync_eq (packet : Packet) :
    writePacketAsync io codec packet = writeLengthPrefixed io (codec.encode packet) := rfl

/-- `read_packet_async` reads a frame as `read_length_prefixed` does, and decodes it. -/
theorem readPacketAsync_eq (state : σ) :
    readPacketAsync io codec state =
      match readLengthPrefixed io state with
      | .ok payload state =>
          match codec.decode payload with
          | .ok packet => .ok packet state
          | .error e => .error ⟨.invalidData, e⟩ state
      | .error e state => .error e state := by
  simp only [readPacketAsync, readLengthPrefixed, bind, EStateM.bind, maxPacketSize,
    maxRawPacketSize]
  rcases io.readExact 4 state with ⟨lenBuf, state⟩ | ⟨e, state⟩
  · by_cases large : beValue lenBuf > 2 ^ 26
    · simp only [if_pos large]
      rfl
    · simp only [if_neg large, EStateM.bind, pure, EStateM.pure]
      rcases io.readExact (beValue lenBuf) state with ⟨payload, state⟩ | ⟨e, state⟩
      · dsimp only
        cases codec.decode payload <;> rfl
      · rfl
  · rfl

end PacketCodec

namespace Pipe

variable {Packet : Type} (codec : ProtoCodec Packet)

/-- The pipe's `write_packet_async` appends exactly the frame of the packet's encoding. -/
theorem writePacketAsync_eq (packet : Packet) (pipe : Pipe) :
    writePacketAsync io codec packet pipe =
      .ok () { pipe with outgoing := pipe.outgoing ++ lengthPrefixed (codec.encode packet) } :=
  writeLengthPrefixed_eq _ pipe

/-- Reading a frame as the writers emit it: its length field reads back as the payload's length
modulo `2 ^ 32`, which the reader compares with the bound and then reads that many bytes. -/
theorem readLengthPrefixed_lengthPrefixed (data rest : Bytes) (pipe : Pipe) :
    readLengthPrefixed io { pipe with incoming := lengthPrefixed data ++ rest } =
      if data.length % 2 ^ 32 > maxRawPacketSize then
        .error ⟨.invalidData, "packet too large"⟩ { pipe with incoming := data ++ rest }
      else io.readExact (data.length % 2 ^ 32) { pipe with incoming := data ++ rest } := by
  have frameFirst : 4 ≤ (lengthPrefixed data).length := by
    rw [lengthPrefixed_length]
    omega
  have lengthField : beValue ((lengthPrefixed data ++ rest).take 4) = data.length % 2 ^ 32 := by
    rw [List.take_append_of_le_length frameFirst, lengthPrefixed_take_four, beValue_beBytes]
    rfl
  have payload : (lengthPrefixed data ++ rest).drop 4 = data ++ rest := by
    rw [List.drop_append_of_le_length frameFirst, lengthPrefixed_drop_four]
  rw [readLengthPrefixed_of_four_le (frameFirst.trans (by simp)), lengthField, payload]

/-- A payload within the bound is read back whole, and the frame is all the reader consumes. -/
theorem readLengthPrefixed_lengthPrefixed_of_le {data : Bytes} (fits : data.length ≤ maxRawPacketSize)
    (rest : Bytes) (pipe : Pipe) :
    readLengthPrefixed io { pipe with incoming := lengthPrefixed data ++ rest } =
      .ok data { pipe with incoming := rest } := by
  have below : data.length < 2 ^ 32 := by unfold maxRawPacketSize at fits; omega
  rw [readLengthPrefixed_lengthPrefixed, Nat.mod_eq_of_lt below, if_neg (Nat.not_lt.mpr fits),
    readExact_of_le (by simp)]
  simp

/-- The pipe's `read_packet_async` returns a packet exactly when the arrived bytes start with a
frame of at most `2 ^ 26` bytes that decodes to it, and then it consumes only that frame. -/
theorem readPacketAsync_eq_ok_iff {pipe pipe' : Pipe} {packet : Packet} :
    readPacketAsync io codec pipe = .ok packet pipe' ↔
      ∃ msg rest, pipe.incoming = lengthPrefixed msg ++ rest ∧ msg.length ≤ maxRawPacketSize ∧
        codec.decode msg = .ok packet ∧ pipe' = { pipe with incoming := rest } := by
  rw [readPacketAsync_eq]
  constructor
  · intro read
    split at read
    · rename_i msg state lengthOk
      obtain ⟨rest, incomingEq, fits, rfl⟩ := readLengthPrefixed_eq_ok_iff.mp lengthOk
      split at read <;> cases read
      exact ⟨msg, rest, incomingEq, fits, ‹_›, rfl⟩
    · cases read
  · rintro ⟨msg, rest, incomingEq, fits, decoded, rfl⟩
    rw [readLengthPrefixed_eq_ok_iff.mpr ⟨rest, incomingEq, fits, rfl⟩]
    simp only [decoded]

/-- Reading a packet never touches what was written. -/
theorem readPacketAsync_outgoing (pipe : Pipe) :
    (resultState (readPacketAsync io codec pipe)).outgoing = pipe.outgoing := by
  have unread := readLengthPrefixed_outgoing pipe
  rw [readPacketAsync_eq]
  generalize readLengthPrefixed io pipe = read at unread
  rcases read with ⟨msg, state⟩ | ⟨e, state⟩
  · dsimp only
    cases codec.decode msg <;> exact unread
  · exact unread

end Pipe

variable {Packet : Type} (codec : ProtoCodec Packet)

/-- Over the in-memory transport each writer emits its whole frame, and its reader reads the
frame back, consuming exactly it, if and only if the payload has at most `2 ^ 26` bytes. -/
theorem frame_round_trip (data rest : Bytes) (packet : Packet) (pipe : Pipe) :
    writeLengthPrefixed Pipe.io data pipe =
        .ok () { pipe with outgoing := pipe.outgoing ++ lengthPrefixed data } ∧
      (readLengthPrefixed Pipe.io { pipe with incoming := lengthPrefixed data ++ rest } =
          .ok data { pipe with incoming := rest } ↔ data.length ≤ maxRawPacketSize) ∧
      writePacketAsync Pipe.io codec packet pipe =
        .ok () { pipe with outgoing := pipe.outgoing ++ lengthPrefixed (codec.encode packet) } ∧
      ((codec.encode packet).length ≤ maxRawPacketSize →
        readPacketAsync Pipe.io codec { pipe with incoming := lengthPrefixed (codec.encode packet) ++ rest } =
          match codec.decode (codec.encode packet) with
          | .ok decoded => .ok decoded { pipe with incoming := rest }
          | .error e => .error ⟨.invalidData, e⟩ { pipe with incoming := rest }) := by
  refine ⟨Pipe.writeLengthPrefixed_eq data pipe, ⟨fun read => ?_, fun fits =>
    Pipe.readLengthPrefixed_lengthPrefixed_of_le fits rest pipe⟩,
    Pipe.writePacketAsync_eq codec packet pipe, fun fits => ?_⟩
  · obtain ⟨_, _, fits, _⟩ := Pipe.readLengthPrefixed_eq_ok_iff.mp read
    exact fits
  · rw [readPacketAsync_eq, Pipe.readLengthPrefixed_lengthPrefixed_of_le fits]

/-- Neither writer keeps to the readers' bound: a payload whose `u32` length is above `2 ^ 26`
(on the 32-bit target, every payload longer than `2 ^ 26` bytes) is emitted whole and the
writer returns `Ok`, while the matching reader refuses the frame as too large. -/
theorem oversized_frame_emitted (data rest : Bytes) (packet : Packet) (pipe : Pipe)
    (oversized : maxRawPacketSize < data.length % 2 ^ 32)
    (packetOversized : maxRawPacketSize < (codec.encode packet).length % 2 ^ 32) :
    writeLengthPrefixed Pipe.io data pipe =
        .ok () { pipe with outgoing := pipe.outgoing ++ lengthPrefixed data } ∧
      readLengthPrefixed Pipe.io { pipe with incoming := lengthPrefixed data ++ rest } =
        .error ⟨.invalidData, "packet too large"⟩ { pipe with incoming := data ++ rest } ∧
      writePacketAsync Pipe.io codec packet pipe =
        .ok () { pipe with outgoing := pipe.outgoing ++ lengthPrefixed (codec.encode packet) } ∧
      readPacketAsync Pipe.io codec { pipe with incoming := lengthPrefixed (codec.encode packet) ++ rest } =
        .error ⟨.invalidData, "packet too large"⟩
          { pipe with incoming := codec.encode packet ++ rest } := by
  refine ⟨Pipe.writeLengthPrefixed_eq data pipe, ?_, Pipe.writePacketAsync_eq codec packet pipe, ?_⟩
  · rw [Pipe.readLengthPrefixed_lengthPrefixed, if_pos oversized]
  · rw [readPacketAsync_eq, Pipe.readLengthPrefixed_lengthPrefixed, if_pos packetOversized]

/-- A message whose encoding is its bytes. -/
def bytesCodec : ProtoCodec Bytes := ⟨fun bytes => bytes, .ok⟩

@[simp]
theorem bytesCodec_encode (bytes : Bytes) : bytesCodec.encode bytes = bytes := rfl

/-- A payload of `2 ^ 26 + 1` zero bytes, written by both writers, is refused by both readers. -/
theorem oversized_frame_emitted_one_past :
    maxRawPacketSize < (List.replicate (maxRawPacketSize + 1) (0 : UInt8)).length % 2 ^ 32 ∧
      maxRawPacketSize <
        (bytesCodec.encode (List.replicate (maxRawPacketSize + 1) 0)).length % 2 ^ 32 ∧
      writeLengthPrefixed Pipe.io (List.replicate (maxRawPacketSize + 1) 0) ⟨[], []⟩ =
        .ok () ⟨[], [] ++ lengthPrefixed (List.replicate (maxRawPacketSize + 1) 0)⟩ ∧
      readLengthPrefixed Pipe.io ⟨lengthPrefixed (List.replicate (maxRawPacketSize + 1) 0) ++ [], []⟩ =
        .error ⟨.invalidData, "packet too large"⟩ ⟨List.replicate (maxRawPacketSize + 1) 0 ++ [], []⟩ ∧
      writePacketAsync Pipe.io bytesCodec (List.replicate (maxRawPacketSize + 1) 0) ⟨[], []⟩ =
        .ok () ⟨[], [] ++ lengthPrefixed (bytesCodec.encode (List.replicate (maxRawPacketSize + 1) 0))⟩ ∧
      readPacketAsync Pipe.io bytesCodec
          ⟨lengthPrefixed (bytesCodec.encode (List.replicate (maxRawPacketSize + 1) 0)) ++ [], []⟩ =
        .error ⟨.invalidData, "packet too large"⟩
          ⟨bytesCodec.encode (List.replicate (maxRawPacketSize + 1) 0) ++ [], []⟩ := by
  have oversized : maxRawPacketSize < (List.replicate (maxRawPacketSize + 1) (0 : UInt8)).length % 2 ^ 32 := by
    rw [List.length_replicate]
    norm_num [maxRawPacketSize]
  have packetOversized : maxRawPacketSize <
      (bytesCodec.encode (List.replicate (maxRawPacketSize + 1) 0)).length % 2 ^ 32 := by
    rw [bytesCodec_encode]
    exact oversized
  exact ⟨oversized, packetOversized,
    oversized_frame_emitted bytesCodec _ [] _ ⟨[], []⟩ oversized packetOversized⟩

end PortalTunnel
