import PortalTunnel.Bytes

/-!
# The length-prefixed frame codec

`write_length_prefixed` emits a big-endian `u32` length and then the payload;
`read_length_prefixed` reads four bytes, refuses lengths above `MAX_RAW_PACKET_SIZE` and then
reads exactly that many bytes.  Both are generic in the transport `T`; the model takes the
awaited results of `read_exact`, `write_all` and `flush` as a record `ByteIo`, and writes the
two functions in `EStateM`, which keeps the transport's state on an error just as the
`&mut` borrow does.  `Pipe` is an in-memory reliable transport, used to run the channel over
arbitrary incoming bytes.
-/

namespace PortalTunnel

/-- The `io::ErrorKind`s the tunnel core raises. -/
inductive ErrorKind
  | invalidData
  | unexpectedEof
  | brokenPipe
  | writeZero
  | other
deriving DecidableEq, Repr

/-- `io::Error`: a kind and the text it displays. -/
structure IoError where
  kind : ErrorKind
  message : String
deriving DecidableEq, Repr

/-- The error `read_exact` returns when the stream ends before the buffer is full. -/
def unexpectedEof : IoError := ⟨.unexpectedEof, "unexpected end of file"⟩

/-- The awaited results of the `AsyncReadExt`/`AsyncWriteExt` combinators on a transport
whose state is `σ`. -/
structure ByteIo (σ : Type) where
  readExact : Nat → EStateM IoError σ Bytes
  writeAll : Bytes → EStateM IoError σ Unit
  flush : EStateM IoError σ Unit

/-- The state a call leaves behind, whether it returned `Ok` or `Err`. -/
def resultState {ε σ α : Type} : EStateM.Result ε σ α → σ
  | .ok _ state => state
  | .error _ state => state

/-- The value a call returned. -/
def resultValue {ε σ α : Type} : EStateM.Result ε σ α → Except ε α
  | .ok value _ => .ok value
  | .error e _ => .error e

/-- `MAX_RAW_PACKET_SIZE`. -/
def maxRawPacketSize : Nat := 2 ^ 26

/-- The bytes `write_length_prefixed` emits for a payload. -/
def lengthPrefixed (data : Bytes) : Bytes :=
  beBytes 4 data.length ++ data

theorem lengthPrefixed_length (data : Bytes) : (lengthPrefixed data).length = 4 + data.length := by
  simp [lengthPrefixed, beBytes_length]

@[simp]
theorem lengthPrefixed_take_four (data : Bytes) : (lengthPrefixed data).take 4 = beBytes 4 data.length :=
  List.take_left' (beBytes_length 4 _)

@[simp]
theorem lengthPrefixed_drop_four (data : Bytes) : (lengthPrefixed data).drop 4 = data :=
  List.drop_left' (beBytes_length 4 _)

/-- The length field of a frame of at most `MAX_RAW_PACKET_SIZE` bytes reads back as its length. -/
theorem beValue_length_prefix {data : Bytes} (fits : data.length ≤ maxRawPacketSize) :
    beValue (beBytes 4 data.length) = data.length := by
  rw [beValue_beBytes, Nat.mod_eq_of_lt]
  unfold maxRawPacketSize at fits
  omega

section Codec

variable {σ : Type} (io : ByteIo σ)

/-- `write_length_prefixed`. -/
def writeLengthPrefixed (data : Bytes) : EStateM IoError σ Unit := do
  let len := data.length % 2 ^ 32
  io.writeAll (beBytes 4 len)
  io.writeAll data
  io.flush

/-- `read_length_prefixed`. -/
def readLengthPrefixed : EStateM IoError σ Bytes := do
  let lenBuf ← io.readExact 4
  let len := beValue lenBuf
  if len > maxRawPacketSize then
    throw ⟨.invalidData, "packet too large"⟩
  io.readExact len

end Codec

/-! ## An in-memory transport -/

/-- A reliable in-order transport: the bytes that have arrived and not been read yet, and
every byte written so far. -/
structure Pipe where
  incoming : Bytes
  outgoing : Bytes

namespace Pipe

/-- `read_exact` over the arrived bytes, which fails with `UnexpectedEof` after consuming
them all when too few have arrived; writes append to `outgoing`. -/
def io : ByteIo Pipe where
  readExact count := fun pipe =>
    if count ≤ pipe.incoming.length then
      .ok (pipe.incoming.take count) { pipe with incoming := pipe.incoming.drop count }
    else
      .error unexpectedEof { pipe with incoming := [] }
  writeAll data := fun pipe => .ok () { pipe with outgoing := pipe.outgoing ++ data }
  flush := fun pipe => .ok () pipe

theorem readExact_of_le {count : Nat} {pipe : Pipe} (enough : count ≤ pipe.incoming.length) :
    io.readExact count pipe =
      .ok (pipe.incoming.take count) { pipe with incoming := pipe.incoming.drop count } :=
  if_pos enough

theorem readExact_of_lt {count : Nat} {pipe : Pipe} (short : pipe.incoming.length < count) :
    io.readExact count pipe = .error unexpectedEof { pipe with incoming := [] } :=
  if_neg (Nat.not_le.mpr short)

/-- The pipe's `write_length_prefixed` appends exactly the frame. -/
theorem writeLengthPrefixed_eq (data : Bytes) (pipe : Pipe) :
    writeLengthPrefixed io data pipe =
      .ok () { pipe with outgoing := pipe.outgoing ++ lengthPrefixed data } := by
  have prefixEq : beBytes 4 (data.length % 2 ^ 32) = beBytes 4 data.length :=
    beBytes_mod 4 data.length
  simp only [writeLengthPrefixed, lengthPrefixed, bind, EStateM.bind, io, prefixEq,
    List.append_assoc]

theorem readLengthPrefixed_of_short {pipe : Pipe} (short : pipe.incoming.length < 4) :
    readLengthPrefixed io pipe = .error unexpectedEof { pipe with incoming := [] } := by
  simp only [readLengthPrefixed, bind, EStateM.bind, readExact_of_lt short]

theorem readLengthPrefixed_of_four_le {pipe : Pipe} (four : 4 ≤ pipe.incoming.length) :
    readLengthPrefixed io pipe =
      if beValue (pipe.incoming.take 4) > maxRawPacketSize then
        .error ⟨.invalidData, "packet too large"⟩ { pipe with incoming := pipe.incoming.drop 4 }
      else
        io.readExact (beValue (pipe.incoming.take 4)) { pipe with incoming := pipe.incoming.drop 4 } := by
  simp only [readLengthPrefixed, bind, EStateM.bind, readExact_of_le four]
  split <;> rfl

/-- Reading never touches what was written. -/
theorem readLengthPrefixed_outgoing (pipe : Pipe) :
    (resultState (readLengthPrefixed io pipe)).outgoing = pipe.outgoing := by
  by_cases four : 4 ≤ pipe.incoming.length
  · rw [readLengthPrefixed_of_four_le four]
    split
    · rfl
    · by_cases enough : beValue (pipe.incoming.take 4) ≤ (pipe.incoming.drop 4).length
      · rw [readExact_of_le enough]; rfl
      · rw [readExact_of_lt (Nat.lt_of_not_le enough)]; rfl
  · rw [readLengthPrefixed_of_short (Nat.lt_of_not_le four)]
    rfl

/-- The pipe's `read_length_prefixed` succeeds exactly on a complete frame of at most
`MAX_RAW_PACKET_SIZE` bytes at the head of the arrived bytes, and consumes only that frame. -/
theorem readLengthPrefixed_eq_ok_iff {pipe pipe' : Pipe} {data : Bytes} :
    readLengthPrefixed io pipe = .ok data pipe' ↔
      ∃ rest, pipe.incoming = lengthPrefixed data ++ rest ∧ data.length ≤ maxRawPacketSize ∧
        pipe' = { pipe with incoming := rest } := by
  constructor
  · intro read
    by_cases four : 4 ≤ pipe.incoming.length
    · rw [readLengthPrefixed_of_four_le four] at read
      split at read
      · cases read
      · rename_i small
        have headEq : beBytes 4 (beValue (pipe.incoming.take 4)) = pipe.incoming.take 4 := by
          have := beBytes_beValue (pipe.incoming.take 4)
          rwa [List.length_take, Nat.min_eq_left four] at this
        by_cases enough : beValue (pipe.incoming.take 4) ≤ (pipe.incoming.drop 4).length
        · rw [readExact_of_le enough] at read
          cases read
          have lengthEq : ((pipe.incoming.drop 4).take (beValue (pipe.incoming.take 4))).length =
              beValue (pipe.incoming.take 4) := by
            rw [List.length_take, Nat.min_eq_left enough]
          refine ⟨(pipe.incoming.drop 4).drop (beValue (pipe.incoming.take 4)), ?_, ?_, rfl⟩
          · rw [lengthPrefixed, List.append_assoc, List.take_append_drop, lengthEq, headEq,
              List.take_append_drop]
          · rw [lengthEq]
            exact Nat.not_lt.mp small
        · rw [readExact_of_lt (Nat.lt_of_not_le enough)] at read
          cases read
    · rw [readLengthPrefixed_of_short (Nat.lt_of_not_le four)] at read
      cases read
  · rintro ⟨rest, incomingEq, small, rfl⟩
    have headEq : pipe.incoming.take 4 = beBytes 4 data.length := by
      rw [incomingEq, lengthPrefixed, List.append_assoc, List.take_left' (beBytes_length 4 _)]
    have tailEq : pipe.incoming.drop 4 = data ++ rest := by
      rw [incomingEq, lengthPrefixed, List.append_assoc, List.drop_left' (beBytes_length 4 _)]
    have four : 4 ≤ pipe.incoming.length := by
      rw [incomingEq]; simp [lengthPrefixed]
    rw [readLengthPrefixed_of_four_le four, headEq, beValue_length_prefix small, if_neg (Nat.not_lt.mpr small),
      tailEq, readExact_of_le (by simp)]
    simp

end Pipe

end PortalTunnel
