import PortalTunnel.Frame

/-!
# `SecureConnection`: the encrypted channel

A `SecureConnection` owns its transport, one ChaCha20-Poly1305 instance per direction and one
12-byte counter per direction.  `write` advances the encrypt counter, seals the plaintext
under the advanced counter and sends `EncryptedData { nonce, payload }` as one frame; `read`
takes one frame, refuses it unless it decodes, carries a 12-byte nonce and that nonce is the
decrypt counter, opens it under the counter and only then advances the counter.  Both are
written as explicit passes over `self`, so that every mutation the source makes before an
early `?` return stays visible in the resulting state.

The cipher and the protobuf codec are library code; they are parameters here, with no law
assumed unless a theorem states one.
-/

namespace PortalTunnel

/-- The ChaCha20-Poly1305 instances, each given by the key it was built from.  `encrypt`
returns `None` where the library's `encrypt` fails, `decrypt` where the tag does not verify. -/
structure Aead where
  encrypt : Bytes → Nonce → Bytes → Option Bytes
  decrypt : Bytes → Nonce → Bytes → Option Bytes

/-- `proto::EncryptedData`. -/
structure EncryptedData where
  nonce : Bytes
  payload : Bytes
deriving DecidableEq

/-- `encode_message` and `decode_message` for one protobuf message type; a decode error
carries the text of prost's `DecodeError`. -/
structure ProtoCodec (Message : Type) where
  encode : Message → Bytes
  decode : Bytes → Except String Message

/-- `SecureConnection<T>`. -/
structure SecureConnection (T : Type) where
  conn : T
  encryptor : Bytes
  decryptor : Bytes
  encryptNonce : Nonce
  decryptNonce : Nonce

namespace SecureConnection

variable (aead : Aead) (codec : ProtoCodec EncryptedData) {T : Type} (io : ByteIo T)

/-- `SecureConnection::read`: the bytes copied into `buf` (of length `bufLen`); the `usize`
it returns is their number. -/
def read (bufLen : Nat) : EStateM IoError (SecureConnection T) Bytes := fun self =>
  match readLengthPrefixed io self.conn with
  | .error e conn => .error e { self with conn }
  | .ok encryptedMsg conn =>
      let self := { self with conn }
      match codec.decode encryptedMsg with
      | .error e => .error ⟨.invalidData, e⟩ self
      | .ok encryptedData =>
          if encryptedData.nonce.length ≠ nonceSize then
            .error ⟨.invalidData, "invalid nonce size"⟩ self
          else if encryptedData.nonce ≠ self.decryptNonce.bytes then
            .error ⟨.invalidData, "nonce mismatch - possible replay attack"⟩ self
          else
            match aead.decrypt self.decryptor self.decryptNonce encryptedData.payload with
            | none => .error ⟨.invalidData, "decryption failed"⟩ self
            | some decrypted =>
                .ok (decrypted.take bufLen)
                  { self with decryptNonce := self.decryptNonce.increment }

/-- `SecureConnection::write`. -/
def write (buf : Bytes) : EStateM IoError (SecureConnection T) Nat := fun self =>
  let self := { self with encryptNonce := self.encryptNonce.increment }
  match aead.encrypt self.encryptor self.encryptNonce buf with
  | none => .error ⟨.invalidData, "encryption failed"⟩ self
  | some encrypted =>
      let msg := codec.encode { nonce := self.encryptNonce.bytes, payload := encrypted }
      match writeLengthPrefixed io msg self.conn with
      | .ok () conn => .ok buf.length { self with conn }
      | .error e conn => .error e { self with conn }

/-! ## What one call can do -/

/-- A read either fails leaving both counters as they were, or succeeds and advances only the
decrypt counter; the keys never change. -/
theorem read_cases (bufLen : Nat) (self : SecureConnection T) :
    (∃ e conn, read aead codec io bufLen self = .error e { self with conn }) ∨
      ∃ out conn, read aead codec io bufLen self =
        .ok out { self with conn, decryptNonce := self.decryptNonce.increment } := by
  unfold read
  dsimp only
  repeat' split
  all_goals first | exact .inl ⟨_, _, rfl⟩ | exact .inr ⟨_, _, rfl⟩

/-- A write advances the encrypt counter whatever it returns, and changes nothing else but
the transport. -/
theorem write_cases (buf : Bytes) (self : SecureConnection T) :
    ∃ conn, resultState (write aead codec io buf self) =
      { self with conn, encryptNonce := self.encryptNonce.increment } := by
  unfold write
  dsimp only
  repeat' split
  all_goals exact ⟨_, rfl⟩

/-- A read moves the transport exactly as its `read_length_prefixed` does. -/
theorem read_conn (bufLen : Nat) (self : SecureConnection T) :
    (resultState (read aead codec io bufLen self)).conn = resultState (readLengthPrefixed io self.conn) := by
  unfold read
  dsimp only
  repeat' split
  all_goals simp_all [resultState]

theorem read_state_of_error {bufLen : Nat} {self self' : SecureConnection T} {e : IoError}
    (failed : read aead codec io bufLen self = .error e self') :
    self'.decryptNonce = self.decryptNonce ∧ self'.encryptNonce = self.encryptNonce ∧
      self'.encryptor = self.encryptor ∧ self'.decryptor = self.decryptor := by
  rcases read_cases aead codec io bufLen self with ⟨_, _, read⟩ | ⟨_, _, read⟩ <;>
    rw [read] at failed <;> cases failed
  exact ⟨rfl, rfl, rfl, rfl⟩

/-- A read returns `Ok` exactly when the next frame arrives, decodes, carries the decrypt
counter as its nonce and opens under it; it then returns the plaintext cut to the buffer. -/
theorem read_eq_ok_iff {bufLen : Nat} {self self' : SecureConnection T} {out : Bytes} :
    read aead codec io bufLen self = .ok out self' ↔
      ∃ msg conn encryptedData decrypted,
        readLengthPrefixed io self.conn = .ok msg conn ∧
        codec.decode msg = .ok encryptedData ∧
        encryptedData.nonce = self.decryptNonce.bytes ∧
        aead.decrypt self.decryptor self.decryptNonce encryptedData.payload = some decrypted ∧
        out = decrypted.take bufLen ∧
        self' = { self with conn, decryptNonce := self.decryptNonce.increment } := by
  constructor
  · intro succeeded
    unfold read at succeeded
    dsimp only at succeeded
    split at succeeded
    · cases succeeded
    rename_i msg conn frameRead
    split at succeeded
    · cases succeeded
    rename_i encryptedData decoded
    split at succeeded
    · cases succeeded
    split at succeeded
    · cases succeeded
    rename_i nonceEq
    split at succeeded
    · cases succeeded
    rename_i decrypted opened
    cases succeeded
    exact ⟨msg, conn, encryptedData, decrypted, frameRead, decoded, not_not.mp nonceEq, opened,
      rfl, rfl⟩
  · rintro ⟨msg, conn, encryptedData, decrypted, frameRead, decoded, nonceEq, opened, rfl, rfl⟩
    unfold read
    simp only [frameRead, decoded, nonceEq, self.decryptNonce.length_eq, ne_eq, not_true_eq_false,
      if_false, opened]

/-! ## What a write puts on the wire -/

/-- The frame payload `write` seals `plaintext` into under `nonce`, if the cipher accepts it. -/
def sealFrame (key : Bytes) (nonce : Nonce) (plaintext : Bytes) : Option Bytes :=
  (aead.encrypt key nonce plaintext).map fun ciphertext =>
    codec.encode { nonce := nonce.bytes, payload := ciphertext }

/-- What `write` does once it has its key and its nonce: it leaves the counter at the nonce,
seals the buffer under both and sends the frame. -/
def sealAndSend (key : Bytes) (nonce : Nonce) (buf : Bytes) :
    EStateM IoError (SecureConnection T) Nat := fun self =>
  let self := { self with encryptNonce := nonce }
  match sealFrame aead codec key nonce buf with
  | none => .error ⟨.invalidData, "encryption failed"⟩ self
  | some msg =>
      match writeLengthPrefixed io msg self.conn with
      | .ok () conn => .ok buf.length { self with conn }
      | .error e conn => .error e { self with conn }

/-- `write` seals under the channel's key and its counter advanced by one. -/
theorem write_eq_sealAndSend (buf : Bytes) (self : SecureConnection T) :
    write aead codec io buf self =
      sealAndSend aead codec io self.encryptor self.encryptNonce.increment buf self := by
  unfold write sealAndSend sealFrame
  dsimp only
  cases aead.encrypt self.encryptor self.encryptNonce.increment buf <;> rfl

theorem sealAndSend_state (key : Bytes) (nonce : Nonce) (buf : Bytes) (self : SecureConnection T) :
    ∃ conn, resultState (sealAndSend aead codec io key nonce buf self) =
      { self with encryptNonce := nonce, conn } := by
  unfold sealAndSend
  dsimp only
  repeat' split
  all_goals exact ⟨_, rfl⟩

/-- The frame payloads of successive writes of `plaintexts` whose counters run through
`first`, `first + 1`, ... modulo `2 ^ 96`. -/
def sealedFrames (key : Bytes) (first : Nat) : List Bytes → List (Option Bytes)
  | [] => []
  | plaintext :: plaintexts =>
      sealFrame aead codec key (Nonce.ofNat first) plaintext ::
        sealedFrames key (first + 1) plaintexts

/-- The bytes a list of possibly refused frames puts on the wire. -/
def frameWire (frames : List (Option Bytes)) : Bytes :=
  frames.flatMap fun frame => (frame.map lengthPrefixed).getD []

theorem sealedFrames_congr (key : Bytes) {first second : Nat}
    (sameNonce : Nonce.ofNat first = Nonce.ofNat second) (plaintexts : List Bytes) :
    sealedFrames aead codec key first plaintexts = sealedFrames aead codec key second plaintexts := by
  induction plaintexts generalizing first second with
  | nil => rfl
  | cons plaintext plaintexts ih =>
      simp only [sealedFrames, sameNonce, ih (Nonce.ofNat_succ_eq_iff sameNonce)]

@[simp]
theorem frameWire_nil : frameWire [] = [] := rfl

@[simp]
theorem frameWire_cons (frame : Option Bytes) (frames : List (Option Bytes)) :
    frameWire (frame :: frames) = (frame.map lengthPrefixed).getD [] ++ frameWire frames := by
  simp [frameWire]

/-- Over the in-memory transport a write refused by the cipher sends nothing, and any other
write returns `Ok` after appending its one frame. -/
theorem write_pipe (buf : Bytes) (self : SecureConnection Pipe) :
    write aead codec Pipe.io buf self =
      match sealFrame aead codec self.encryptor self.encryptNonce.increment buf with
      | none => .error ⟨.invalidData, "encryption failed"⟩
          { self with encryptNonce := self.encryptNonce.increment }
      | some msg => .ok buf.length
          { self with encryptNonce := self.encryptNonce.increment,
                      conn := { self.conn with outgoing := self.conn.outgoing ++ lengthPrefixed msg } } := by
  unfold write sealFrame
  dsimp only
  cases encrypted : aead.encrypt self.encryptor self.encryptNonce.increment buf with
  | none => simp only [encrypted, Option.map_none']
  | some ciphertext => simp [encrypted, Pipe.writeLengthPrefixed_eq]

/-- Over the in-memory transport, a read returns `Ok` exactly on a bounded frame that decodes,
carries the decrypt counter and opens under it; it then consumes that frame only, returns the
plaintext cut to the buffer and advances the counter. -/
theorem read_pipe_eq_ok_iff {bufLen : Nat} {self self' : SecureConnection Pipe} {out : Bytes} :
    read aead codec Pipe.io bufLen self = .ok out self' ↔
      ∃ msg rest encryptedData decrypted,
        self.conn.incoming = lengthPrefixed msg ++ rest ∧ msg.length ≤ maxRawPacketSize ∧
        codec.decode msg = .ok encryptedData ∧
        encryptedData.nonce = self.decryptNonce.bytes ∧
        aead.decrypt self.decryptor self.decryptNonce encryptedData.payload = some decrypted ∧
        out = decrypted.take bufLen ∧
        self' = { self with conn := { self.conn with incoming := rest },
                            decryptNonce := self.decryptNonce.increment } := by
  rw [read_eq_ok_iff]
  constructor
  · rintro ⟨msg, conn, encryptedData, decrypted, frameRead, rest⟩
    obtain ⟨tail, incomingEq, small, rfl⟩ := Pipe.readLengthPrefixed_eq_ok_iff.mp frameRead
    exact ⟨msg, tail, encryptedData, decrypted, incomingEq, small, rest⟩
  · rintro ⟨msg, tail, encryptedData, decrypted, incomingEq, small, rest⟩
    exact ⟨msg, _, encryptedData, decrypted,
      Pipe.readLengthPrefixed_eq_ok_iff.mpr ⟨tail, incomingEq, small, rfl⟩, rest⟩

end SecureConnection

end PortalTunnel
