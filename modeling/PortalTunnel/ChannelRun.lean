import PortalTunnel.SecureConnection

/-!
# Runs of calls on one channel

A caller drives a `SecureConnection` by a sequence of `read` and `write` calls.  This file
runs such a sequence and derives, from the two inversion lemmas of `SecureConnection`, what
any run does to the counters and the keys, and what it puts on the wire of an in-memory
transport.
-/

namespace PortalTunnel

/-- A call a caller makes on the channel. -/
inductive Call
  | write (buf : Bytes)
  | read (bufLen : Nat)

/-- What a call returned. -/
inductive Reply
  | wrote (result : Except IoError Nat)
  | read (result : Except IoError Bytes)

/-- The buffers of the write calls, in order. -/
def Call.plaintexts : List Call → List Bytes
  | [] => []
  | .write buf :: calls => buf :: plaintexts calls
  | .read _ :: calls => plaintexts calls

/-- The bytes returned by the reads that returned `Ok`, in order. -/
def Reply.accepted : List Reply → List Bytes
  | [] => []
  | .read (.ok out) :: replies => out :: accepted replies
  | _ :: replies => accepted replies

theorem Call.plaintexts_cons (call : Call) (calls : List Call) :
    Call.plaintexts (call :: calls) = Call.plaintexts [call] ++ Call.plaintexts calls := by
  cases call <;> rfl

@[simp]
theorem Call.plaintexts_map_write (bufs : List Bytes) :
    Call.plaintexts (bufs.map Call.write) = bufs := by
  induction bufs with
  | nil => rfl
  | cons buf bufs ih => exact congrArg (buf :: ·) ih

theorem Reply.accepted_cons (reply : Reply) (replies : List Reply) :
    Reply.accepted (reply :: replies) = Reply.accepted [reply] ++ Reply.accepted replies := by
  rcases reply with _ | (_ | _) <;> rfl

namespace SecureConnection

variable (aead : Aead) (codec : ProtoCodec EncryptedData) {T : Type} (io : ByteIo T)

/-- One call. -/
def perform : Call → SecureConnection T → Reply × SecureConnection T
  | .write buf, self =>
      let result := write aead codec io buf self
      (.wrote (resultValue result), resultState result)
  | .read bufLen, self =>
      let result := read aead codec io bufLen self
      (.read (resultValue result), resultState result)

/-- A sequence of calls, each on the state the previous one left. -/
def run : List Call → SecureConnection T → List Reply × SecureConnection T
  | [], self => ([], self)
  | call :: calls, self =>
      let (reply, self) := perform aead codec io call self
      let (replies, self) := run calls self
      (reply :: replies, self)

@[simp]
theorem run_nil (self : SecureConnection T) : run aead codec io [] self = ([], self) := rfl

theorem run_cons (call : Call) (calls : List Call) (self : SecureConnection T) :
    run aead codec io (call :: calls) self =
      ((perform aead codec io call self).1 ::
        (run aead codec io calls (perform aead codec io call self).2).1,
       (run aead codec io calls (perform aead codec io call self).2).2) := rfl

/-- The counters and keys one call leaves: a write advances the encrypt counter, a read that
returns `Ok` advances the decrypt counter, and nothing else moves either. -/
theorem perform_counters (call : Call) (self : SecureConnection T) :
    let after := (perform aead codec io call self).2
    after.encryptNonce =
        Nonce.increment^[(Call.plaintexts [call]).length] self.encryptNonce ∧
      after.decryptNonce =
        Nonce.increment^[(Reply.accepted [(perform aead codec io call self).1]).length]
          self.decryptNonce ∧
      after.encryptor = self.encryptor ∧ after.decryptor = self.decryptor := by
  cases call with
  | write buf =>
      obtain ⟨conn, written⟩ := write_cases aead codec io buf self
      simp only [perform]
      rw [written]
      exact ⟨rfl, rfl, rfl, rfl⟩
  | read bufLen =>
      rcases read_cases aead codec io bufLen self with ⟨e, conn, failed⟩ | ⟨out, conn, succeeded⟩
      · simp only [perform, failed]
        exact ⟨rfl, rfl, rfl, rfl⟩
      · simp only [perform, succeeded]
        exact ⟨rfl, rfl, rfl, rfl⟩

/-- The counters the write calls of a run seal under, in order: each write seals under the
counter it has just advanced. -/
def writeNonces : List Call → SecureConnection T → List Nonce
  | [], _ => []
  | call :: calls, self =>
      (Call.plaintexts [call]).map (fun _ => (perform aead codec io call self).2.encryptNonce) ++
        writeNonces calls (perform aead codec io call self).2

/-- Over any run the encrypt counter has moved once per write call and the decrypt counter
once per read that returned `Ok`, modulo `2 ^ 96`, and the keys are those of the start. -/
theorem run_counters (calls : List Call) (self : SecureConnection T) :
    let after := (run aead codec io calls self).2
    after.encryptNonce = Nonce.ofNat (self.encryptNonce.value + (Call.plaintexts calls).length) ∧
      after.decryptNonce = Nonce.ofNat
        (self.decryptNonce.value + (Reply.accepted (run aead codec io calls self).1).length) ∧
      after.encryptor = self.encryptor ∧ after.decryptor = self.decryptor := by
  induction calls generalizing self with
  | nil => simp [Call.plaintexts, Reply.accepted]
  | cons call calls ih =>
      obtain ⟨encryptStep, decryptStep, encryptorStep, decryptorStep⟩ :=
        perform_counters aead codec io call self
      obtain ⟨encryptRest, decryptRest, encryptorRest, decryptorRest⟩ :=
        ih (perform aead codec io call self).2
      rw [run_cons, Call.plaintexts_cons, Reply.accepted_cons, List.length_append,
        List.length_append]
      refine ⟨?_, ?_, encryptorRest.trans encryptorStep, decryptorRest.trans decryptorStep⟩
      · rw [encryptRest, encryptStep, Nonce.ofNat_iterate_value_add]
      · rw [decryptRest, decryptStep, Nonce.ofNat_iterate_value_add]

/-- The `i`-th write of any run (from zero) seals under the start counter plus `i + 1`. -/
theorem writeNonces_eq (calls : List Call) (self : SecureConnection T) :
    writeNonces aead codec io calls self =
      (List.range (Call.plaintexts calls).length).map
        fun index => Nonce.ofNat (self.encryptNonce.value + (index + 1)) := by
  induction calls generalizing self with
  | nil => rfl
  | cons call calls ih =>
      obtain ⟨encryptStep, -⟩ := perform_counters aead codec io call self
      rw [writeNonces, ih, encryptStep, Call.plaintexts_cons, List.length_append]
      cases call with
      | read bufLen =>
          simp [Call.plaintexts]
      | write buf =>
          simp only [Call.plaintexts, List.length_cons, List.length_nil, Nat.zero_add, Nat.add_zero,
            Function.iterate_one, List.map_cons, List.map_nil, List.singleton_append,
            List.range_succ_eq_map, List.map_map]
          rw [Nonce.increment_eq_ofNat]
          refine congrArg (List.cons _) (List.map_congr_left fun index _ => ?_)
          rw [Function.comp_apply, Nonce.ofNat_eq_ofNat_iff, Nonce.value_ofNat, Nat.mod_add_mod]
          omega

/-- Over the in-memory transport, a run sends exactly the frames of its writes, in order, the
`i`-th write (from zero) sealed under the start counter plus `i + 1`; reads send nothing. -/
theorem run_outgoing (calls : List Call) (self : SecureConnection Pipe) :
    (run aead codec Pipe.io calls self).2.conn.outgoing =
      self.conn.outgoing ++ frameWire (sealedFrames aead codec self.encryptor
        (self.encryptNonce.value + 1) (Call.plaintexts calls)) := by
  induction calls generalizing self with
  | nil => simp [sealedFrames]
  | cons call calls ih =>
      rw [run_cons, ih]
      obtain ⟨encryptStep, -, encryptorStep, -⟩ := perform_counters aead codec Pipe.io call self
      rw [encryptorStep, encryptStep]
      cases call with
      | read bufLen =>
          simp [perform, read_conn, Pipe.readLengthPrefixed_outgoing, Call.plaintexts]
      | write buf =>
          have nextNonce : Nonce.ofNat (self.encryptNonce.increment.value + 1) =
              Nonce.ofNat (self.encryptNonce.value + 1 + 1) := by
            rw [← Nonce.increment_eq_ofNat, Nonce.increment_eq_ofNat self.encryptNonce,
              Nonce.increment_ofNat]
          simp only [Call.plaintexts, sealedFrames, frameWire_cons, Function.iterate_one,
            List.length_singleton, sealedFrames_congr aead codec _ nextNonce, perform,
            write_pipe, ← Nonce.increment_eq_ofNat]
          cases sealFrame aead codec self.encryptor self.encryptNonce.increment buf <;>
            simp [resultState]

/-- Over the in-memory transport, with a cipher that accepts every plaintext, every write
returns `Ok` with the length of its buffer. -/
theorem write_pipe_ok (accepts : ∀ key nonce plaintext, aead.encrypt key nonce plaintext ≠ none)
    (buf : Bytes) (self : SecureConnection Pipe) :
    resultValue (write aead codec Pipe.io buf self) = .ok buf.length := by
  rw [write_pipe, sealFrame]
  cases sealed : aead.encrypt self.encryptor self.encryptNonce.increment buf with
  | none => exact absurd sealed (accepts _ _ _)
  | some ciphertext => rfl

/-- A run of writes over the in-memory transport, with a cipher that accepts every plaintext,
returns `Ok` for every write. -/
theorem run_writes_pipe (accepts : ∀ key nonce plaintext, aead.encrypt key nonce plaintext ≠ none)
    (bufs : List Bytes) (self : SecureConnection Pipe) :
    (run aead codec Pipe.io (bufs.map Call.write) self).1 =
      bufs.map fun buf => .wrote (.ok buf.length) := by
  induction bufs generalizing self with
  | nil => rfl
  | cons buf bufs ih =>
      rw [List.map_cons, run_cons, ih, List.map_cons]
      simp only [perform, write_pipe_ok aead codec accepts]

end SecureConnection

/-! ## Concrete instances -/

/-- A cipher that accepts every plaintext and leaves it as it is; it inverts itself. -/
def plainCipher : Aead :=
  ⟨fun _ _ plaintext => some plaintext, fun _ _ ciphertext => some ciphertext⟩

/-- A codec that writes the nonce and then the payload, and reads back the first twelve bytes
as the nonce. -/
def plainCodec : ProtoCodec EncryptedData where
  encode data := data.nonce ++ data.payload
  decode bytes :=
    if bytes.length < nonceSize then .error "buffer underflow"
    else .ok ⟨bytes.take nonceSize, bytes.drop nonceSize⟩

/-- A fresh channel over an empty in-memory transport, both counters at zero. -/
def zeroConnection : SecureConnection Pipe :=
  ⟨⟨[], []⟩, [], [], Nonce.ofNat 0, Nonce.ofNat 0⟩

end PortalTunnel
