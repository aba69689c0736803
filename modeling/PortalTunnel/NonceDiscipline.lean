import PortalTunnel.ChannelRun

/-!
# Nonce discipline over whole runs

Every write advances the encrypt counter before it seals, and every read that returns `Ok`
advances the decrypt counter after it opens; nothing else moves either counter.  Over any
sequence of calls, the `i`-th write (counting from one) therefore seals under the start
counter plus `i`, modulo `2 ^ 96`, and the decrypt counter has moved once per accepted frame.
Since the counter wraps from all-`0xFF` to all-zero and `write` never checks for it, the
`(2 ^ 96 + 1)`-th write of a channel seals under the nonce of the first.
-/

namespace PortalTunnel

open SecureConnection

/-- Over any run on arbitrary incoming bytes, the `i`-th write (from zero) seals under and sends
the start counter plus `i + 1`, and a read returns `Ok` exactly on a bounded frame carrying
and opening under the decrypt counter, which moves once per accepted frame. -/
theorem nonce_discipline (aead : Aead) (codec : ProtoCodec EncryptedData)
    (self : SecureConnection Pipe) (calls : List Call) :
    let after := run aead codec Pipe.io calls self
    writeNonces aead codec Pipe.io calls self =
        (List.range (Call.plaintexts calls).length).map
          (fun index => Nonce.ofNat (self.encryptNonce.value + (index + 1))) ∧
      after.2.conn.outgoing = self.conn.outgoing ++
        frameWire (sealedFrames aead codec self.encryptor (self.encryptNonce.value + 1)
          (Call.plaintexts calls)) ∧
      after.2.decryptNonce =
        Nonce.ofNat (self.decryptNonce.value + (Reply.accepted after.1).length) ∧
      (∀ (state state' : SecureConnection Pipe) (bufLen : Nat) (out : Bytes),
        read aead codec Pipe.io bufLen state = .ok out state' ↔
          ∃ msg rest encryptedData decrypted,
            state.conn.incoming = lengthPrefixed msg ++ rest ∧ msg.length ≤ maxRawPacketSize ∧
            codec.decode msg = .ok encryptedData ∧
            encryptedData.nonce = state.decryptNonce.bytes ∧
            aead.decrypt state.decryptor state.decryptNonce encryptedData.payload =
              some decrypted ∧
            out = decrypted.take bufLen ∧
            state' = { state with conn := { state.conn with incoming := rest },
                                  decryptNonce := state.decryptNonce.increment }) ∧
      (∀ (state state' : SecureConnection Pipe) (bufLen : Nat) (e : IoError),
        read aead codec Pipe.io bufLen state = .error e state' →
          state'.decryptNonce = state.decryptNonce) :=
  ⟨writeNonces_eq aead codec Pipe.io calls self, run_outgoing aead codec calls self,
    (run_counters aead codec Pipe.io calls self).2.1,
    fun _ _ _ _ => read_pipe_eq_ok_iff aead codec,
    fun _ _ _ _ failed => (read_state_of_error aead codec Pipe.io failed).1⟩

/-- A run in which the write after `k` earlier writes seals under `key` and the counter
`first + k`, and reads are `read`. -/
def sealedRun {T : Type} (aead : Aead) (codec : ProtoCodec EncryptedData) (io : ByteIo T)
    (key : Bytes) : Nat → List Call → SecureConnection T → List Reply × SecureConnection T
  | _, [], self => ([], self)
  | first, .write buf :: calls, self =>
      let result := sealAndSend aead codec io key (Nonce.ofNat first) buf self
      let (replies, self) := sealedRun aead codec io key (first + 1) calls (resultState result)
      (.wrote (resultValue result) :: replies, self)
  | first, .read bufLen :: calls, self =>
      let result := read aead codec io bufLen self
      let (replies, self) := sealedRun aead codec io key first calls (resultState result)
      (.read (resultValue result) :: replies, self)

/-- From a state holding `key` and about to seal under `first`, a run is the sealed run. -/
theorem run_eq_sealedRun (aead : Aead) (codec : ProtoCodec EncryptedData) {T : Type}
    (io : ByteIo T) (key : Bytes) (calls : List Call) :
    ∀ (first : Nat) (self : SecureConnection T), self.encryptor = key →
      self.encryptNonce.increment = Nonce.ofNat first →
      run aead codec io calls self = sealedRun aead codec io key first calls self := by
  induction calls with
  | nil => exact fun _ _ _ _ => rfl
  | cons call calls ih =>
    intro first self keyed next
    cases call with
    | write buf =>
      obtain ⟨conn, sealed⟩ := sealAndSend_state aead codec io key (Nonce.ofNat first) buf self
      have written := write_eq_sealAndSend aead codec io buf self
      rw [keyed, next] at written
      simp only [run, perform, sealedRun, written]
      rw [ih (first + 1) _ (by rw [sealed]; exact keyed) (by rw [sealed, Nonce.increment_ofNat])]
    | read bufLen =>
      have kept : (resultState (read aead codec io bufLen self)).encryptor = key ∧
          (resultState (read aead codec io bufLen self)).encryptNonce.increment =
            Nonce.ofNat first := by
        rcases read_cases aead codec io bufLen self with ⟨_, _, after⟩ | ⟨_, _, after⟩ <;>
          rw [after] <;> exact ⟨keyed, next⟩
      simp only [run, perform, sealedRun]
      rw [ih first _ kept.1 kept.2]

/-- Every write of a run, on any transport, seals under the channel's key, which never changes,
and under the start counter plus one more than the writes before it; two of these nonces agree
exactly when the write counts agree modulo `2 ^ 96`. -/
theorem write_nonce_reuse_iff (aead : Aead) (codec : ProtoCodec EncryptedData) {T : Type}
    (io : ByteIo T) (self : SecureConnection T) (calls : List Call) :
    (run aead codec io calls self).2.encryptor = self.encryptor ∧
      run aead codec io calls self =
        sealedRun aead codec io self.encryptor (self.encryptNonce.value + 1) calls self ∧
      ∀ first second : Nat,
        Nonce.ofNat (self.encryptNonce.value + 1 + first) =
            Nonce.ofNat (self.encryptNonce.value + 1 + second) ↔
          first % 2 ^ 96 = second % 2 ^ 96 := by
  refine ⟨(run_counters aead codec io calls self).2.2.1,
    run_eq_sealedRun aead codec io _ calls _ self rfl (Nonce.increment_eq_ofNat _),
    fun first second => ?_⟩
  rw [Nonce.ofNat_eq_ofNat_iff]
  omega

/-- Two writes can share a nonce: on a fresh channel the `(2 ^ 96 + 1)`-th write seals under
the nonce of the first, and returns `Ok`. -/
theorem nonce_reused_after_wrap :
    run plainCipher plainCodec Pipe.io ((List.replicate (2 ^ 96 + 1) []).map Call.write)
        zeroConnection =
      sealedRun plainCipher plainCodec Pipe.io zeroConnection.encryptor 1
        ((List.replicate (2 ^ 96 + 1) []).map Call.write) zeroConnection ∧
      Nonce.ofNat (1 + 2 ^ 96) = Nonce.ofNat (1 + 0) ∧
      (run plainCipher plainCodec Pipe.io ((List.replicate (2 ^ 96 + 1) []).map Call.write)
          zeroConnection).1[2 ^ 96]? = some (.wrote (.ok 0)) := by
  have accepts : ∀ key nonce plaintext, plainCipher.encrypt key nonce plaintext ≠ none :=
    fun _ _ _ => Option.some_ne_none _
  refine ⟨run_eq_sealedRun _ _ _ _ _ 1 _ rfl rfl, (Nonce.ofNat_eq_ofNat_iff _ _).mpr (by decide), ?_⟩
  rw [run_writes_pipe plainCipher plainCodec accepts, List.getElem?_map,
    List.getElem?_replicate_of_lt (by decide)]
  rfl

end PortalTunnel
