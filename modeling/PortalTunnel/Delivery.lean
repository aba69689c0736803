import PortalTunnel.ChannelRun

/-!
# Delivery between the two ends of a channel

A writer sends the frame of its `i`-th write (from zero) under its start counter plus `i + 1`,
while a reader accepts a first frame only under its start counter itself.  A reader whose
decrypt counter equals the writer's encrypt counter, which is how `client_handshake` pairs
the two ends of one handshake, therefore rejects the writer's first frame as a nonce
mismatch; a reader one step ahead accepts every frame, in order.  Against a network that
drops, duplicates, reorders and injects frames, an ideal cipher makes the accepted
plaintexts a contiguous run of the writer's plaintexts.
-/

namespace PortalTunnel

open SecureConnection

/-! ## In-order delivery -/

section Agreement

variable (aead : Aead) (codec : ProtoCodec EncryptedData)

/-- Decryption inverts encryption under the same key and nonce. -/
def Aead.Opens : Prop :=
  ∀ key nonce plaintext ciphertext,
    aead.encrypt key nonce plaintext = some ciphertext → aead.decrypt key nonce ciphertext = some plaintext

/-- The codec reads back every `EncryptedData` with a twelve-byte nonce that it writes. -/
def ProtoCodec.DecodesFrames : Prop :=
  ∀ data : EncryptedData, data.nonce.length = nonceSize → codec.decode (codec.encode data) = .ok data

/-- A reader whose decrypt counter stands at `first` and whose transport holds the frames of
successive writes sealed from `first` on returns their plaintexts, one per read. -/
theorem reads_accept_sealedFrames (opens : Aead.Opens aead) (decodes : ProtoCodec.DecodesFrames codec)
    (key : Bytes) (bufLen : Nat) (rest : Bytes) :
    ∀ (plaintexts : List Bytes) (first : Nat) (receiver : SecureConnection Pipe),
      receiver.decryptor = key → receiver.decryptNonce = Nonce.ofNat first →
      (∀ plaintext ∈ plaintexts, plaintext.length ≤ bufLen) →
      (∀ frame ∈ sealedFrames aead codec key first plaintexts,
        ∃ msg, frame = some msg ∧ msg.length ≤ maxRawPacketSize) →
      receiver.conn.incoming = frameWire (sealedFrames aead codec key first plaintexts) ++ rest →
      (run aead codec Pipe.io (plaintexts.map fun _ => Call.read bufLen) receiver).1 =
        plaintexts.map fun plaintext => .read (.ok plaintext)
  | [], _, _, _, _, _, _, _ => rfl
  | plaintext :: plaintexts, first, receiver, sameKey, atFirst, fits, small, delivered => by
      obtain ⟨msg, sealedFirst, msgSmall⟩ := small _ (List.mem_cons_self _ _)
      obtain ⟨ciphertext, encrypted, rfl⟩ := Option.map_eq_some'.mp sealedFirst
      have accepted : read aead codec Pipe.io bufLen receiver =
          .ok plaintext { receiver with
            conn := { receiver.conn with
              incoming := frameWire (sealedFrames aead codec key (first + 1) plaintexts) ++ rest },
            decryptNonce := receiver.decryptNonce.increment } := by
        refine (read_pipe_eq_ok_iff aead codec).mpr ⟨_, _, _, plaintext, ?_, msgSmall,
          decodes _ (Nonce.ofNat first).length_eq, by rw [atFirst], ?_, ?_, rfl⟩
        · rw [delivered, sealedFrames, frameWire_cons, sealedFirst, Option.map_some',
            Option.getD_some, List.append_assoc]
        · rw [sameKey, atFirst]
          exact opens _ _ _ _ encrypted
        · exact (List.take_of_length_le (fits _ (List.mem_cons_self _ _))).symm
      rw [List.map_cons, run_cons, List.map_cons]
      simp only [perform, accepted, resultValue, resultState]
      congr 1
      exact reads_accept_sealedFrames opens decodes key bufLen rest plaintexts (first + 1) _
        sameKey (by rw [atFirst, Nonce.increment_ofNat])
        (fun plaintext member => fits _ (List.mem_cons_of_mem _ member))
        (fun frame member => small _ (List.mem_cons_of_mem _ member)) rfl

/-- A reader whose decrypt counter has not been advanced past the writer's encrypt counter
reads the writer's next frame as a nonce mismatch, whatever it carries. -/
theorem equal_counters_reject_next_frame (decodes : ProtoCodec.DecodesFrames codec)
    (sender receiver : SecureConnection Pipe) (plaintext msg rest : Bytes) (bufLen : Nat)
    (sealedNext : sealFrame aead codec sender.encryptor sender.encryptNonce.increment plaintext =
      some msg)
    (small : msg.length ≤ maxRawPacketSize)
    (paired : receiver.decryptNonce = sender.encryptNonce)
    (delivered : receiver.conn.incoming = lengthPrefixed msg ++ rest) :
    resultValue (read aead codec Pipe.io bufLen receiver) =
      .error ⟨.invalidData, "nonce mismatch - possible replay attack"⟩ := by
  obtain ⟨ciphertext, -, rfl⟩ := Option.map_eq_some'.mp sealedNext
  have frameRead := Pipe.readLengthPrefixed_eq_ok_iff.mpr ⟨rest, delivered, small, rfl⟩
  have mismatch : sender.encryptNonce.increment.bytes ≠ receiver.decryptNonce.bytes :=
    fun same => Nonce.increment_ne _ (Nonce.ext_bytes (paired ▸ same))
  unfold SecureConnection.read
  simp only [frameRead, decodes ⟨_, ciphertext⟩ sender.encryptNonce.increment.length_eq,
    sender.encryptNonce.increment.length_eq, ne_eq, not_true_eq_false, if_false, mismatch,
    not_false_eq_true, if_true, resultValue]

/-- A reader whose decrypt counter stands one step ahead of the writer's encrypt counter, with
the writer's key, reads back every plaintext the writer's writes sent, in order, provided each
write sealed and its frame fits `MAX_RAW_PACKET_SIZE`. -/
theorem read_after_write_agreement (opens : Aead.Opens aead)
    (decodes : ProtoCodec.DecodesFrames codec) (sender receiver : SecureConnection Pipe)
    (plaintexts : List Bytes) (bufLen : Nat) (emitted rest : Bytes)
    (sameKey : receiver.decryptor = sender.encryptor)
    (aligned : receiver.decryptNonce = sender.encryptNonce.increment)
    (fits : ∀ plaintext ∈ plaintexts, plaintext.length ≤ bufLen)
    (small : ∀ frame ∈ sealedFrames aead codec sender.encryptor (sender.encryptNonce.value + 1)
      plaintexts, ∃ msg, frame = some msg ∧ msg.length ≤ maxRawPacketSize)
    (sent : (run aead codec Pipe.io (plaintexts.map Call.write) sender).2.conn.outgoing =
      sender.conn.outgoing ++ emitted)
    (delivered : receiver.conn.incoming = emitted ++ rest) :
    (run aead codec Pipe.io (plaintexts.map fun _ => Call.read bufLen) receiver).1 =
      plaintexts.map fun plaintext => .read (.ok plaintext) := by
  rw [run_outgoing, Call.plaintexts_map_write] at sent
  refine reads_accept_sealedFrames aead codec opens decodes sender.encryptor bufLen rest plaintexts
    _ receiver sameKey (by rw [aligned, Nonce.increment_eq_ofNat]) fits small ?_
  rw [delivered, List.append_cancel_left sent]

end Agreement

/-! ## Integrity against the network -/

theorem prefix_append_of_getElem? {α : Type} {accepted whole : List α} {next : α}
    (isPrefix : accepted <+: whole) (following : whole[accepted.length]? = some next) :
    accepted ++ [next] <+: whole := by
  have takeEq := List.prefix_iff_eq_take.mp isPrefix
  have extended : accepted ++ [next] = whole.take (accepted.length + 1) := by
    rw [List.take_succ, following, ← takeEq]
    rfl
  exact extended ▸ List.take_prefix _ _

/-- Among the counters `start + 1`, ..., `start + count` with `count < 2 ^ 96`, the one the
reader expects after `accepted` frames from its start counter `first` sits exactly
`accepted.length` places after `first`. -/
theorem index_of_expected_nonce {start count index : Nat} {first : Nonce} {plaintexts : List Bytes}
    {accepted : List Bytes} (fewWrites : count < 2 ^ 96) (lengthEq : plaintexts.length = count)
    (nonces : List Nonce)
    (noncesEq : nonces = (List.range count).map fun index => Nonce.ofNat (start + (index + 1)))
    (isPrefix : accepted <+: plaintexts.drop (nonces.indexOf first))
    (expected : nonces[index]? = some (Nonce.ofNat (first.value + accepted.length))) :
    index = nonces.indexOf first + accepted.length := by
  have lengthNonces : nonces.length = count := by rw [noncesEq, List.length_map, List.length_range]
  obtain ⟨indexLt, atIndex⟩ := List.getElem?_eq_some_iff.mp expected
  have firstMem : first ∈ nonces := by
    rcases Nat.eq_zero_or_pos accepted.length with none | some
    · rw [none, Nat.add_zero, Nonce.ofNat_value] at atIndex
      exact atIndex ▸ List.getElem_mem indexLt
    · have := isPrefix.length_le
      rw [List.length_drop, lengthEq, ← lengthNonces] at this
      exact List.indexOf_lt_length.mp (by omega)
  have firstLt := List.indexOf_lt_length.mpr firstMem
  have atFirst := List.getElem_indexOf firstLt
  have withinRun : nonces.indexOf first + accepted.length ≤ count := by
    have := isPrefix.length_le
    rw [List.length_drop, lengthEq] at this
    omega
  subst noncesEq
  simp only [List.getElem_map, List.getElem_range] at atIndex atFirst
  rw [List.length_map, List.length_range] at indexLt firstLt
  have firstValue := congrArg Nonce.value atFirst
  rw [Nonce.value_ofNat] at firstValue
  rw [Nonce.ofNat_eq_ofNat_iff, ← firstValue, Nat.mod_add_mod] at atIndex
  omega

section Integrity

variable (aead : Aead) (codec : ProtoCodec EncryptedData) {T U : Type} (senderIo : ByteIo T)
  (receiverIo : ByteIo U)

/-- The ideal-cipher assumption for one sender's run of writes: a decryption under the sender's
key succeeds only under a nonce one of those writes sealed under, and then returns that
write's plaintext. -/
def IdealFor (sender : SecureConnection T) (plaintexts : List Bytes) : Prop :=
  ∀ nonce ciphertext plaintext,
    aead.decrypt sender.encryptor nonce ciphertext = some plaintext →
      ∃ index : Nat,
        (writeNonces aead codec senderIo (plaintexts.map Call.write) sender)[index]? =
          some nonce ∧ plaintexts[index]? = some plaintext

/-- What a reader keeps true along its run: it still holds the sender's key, its counter has
moved once per accepted plaintext, and the accepted plaintexts are a run of the sender's
plaintexts starting at the one sealed under the reader's start counter. -/
def Contiguous (key : Bytes) (first : Nonce) (nonces : List Nonce) (plaintexts : List Bytes)
    (reader : SecureConnection U) (accepted : List Bytes) : Prop :=
  reader.decryptor = key ∧ reader.decryptNonce = Nonce.ofNat (first.value + accepted.length) ∧
    accepted <+: plaintexts.drop (nonces.indexOf first)

variable {aead codec senderIo}

/-- One call keeps a reader's run contiguous: a write and a failed read move nothing, and a
read that returns `Ok` has opened the plaintext the sender sealed right after the last
accepted one. -/
theorem perform_contiguous {sender : SecureConnection T} {plaintexts : List Bytes} {first : Nonce}
    (fewWrites : plaintexts.length < 2 ^ 96) (ideal : IdealFor aead codec senderIo sender plaintexts)
    {call : Call} (fits : ∀ bufLen, call = Call.read bufLen →
      ∀ plaintext ∈ plaintexts, plaintext.length ≤ bufLen)
    {reader : SecureConnection U} {accepted : List Bytes}
    (holds : Contiguous sender.encryptor first
      (writeNonces aead codec senderIo (plaintexts.map Call.write) sender) plaintexts reader accepted) :
    Contiguous sender.encryptor first
      (writeNonces aead codec senderIo (plaintexts.map Call.write) sender) plaintexts
      (perform aead codec receiverIo call reader).2
      (accepted ++ Reply.accepted [(perform aead codec receiverIo call reader).1]) := by
  obtain ⟨sameKey, atCounter, isPrefix⟩ := holds
  cases call with
  | write buf =>
      obtain ⟨conn, written⟩ := write_cases aead codec receiverIo buf reader
      simp only [perform, written, Reply.accepted, List.append_nil]
      exact ⟨sameKey, atCounter, isPrefix⟩
  | read bufLen =>
      rcases read_cases aead codec receiverIo bufLen reader with ⟨e, conn, failed⟩ |
        ⟨out, conn, succeeded⟩
      · simp only [perform, failed, resultState, resultValue, Reply.accepted, List.append_nil]
        exact ⟨sameKey, atCounter, isPrefix⟩
      · obtain ⟨msg, conn', encryptedData, decrypted, -, -, -, opened, rfl, -⟩ :=
          (read_eq_ok_iff aead codec receiverIo).mp succeeded
        rw [sameKey, atCounter] at opened
        obtain ⟨index, sealedUnder, written⟩ := ideal _ _ _ opened
        have indexEq := index_of_expected_nonce fewWrites rfl _
          (by rw [writeNonces_eq, Call.plaintexts_map_write]) isPrefix sealedUnder
        have following : (plaintexts.drop ((writeNonces aead codec senderIo
            (plaintexts.map Call.write) sender).indexOf first))[accepted.length]? =
              some decrypted := by
          rw [List.getElem?_drop, ← indexEq, written]
        have whole : decrypted.take bufLen = decrypted :=
          List.take_of_length_le (fits bufLen rfl _ (List.getElem?_mem written))
        simp only [perform, succeeded, resultState, resultValue, Reply.accepted, whole]
        refine ⟨sameKey, ?_, prefix_append_of_getElem? isPrefix following⟩
        rw [atCounter, Nonce.increment_ofNat, List.length_append, List.length_singleton,
          Nat.add_assoc]

/-- A whole run keeps a reader's run contiguous. -/
theorem run_contiguous {sender : SecureConnection T} {plaintexts : List Bytes} {first : Nonce}
    (fewWrites : plaintexts.length < 2 ^ 96) (ideal : IdealFor aead codec senderIo sender plaintexts) :
    ∀ (calls : List Call), (∀ bufLen, Call.read bufLen ∈ calls →
      ∀ plaintext ∈ plaintexts, plaintext.length ≤ bufLen) →
    ∀ (reader : SecureConnection U) (accepted : List Bytes),
      Contiguous sender.encryptor first
        (writeNonces aead codec senderIo (plaintexts.map Call.write) sender) plaintexts reader accepted →
      Contiguous sender.encryptor first
        (writeNonces aead codec senderIo (plaintexts.map Call.write) sender) plaintexts
        (run aead codec receiverIo calls reader).2
        (accepted ++ Reply.accepted (run aead codec receiverIo calls reader).1)
  | [], _, _, accepted, holds => by simpa [Reply.accepted] using holds
  | call :: calls, fits, reader, accepted, holds => by
      have step := perform_contiguous receiverIo fewWrites ideal
        (fun bufLen isRead => fits bufLen (isRead ▸ List.mem_cons_self _ _)) holds
      have rest := run_contiguous fewWrites ideal calls
        (fun bufLen member => fits bufLen (List.mem_cons_of_mem _ member)) _ _ step
      rwa [run_cons, Reply.accepted_cons, ← List.append_assoc]

end Integrity

/-- Stream integrity: against any network, what a reader with the sender's key accepts is a
contiguous run of the sender's plaintexts from the one sealed under the reader's start counter,
for fewer than `2 ^ 96` writes under a cipher ideal for them. -/
theorem stream_integrity (aead : Aead) (codec : ProtoCodec EncryptedData) {T U : Type}
    (senderIo : ByteIo T) (receiverIo : ByteIo U) (sender : SecureConnection T)
    (plaintexts : List Bytes) (receiver : SecureConnection U) (calls : List Call)
    (sameKey : receiver.decryptor = sender.encryptor) (fewWrites : plaintexts.length < 2 ^ 96)
    (ideal : IdealFor aead codec senderIo sender plaintexts)
    (buffersFit : ∀ bufLen, Call.read bufLen ∈ calls →
      ∀ plaintext ∈ plaintexts, plaintext.length ≤ bufLen) :
    Reply.accepted (run aead codec receiverIo calls receiver).1 <+:
      plaintexts.drop ((writeNonces aead codec senderIo (plaintexts.map Call.write) sender).indexOf
        receiver.decryptNonce) := by
  have start : Contiguous sender.encryptor receiver.decryptNonce
      (writeNonces aead codec senderIo (plaintexts.map Call.write) sender) plaintexts receiver [] :=
    ⟨sameKey, by rw [List.length_nil, Nat.add_zero, Nonce.ofNat_value], List.nil_prefix⟩
  simpa using (run_contiguous receiverIo fewWrites ideal calls buffersFit receiver [] start).2.2

theorem plainCipher_opens : Aead.Opens plainCipher := fun _ _ _ _ sealed =>
  Option.some.inj sealed ▸ rfl

/-- The plaintext codec reads back every frame with a twelve-byte nonce. -/
theorem plainCodec_decodesFrames : ProtoCodec.DecodesFrames plainCodec := fun data twelve => by
  simp [plainCodec, ← twelve]

/-- Paired as `client_handshake` pairs the two ends of one handshake, the reader rejects the
writer's first frame: read-after-write agreement under that pairing fails on a fresh channel
and an empty plaintext. -/
theorem handshake_pairing_rejects_first_frame :
    let written := run plainCipher plainCodec Pipe.io [.write []] zeroConnection
    let receiver : SecureConnection Pipe :=
      { zeroConnection with conn := ⟨written.2.conn.outgoing, []⟩ }
    receiver.decryptor = zeroConnection.encryptor ∧
      receiver.decryptNonce = zeroConnection.encryptNonce ∧
      (run plainCipher plainCodec Pipe.io [.read 0] receiver).1 =
        [.read (.error ⟨.invalidData, "nonce mismatch - possible replay attack"⟩)] := by
  intro written receiver
  refine ⟨rfl, rfl, ?_⟩
  rw [← equal_counters_reject_next_frame plainCipher plainCodec plainCodec_decodesFrames
    zeroConnection receiver [] _ [] 0 rfl (by decide) rfl rfl]
  rfl

/-- One write of `[7]` from a fresh channel, read by a reader one step ahead. -/
theorem read_after_write_agreement_one_frame :
    let sender := zeroConnection
    let emitted := lengthPrefixed (plainCodec.encode ⟨(Nonce.ofNat 1).bytes, [7]⟩)
    let receiver : SecureConnection Pipe :=
      { zeroConnection with conn := ⟨emitted, []⟩, decryptNonce := Nonce.ofNat 1 }
    Aead.Opens plainCipher ∧ ProtoCodec.DecodesFrames plainCodec ∧
      receiver.decryptor = sender.encryptor ∧
      receiver.decryptNonce = sender.encryptNonce.increment ∧
      (∀ plaintext ∈ [[(7 : UInt8)]], plaintext.length ≤ 1) ∧
      (∀ frame ∈ sealedFrames plainCipher plainCodec sender.encryptor (sender.encryptNonce.value + 1)
        [[7]], ∃ msg, frame = some msg ∧ msg.length ≤ maxRawPacketSize) ∧
      (run plainCipher plainCodec Pipe.io ([[7]].map Call.write) sender).2.conn.outgoing =
        sender.conn.outgoing ++ emitted ∧
      receiver.conn.incoming = emitted ++ [] ∧
      (run plainCipher plainCodec Pipe.io ([[(7 : UInt8)]].map fun _ => Call.read 1) receiver).1 =
        [[(7 : UInt8)]].map fun plaintext => .read (.ok plaintext) := by
  intro sender emitted receiver
  have aligned : receiver.decryptNonce = sender.encryptNonce.increment := by
    rw [Nonce.increment_eq_ofNat]; rfl
  have fits : ∀ plaintext ∈ [[(7 : UInt8)]], plaintext.length ≤ 1 := by decide
  have small : ∀ frame ∈ sealedFrames plainCipher plainCodec sender.encryptor
      (sender.encryptNonce.value + 1) [[7]], ∃ msg, frame = some msg ∧
        msg.length ≤ maxRawPacketSize := by
    simp only [sealedFrames, List.mem_singleton, forall_eq]
    exact ⟨_, rfl, by decide⟩
  have sent : (run plainCipher plainCodec Pipe.io ([[7]].map Call.write) sender).2.conn.outgoing =
      sender.conn.outgoing ++ emitted := rfl
  exact ⟨plainCipher_opens, plainCodec_decodesFrames, rfl, aligned, fits, small, sent, rfl,
    read_after_write_agreement plainCipher plainCodec plainCipher_opens plainCodec_decodesFrames
      sender receiver [[7]] 1 emitted [] rfl aligned fits small sent rfl⟩

/-- A cipher that seals and opens the one message `[5]` under the counter `1` and nothing
else: it is ideal for a single write of `[5]` from a fresh channel. -/
def singleMessageCipher : Aead where
  encrypt _ nonce plaintext := if nonce = Nonce.ofNat 1 ∧ plaintext = [5] then some [5] else none
  decrypt _ nonce ciphertext := if nonce = Nonce.ofNat 1 ∧ ciphertext = [5] then some [5] else none

/-- A reader one step ahead of a fresh sender receives the sender's one frame twice; whatever
it accepts is a prefix of `[[5]]`. -/
theorem stream_integrity_replayed_frame :
    let frame := lengthPrefixed (plainCodec.encode ⟨(Nonce.ofNat 1).bytes, [5]⟩)
    let receiver : SecureConnection Pipe :=
      { zeroConnection with conn := ⟨frame ++ frame, []⟩, decryptNonce := Nonce.ofNat 1 }
    let calls := [Call.read 1, Call.read 1]
    receiver.decryptor = zeroConnection.encryptor ∧ [[(5 : UInt8)]].length < 2 ^ 96 ∧
      IdealFor singleMessageCipher plainCodec Pipe.io zeroConnection [[5]] ∧
      (∀ bufLen, Call.read bufLen ∈ calls → ∀ plaintext ∈ [[(5 : UInt8)]], plaintext.length ≤ bufLen) ∧
      Reply.accepted (run singleMessageCipher plainCodec Pipe.io calls receiver).1 <+:
        [[(5 : UInt8)]].drop ((writeNonces singleMessageCipher plainCodec Pipe.io
          ([[(5 : UInt8)]].map Call.write) zeroConnection).indexOf receiver.decryptNonce) := by
  intro frame receiver calls
  have ideal : IdealFor singleMessageCipher plainCodec Pipe.io zeroConnection [[5]] := by
    intro nonce ciphertext plaintext opened
    simp only [singleMessageCipher] at opened
    split at opened
    · rename_i expected
      obtain ⟨rfl, -⟩ := expected
      cases opened
      exact ⟨0, rfl, rfl⟩
    · cases opened
  have fits : ∀ bufLen, Call.read bufLen ∈ calls →
      ∀ plaintext ∈ [[(5 : UInt8)]], plaintext.length ≤ bufLen := by
    simp [calls]
  exact ⟨rfl, by decide, ideal, fits,
    stream_integrity singleMessageCipher plainCodec Pipe.io Pipe.io zeroConnection [[5]] receiver
      calls rfl (by decide) ideal fits⟩

end PortalTunnel
