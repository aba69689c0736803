import PortalTunnel.ChannelRun
import PortalTunnel.WebSocketStream

/-!
# The future of `SecureConnection::write`, poll by poll

`SecureConnection::write` is an `async fn` over the `WebSocketStream` adapter.  Its first poll
advances the encrypt counter, seals the plaintext and encodes the frame's payload with no await
in between, then enters `write_length_prefixed`, whose two `write_all`s hand the length and the
payload to `poll_write` and whose `flush` the adapter completes at once.  A `write_all` returns
`Pending` whenever `poll_write` does, and the future is then suspended until it is polled again,
or dropped.  This file models the future as a step function over its suspension points and the
adapter's state, and runs it among the transport's events.
-/

namespace PortalTunnel

/-- The error `write_all` returns when `poll_write` writes nothing. -/
def writeZero : IoError := ⟨.writeZero, "write zero"⟩

/-- `write_all`'s poll over a writer whose `poll_write` is `pollWrite`: the bytes still to write
are handed to `poll_write` until none remain; a pending or failed call ends the poll, and a call
that writes nothing fails with `WriteZero`.  It returns what the poll returned, the bytes still
to write and the writer. -/
def pollWriteAll {σ : Type} (pollWrite : Bytes → σ → Poll (Except IoError Nat) × σ)
    (remaining : Bytes) (writer : σ) : Poll (Except IoError Unit) × Bytes × σ :=
  if _empty : remaining = [] then (.ready (.ok ()), remaining, writer)
  else
    match pollWrite remaining writer with
    | (.pending, writer) => (.pending, remaining, writer)
    | (.ready (.error e), writer) => (.ready (.error e), remaining, writer)
    | (.ready (.ok written), writer) =>
        if _zero : written = 0 then (.ready (.error writeZero), remaining, writer)
        else pollWriteAll pollWrite (remaining.drop written) writer
termination_by remaining.length
decreasing_by
  rw [List.length_drop]
  have := List.length_pos.mpr _empty
  have := Nat.pos_of_ne_zero _zero
  omega

namespace WebSocketStream

/-- A successful `poll_write` hands the whole buffer to the socket as one message. -/
theorem pollWrite_eq_ready_ok {waker : Nat} {buf : Bytes} {sendResult : Except String Unit}
    {stream stream' : WebSocketStream} {written : Nat}
    (sent : pollWrite waker buf sendResult stream = (.ready (.ok written), stream')) :
    written = buf.length ∧
      stream' = { stream with ws := { stream.ws with sent := stream.ws.sent ++ [buf],
                                                     bufferedAmount := stream.ws.bufferedAmount + buf.length } } := by
  unfold pollWrite at sent
  split at sent
  · cases sent
  · split at sent
    · cases sent
    · split at sent
      · cases sent
      · split at sent
        · cases sent
          exact ⟨rfl, rfl⟩
        · cases sent

/-- Over the adapter, `write_all` of a non-empty buffer is one `poll_write`, which either hands
the whole buffer over or ends the poll. -/
theorem pollWriteAll_pollWrite {waker : Nat} {sendResult : Except String Unit} {remaining : Bytes}
    (nonEmpty : remaining ≠ []) (stream : WebSocketStream) :
    pollWriteAll (fun buf => pollWrite waker buf sendResult) remaining stream =
      match pollWrite waker remaining sendResult stream with
      | (.pending, stream) => (.pending, remaining, stream)
      | (.ready (.error e), stream) => (.ready (.error e), remaining, stream)
      | (.ready (.ok _), stream) => (.ready (.ok ()), [], stream) := by
  rw [pollWriteAll, dif_neg nonEmpty]
  rcases sent : pollWrite waker remaining sendResult stream with ⟨(e | written) | _, stream'⟩
  · rfl
  · obtain ⟨rfl, -⟩ := pollWrite_eq_ready_ok sent
    simp only [List.length_eq_zero, nonEmpty, dite_false, List.drop_length]
    rw [pollWriteAll, dif_pos rfl]
  · rfl

/-- What `poll_write` hands the socket: the whole buffer as one message when it returns `Ok`,
nothing otherwise. -/
theorem pollWrite_sent (waker : Nat) (buf : Bytes) (sendResult : Except String Unit)
    (stream : WebSocketStream) :
    (pollWrite waker buf sendResult stream).2.ws.sent =
      match (pollWrite waker buf sendResult stream).1 with
      | .ready (.ok _) => stream.ws.sent ++ [buf]
      | _ => stream.ws.sent := by
  unfold pollWrite
  split
  · rfl
  · split
    · rfl
    · split
      · rfl
      · split <;> rfl

/-- Over the adapter, `write_all` either hands the socket every byte it still had to write and
returns `Ok`, or hands it nothing, keeps those bytes and returns `Pending` or an error. -/
theorem pollWriteAll_cases (waker : Nat) (sendResult : Except String Unit) (remaining : Bytes)
    (stream : WebSocketStream) :
    (∃ stream', pollWriteAll (fun buf => pollWrite waker buf sendResult) remaining stream =
        (.ready (.ok ()), [], stream') ∧
        stream'.ws.sent.flatten = stream.ws.sent.flatten ++ remaining) ∨
      ∃ poll stream', poll ≠ .ready (.ok ()) ∧
        pollWriteAll (fun buf => pollWrite waker buf sendResult) remaining stream =
          (poll, remaining, stream') ∧ stream'.ws.sent = stream.ws.sent := by
  by_cases empty : remaining = []
  · subst empty
    exact .inl ⟨stream, by rw [pollWriteAll, dif_pos rfl], by simp⟩
  · rw [pollWriteAll_pollWrite empty]
    have sent := pollWrite_sent waker remaining sendResult stream
    rcases result : pollWrite waker remaining sendResult stream with ⟨(e | written) | _, stream'⟩ <;>
      rw [result] at sent <;> dsimp only at sent
    · exact .inr ⟨_, stream', by simp, rfl, sent⟩
    · exact .inl ⟨stream', rfl, by rw [sent, List.flatten_append, List.flatten_singleton]⟩
    · exact .inr ⟨_, stream', by simp, rfl, sent⟩

/-- No step but a `poll_write` hands the socket anything. -/
theorem step_sent (stream : WebSocketStream) (event : Event)
    (notWrite : ∀ waker buf sendResult, event ≠ .pollWrite waker buf sendResult) :
    (step stream event).2.ws.sent = stream.ws.sent := by
  cases event with
  | pollWrite waker buf sendResult => exact absurd rfl (notWrite waker buf sendResult)
  | pollRead waker bufLen =>
      simp only [step, pollRead]
      split
      · rfl
      · split
        · rfl
        · split <;> rfl
  | pollClose =>
      simp only [step, pollClose]
      split <;> rfl
  | _ => rfl

end WebSocketStream

/-- Where the future of `SecureConnection::write(buf)` stands between polls: not yet polled, or
suspended in `write_length_prefixed`'s first `write_all`, on the length of the frame `msg`, or in
its second, on the payload, with `remaining` bytes still to hand over. -/
inductive WriteFuture
  | start (buf : Bytes)
  | writingLength (buf msg remaining : Bytes)
  | writingPayload (buf remaining : Bytes)

/-- What a poll of the future returns: the call's result, or `Pending` with the future to poll
next. -/
inductive Polled
  | ready (result : Except IoError Nat)
  | pending (next : WriteFuture)

namespace WriteFuture

section Poll

variable (aead : Aead) (codec : ProtoCodec EncryptedData) (waker : Nat)
  (sendResult : Except String Unit)

/-- The payload's `write_all` on the adapter, polled by the task `waker` while `send` returns
`sendResult`, and then `flush`, which the adapter completes at once. -/
def pollPayload (buf remaining : Bytes) (self : SecureConnection WebSocketStream) :
    Polled × SecureConnection WebSocketStream :=
  match pollWriteAll (fun chunk => WebSocketStream.pollWrite waker chunk sendResult) remaining
      self.conn with
  | (.ready (.ok ()), _, conn) => (.ready (.ok buf.length), { self with conn })
  | (.ready (.error e), _, conn) => (.ready (.error e), { self with conn })
  | (.pending, remaining, conn) => (.pending (.writingPayload buf remaining), { self with conn })

/-- The length's `write_all`, and then the payload's. -/
def pollLength (buf msg remaining : Bytes) (self : SecureConnection WebSocketStream) :
    Polled × SecureConnection WebSocketStream :=
  match pollWriteAll (fun chunk => WebSocketStream.pollWrite waker chunk sendResult) remaining
      self.conn with
  | (.ready (.ok ()), _, conn) => pollPayload waker sendResult buf msg { self with conn }
  | (.ready (.error e), _, conn) => (.ready (.error e), { self with conn })
  | (.pending, remaining, conn) => (.pending (.writingLength buf msg remaining), { self with conn })

/-- One poll of the future.  The first runs `write`'s body up to its first await: it advances
the encrypt counter, seals and encodes the frame's payload as `sealFrame` does, and starts
`write_length_prefixed` on the length `len as u32`. -/
def poll : WriteFuture → SecureConnection WebSocketStream →
    Polled × SecureConnection WebSocketStream
  | .start buf, self =>
      let self := { self with encryptNonce := self.encryptNonce.increment }
      match SecureConnection.sealFrame aead codec self.encryptor self.encryptNonce buf with
      | none => (.ready (.error ⟨.invalidData, "encryption failed"⟩), self)
      | some msg => pollLength waker sendResult buf msg (beBytes 4 (msg.length % 2 ^ 32)) self
  | .writingLength buf msg remaining, self => pollLength waker sendResult buf msg remaining self
  | .writingPayload buf remaining, self => pollPayload waker sendResult buf remaining self

/-- The payload's `write_all` moves only the transport. -/
theorem pollPayload_state (buf remaining : Bytes) (self : SecureConnection WebSocketStream) :
    ∃ conn, (pollPayload waker sendResult buf remaining self).2 = { self with conn } := by
  unfold pollPayload
  split <;> exact ⟨_, rfl⟩

/-- The length's `write_all`, and the payload's after it, move only the transport. -/
theorem pollLength_state (buf msg remaining : Bytes) (self : SecureConnection WebSocketStream) :
    ∃ conn, (pollLength waker sendResult buf msg remaining self).2 = { self with conn } := by
  unfold pollLength
  split
  · obtain ⟨conn, payload⟩ := pollPayload_state waker sendResult buf msg { self with conn := _ }
    exact ⟨conn, payload⟩
  all_goals exact ⟨_, rfl⟩

/-- The first poll advances the encrypt counter, whatever it returns, and touches nothing else
but the transport; a later poll moves only the transport. -/
theorem poll_state (future : WriteFuture) (self : SecureConnection WebSocketStream) :
    ∃ conn, (poll aead codec waker sendResult future self).2 =
      match future with
      | .start _ => { self with encryptNonce := self.encryptNonce.increment, conn }
      | _ => { self with conn } := by
  cases future with
  | start buf =>
      simp only [poll]
      split
      · exact ⟨_, rfl⟩
      · exact pollLength_state waker sendResult buf _ _ _
  | writingLength buf msg remaining => exact pollLength_state waker sendResult buf msg remaining self
  | writingPayload buf remaining => exact pollPayload_state waker sendResult buf remaining self

/-- No poll returns the future to where it was before its first poll. -/
theorem poll_ne_start (future : WriteFuture) (self : SecureConnection WebSocketStream)
    (buf : Bytes) : (poll aead codec waker sendResult future self).1 ≠ .pending (.start buf) := by
  have payload : ∀ buf' remaining (self : SecureConnection WebSocketStream),
      (pollPayload waker sendResult buf' remaining self).1 ≠ .pending (.start buf) := by
    intro buf' remaining self
    unfold pollPayload
    split <;> simp
  have length : ∀ buf' msg remaining (self : SecureConnection WebSocketStream),
      (pollLength waker sendResult buf' msg remaining self).1 ≠ .pending (.start buf) := by
    intro buf' msg remaining self
    unfold pollLength
    split
    · exact payload _ _ _
    all_goals simp
  cases future with
  | start buf' =>
      simp only [poll]
      split
      · simp
      · exact length _ _ _ _
  | writingLength buf' msg remaining => exact length _ _ _ _
  | writingPayload buf' remaining => exact payload _ _ _

/-! ### What a write puts on the wire -/

/-- Where a write of `buf` whose sealed frame payload is `sealed` stands on the wire, `emitted`
being the bytes the socket has been handed since the call began: nothing before the first poll;
part of the frame's length, the rest of which is still to hand over; the length and part of the
payload; the whole frame once it has returned `Ok`; and a prefix of the frame once it has failed. -/
def WireStage (sealed : Option Bytes) (buf : Bytes) : Polled → Bytes → Prop
  | .pending (.start buf'), emitted => buf' = buf ∧ emitted = []
  | .pending (.writingLength buf' msg remaining), emitted =>
      buf' = buf ∧ sealed = some msg ∧ emitted ++ remaining = beBytes 4 msg.length
  | .pending (.writingPayload buf' remaining), emitted =>
      buf' = buf ∧ ∃ msg, sealed = some msg ∧ emitted ++ remaining = lengthPrefixed msg
  | .ready (.ok written), emitted =>
      written = buf.length ∧ ∃ msg, sealed = some msg ∧ emitted = lengthPrefixed msg
  | .ready (.error _), emitted => emitted <+: (sealed.map lengthPrefixed).getD []

/-- At every stage the bytes handed over are a prefix of the frame. -/
theorem WireStage.isPrefix {sealed : Option Bytes} {buf : Bytes} {polled : Polled}
    {emitted : Bytes} (stage : WireStage sealed buf polled emitted) :
    emitted <+: (sealed.map lengthPrefixed).getD [] := by
  match polled, stage with
  | .pending (.start _), ⟨_, emptyEq⟩ => exact emptyEq ▸ List.nil_prefix
  | .pending (.writingLength _ msg remaining), ⟨_, sealedEq, stage⟩ =>
      rw [sealedEq]
      exact ⟨remaining ++ msg, by rw [← List.append_assoc, stage]; rfl⟩
  | .pending (.writingPayload _ remaining), ⟨_, msg, sealedEq, stage⟩ =>
      rw [sealedEq]
      exact ⟨remaining, stage⟩
  | .ready (.ok _), ⟨_, msg, sealedEq, frameEq⟩ =>
      rw [sealedEq, frameEq]
      exact List.prefix_refl _
  | .ready (.error _), prefixOf => exact prefixOf

variable {aead codec waker sendResult}

/-- The payload's `write_all` from a point where the bytes handed over and those still to hand
over make up the frame keeps the wire at a stage of the write. -/
theorem pollPayload_wire {sealed : Option Bytes} {buf msg remaining emitted start : Bytes}
    {self : SecureConnection WebSocketStream} (sealedEq : sealed = some msg)
    (wire : self.conn.ws.sent.flatten = start ++ emitted)
    (stage : emitted ++ remaining = lengthPrefixed msg) :
    ∃ emitted', (pollPayload waker sendResult buf remaining self).2.conn.ws.sent.flatten =
        start ++ emitted' ∧
      WireStage sealed buf (pollPayload waker sendResult buf remaining self).1 emitted' := by
  unfold pollPayload
  rcases WebSocketStream.pollWriteAll_cases waker sendResult remaining self.conn with
    ⟨conn, result, sent⟩ | ⟨poll, conn, notOk, result, sent⟩ <;> rw [result]
  · exact ⟨emitted ++ remaining, by rw [sent, wire, List.append_assoc], rfl, msg, sealedEq, stage⟩
  · rcases poll with (e | ⟨⟩) | _
    · exact ⟨emitted, by rw [sent, wire], by rw [sealedEq]; exact ⟨remaining, stage⟩⟩
    · exact absurd rfl notOk
    · exact ⟨emitted, by rw [sent, wire], rfl, msg, sealedEq, stage⟩

/-- The length's `write_all`, and the payload's after it. -/
theorem pollLength_wire {sealed : Option Bytes} {buf msg remaining emitted start : Bytes}
    {self : SecureConnection WebSocketStream} (sealedEq : sealed = some msg)
    (wire : self.conn.ws.sent.flatten = start ++ emitted)
    (stage : emitted ++ remaining = beBytes 4 msg.length) :
    ∃ emitted', (pollLength waker sendResult buf msg remaining self).2.conn.ws.sent.flatten =
        start ++ emitted' ∧
      WireStage sealed buf (pollLength waker sendResult buf msg remaining self).1 emitted' := by
  unfold pollLength
  rcases WebSocketStream.pollWriteAll_cases waker sendResult remaining self.conn with
    ⟨conn, result, sent⟩ | ⟨poll, conn, notOk, result, sent⟩ <;> rw [result]
  · exact pollPayload_wire sealedEq (by rw [sent, wire, List.append_assoc])
      (by rw [stage]; rfl)
  · rcases poll with (e | ⟨⟩) | _
    · exact ⟨emitted, by rw [sent, wire], by
        rw [sealedEq]; exact ⟨remaining ++ msg, by rw [← List.append_assoc, stage]; rfl⟩⟩
    · exact absurd rfl notOk
    · exact ⟨emitted, by rw [sent, wire], rfl, sealedEq, stage⟩

/-- A poll keeps the wire at a stage of the write; the first poll seals with the counter it has
just advanced. -/
theorem poll_wire {sealed : Option Bytes} {buf emitted start : Bytes} (future : WriteFuture)
    (self : SecureConnection WebSocketStream)
    (wire : self.conn.ws.sent.flatten = start ++ emitted)
    (stage : WireStage sealed buf (.pending future) emitted)
    (sealedStart : ∀ buf', future = .start buf' →
      sealed = SecureConnection.sealFrame aead codec self.encryptor self.encryptNonce.increment buf') :
    ∃ emitted', (poll aead codec waker sendResult future self).2.conn.ws.sent.flatten =
        start ++ emitted' ∧
      WireStage sealed buf (poll aead codec waker sendResult future self).1 emitted' := by
  cases future with
  | start buf' =>
      obtain ⟨rfl, rfl⟩ := stage
      have sealedEq := sealedStart buf' rfl
      simp only [poll]
      split
      · rename_i refused
        exact ⟨[], wire, by rw [sealedEq, refused]; exact List.nil_prefix⟩
      · rename_i msg sealedMsg
        exact pollLength_wire (sealedEq.trans sealedMsg) wire
          (by rw [List.nil_append]; exact beBytes_mod 4 msg.length)
  | writingLength buf' msg remaining =>
      obtain ⟨rfl, sealedEq, stage⟩ := stage
      exact pollLength_wire sealedEq wire stage
  | writingPayload buf' remaining =>
      obtain ⟨rfl, msg, sealedEq, stage⟩ := stage
      exact pollPayload_wire sealedEq wire stage

end Poll

end WriteFuture

/-! ## Runs among the transport's events -/

/-- What happens around one write call: a poll of its future, with what the socket's `send`
returns during that poll, or an event on the adapter. -/
inductive WriteStep
  | poll (sendResult : Except String Unit)
  | event (event : WebSocketStream.Event)

/-- Whether a step polls the future. -/
def WriteStep.isPoll : WriteStep → Bool
  | .poll _ => true
  | .event _ => false

/-- Whether the future has not been polled yet. -/
def Polled.unpolled : Polled → Bool
  | .pending (.start _) => true
  | _ => false

section Run

variable (aead : Aead) (codec : ProtoCodec EncryptedData) (waker : Nat)

/-- A run of steps by the task `waker`: a `poll` polls the future while it is pending, a future
that is ready is not polled again, and an event steps the adapter. -/
def runWrite : List WriteStep → Polled × SecureConnection WebSocketStream →
    Polled × SecureConnection WebSocketStream
  | [], state => state
  | .poll sendResult :: steps, (.pending future, self) =>
      runWrite steps (WriteFuture.poll aead codec waker sendResult future self)
  | .poll _ :: steps, (.ready result, self) => runWrite steps (.ready result, self)
  | .event event :: steps, (polled, self) =>
      runWrite steps (polled, { self with conn := (WebSocketStream.step self.conn event).2 })

/-- The counters and keys during a write call that started on `origin`: the encrypt counter is
the one the call started with until the future is first polled, and that counter advanced once
ever after; the decrypt counter and the keys never move. -/
structure Consumed (origin : SecureConnection WebSocketStream)
    (state : Polled × SecureConnection WebSocketStream) : Prop where
  encryptNonce : state.2.encryptNonce =
    if state.1.unpolled then origin.encryptNonce else origin.encryptNonce.increment
  decryptNonce : state.2.decryptNonce = origin.decryptNonce
  encryptor : state.2.encryptor = origin.encryptor
  decryptor : state.2.decryptor = origin.decryptor

/-- A step that moves only the transport keeps the invariant. -/
theorem Consumed.withConn {self : SecureConnection WebSocketStream} {polled : Polled}
    {current : SecureConnection WebSocketStream} (consumed : Consumed self (polled, current))
    (conn : WebSocketStream) : Consumed self (polled, { current with conn }) :=
  ⟨consumed.encryptNonce, consumed.decryptNonce, consumed.encryptor, consumed.decryptor⟩

/-- One poll keeps the invariant and leaves the future polled. -/
theorem consumed_poll {self : SecureConnection WebSocketStream} {future : WriteFuture}
    {current : SecureConnection WebSocketStream} (sendResult : Except String Unit)
    (consumed : Consumed self (.pending future, current)) :
    Consumed self (WriteFuture.poll aead codec waker sendResult future current) ∧
      (WriteFuture.poll aead codec waker sendResult future current).1.unpolled = false := by
  have polled : (WriteFuture.poll aead codec waker sendResult future current).1.unpolled = false := by
    rcases h : (WriteFuture.poll aead codec waker sendResult future current).1 with _ | (buf | _ | _)
    · rfl
    · exact absurd h (WriteFuture.poll_ne_start aead codec waker sendResult future current buf)
    all_goals rfl
  obtain ⟨conn, state⟩ := WriteFuture.poll_state aead codec waker sendResult future current
  obtain ⟨encryptNonce, decryptNonce, encryptor, decryptor⟩ := consumed
  refine ⟨⟨?_, ?_, ?_, ?_⟩, polled⟩
  · rw [polled, state]
    cases future <;> simp_all [Polled.unpolled]
  all_goals rw [state]; cases future <;> assumption

/-- Every step keeps the invariant, and a poll leaves the future polled for good. -/
theorem runWrite_consumed (steps : List WriteStep) {self : SecureConnection WebSocketStream}
    {state : Polled × SecureConnection WebSocketStream} (consumed : Consumed self state) :
    Consumed self (runWrite aead codec waker steps state) ∧
      (runWrite aead codec waker steps state).1.unpolled =
        (state.1.unpolled && !steps.any WriteStep.isPoll) := by
  induction steps generalizing state with
  | nil => simp [runWrite, consumed]
  | cons step steps ih =>
      obtain ⟨polled, current⟩ := state
      cases step with
      | poll sendResult =>
          cases polled with
          | pending future =>
              obtain ⟨keeps, done⟩ := consumed_poll aead codec waker sendResult consumed
              obtain ⟨after, unpolled⟩ := ih keeps
              simp only [runWrite]
              exact ⟨after, by rw [unpolled, done]; simp [WriteStep.isPoll]⟩
          | ready result =>
              obtain ⟨after, unpolled⟩ := ih consumed
              simp only [runWrite]
              exact ⟨after, by rw [unpolled]; simp [Polled.unpolled]⟩
      | event event =>
          obtain ⟨after, unpolled⟩ := ih (consumed.withConn _)
          simp only [runWrite]
          exact ⟨after, by rw [unpolled]; simp [WriteStep.isPoll]⟩

/-- Over every run of a write call, the encrypt counter has advanced exactly once as soon as the
future has been polled, whatever happened next, and the decrypt counter and keys never move. -/
theorem write_counter_after_run (steps : List WriteStep) (buf : Bytes)
    (self : SecureConnection WebSocketStream) :
    (runWrite aead codec waker steps (.pending (.start buf), self)).2.encryptNonce =
        (if steps.any WriteStep.isPoll then self.encryptNonce.increment else self.encryptNonce) ∧
      (runWrite aead codec waker steps (.pending (.start buf), self)).2.decryptNonce =
        self.decryptNonce ∧
      (runWrite aead codec waker steps (.pending (.start buf), self)).2.encryptor = self.encryptor ∧
      (runWrite aead codec waker steps (.pending (.start buf), self)).2.decryptor =
        self.decryptor := by
  have start : Consumed self (.pending (.start buf), self) := ⟨rfl, rfl, rfl, rfl⟩
  obtain ⟨⟨encryptNonce, decryptNonce, encryptor, decryptor⟩, unpolled⟩ :=
    runWrite_consumed aead codec waker steps start
  refine ⟨?_, decryptNonce, encryptor, decryptor⟩
  rw [encryptNonce, unpolled]
  cases steps.any WriteStep.isPoll <;> rfl

/-- The frame a write of `buf` on `self` puts on the wire when it completes: the sealed payload
after its length, or nothing when the cipher refuses the plaintext. -/
def writeFrame (buf : Bytes) (self : SecureConnection WebSocketStream) : Bytes :=
  ((SecureConnection.sealFrame aead codec self.encryptor self.encryptNonce.increment buf).map
    lengthPrefixed).getD []

/-- The wire during a write of `buf` that started on `self`: the bytes handed to the socket
since then are `emitted`, at a stage of the write. -/
def WireKept (self : SecureConnection WebSocketStream) (buf : Bytes)
    (state : Polled × SecureConnection WebSocketStream) : Prop :=
  ∃ emitted, state.2.conn.ws.sent.flatten = self.conn.ws.sent.flatten ++ emitted ∧
    WriteFuture.WireStage
      (SecureConnection.sealFrame aead codec self.encryptor self.encryptNonce.increment buf)
      buf state.1 emitted

/-- With no other writer on the stream, every step keeps the wire at a stage of the write. -/
theorem runWrite_wire (steps : List WriteStep) {self : SecureConnection WebSocketStream}
    {buf : Bytes} {state : Polled × SecureConnection WebSocketStream}
    (consumed : Consumed self state) (kept : WireKept aead codec self buf state)
    (noOtherWriter : ∀ step ∈ steps, ∀ other chunk sendResult,
      step ≠ .event (.pollWrite other chunk sendResult)) :
    WireKept aead codec self buf (runWrite aead codec waker steps state) := by
  induction steps generalizing state with
  | nil => exact kept
  | cons step steps ih =>
      obtain ⟨polled, current⟩ := state
      have rest := fun later (member : later ∈ steps) => noOtherWriter later (.tail _ member)
      obtain ⟨emitted, wire, stage⟩ := kept
      cases step with
      | poll sendResult =>
          cases polled with
          | pending future =>
              have sealedStart : ∀ buf', future = .start buf' →
                  SecureConnection.sealFrame aead codec self.encryptor self.encryptNonce.increment buf =
                    SecureConnection.sealFrame aead codec current.encryptor
                      current.encryptNonce.increment buf' := by
                rintro buf' rfl
                obtain ⟨rfl, -⟩ := stage
                rw [show current.encryptNonce = self.encryptNonce from consumed.encryptNonce,
                  consumed.encryptor]
              exact ih (consumed_poll aead codec waker sendResult consumed).1
                (WriteFuture.poll_wire future current wire stage sealedStart) rest
          | ready result => exact ih consumed ⟨emitted, wire, stage⟩ rest
      | event event =>
          have notWrite := noOtherWriter (.event event) (.head _)
          exact ih (consumed.withConn _)
            ⟨emitted, by
              rw [← wire]
              exact congrArg List.flatten (WebSocketStream.step_sent current.conn event
                fun other chunk sendResult same => notWrite other chunk sendResult (same ▸ rfl)), stage⟩
            rest

/-- Over every run of a write call with no other writer, the socket has been handed a prefix of
the call's frame, and the whole frame once the call has returned `Ok`. -/
theorem write_wire_after_run (steps : List WriteStep) (buf : Bytes)
    (self : SecureConnection WebSocketStream)
    (noOtherWriter : ∀ step ∈ steps, ∀ other chunk sendResult,
      step ≠ .event (.pollWrite other chunk sendResult)) :
    ∃ emitted,
      (runWrite aead codec waker steps (.pending (.start buf), self)).2.conn.ws.sent.flatten =
          self.conn.ws.sent.flatten ++ emitted ∧
        emitted <+: writeFrame aead codec buf self ∧
        ((runWrite aead codec waker steps (.pending (.start buf), self)).1 =
            .ready (.ok buf.length) → emitted = writeFrame aead codec buf self) := by
  obtain ⟨emitted, wire, stage⟩ := runWrite_wire aead codec waker steps
    (⟨rfl, rfl, rfl, rfl⟩ : Consumed self (.pending (.start buf), self))
    ⟨[], (List.append_nil _).symm, rfl, rfl⟩ noOtherWriter
  refine ⟨emitted, wire, stage.isPrefix, fun returned => ?_⟩
  rw [returned] at stage
  obtain ⟨-, msg, sealedEq, rfl⟩ := stage
  simp [writeFrame, sealedEq]

end Run

/-- A channel with both counters at zero over a stream whose socket holds exactly 64 KiB. -/
def atCapacityChannel : SecureConnection WebSocketStream :=
  ⟨{ WebSocketStream.connected with ws := ⟨WebSocketStream.maxBufferSize, [], 0⟩ }, [], [],
    Nonce.ofNat 0, Nonce.ofNat 0⟩

/-- The write is polled, the socket closes, and the write is polled again. -/
def closeWhilePending : List WriteStep := [.poll (.ok ()), .event .close, .poll (.ok ())]

/-- A write of `[7]` at capacity, cut off by a close, hands the socket a prefix of its frame. -/
theorem write_wire_after_run_close :
    (∀ step ∈ closeWhilePending, ∀ other chunk sendResult,
      step ≠ .event (.pollWrite other chunk sendResult)) ∧
    ∃ emitted,
      (runWrite plainCipher plainCodec 1 closeWhilePending
          (.pending (.start [7]), atCapacityChannel)).2.conn.ws.sent.flatten =
          atCapacityChannel.conn.ws.sent.flatten ++ emitted ∧
        emitted <+: writeFrame plainCipher plainCodec [7] atCapacityChannel ∧
        ((runWrite plainCipher plainCodec 1 closeWhilePending
            (.pending (.start [7]), atCapacityChannel)).1 = .ready (.ok [7].length) →
          emitted = writeFrame plainCipher plainCodec [7] atCapacityChannel) :=
  have noOtherWriter : ∀ step ∈ closeWhilePending, ∀ other chunk sendResult,
      step ≠ .event (.pollWrite other chunk sendResult) := by
    simp [closeWhilePending]
  ⟨noOtherWriter, write_wire_after_run plainCipher plainCodec 1 closeWhilePending [7]
    atCapacityChannel noOtherWriter⟩

/-- That prefix is the frame's length alone: sending it takes the socket over 64 KiB, the
payload's `poll_write` is pending, and after the close the write fails with the payload unsent. -/
example :
    (runWrite plainCipher plainCodec 1 closeWhilePending
        (.pending (.start [7]), atCapacityChannel)).1 =
      .ready (.error ⟨.brokenPipe, "WebSocket closed"⟩) ∧
    (runWrite plainCipher plainCodec 1 closeWhilePending
        (.pending (.start [7]), atCapacityChannel)).2.conn.ws.sent = [[0, 0, 0, 13]] := by
  simp (disch := exact List.ne_nil_of_length_pos (by simp [plainCodec])) only [closeWhilePending,
    runWrite, WriteFuture.poll, SecureConnection.sealFrame, plainCipher, Option.map_some',
    WriteFuture.pollLength, WriteFuture.pollPayload, WebSocketStream.pollWriteAll_pollWrite]
  exact ⟨rfl, rfl⟩

end PortalTunnel
