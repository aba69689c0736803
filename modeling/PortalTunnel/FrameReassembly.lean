import PortalTunnel.Frame
import PortalTunnel.WebSocketStream

/-!
# Frames read back over the WebSocket adapter

`SecureConnection` reads its frames with `read_length_prefixed` from a `WebSocketStream`, and
the transport splits the bytes `write_length_prefixed` emitted into binary messages anywhere,
inside a length prefix included.  Here `read_length_prefixed` is the future it is compiled to:
two awaits of `read_exact`, whose future loops over `poll_read` until its buffer is full.  A
reader makes one call after another, each polled until it returns; its steps are the
transport's messages and close, and polls of the call in progress.
-/

namespace PortalTunnel

/-- The state of the future `read_exact` returns: the bytes read so far, and how many more fill
its buffer. -/
structure ReadExact where
  filled : Bytes
  remaining : Nat
deriving DecidableEq, Repr

/-- `ReadExact::poll` over the stream, polled by the task `waker`: `poll_read` into the unfilled
part of the buffer until it is full, a read is pending, or a read returns no byte.  `fuel`
bounds the loop; `remaining + 1` is always enough, as each turn that goes on fills a byte. -/
def ReadExact.poll (waker : Nat) :
    Nat → ReadExact → WebSocketStream → Poll (Except IoError Bytes) × ReadExact × WebSocketStream
  | fuel, fut, stream =>
      if fut.remaining = 0 then (.ready (.ok fut.filled), fut, stream) else
      match fuel with
      | 0 => (.pending, fut, stream)
      | fuel + 1 =>
          match WebSocketStream.pollRead waker fut.remaining stream with
          | (.pending, stream) => (.pending, fut, stream)
          | (.ready (.error e), stream) => (.ready (.error e), fut, stream)
          | (.ready (.ok bytes), stream) =>
              if bytes.isEmpty then (.ready (.error unexpectedEof), fut, stream)
              else poll waker fuel ⟨fut.filled ++ bytes, fut.remaining - bytes.length⟩ stream

/-- The future of `read_length_prefixed` at one of its two awaits. -/
inductive FrameRead
  | length (fut : ReadExact)
  | data (fut : ReadExact)
deriving DecidableEq, Repr

namespace FrameRead

/-- A new call: awaiting four length bytes. -/
def start : FrameRead := .length ⟨[], 4⟩

/-- The second await, reading the payload. -/
def readData (waker : Nat) (fut : ReadExact) (stream : WebSocketStream) :
    Poll (Except IoError Bytes) × FrameRead × WebSocketStream :=
  let (result, fut, stream) := ReadExact.poll waker (fut.remaining + 1) fut stream
  (result, .data fut, stream)

/-- One poll of a `read_length_prefixed` call; once the length is read, the payload's
`read_exact` starts in the same poll. -/
def poll (waker : Nat) (call : FrameRead) (stream : WebSocketStream) :
    Poll (Except IoError Bytes) × FrameRead × WebSocketStream :=
  match call with
  | .length fut =>
      match ReadExact.poll waker (fut.remaining + 1) fut stream with
      | (.ready (.ok lenBuf), fut, stream) =>
          let len := beValue lenBuf
          if len > maxRawPacketSize then
            (.ready (.error ⟨.invalidData, "packet too large"⟩), .length fut, stream)
          else readData waker ⟨[], len⟩ stream
      | (result, fut, stream) => (result, .length fut, stream)
  | .data fut => readData waker fut stream

/-- The call that has taken `consumed`, a proper prefix of the frame of `payload`. -/
def ofConsumed (payload consumed : Bytes) : FrameRead :=
  if consumed.length < 4 then .length ⟨consumed, 4 - consumed.length⟩
  else .data ⟨consumed.drop 4, payload.length - (consumed.length - 4)⟩

/-- The bytes the call has taken from the stream so far. -/
def consumed : FrameRead → Bytes
  | .length fut => fut.filled
  | .data fut => beBytes 4 (fut.filled.length + fut.remaining) ++ fut.filled

end FrameRead

/-- The bytes `write_length_prefixed` emits for each payload in turn. -/
def frameBytes (payloads : List Bytes) : Bytes :=
  payloads.flatMap lengthPrefixed

/-- A reader making one `read_length_prefixed` call after another on the stream, with what the
finished calls returned and, for the specification, the bytes each of them took. -/
structure FrameReader where
  stream : WebSocketStream
  call : FrameRead
  results : List (Except IoError Bytes)
  consumedBy : List Bytes

/-- A step of the reader: a binary message or a close from the transport, or a poll. -/
inductive ReaderEvent
  | message (data : Bytes)
  | close
  | poll

namespace FrameReader

/-- The reader on the stream `connect` returns, before its first call. -/
def start : FrameReader := ⟨WebSocketStream.connected, .start, [], []⟩

def step (self : FrameReader) : ReaderEvent → FrameReader
  | .message data => { self with stream := (self.stream.onMessage data).2 }
  | .close => { self with stream := self.stream.onClose.2 }
  | .poll =>
      match self.call.poll 0 self.stream with
      | (.pending, call, stream) => { self with call, stream }
      | (.ready result, _, stream) =>
          { stream
            call := .start
            results := self.results ++ [result]
            consumedBy := self.consumedBy ++ [self.call.consumed ++
              self.stream.readBuffer.take (self.stream.readBuffer.length - stream.readBuffer.length)] }

def run : FrameReader → List ReaderEvent → FrameReader
  | self, [] => self
  | self, event :: events => run (self.step event) events

end FrameReader

/-- The bytes of the binary messages of a run, in order. -/
def ReaderEvent.delivered : List ReaderEvent → Bytes
  | [] => []
  | .message data :: events => data ++ delivered events
  | .close :: events => delivered events
  | .poll :: events => delivered events

/-- The transport delivers no message after it closes. -/
def ReaderEvent.NoMessageAfterClose : List ReaderEvent → Prop
  | [] => True
  | .message _ :: events => NoMessageAfterClose events
  | .close :: events => delivered events = []
  | .poll :: events => NoMessageAfterClose events

/-! ## One poll of a call -/

namespace WebSocketStream

variable {waker bufLen : Nat} {self : WebSocketStream}

theorem pollRead_queued (noError : self.error = none) (queued : self.readBuffer ≠ []) :
    pollRead waker bufLen self =
      (.ready (.ok (self.readBuffer.take bufLen)), { self with readBuffer := self.readBuffer.drop bufLen }) := by
  have notEmpty : self.readBuffer.isEmpty = false := by simpa using queued
  have dropMin : self.readBuffer.drop (min bufLen self.readBuffer.length) = self.readBuffer.drop bufLen := by
    rcases le_total bufLen self.readBuffer.length with fits | exceeds
    · rw [min_eq_left fits]
    · rw [min_eq_right exceeds, List.drop_length, List.drop_eq_nil_of_le exceeds]
  simp [pollRead, checkError, noError, notEmpty, dropMin]

theorem pollRead_empty_open (noError : self.error = none) (empty : self.readBuffer = [])
    (open_ : self.closed = false) :
    pollRead waker bufLen self = (.pending, { self with readWaker := some waker }) := by
  simp [pollRead, checkError, noError, empty, open_]

theorem pollRead_empty_closed (noError : self.error = none) (empty : self.readBuffer = [])
    (closed : self.closed = true) :
    pollRead waker bufLen self = (.ready (.ok []), self) := by
  simp [pollRead, checkError, noError, empty, closed]

end WebSocketStream

namespace ReadExact

variable {waker fuel : Nat} {fut : ReadExact} {stream : WebSocketStream}

theorem poll_done (done : fut.remaining = 0) :
    poll waker fuel fut stream = (.ready (.ok fut.filled), fut, stream) := by
  unfold poll
  simp [done]

theorem poll_enough (noError : stream.error = none) (positive : 0 < fut.remaining)
    (enough : fut.remaining ≤ stream.readBuffer.length) :
    poll waker (fuel + 1) fut stream =
      (.ready (.ok (fut.filled ++ stream.readBuffer.take fut.remaining)),
        ⟨fut.filled ++ stream.readBuffer.take fut.remaining, 0⟩,
        { stream with readBuffer := stream.readBuffer.drop fut.remaining }) := by
  have queued : stream.readBuffer ≠ [] := fun empty => by simp [empty] at enough; omega
  have taken : (stream.readBuffer.take fut.remaining).isEmpty = false := by
    simp [List.isEmpty_iff, queued]; omega
  unfold poll
  simp only [Nat.pos_iff_ne_zero.mp positive, if_false, WebSocketStream.pollRead_queued noError queued, taken]
  rw [poll_done (by rw [List.length_take, min_eq_left enough, Nat.sub_self])]
  simp only [Bool.false_eq_true, if_false, List.length_take, min_eq_left enough, Nat.sub_self]

theorem poll_empty (noError : stream.error = none) (positive : 0 < fut.remaining)
    (empty : stream.readBuffer = []) :
    poll waker (fuel + 1) fut stream =
      (if stream.closed then (.ready (.error unexpectedEof), fut, stream)
        else (.pending, fut, { stream with readWaker := some waker })) := by
  unfold poll
  cases closed : stream.closed
  · simp [Nat.pos_iff_ne_zero.mp positive, WebSocketStream.pollRead_empty_open noError empty closed,
      closed]
  · simp [Nat.pos_iff_ne_zero.mp positive, WebSocketStream.pollRead_empty_closed noError empty closed,
      closed]

theorem poll_short (noError : stream.error = none) (positive : 0 < fut.remaining)
    (short : stream.readBuffer.length < fut.remaining) :
    poll waker (fuel + 2) fut stream =
      (if stream.closed then .ready (.error unexpectedEof) else .pending,
        ⟨fut.filled ++ stream.readBuffer, fut.remaining - stream.readBuffer.length⟩,
        { stream with
          readBuffer := []
          readWaker := if stream.closed then stream.readWaker else some waker }) := by
  by_cases empty : stream.readBuffer = []
  · rw [poll_empty noError positive empty]
    rcases stream with ⟨ws, readBuffer, readWaker, writeWaker, closed, error⟩
    simp only at empty noError
    subst empty noError
    cases closed <;> simp
  · have taken : stream.readBuffer.take fut.remaining = stream.readBuffer :=
      List.take_of_length_le short.le
    have dropped : stream.readBuffer.drop fut.remaining = [] := List.drop_eq_nil_of_le short.le
    have notEmpty : stream.readBuffer.isEmpty = false := by simpa using empty
    have stillPositive : 0 < fut.remaining - stream.readBuffer.length := by omega
    unfold poll
    simp only [Nat.pos_iff_ne_zero.mp positive, if_false, WebSocketStream.pollRead_queued noError empty,
      taken, dropped, notEmpty, Bool.false_eq_true]
    rw [@poll_empty waker fuel ⟨fut.filled ++ stream.readBuffer, fut.remaining - stream.readBuffer.length⟩
      { stream with readBuffer := [] } noError stillPositive rfl]
    cases stream.closed <;> simp

end ReadExact
namespace FrameRead

variable {stream : WebSocketStream}

/-- The payload's `read_exact`, with `rest` the payload bytes it still needs, on a queue that
agrees with them. -/
theorem readData_frame {payload filled rest : Bytes} (noError : stream.error = none)
    (split : payload = filled ++ rest)
    (agrees : stream.readBuffer <+: rest ∨ rest <+: stream.readBuffer) :
    readData 0 ⟨filled, rest.length⟩ stream =
      if rest.length ≤ stream.readBuffer.length then
        (.ready (.ok payload), .data ⟨payload, 0⟩,
          { stream with readBuffer := stream.readBuffer.drop rest.length })
      else
        (if stream.closed then .ready (.error unexpectedEof) else .pending,
          .data ⟨filled ++ stream.readBuffer, rest.length - stream.readBuffer.length⟩,
          { stream with
            readBuffer := []
            readWaker := if stream.closed then stream.readWaker else some 0 }) := by
  unfold readData
  by_cases enough : rest.length ≤ stream.readBuffer.length
  · have taken : stream.readBuffer.take rest.length = rest := by
      rcases agrees with shorter | longer
      · exact (shorter.eq_of_length (le_antisymm shorter.length_le enough)).symm ▸ List.take_length _
      · exact (List.prefix_iff_eq_take.mp longer).symm
    rw [if_pos enough]
    cases rest with
    | nil => simp [ReadExact.poll_done, split]
    | cons byte bytes =>
        rw [ReadExact.poll_enough noError (Nat.succ_pos _) enough, taken]
        simp [split]
  · rw [if_neg enough]
    obtain ⟨fuel, more⟩ : ∃ fuel, rest.length = fuel + 1 := ⟨rest.length - 1, by omega⟩
    rw [more, ReadExact.poll_short noError (Nat.succ_pos _) (by show _ < fuel + 1; omega)]

theorem ofConsumed_of_lt {payload consumed : Bytes} (inPrefix : consumed.length < 4) :
    ofConsumed payload consumed = .length ⟨consumed, 4 - consumed.length⟩ :=
  if_pos inPrefix

theorem ofConsumed_of_le {payload consumed : Bytes} (read : 4 ≤ consumed.length) :
    ofConsumed payload consumed = .data ⟨consumed.drop 4, payload.length - (consumed.length - 4)⟩ :=
  if_neg (by omega)

/-- What one poll does to the call that has taken `consumed` of the frame of `payload`, on a
queue that agrees with the rest of the frame: it returns the payload once the queue holds the
rest of the frame, and otherwise takes the whole queue and waits, or fails on a closed stream. -/
def pollFrame (payload consumed : Bytes) (stream : WebSocketStream) :
    Poll (Except IoError Bytes) × FrameRead × WebSocketStream :=
  if (lengthPrefixed payload).length ≤ consumed.length + stream.readBuffer.length then
    (.ready (.ok payload), .data ⟨payload, 0⟩,
      { stream with
        readBuffer := stream.readBuffer.drop ((lengthPrefixed payload).length - consumed.length) })
  else
    (if stream.closed then .ready (.error unexpectedEof) else .pending,
      ofConsumed payload (consumed ++ stream.readBuffer),
      { stream with
        readBuffer := []
        readWaker := if stream.closed then stream.readWaker else some 0 })

/-- Moving bytes from the front of the queue to the bytes the call has taken, within the frame,
changes nothing a poll does. -/
theorem pollFrame_take {payload consumed : Bytes} {count : Nat}
    (within : consumed.length + count ≤ (lengthPrefixed payload).length)
    (fits : count ≤ stream.readBuffer.length) :
    pollFrame payload (consumed ++ stream.readBuffer.take count)
        { stream with readBuffer := stream.readBuffer.drop count } =
      pollFrame payload consumed stream := by
  unfold pollFrame
  simp only [List.length_append, List.length_take, List.length_drop, min_eq_left fits, List.drop_drop,
    List.append_assoc, List.take_append_drop]
  rw [show consumed.length + count + (stream.readBuffer.length - count) =
      consumed.length + stream.readBuffer.length by omega,
    show count + ((lengthPrefixed payload).length - (consumed.length + count)) =
      (lengthPrefixed payload).length - consumed.length by omega]

/-- A poll of the payload's `read_exact`, once the length is read. -/
theorem poll_data {payload consumed : Bytes} (noError : stream.error = none)
    (begun : consumed <+: lengthPrefixed payload) (read : 4 ≤ consumed.length)
    (agrees : stream.readBuffer <+: (lengthPrefixed payload).drop consumed.length ∨
      (lengthPrefixed payload).drop consumed.length <+: stream.readBuffer) :
    (ofConsumed payload consumed).poll 0 stream = pollFrame payload consumed stream := by
  have frameLength := lengthPrefixed_length payload
  have taken := begun.length_le
  have payloadSplit : payload = consumed.drop 4 ++ (lengthPrefixed payload).drop consumed.length := by
    conv_lhs => rw [← lengthPrefixed_drop_four payload, ← List.take_append_drop (consumed.length - 4)
      ((lengthPrefixed payload).drop 4)]
    rw [List.drop_drop, Nat.add_sub_cancel' read, List.prefix_iff_eq_take.mp begun, List.drop_take,
      List.length_take, min_eq_left taken]
  have restLength : ((lengthPrefixed payload).drop consumed.length).length =
      payload.length - (consumed.length - 4) := by
    rw [List.length_drop, frameLength]
    omega
  rw [ofConsumed_of_le read, ← restLength]
  simp only [poll]
  rw [readData_frame noError payloadSplit agrees, pollFrame, List.length_drop]
  by_cases complete : (lengthPrefixed payload).length ≤ consumed.length + stream.readBuffer.length
  · rw [if_pos (by omega), if_pos complete]
  · have nextCall : ofConsumed payload (consumed ++ stream.readBuffer) =
        .data ⟨consumed.drop 4 ++ stream.readBuffer,
          (lengthPrefixed payload).length - consumed.length - stream.readBuffer.length⟩ := by
      rw [ofConsumed_of_le (by rw [List.length_append]; omega), List.drop_append_of_le_length read]
      simp only [List.length_append, frameLength]
      congr 2
      omega
    rw [if_neg (by omega), if_neg complete, nextCall]

/-- A poll of the length's `read_exact`: once the four length bytes are there, the payload's
`read_exact` starts in the same poll. -/
theorem poll_length {payload consumed : Bytes} (fits : payload.length ≤ maxRawPacketSize)
    (noError : stream.error = none) (begun : consumed <+: lengthPrefixed payload)
    (inPrefix : consumed.length < 4)
    (agrees : stream.readBuffer <+: (lengthPrefixed payload).drop consumed.length ∨
      (lengthPrefixed payload).drop consumed.length <+: stream.readBuffer) :
    (ofConsumed payload consumed).poll 0 stream = pollFrame payload consumed stream := by
  have frameLength := lengthPrefixed_length payload
  rw [ofConsumed_of_lt inPrefix]
  simp only [poll]
  by_cases enough : 4 - consumed.length ≤ stream.readBuffer.length
  · -- the length is read: what is left is a poll of the payload's `read_exact`
    have lengthBytes : consumed ++ stream.readBuffer.take (4 - consumed.length) =
        (lengthPrefixed payload).take 4 := by
      have queuedPrefix : stream.readBuffer.take (4 - consumed.length) =
          ((lengthPrefixed payload).drop consumed.length).take (4 - consumed.length) := by
        rcases agrees with shorter | longer
        · exact (shorter.take _).eq_of_length (by simp only [List.length_take, List.length_drop]; omega)
        · exact ((longer.take _).eq_of_length (by simp only [List.length_take, List.length_drop]; omega)).symm
      rw [queuedPrefix]
      nth_rewrite 1 [List.prefix_iff_eq_take.mp begun]
      rw [← List.take_add, Nat.add_sub_cancel' inPrefix.le]
    have lengthValue : beValue (consumed ++ stream.readBuffer.take (4 - consumed.length)) =
        payload.length := by
      rw [lengthBytes, lengthPrefixed_take_four, beValue_length_prefix fits]
    have agreesPayload : stream.readBuffer.drop (4 - consumed.length) <+:
          (lengthPrefixed payload).drop (consumed ++ stream.readBuffer.take (4 - consumed.length)).length ∨
        (lengthPrefixed payload).drop (consumed ++ stream.readBuffer.take (4 - consumed.length)).length <+:
          stream.readBuffer.drop (4 - consumed.length) := by
      have afterLength : ((lengthPrefixed payload).drop consumed.length).drop (4 - consumed.length) =
          (lengthPrefixed payload).drop (consumed ++ stream.readBuffer.take (4 - consumed.length)).length := by
        rw [List.drop_drop, lengthBytes, List.length_take, frameLength, Nat.add_sub_cancel' inPrefix.le,
          min_eq_left (by omega)]
      exact afterLength ▸ agrees.imp (·.drop _) (·.drop _)
    have lengthTaken : (consumed ++ stream.readBuffer.take (4 - consumed.length)).length = 4 := by
      simp only [List.length_append, List.length_take, min_eq_left enough]
      omega
    rw [@ReadExact.poll_enough 0 (4 - consumed.length) ⟨consumed, 4 - consumed.length⟩ stream noError
      (show 0 < 4 - consumed.length by omega) enough]
    simp only [lengthValue]
    rw [if_neg (show ¬payload.length > maxRawPacketSize by omega),
      ← @pollFrame_take stream payload consumed (4 - consumed.length) (by omega) enough,
      ← @poll_data { stream with readBuffer := stream.readBuffer.drop (4 - consumed.length) } payload _
        noError (lengthBytes ▸ List.take_prefix 4 _) lengthTaken.ge agreesPayload,
      ofConsumed_of_le lengthTaken.ge, lengthTaken, List.drop_eq_nil_of_le lengthTaken.le]
    rfl
  · -- the queue ends inside the length: the call takes it all
    rw [show 4 - consumed.length + 1 = (3 - consumed.length) + 2 by omega,
      @ReadExact.poll_short 0 (3 - consumed.length) ⟨consumed, 4 - consumed.length⟩ stream noError
        (show 0 < 4 - consumed.length by omega) (show _ < 4 - consumed.length by omega),
      pollFrame, if_neg (show ¬(lengthPrefixed payload).length ≤
        consumed.length + stream.readBuffer.length by omega),
      ofConsumed_of_lt (by rw [List.length_append]; omega), List.length_append, Nat.sub_sub]
    cases stream.closed <;> rfl

/-- One poll of the call that has taken `consumed`, a proper prefix of the frame of `payload`,
on a queue that agrees with the rest of the frame. -/
theorem poll_ofConsumed {payload consumed : Bytes} (fits : payload.length ≤ maxRawPacketSize)
    (noError : stream.error = none) (begun : consumed <+: lengthPrefixed payload)
    (agrees : stream.readBuffer <+: (lengthPrefixed payload).drop consumed.length ∨
      (lengthPrefixed payload).drop consumed.length <+: stream.readBuffer) :
    (ofConsumed payload consumed).poll 0 stream = pollFrame payload consumed stream := by
  by_cases inPrefix : consumed.length < 4
  · exact poll_length fits noError begun inPrefix agrees
  · exact poll_data noError begun (by omega) agrees

theorem consumed_ofConsumed {payload consumed : Bytes} (begun : consumed <+: lengthPrefixed payload)
    (unfinished : consumed.length < (lengthPrefixed payload).length) :
    (ofConsumed payload consumed).consumed = consumed := by
  have frameLength := lengthPrefixed_length payload
  unfold ofConsumed
  split
  · rfl
  · rename_i inPayload
    have lengthBytes : consumed.take 4 = beBytes 4 payload.length := by
      rw [List.prefix_iff_eq_take.mp begun, List.take_take, min_eq_left (by omega),
        lengthPrefixed_take_four]
    simp only [FrameRead.consumed, List.length_drop]
    rw [show consumed.length - 4 + (payload.length - (consumed.length - 4)) = payload.length by omega,
      ← lengthBytes, List.take_append_drop]

end FrameRead

/-! ## Reassembly over a whole run -/

theorem frameBytes_take_succ {payloads : List Bytes} {index : Nat} {payload : Bytes}
    (found : payloads[index]? = some payload) :
    frameBytes (payloads.take (index + 1)) = frameBytes (payloads.take index) ++ lengthPrefixed payload := by
  simp [frameBytes, List.take_succ, found]

theorem frameBytes_split {payloads : List Bytes} {index : Nat} {payload : Bytes}
    (found : payloads[index]? = some payload) :
    frameBytes payloads =
      frameBytes (payloads.take index) ++ (lengthPrefixed payload ++ frameBytes (payloads.drop (index + 1))) := by
  rw [← List.append_assoc, ← frameBytes_take_succ found, frameBytes, frameBytes, frameBytes,
    ← List.flatMap_append, List.take_append_drop]

theorem FrameRead.poll_start_empty {stream : WebSocketStream} (noError : stream.error = none)
    (empty : stream.readBuffer = []) :
    FrameRead.start.poll 0 stream =
      if stream.closed then (.ready (.error unexpectedEof), .start, stream)
      else (.pending, .start, { stream with readWaker := some 0 }) := by
  have polled := @ReadExact.poll_empty 0 4 ⟨[], 4⟩ stream noError (by decide) empty
  simp only [FrameRead.poll, FrameRead.start] at polled ⊢
  rw [polled]
  cases stream.closed <;> rfl

theorem FrameRead.ofConsumed_nil (payload : Bytes) : FrameRead.ofConsumed payload [] = .start := rfl

/-- A queue that runs along a frame after the bytes already taken of it agrees with the rest of
that frame. -/
theorem agrees_of_ahead {frame consumed queue rest : Bytes} (begun : consumed <+: frame)
    (ahead : consumed ++ queue <+: frame ++ rest) :
    queue <+: frame.drop consumed.length ∨ frame.drop consumed.length <+: queue := by
  have restEq : frame = consumed ++ frame.drop consumed.length := by
    conv_lhs => rw [← List.take_append_drop consumed.length frame]
    rw [← List.prefix_iff_eq_take.mp begun]
  rw [restEq, List.append_assoc, List.prefix_append_right_inj] at ahead
  exact List.prefix_or_prefix_of_prefix ahead (List.prefix_append _ _)

theorem take_append_of_take {α : Type} {list : List α} {count : Nat} {prefix_ : List α}
    (taken : list.take count = prefix_) (fits : prefix_.length = count) (more : List α) :
    (list ++ more).take count = prefix_ := by
  have long : count ≤ list.length := by
    have := congrArg List.length taken
    simp only [List.length_take] at this
    omega
  rw [List.take_append_of_le_length long, taken]

namespace FrameReader

/-- The reader is at the frame of `payload`, the next one, and its call has taken `consumed`, a
proper prefix of that frame: each finished call returned its payload and took its own frame,
and every byte delivered is in a finished frame, taken by the call, or queued. -/
structure Reading (payloads : List Bytes) (reader : FrameReader) (delivered payload consumed : Bytes) :
    Prop where
  results : reader.results = (payloads.take reader.results.length).map .ok
  consumedBy : reader.consumedBy = (payloads.take reader.results.length).map lengthPrefixed
  call : reader.call = FrameRead.ofConsumed payload consumed
  begun : consumed <+: lengthPrefixed payload
  unfinished : consumed.length < (lengthPrefixed payload).length
  accounting : frameBytes (payloads.take reader.results.length) ++ consumed ++ reader.stream.readBuffer =
    delivered

/-- The reader has returned every payload, each call having taken its own frame, and nothing
is left to read. -/
structure Finished (payloads : List Bytes) (reader : FrameReader) (delivered : Bytes) : Prop where
  results : reader.results.take payloads.length = payloads.map .ok
  consumedBy : reader.consumedBy.take payloads.length = payloads.map lengthPrefixed
  call : reader.call = .start
  queue : reader.stream.readBuffer = []
  all : delivered = frameBytes payloads

/-- What the reader has made of the frames of `payloads` once the bytes `delivered` arrived. -/
structure Reassembling (payloads : List Bytes) (reader : FrameReader) (delivered : Bytes) : Prop where
  noError : reader.stream.error = none
  closedAll : reader.stream.closed = true → delivered = frameBytes payloads
  reading : ∀ payload, payloads[reader.results.length]? = some payload →
    ∃ consumed, Reading payloads reader delivered payload consumed
  finished : payloads.length ≤ reader.results.length → Finished payloads reader delivered

section

variable {payloads : List Bytes} {self : FrameReader} {delivered payload consumed : Bytes}

/-- The bytes the call took and the queue run along the rest of the frames. -/
theorem Reading.ahead (reading : Reading payloads self delivered payload consumed)
    (within : delivered <+: frameBytes payloads) (found : payloads[self.results.length]? = some payload) :
    consumed ++ self.stream.readBuffer <+:
      lengthPrefixed payload ++ frameBytes (payloads.drop (self.results.length + 1)) := by
  rw [← List.prefix_append_right_inj (frameBytes (payloads.take self.results.length)),
    ← frameBytes_split found, ← List.append_assoc, reading.accounting]
  exact within

/-- A poll within the frame of `payload` does what `pollFrame` says. -/
theorem Reading.poll (reading : Reading payloads self delivered payload consumed)
    (noError : self.stream.error = none) (fit : payload.length ≤ maxRawPacketSize)
    (within : delivered <+: frameBytes payloads) (found : payloads[self.results.length]? = some payload) :
    self.call.poll 0 self.stream = FrameRead.pollFrame payload consumed self.stream := by
  rw [reading.call]
  exact FrameRead.poll_ofConsumed fit noError reading.begun
    (agrees_of_ahead reading.begun (reading.ahead within found))

theorem start_reassembling (payloads : List Bytes) : Reassembling payloads start [] := by
  refine ⟨rfl, (fun closed => nomatch closed), fun payload _ => ⟨[], rfl, rfl, rfl, List.nil_prefix, ?_, rfl⟩,
    fun empty => ⟨?_, ?_, rfl, rfl, ?_⟩⟩
  · rw [List.length_nil, lengthPrefixed_length]
    omega
  all_goals
    have : payloads = [] := List.eq_nil_of_length_eq_zero (by simpa [start] using empty)
    subst this
    rfl

/-- Bytes beyond all the frames never arrive: a prefix of the frames that extends the whole of them
extends it by nothing. -/
theorem nothing_after_all {data : Bytes} (within : frameBytes payloads ++ data <+: frameBytes payloads) :
    data = [] :=
  List.eq_nil_of_length_eq_zero (by have := within.length_le; rw [List.length_append] at this; omega)

theorem message_reassembling {data : Bytes} (holds : Reassembling payloads self delivered)
    (within : delivered ++ data <+: frameBytes payloads) :
    Reassembling payloads (self.step (.message data)) (delivered ++ data) := by
  have quietAfterAll : delivered = frameBytes payloads → data = [] := fun all =>
    nothing_after_all (all ▸ within)
  refine ⟨holds.noError, fun closed => ?_, fun payload found => ?_, fun past => ?_⟩
  · have all := holds.closedAll closed
    rw [quietAfterAll all, List.append_nil, all]
  · obtain ⟨consumed, reading⟩ := holds.reading payload found
    exact ⟨consumed, { reading with
      accounting := by simp [step, WebSocketStream.onMessage, ← reading.accounting] }⟩
  · obtain ⟨results, consumedBy, call, queue, all⟩ := holds.finished past
    have noData := quietAfterAll all
    subst noData
    exact ⟨results, consumedBy, call, by simpa [step, WebSocketStream.onMessage] using queue,
      by rw [List.append_nil, all]⟩

theorem close_reassembling (holds : Reassembling payloads self delivered)
    (all : delivered = frameBytes payloads) :
    Reassembling payloads (self.step .close) delivered :=
  ⟨holds.noError, fun _ => all,
    fun payload found =>
      let ⟨consumed, reading⟩ := holds.reading payload found
      ⟨consumed, { reading with }⟩,
    fun past =>
      let ⟨results, consumedBy, call, queue, all⟩ := holds.finished past
      ⟨results, consumedBy, call, queue, all⟩⟩

theorem step_results (self : FrameReader) (event : ReaderEvent) :
    ∃ more : List (Except IoError Bytes), (self.step event).results = self.results ++ more ∧
      more.length ≤ 1 := by
  cases event with
  | message => exact ⟨[], by simp [step], by simp⟩
  | close => exact ⟨[], by simp [step], by simp⟩
  | poll =>
      simp only [step]
      split
      · exact ⟨[], by simp, by simp⟩
      · exact ⟨[_], rfl, by simp⟩

/-- Past the last frame a poll finds nothing: it is pending, or on a closed stream the call
returns an error, and the payloads already returned stay as they are. -/
theorem poll_finished (holds : Reassembling payloads self delivered)
    (past : payloads.length ≤ self.results.length) :
    Reassembling payloads (self.step .poll) delivered := by
  obtain ⟨results, consumedBy, call, queue, all⟩ := holds.finished past
  have polled := FrameRead.poll_start_empty holds.noError queue
  have noneAhead : ∀ {reader : FrameReader} {payload}, self.results.length ≤ reader.results.length →
      payloads[reader.results.length]? = some payload →
        ∃ consumed, Reading payloads reader delivered payload consumed :=
    fun longer found => absurd (List.getElem?_eq_some_iff.mp found).1 (by omega)
  cases closed : self.stream.closed
  · -- open: the call waits for more bytes
    have stepEq : self.step .poll = { self with stream := { self.stream with readWaker := some 0 } } := by
      simp only [step, call, polled, closed]
      rfl
    rw [stepEq]
    exact ⟨holds.noError, fun _ => all, fun _ => noneAhead le_rfl,
      fun _ => ⟨results, consumedBy, call, queue, all⟩⟩
  · -- closed: the call returns an error and the next one starts
    have stepEq : self.step .poll = { self with
        call := .start
        results := self.results ++ [.error unexpectedEof]
        consumedBy := self.consumedBy ++ [FrameRead.start.consumed ++ []] } := by
      simp only [step, call, polled, closed, if_true, Nat.sub_self, List.take_zero]
    rw [stepEq]
    exact ⟨holds.noError, fun _ => all, fun _ => noneAhead (by simp),
      fun _ => ⟨take_append_of_take results (by simp) _, take_append_of_take consumedBy (by simp) _,
        rfl, queue, all⟩⟩

/-- With the rest of the frame queued, a poll returns the payload, its call having taken exactly
the frame, and the reader goes on to the next frame, or has finished. -/
theorem poll_complete (holds : Reassembling payloads self delivered)
    (reading : Reading payloads self delivered payload consumed) (fit : payload.length ≤ maxRawPacketSize)
    (within : delivered <+: frameBytes payloads) (found : payloads[self.results.length]? = some payload)
    (complete : (lengthPrefixed payload).length ≤ consumed.length + self.stream.readBuffer.length) :
    Reassembling payloads (self.step .poll) delivered ∧
      (self.step .poll).results = self.results ++ [.ok payload] := by
  have ahead := reading.ahead within found
  have unfinished := reading.unfinished
  have frameTaken : consumed ++ self.stream.readBuffer.take
      ((lengthPrefixed payload).length - consumed.length) = lengthPrefixed payload := by
    have taken := (ahead.take (lengthPrefixed payload).length).eq_of_length
      (by simp only [List.length_take, List.length_append]; omega)
    rwa [List.take_append_eq_append_take, List.take_of_length_le (by omega),
      List.take_left' rfl] at taken
  have stepEq : self.step .poll =
      { stream := { self.stream with
          readBuffer := self.stream.readBuffer.drop ((lengthPrefixed payload).length - consumed.length) }
        call := .start
        results := self.results ++ [.ok payload]
        consumedBy := self.consumedBy ++ [lengthPrefixed payload] } := by
    have consumedNow : self.call.consumed = consumed :=
      reading.call ▸ FrameRead.consumed_ofConsumed reading.begun unfinished
    simp only [step, reading.poll holds.noError fit within found, FrameRead.pollFrame, if_pos complete,
      consumedNow, List.length_drop, Nat.sub_sub_self (show (lengthPrefixed payload).length -
        consumed.length ≤ self.stream.readBuffer.length by omega), frameTaken]
  have accountingNext : frameBytes (payloads.take (self.results.length + 1)) ++
      self.stream.readBuffer.drop ((lengthPrefixed payload).length - consumed.length) = delivered :=
    calc _ = frameBytes (payloads.take self.results.length) ++
            (consumed ++ self.stream.readBuffer.take ((lengthPrefixed payload).length - consumed.length)) ++
            self.stream.readBuffer.drop ((lengthPrefixed payload).length - consumed.length) := by
          rw [frameBytes_take_succ found, frameTaken]
      _ = delivered := by simp only [← reading.accounting, List.append_assoc, List.take_append_drop]
  have returned : self.results ++ [.ok payload] = (payloads.take (self.results.length + 1)).map .ok := by
    rw [List.take_succ, found, Option.toList_some, List.map_append, List.map_singleton]
    conv_lhs => rw [reading.results]
  have tookFrame : self.consumedBy ++ [lengthPrefixed payload] =
      (payloads.take (self.results.length + 1)).map lengthPrefixed := by
    rw [List.take_succ, found, Option.toList_some, List.map_append, List.map_singleton,
      reading.consumedBy]
  rw [stepEq]
  refine ⟨⟨holds.noError, holds.closedAll, fun next _ => ?_, fun past => ?_⟩, rfl⟩
  · -- the next frame starts with nothing taken
    refine ⟨[], ?_, ?_, FrameRead.ofConsumed_nil next, List.nil_prefix,
      by rw [List.length_nil, lengthPrefixed_length]; omega, ?_⟩
    all_goals simp only [List.length_append, List.length_singleton, List.append_nil]
    exacts [returned, tookFrame, accountingNext]
  · -- that was the last frame: nothing is left to read
    simp only [List.length_append, List.length_singleton] at past
    have last : self.results.length + 1 = payloads.length :=
      le_antisymm (List.getElem?_eq_some_iff.mp found).1 past
    rw [last, List.drop_length, frameBytes, List.flatMap_nil, List.append_nil] at ahead
    have queueEmpty : self.stream.readBuffer.drop ((lengthPrefixed payload).length - consumed.length) = [] :=
      List.drop_eq_nil_of_le (by have := ahead.length_le; rw [List.length_append] at this; omega)
    rw [last, List.take_length] at returned tookFrame accountingNext
    rw [queueEmpty, List.append_nil] at accountingNext
    exact ⟨by rw [returned]; exact List.take_of_length_le (by simp),
      by rw [tookFrame]; exact List.take_of_length_le (by simp), rfl, queueEmpty, accountingNext.symm⟩

/-- With the frame incomplete, a poll takes the whole queue into the call and waits: the stream
is open, since it closes only once every frame has arrived. -/
theorem poll_incomplete (holds : Reassembling payloads self delivered)
    (reading : Reading payloads self delivered payload consumed) (fit : payload.length ≤ maxRawPacketSize)
    (within : delivered <+: frameBytes payloads) (found : payloads[self.results.length]? = some payload)
    (short : consumed.length + self.stream.readBuffer.length < (lengthPrefixed payload).length) :
    Reassembling payloads (self.step .poll) delivered := by
  have open_ : self.stream.closed = false := by
    cases closed : self.stream.closed
    · rfl
    · have lengths := congrArg List.length ((holds.closedAll closed).symm.trans reading.accounting.symm)
      rw [frameBytes_split found] at lengths
      simp only [List.length_append] at lengths
      omega
  have stepEq : self.step .poll = { self with
      call := FrameRead.ofConsumed payload (consumed ++ self.stream.readBuffer)
      stream := { self.stream with readBuffer := [], readWaker := some 0 } } := by
    simp only [step, reading.poll holds.noError fit within found, FrameRead.pollFrame,
      if_neg (show ¬_ ≤ _ from Nat.not_le_of_lt short), open_, Bool.false_eq_true, if_false]
  rw [stepEq]
  refine ⟨holds.noError, fun closed => absurd closed (by simp [open_]), fun next foundNext => ?_,
    fun past => absurd past (Nat.not_le_of_lt (List.getElem?_eq_some_iff.mp found).1)⟩
  obtain rfl : next = payload := Option.some.inj (foundNext.symm.trans found)
  exact ⟨consumed ++ self.stream.readBuffer, reading.results, reading.consumedBy, rfl,
    List.prefix_of_prefix_length_le (reading.ahead within found) (List.prefix_append _ _)
      (by rw [List.length_append]; omega),
    by rw [List.length_append]; omega, by rw [List.append_nil, ← List.append_assoc, reading.accounting]⟩

theorem poll_reassembling (holds : Reassembling payloads self delivered)
    (fit : ∀ payload ∈ payloads, payload.length ≤ maxRawPacketSize) (within : delivered <+: frameBytes payloads) :
    Reassembling payloads (self.step .poll) delivered := by
  cases found : payloads[self.results.length]? with
  | none => exact poll_finished holds (List.getElem?_eq_none_iff.mp found)
  | some payload =>
      obtain ⟨consumed, reading⟩ := holds.reading payload found
      have fits := fit payload (List.getElem?_mem found)
      by_cases complete : (lengthPrefixed payload).length ≤ consumed.length + self.stream.readBuffer.length
      · exact (poll_complete holds reading fits within found complete).1
      · exact poll_incomplete holds reading fits within found (by omega)

/-- Once every frame has arrived, each poll of a call returns its payload. -/
theorem poll_returns (holds : Reassembling payloads self (frameBytes payloads))
    (fit : ∀ payload ∈ payloads, payload.length ≤ maxRawPacketSize) (ahead : self.results.length < payloads.length) :
    (self.step .poll).results.length = self.results.length + 1 := by
  obtain ⟨payload, found⟩ : ∃ payload, payloads[self.results.length]? = some payload :=
    ⟨_, List.getElem?_eq_getElem ahead⟩
  obtain ⟨consumed, reading⟩ := holds.reading payload found
  have complete : (lengthPrefixed payload).length ≤ consumed.length + self.stream.readBuffer.length := by
    have lengths := congrArg List.length reading.accounting
    rw [frameBytes_split found] at lengths
    simp only [List.length_append] at lengths
    omega
  rw [(poll_complete holds reading (fit payload (List.getElem?_mem found)) List.prefix_rfl found complete).2,
    List.length_append, List.length_singleton]

end

theorem noMessageAfterClose_of_delivered_nil {events : List ReaderEvent}
    (nothing : ReaderEvent.delivered events = []) : ReaderEvent.NoMessageAfterClose events := by
  induction events with
  | nil => trivial
  | cons event events ih =>
      cases event with
      | message data => exact ih (List.append_eq_nil.mp nothing).2
      | close => exact nothing
      | poll => exact ih nothing

/-- Over a run in which the transport delivers exactly the frames of `payloads`, the reader keeps
reassembling them, whatever the messages' boundaries and wherever the polls fall. -/
theorem run_reassembling {payloads : List Bytes}
    (fit : ∀ payload ∈ payloads, payload.length ≤ maxRawPacketSize) (events : List ReaderEvent) :
    ∀ {self : FrameReader} {delivered : Bytes}, Reassembling payloads self delivered →
      delivered ++ ReaderEvent.delivered events = frameBytes payloads →
      ReaderEvent.NoMessageAfterClose events →
      Reassembling payloads (self.run events) (frameBytes payloads) := by
  induction events with
  | nil =>
      intro self delivered holds exact _
      rw [ReaderEvent.delivered, List.append_nil] at exact
      exact exact ▸ holds
  | cons event events ih =>
      intro self delivered holds exact noLate
      cases event with
      | message data =>
          rw [ReaderEvent.delivered, ← List.append_assoc] at exact
          exact ih (message_reassembling holds ⟨_, exact⟩) exact noLate
      | close =>
          have nothingLate : ReaderEvent.delivered events = [] := noLate
          rw [ReaderEvent.delivered, nothingLate, List.append_nil] at exact
          exact ih (close_reassembling holds exact) (by rw [nothingLate, List.append_nil, exact])
            (noMessageAfterClose_of_delivered_nil nothingLate)
      | poll =>
          rw [ReaderEvent.delivered] at exact
          exact ih (poll_reassembling holds fit ⟨_, exact⟩) exact noLate

theorem run_append (self : FrameReader) (events more : List ReaderEvent) :
    self.run (events ++ more) = (self.run events).run more := by
  induction events generalizing self with
  | nil => rfl
  | cons event events ih => exact ih (self.step event)

/-- With every frame arrived, `count` more polls leave at least `count` more calls returned, up to
the number of payloads. -/
theorem run_polls {payloads : List Bytes} (fit : ∀ payload ∈ payloads, payload.length ≤ maxRawPacketSize)
    (count : Nat) : ∀ {self : FrameReader}, Reassembling payloads self (frameBytes payloads) →
      payloads.length ≤ self.results.length + count →
      payloads.length ≤ (self.run (List.replicate count .poll)).results.length := by
  induction count with
  | zero => exact fun _ enough => enough
  | succ count ih =>
      intro self holds enough
      refine ih (poll_reassembling holds fit List.prefix_rfl) ?_
      by_cases ahead : self.results.length < payloads.length
      · rw [poll_returns holds fit ahead]
        omega
      · obtain ⟨more, grown, _⟩ := step_results self .poll
        rw [grown, List.length_append]
        omega

/-- What the calls have returned so far: the payloads in order, each call having taken exactly its
own frame. -/
theorem Reassembling.returned {payloads : List Bytes} {reader : FrameReader} {delivered : Bytes}
    (holds : Reassembling payloads reader delivered) :
    reader.results.take payloads.length = (payloads.map .ok).take reader.results.length ∧
      reader.consumedBy.take payloads.length =
        (payloads.map lengthPrefixed).take reader.consumedBy.length := by
  by_cases past : payloads.length ≤ reader.results.length
  · obtain ⟨results, consumedBy, -⟩ := holds.finished past
    have longer : payloads.length ≤ reader.consumedBy.length := by
      have := congrArg List.length consumedBy
      simp only [List.length_take, List.length_map] at this
      omega
    rw [results, consumedBy, List.take_of_length_le (by simpa using past),
      List.take_of_length_le (by simpa using longer)]
    exact ⟨rfl, rfl⟩
  · obtain ⟨payload, found⟩ : ∃ payload, payloads[reader.results.length]? = some payload :=
      ⟨_, List.getElem?_eq_getElem (by omega)⟩
    obtain ⟨_, reading⟩ := holds.reading payload found
    rw [reading.results, reading.consumedBy]
    simp only [List.length_map, List.length_take, ← List.map_take, List.take_take]
    constructor <;> congr 2 <;> omega

theorem delivered_polls (count : Nat) : ReaderEvent.delivered (List.replicate count .poll) = [] := by
  induction count with
  | zero => rfl
  | succ count ih => exact ih

end FrameReader

/-- However the frames of `payloads` are split into messages and wherever the calls are polled,
the calls that returned gave the payloads in order, each from its own frame, and once the frames
are in, one poll per payload returns the rest. -/
theorem frames_read_back (payloads : List Bytes)
    (fit : ∀ payload ∈ payloads, payload.length ≤ maxRawPacketSize) (events : List ReaderEvent)
    (exact : ReaderEvent.delivered events = frameBytes payloads)
    (noLate : ReaderEvent.NoMessageAfterClose events) :
    let reader := FrameReader.start.run events
    let finished := FrameReader.start.run (events ++ List.replicate payloads.length .poll)
    reader.results.take payloads.length = (payloads.map .ok).take reader.results.length ∧
      reader.consumedBy.take payloads.length =
        (payloads.map lengthPrefixed).take reader.consumedBy.length ∧
      finished.results.take payloads.length = payloads.map .ok ∧
      finished.consumedBy.take payloads.length = payloads.map lengthPrefixed := by
  have holds := FrameReader.run_reassembling fit events (FrameReader.start_reassembling payloads)
    (by rw [List.nil_append, exact]) noLate
  have polled := FrameReader.run_reassembling fit (List.replicate payloads.length .poll) holds
    (by rw [FrameReader.delivered_polls, List.append_nil])
    (FrameReader.noMessageAfterClose_of_delivered_nil (FrameReader.delivered_polls _))
  obtain ⟨results, consumedBy, -⟩ :=
    polled.finished (FrameReader.run_polls fit _ holds (Nat.le_add_left _ _))
  rw [← FrameReader.run_append] at results consumedBy
  exact ⟨holds.returned.1, holds.returned.2, results, consumedBy⟩

/-- Two frames whose bytes arrive in three messages, split inside the first length prefix and
across the boundary between the frames. -/
theorem frames_read_back_split_messages :
    (∀ payload ∈ ([[7], [8, 9]] : List Bytes), payload.length ≤ maxRawPacketSize) ∧
      ReaderEvent.delivered [.message [0, 0], .poll, .message [0, 1, 7, 0], .poll, .message [0, 0, 2, 8, 9],
        .poll, .close] = frameBytes [[7], [8, 9]] ∧
      ReaderEvent.NoMessageAfterClose [.message [0, 0], .poll, .message [0, 1, 7, 0], .poll,
        .message [0, 0, 2, 8, 9], .poll, .close] ∧
      (let events : List ReaderEvent := [.message [0, 0], .poll, .message [0, 1, 7, 0], .poll,
          .message [0, 0, 2, 8, 9], .poll, .close]
        let reader := FrameReader.start.run events
        let finished := FrameReader.start.run (events ++ List.replicate 2 .poll)
        reader.results.take 2 = ([[7], [8, 9]].map .ok).take reader.results.length ∧
          reader.consumedBy.take 2 = ([[7], [8, 9]].map lengthPrefixed).take reader.consumedBy.length ∧
          finished.results.take 2 = [[7], [8, 9]].map .ok ∧
          finished.consumedBy.take 2 = [[7], [8, 9]].map lengthPrefixed) :=
  have fit : ∀ payload ∈ ([[7], [8, 9]] : List Bytes), payload.length ≤ maxRawPacketSize := by decide
  have exact : ReaderEvent.delivered [.message [0, 0], .poll, .message [0, 1, 7, 0], .poll,
      .message [0, 0, 2, 8, 9], .poll, .close] = frameBytes [[7], [8, 9]] := by decide
  ⟨fit, exact, rfl, frames_read_back [[7], [8, 9]] fit _ exact rfl⟩

end PortalTunnel
