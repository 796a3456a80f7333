import Trpc.Lib.Fragments
import Trpc.Reactor.TxItem
import Trpc.Channel.Hello

/-!
# Streams

One stream as one endpoint sees it: the slot of `struct tr_stream_slot` and the
functions of `channel.c` that work on one slot under the channel lock.

`slotStep` is what the endpoint does on its own account and `slotReceive` what
an arriving frame does.  Both answer a `SlotOut`: the slot afterwards, or none
if it was freed, the frames that the reactor accepted, and the notifications.

The reactor answers a send with OK or AGAIN while the connection is up; this
is the argument `accept`.  The buffer pool's answer is the argument `acquire`.
A protocol error aborts the connection, so a handler that fails answers the
status only.

Three fields of the slot are observations: `held` lists the lengths of the
payloads that were handed to the application and not released, `sent` and
`delivered` the messages with their numbers.  `freeing` marks the time between
the two locked sections of a close that ends with the slot being freed.
-/

namespace Trpc

/-! ## Frames and events -/

/-- The flags of a frame.  The parser lets no other bit through. -/
structure FrameFlags where
  first : Bool
  last : Bool
  laneBulk : Bool
  deriving DecidableEq, Repr

/-- No flag set. -/
def FrameFlags.zero : FrameFlags := ⟨false, false, false⟩

/-- A frame as the channel handles it.  An empty payload stands for a null
one, which is what the parser makes of it. -/
structure ChannelFrame where
  type : FrameType
  flags : FrameFlags
  streamId : Nat
  messageId : Nat
  payload : List UInt8
  deriving DecidableEq, Repr

/-- A frame with a header only. -/
def controlFrame (type : FrameType) (streamId messageId : Nat) : ChannelFrame :=
  ⟨type, .zero, streamId, messageId, []⟩

/-- A DATA frame. -/
def dataFrame (streamId : Nat) (fragment : Lib.Fragment UInt8) : ChannelFrame :=
  ⟨.data, ⟨fragment.first, fragment.last, false⟩, streamId, fragment.id, fragment.body⟩

/-- The DATA frames of a message, as the reactor cuts it. -/
def dataFrames (streamId messageId limit : Nat) (message : List UInt8) : List ChannelFrame :=
  (Lib.split limit messageId message).map (dataFrame streamId)

/-- `enum tr_stream_event`, and the delivery of a message to `data_cb`. -/
inductive EventKind
  | opened
  | remoteClosed
  | closed
  | error (status : Int)
  | writable
  | reset (status : Int)
  | refused
  | data (messageId : Nat) (payload : List UInt8)
  deriving DecidableEq, Repr

/-- One notification of the application. -/
structure StreamEvent where
  streamId : Nat
  kind : EventKind
  deriving DecidableEq, Repr

/-! ## The slot -/

/-- `enum tr_stream_slot_state`.  A FREE slot is one that does not exist. -/
inductive SlotState
  | opening
  | accepting
  | opened
  | resetting
  deriving DecidableEq, Repr

/-- `struct tr_stream_slot`. -/
structure StreamSlot where
  state : SlotState
  lane : Lane
  streamId : Nat
  localOpen : Bool
  remoteOpen : Bool
  openedNotified : Bool
  nextTxMessageId : Nat
  nextRxMessageId : Nat
  txSentBytes : Nat
  txSendLimit : Nat
  txWindowBytes : Nat
  rxReceivedBytes : Nat
  rxConsumedBytes : Nat
  rxAdvertisedLimit : Nat
  pendingAdvertisedLimit : Nat
  rxCreditStopped : Bool
  rxReassembly : Option (List UInt8)
  rxReassemblyMessageId : Nat
  resetStatus : Int
  resetPeerStatus : Int
  resetSent : Bool
  resetReceived : Bool
  resetNotified : Bool
  resetFragmented : Bool
  resetDiscardUnordered : Bool
  resetMessageBytes : Nat
  held : List Nat
  sent : List (Nat × List UInt8)
  delivered : List (Nat × List UInt8)
  freeing : Bool
  deriving DecidableEq, Repr

/-- The slot that `tr_stream_allocate_locked` sets up. -/
def streamSlotInit (cfg : ChannelConfig) (streamId : Nat) (lane : Lane)
    (state : SlotState) : StreamSlot where
  state := state
  lane := lane
  streamId := streamId
  localOpen := true
  remoteOpen := true
  openedNotified := false
  nextTxMessageId := 1
  nextRxMessageId := 1
  txSentBytes := 0
  txSendLimit := 0
  txWindowBytes := 0
  rxReceivedBytes := 0
  rxConsumedBytes := 0
  rxAdvertisedLimit := cfg.initialWindowBytes
  pendingAdvertisedLimit := 0
  rxCreditStopped := false
  rxReassembly := none
  rxReassemblyMessageId := 0
  resetStatus := 0
  resetPeerStatus := 0
  resetSent := false
  resetReceived := false
  resetNotified := false
  resetFragmented := false
  resetDiscardUnordered := false
  resetMessageBytes := 0
  held := []
  sent := []
  delivered := []
  freeing := false

/-- What the channel keeps for a lane: `control_ready` and `control_caps`, or
those of the bulk lane. -/
structure LaneState where
  ready : Bool
  caps : Capabilities
  deriving DecidableEq, Repr

/-- What a locked section leaves behind. -/
structure SlotOut where
  slot : Option StreamSlot
  frames : List ChannelFrame
  events : List EventKind

/-- The slot stays and nothing is sent. -/
def SlotOut.keep (slot : StreamSlot) : SlotOut :=
  ⟨some slot, [], []⟩

/-! ## Credit -/

/-- `tr_add_sat_u64`. -/
def addSatU64 (a b : Nat) : Nat :=
  if uint64Max - a < b then uint64Max else a + b

/-- The batch threshold that `tr_send_window_update_locked` applies. -/
def windowUpdateThreshold (cfg : ChannelConfig) (caps : Capabilities) : Nat :=
  let maximum := min caps.maxMessageBytes.toNat cfg.initialWindowBytes
  let maxDebt := cfg.initialWindowBytes - maximum
  if cfg.windowUpdateThresholdBytes - 1 > maxDebt then maxDebt + 1
  else cfg.windowUpdateThresholdBytes

/-- `tr_send_window_update_locked`. -/
def sendWindowUpdateLocked (cfg : ChannelConfig) (lane : LaneState)
    (slot : StreamSlot) (accept : Bool) : SlotOut :=
  let target := addSatU64 slot.rxConsumedBytes cfg.initialWindowBytes
  if slot.rxCreditStopped ∨ target ≤ slot.rxAdvertisedLimit then
    .keep { slot with pendingAdvertisedLimit := 0 }
  else if target - slot.rxAdvertisedLimit < windowUpdateThreshold cfg lane.caps ∧
      slot.pendingAdvertisedLimit = 0 then
    .keep slot
  else
    let pending := max target slot.pendingAdvertisedLimit
    if lane.ready ∧ accept then
      ⟨some { slot with rxAdvertisedLimit := pending, pendingAdvertisedLimit := 0 },
        [controlFrame .windowUpdate slot.streamId pending], []⟩
    else .keep { slot with pendingAdvertisedLimit := pending }

/-- `tr_stream_consume_locked`. -/
def streamConsumeLocked (cfg : ChannelConfig) (lane : LaneState)
    (slot : StreamSlot) (bytes : Nat) (accept : Bool) : SlotOut :=
  let available := slot.rxReceivedBytes - slot.rxConsumedBytes
  let bytes := if available < bytes then available else bytes
  sendWindowUpdateLocked cfg lane
    { slot with rxConsumedBytes := slot.rxConsumedBytes + bytes } accept

/-! ## RESET -/

/-- `tr_stream_reset_supported_locked`. -/
def streamResetSupported (lane : LaneState) : Bool :=
  lane.caps.featureBits &&& channelFeatureStreamReset ≠ 0

/-- `tr_stream_reset_begin_locked`. -/
def streamResetBeginLocked (slot : StreamSlot) (status : Int) : StreamSlot :=
  { slot with
    resetStatus := status
    resetFragmented := slot.rxReassembly.isSome
    resetMessageBytes := (slot.rxReassembly.getD []).length
    rxConsumedBytes := slot.rxConsumedBytes + (slot.rxReassembly.getD []).length
    rxReassembly := none
    state := .resetting
    localOpen := false
    rxCreditStopped := true
    pendingAdvertisedLimit := 0 }

/-- `tr_stream_reset_discard_locked`. -/
def streamResetDiscardLocked (cfg : ChannelConfig) (slot : StreamSlot)
    (frame : ChannelFrame) : Except Status StreamSlot :=
  let payloadLen := frame.payload.length
  let first := frame.flags.first
  let last := frame.flags.last
  let total := if first then payloadLen else slot.resetMessageBytes + payloadLen
  if slot.resetReceived ∨ ¬ slot.remoteOpen then .error .errState
  else if uint64Max - slot.rxReceivedBytes < payloadLen ∨
      slot.rxAdvertisedLimit < slot.rxReceivedBytes + payloadLen then
    .error .errBadLength
  else if ¬ slot.resetDiscardUnordered ∧
      (frame.messageId = 0 ∨ frame.messageId ≠ slot.nextRxMessageId ∨
        (first ∧ slot.resetFragmented) ∨ (¬ first ∧ ¬ slot.resetFragmented)) then
    .error .errState
  else if ¬ slot.resetDiscardUnordered ∧
      ((cfg.maxMessageBytes ≠ 0 ∧ cfg.maxMessageBytes.toNat < total) ∨ (¬ (first ∧ last) ∧
          (cfg.reassemblyPool.isNone ∨ cfg.maxMessageBytes = 0))) then
    .error .errBadLength
  else
    let slot := { slot with
      rxReceivedBytes := slot.rxReceivedBytes + payloadLen
      rxConsumedBytes := slot.rxConsumedBytes + payloadLen }
    if slot.resetDiscardUnordered then .ok slot
    else .ok { slot with
      resetFragmented := !last
      resetMessageBytes := if last then 0 else total
      nextRxMessageId := if last then slot.nextRxMessageId + 1
        else slot.nextRxMessageId }

/-- The locked section of `tr_channel_fail_stream_receive_on_owner`. -/
def failStreamReceive (cfg : ChannelConfig) (lane : LaneState)
    (slot : StreamSlot) (frame : ChannelFrame) (status : Status)
    (unordered : Bool) : Except Status SlotOut :=
  if slot.state ≠ .opened ∨ ¬ slot.localOpen ∨ ¬ streamResetSupported lane then
    .error status
  else
    match streamResetDiscardLocked cfg
      { streamResetBeginLocked slot status.code with
        resetDiscardUnordered := unordered } frame with
    | .error ret => .error ret
    | .ok slot =>
      .ok ⟨some { slot with resetNotified := true }, [], [.reset status.code]⟩

/-! ## What an arriving frame does -/

/-- What `tr_channel_handle_data` decides about a frame for an OPEN stream:
the slot with the message that is complete, a failure of the stream, or a
protocol error. -/
inductive DataVerdict
  | taken (slot : StreamSlot) (deliver : Option (List UInt8))
  | failStream (status : Status) (unordered : Bool)
  | protocolError (status : Status)

/-- The slot after a frame that does not end a message. -/
def StreamSlot.keepFront (slot : StreamSlot) (messageId : Nat)
    (front : List UInt8) (received : Nat) : StreamSlot :=
  { slot with
    rxReassembly := some front
    rxReassemblyMessageId := messageId
    rxReceivedBytes := received }

/-- The slot after a frame that ends a message. -/
def StreamSlot.finishMessage (slot : StreamSlot) (received : Nat) : StreamSlot :=
  { slot with
    rxReassembly := none
    rxReassemblyMessageId := 0
    rxReceivedBytes := received
    nextRxMessageId := slot.nextRxMessageId + 1 }

/-- The middle of `tr_channel_handle_data`: a frame for an OPEN stream whose
remote half is open. -/
def dataLocked (cfg : ChannelConfig) (slot : StreamSlot) (frame : ChannelFrame)
    (acquire : Status) : DataVerdict :=
  let payloadLen := frame.payload.length
  let newReceived := slot.rxReceivedBytes + payloadLen
  if uint64Max - slot.rxReceivedBytes < payloadLen then
    .protocolError .errBadLength
  else if slot.rxAdvertisedLimit < newReceived then .protocolError .errState
  else if frame.flags.laneBulk then .failStream .errState true
  else if frame.messageId = 0 ∨ frame.messageId ≠ slot.nextRxMessageId then
    .failStream .errState true
  else if frame.flags.first ∧ frame.flags.last then
    if slot.rxReassembly.isSome ∨
        (cfg.maxMessageBytes ≠ 0 ∧ cfg.maxMessageBytes.toNat < payloadLen) then
      .failStream .errState true
    else .taken (slot.finishMessage newReceived) (some frame.payload)
  else if frame.flags.first then
    if slot.rxReassembly.isSome ∨ cfg.reassemblyPool.isNone ∨
        cfg.maxMessageBytes = 0 ∨ cfg.maxMessageBytes.toNat < payloadLen then
      .failStream .errState true
    else if acquire ≠ .ok then
      .failStream (if acquire = .again ∨ acquire = .errNomem then .errNomem
        else .errSys) false
    else .taken (slot.keepFront frame.messageId frame.payload newReceived) none
  else
    match slot.rxReassembly with
    | none => .failStream .errState true
    | some front =>
      let combinedLen := front.length + payloadLen
      if slot.rxReassemblyMessageId ≠ frame.messageId then
        .failStream .errState true
      else if cfg.maxMessageBytes.toNat < combinedLen ∨
          (cfg.reassemblyPool.getD 0).toNat < combinedLen then
        .failStream .errState true
      else if frame.flags.last then
        .taken (slot.finishMessage newReceived) (some (front ++ frame.payload))
      else
        .taken (slot.keepFront frame.messageId (front ++ frame.payload) newReceived) none

/-- `tr_channel_handle_data` for the slot of the stream. -/
def handleData (cfg : ChannelConfig) (lane : LaneState) (slot : StreamSlot)
    (frame : ChannelFrame) (acquire : Status) : Except Status SlotOut :=
  if slot.state = .resetting then
    if frame.flags.laneBulk then .error .errBadFlags
    else
      match streamResetDiscardLocked cfg slot frame with
      | .error ret => .error ret
      | .ok slot => .ok (.keep slot)
  else if slot.state ≠ .opened ∨ ¬ slot.remoteOpen then .error .errState
  else
    match dataLocked cfg slot frame acquire with
    | .protocolError ret => .error ret
    | .failStream status unordered =>
      failStreamReceive cfg lane slot frame status unordered
    | .taken slot none => .ok (.keep slot)
    | .taken slot (some message) =>
      .ok ⟨some { slot with
          held := slot.held ++ [message.length]
          delivered := slot.delivered ++ [(frame.messageId, message)] },
        [], [.data frame.messageId message]⟩

/-- `tr_channel_handle_window_update` for the slot of the stream. -/
def handleWindowUpdate (slot : StreamSlot) (frame : ChannelFrame) : Except Status SlotOut :=
  if frame.messageId < slot.txSendLimit ∨ frame.messageId < slot.txSentBytes then
    .error .errState
  else
    let raised := slot.txSendLimit < frame.messageId
    let slot := { slot with txSendLimit := frame.messageId }
    match slot.state with
    | .resetting =>
      if slot.resetReceived then .error .errState else .ok (.keep slot)
    | .opening =>
      .ok ⟨some { slot with
          txWindowBytes := frame.messageId
          state := .opened
          openedNotified := true },
        [], if slot.openedNotified then [] else [.opened]⟩
    | _ => .ok ⟨some slot, [], if raised then [.writable] else []⟩

/-- `tr_channel_handle_stream_close` for the slot of the stream, up to the
notification. -/
def handleStreamClose (slot : StreamSlot) : Except Status SlotOut :=
  match slot.state with
  | .opening => .error .errState
  | .resetting =>
    if slot.resetReceived then .error .errState
    else .ok (.keep { slot with remoteOpen := false })
  | _ =>
    if slot.localOpen then
      .ok ⟨some { slot with remoteOpen := false }, [], [.remoteClosed]⟩
    else
      .ok ⟨some { slot with remoteOpen := false, freeing := true }, [],
        [.closed]⟩

/-- `tr_channel_handle_stream_reset` for the slot of the stream. -/
def handleStreamReset (lane : LaneState) (slot : StreamSlot)
    (frame : ChannelFrame) : Except Status SlotOut :=
  let status : Int := -frame.messageId
  if ¬ streamResetSupported lane ∨ (slot.resetReceived ∧ slot.resetPeerStatus ≠ status) then
    .error .errState
  else
    let slot :=
      if slot.state = .resetting then slot else streamResetBeginLocked slot status
    .ok ⟨some { slot with
        resetPeerStatus := status
        resetReceived := true
        remoteOpen := false
        resetNotified := true },
      [], if slot.resetNotified then [] else [.reset slot.resetStatus]⟩

/-- What a frame of an existing stream does to its slot. -/
def slotReceive (cfg : ChannelConfig) (lane : LaneState) (slot : StreamSlot)
    (frame : ChannelFrame) (acquire : Status) : Except Status SlotOut :=
  match frame.type with
  | .data => handleData cfg lane slot frame acquire
  | .windowUpdate => handleWindowUpdate slot frame
  | .streamClose => handleStreamClose slot
  | .streamReset => handleStreamReset lane slot frame
  | _ => .error .errBadType

/-! ## What the endpoint does -/

/-- `tr_stream_sendv`. -/
def streamSendv (lane : LaneState) (slot : StreamSlot)
    (payloads : List (List UInt8)) (accept : Bool) : Status × SlotOut :=
  let payloadLen := payloads.flatten.length
  let fin := slot.txSentBytes + payloadLen
  if payloads = [] ∨ reactorMaxTxSlices < payloads.length ∨ [] ∈ payloads then
    (.errInvalid, .keep slot)
  else if slot.state = .resetting then (.errClosed, .keep slot)
  else if slot.state ≠ .opened ∨ ¬ slot.localOpen then (.again, .keep slot)
  else if ¬ lane.ready then (.again, .keep slot)
  else if slot.txWindowBytes < payloadLen ∨ lane.caps.maxMessageBytes.toNat < payloadLen then
    (.errBadLength, .keep slot)
  else if uint64Max - slot.txSentBytes < payloadLen then
    (.errBadLength, .keep slot)
  else if slot.txSendLimit < fin then (.again, .keep slot)
  else if ¬ accept then (.again, .keep slot)
  else
    (.ok, ⟨some { slot with
        txSentBytes := fin
        nextTxMessageId := slot.nextTxMessageId + 1
        sent := slot.sent ++ [(slot.nextTxMessageId, payloads.flatten)] },
      dataFrames slot.streamId slot.nextTxMessageId
        lane.caps.maxFramePayloadBytes.toNat payloads.flatten, []⟩)

/-- `tr_stream_release_payload` for the payload at an index of `held`, and the
second locked section of `tr_channel_handle_data`. -/
def streamReleasePayload (cfg : ChannelConfig) (lane : LaneState)
    (slot : StreamSlot) (index : Nat) (accept : Bool) : Status × SlotOut :=
  match slot.held[index]? with
  | none => (.errInvalid, .keep slot)
  | some len =>
    let out := streamConsumeLocked cfg lane
      { slot with held := slot.held.eraseIdx index } len accept
    let waiting := out.slot.any fun after =>
      after.pendingAdvertisedLimit ≠ 0 ∧ after.rxAdvertisedLimit = slot.rxAdvertisedLimit
    (if waiting then .again else .ok, out)

/-- The retry of a pending update, in `tr_channel_flush` and in the
maintenance timer. -/
def flushWindowUpdate (cfg : ChannelConfig) (lane : LaneState)
    (slot : StreamSlot) (accept : Bool) : SlotOut :=
  if slot.pendingAdvertisedLimit = 0 then .keep slot
  else sendWindowUpdateLocked cfg lane slot accept

/-- `tr_stream_stop_credit_on_owner`. -/
def streamStopCredit (slot : StreamSlot) : SlotOut :=
  .keep { slot with rxCreditStopped := true, pendingAdvertisedLimit := 0 }

/-- `tr_stream_reset_on_owner`. -/
def streamResetOnOwner (lane : LaneState) (slot : StreamSlot) (status : Int) : Status × SlotOut :=
  if ¬ wireStreamResetStatusValid status then (.errInvalid, .keep slot)
  else if slot.state = .resetting then (.ok, .keep slot)
  else if ¬ slot.localOpen then (.errClosed, .keep slot)
  else if slot.state = .opening then (.again, .keep slot)
  else if ¬ streamResetSupported lane then (.errUnsupported, .keep slot)
  else
    (.ok, ⟨some { streamResetBeginLocked slot status with resetNotified := true },
      [], [.reset status]⟩)

/-- The first locked section of `tr_stream_close`. -/
def streamClose (slot : StreamSlot) (accept : Bool) : Status × SlotOut :=
  if slot.state = .opening then (.again, .keep slot)
  else if slot.state = .resetting then (.errState, .keep slot)
  else if ¬ slot.localOpen then (.errClosed, .keep slot)
  else if ¬ accept then (.again, .keep slot)
  else
    (.ok, ⟨some { slot with localOpen := false, freeing := !slot.remoteOpen },
      [controlFrame .streamClose slot.streamId 0], []⟩)

/-- The second locked section of a close, which frees the slot if both halves
are closed. -/
def finishClose (slot : StreamSlot) : SlotOut :=
  if ¬ slot.freeing then .keep slot
  else if ¬ slot.localOpen ∧ ¬ slot.remoteOpen then ⟨none, [], []⟩
  else .keep { slot with freeing := false }

/-- One slot of the loop of `tr_channel_reset_progress_on_owner`. -/
def resetProgress (slot : StreamSlot) (accept : Bool) : SlotOut :=
  if slot.state ≠ .resetting then .keep slot
  else
    let send := ¬ slot.resetSent ∧ accept
    let frames := if send then
      [controlFrame .streamReset slot.streamId (-slot.resetStatus).toNat] else []
    let slot := if send then { slot with resetSent := true } else slot
    if slot.resetSent ∧ slot.resetReceived ∧ slot.resetNotified then
      ⟨none, frames, [.closed]⟩
    else ⟨some slot, frames, []⟩

/-- What the endpoint can do with one of its streams. -/
inductive SlotOp
  | sendv (payloads : List (List UInt8)) (accept : Bool)
  | release (index : Nat) (accept : Bool)
  | flush (accept : Bool)
  | stopCredit
  | reset (status : Int)
  | close (accept : Bool)
  | finishClose
  | resetProgress (accept : Bool)
  deriving DecidableEq, Repr

/-- What an operation does to the slot.  The status that a call returns is
left out here. -/
def slotStep (cfg : ChannelConfig) (lane : LaneState) (slot : StreamSlot) : SlotOp → SlotOut
  | .sendv payloads accept => (streamSendv lane slot payloads accept).2
  | .release index accept => (streamReleasePayload cfg lane slot index accept).2
  | .flush accept => flushWindowUpdate cfg lane slot accept
  | .stopCredit => streamStopCredit slot
  | .reset status => (streamResetOnOwner lane slot status).2
  | .close accept => (streamClose slot accept).2
  | .finishClose => finishClose slot
  | .resetProgress accept => resetProgress slot accept

end Trpc
