import Mathlib.Data.List.AList
import Trpc.Channel.Slot

/-!
# The channel

One endpoint: the fields of `struct tr_channel` that the handshake, the
admission of streams and the drain work on, with its stream slots.

`Channel.act` collects what the endpoint does on its own account and
`Channel.receive` what an arriving frame does.  Every action is one locked
section, or several of which no other thread can see the middle: the handlers
and the progress functions run on the owner of the reactor, the calls of the
application on any thread.  Two places hand the owner to the application in
the middle of their work and are cut there.  `tr_channel_start` is a list of
tasks (`startWork`), and an OPEN that finds no slot first lets the pending
RESETs progress, which notifies the application, and is answered after that
(`refusing`).

`out` is what the reactor has accepted for a connection and the peer has not
handled yet.  `log`, `events` and `noSlot` are observations: all frames that
were accepted, all notifications, and the opens that found no slot, with the
number of slots in use.

The counters of active streams are the size of the slot table here.  The
generations of the slots, the hash index, the statistics, the keepalive timer
and the wait for TX_DRAINED are left out.
-/

namespace Trpc

/-- `tr_stream_id_is_local`. -/
def streamIdIsLocal (role : Role) (streamId : Nat) : Bool :=
  streamId ≠ 0 && match role with
    | .client => streamId % 2 = 1
    | .server => streamId % 2 = 0

/-- What the channel keeps for a connection, `struct tr_channel_drain`
included. -/
structure ConnState where
  pendingHello : Option (List UInt8)
  lastPeerAdmitted : Nat
  lastLocalAccepted : Nat
  localCutoff : Nat
  peerCutoff : Nat
  localStarted : Bool
  peerStarted : Bool
  goawayAccepted : Bool
  peerStreamFrontier : Nat
  pendingOpen : Option Nat
  /-- The OPEN without a slot that `tr_channel_handle_stream_open` is about to
  refuse. -/
  refusing : Option Nat
  pendingRefused : Option Nat
  refusedLast : Bool
  rxHeld : Bool
  out : List ChannelFrame
  log : List ChannelFrame
  deriving DecidableEq, Repr

/-- A connection before the handshake. -/
def ConnState.init : ConnState where
  pendingHello := none
  lastPeerAdmitted := 0
  lastLocalAccepted := 0
  localCutoff := 0
  peerCutoff := 0
  localStarted := false
  peerStarted := false
  goawayAccepted := false
  peerStreamFrontier := 0
  pendingOpen := none
  refusing := none
  pendingRefused := none
  refusedLast := false
  rxHeld := false
  out := []
  log := []

/-- The owner does not read from the connection now. -/
def ConnState.blocked (state : ConnState) : Bool :=
  state.rxHeld || state.refusing.isSome

/-- What `tr_channel_start` still has to do. -/
inductive StartTask
  | replay (conn : Lane) (payload : List UInt8)
  | hello (conn : Lane)
  deriving DecidableEq, Repr

/-- `struct tr_stream_reset_tombstone`. -/
structure Tombstone where
  conn : Lane
  streamId : Nat
  peerStatus : Int
  deriving DecidableEq, Repr

/-- `struct tr_channel`. -/
structure Channel where
  handshakeStarted : Bool
  startWork : List StartTask
  localDraining : Bool
  lane : Lane → LaneState
  peerDraining : Lane → Bool
  conn : Lane → ConnState
  /-- Zero when the numbers are used up. -/
  nextLocalStreamId : Nat
  streams : AList fun _ : Nat => StreamSlot
  tombstones : List Tombstone
  events : List StreamEvent
  noSlot : List (Nat × Nat)

/-- A channel that has been created. -/
def Channel.init (role : Role) : Channel where
  handshakeStarted := false
  startWork := []
  localDraining := false
  lane := fun _ => ⟨false, .zero⟩
  peerDraining := fun _ => false
  conn := fun _ => .init
  nextLocalStreamId := match role with
    | .client => 1
    | .server => 2
  streams := ∅
  tombstones := []
  events := []
  noSlot := []

namespace Channel

/-- `tr_stream_lookup_id`. -/
def slot (ch : Channel) (id : Nat) : Option StreamSlot :=
  ch.streams.lookup id

/-- The number of slots in use. -/
def activeStreams (ch : Channel) : Nat :=
  ch.streams.entries.length

/-- Replaces what is kept for a connection. -/
@[simps]
def setConn (ch : Channel) (conn : Lane) (state : ConnState) : Channel :=
  { ch with conn := Function.update ch.conn conn state }

/-- The reactor accepts frames for a connection. -/
@[simps]
def send (ch : Channel) (conn : Lane) (frames : List ChannelFrame) : Channel :=
  { ch with
    conn := Function.update ch.conn conn { ch.conn conn with
      out := (ch.conn conn).out ++ frames
      log := (ch.conn conn).log ++ frames } }

/-- `tr_stream_notify`, and the call of `data_cb`. -/
@[simps]
def notify (ch : Channel) (id : Nat) (kinds : List EventKind) : Channel :=
  { ch with events := ch.events ++ kinds.map fun kind => ⟨id, kind⟩ }

/-- Writes a slot. -/
@[simps]
def put (ch : Channel) (id : Nat) (slot : StreamSlot) : Channel :=
  { ch with streams := ch.streams.insert id slot }

/-- `tr_stream_free_locked` for a stream of a connection. -/
@[simps]
def free (ch : Channel) (conn : Lane) (id : Nat) : Channel :=
  { ch with
    conn := Function.update ch.conn conn { ch.conn conn with
      pendingOpen := if (ch.conn conn).pendingOpen = some id then none
        else (ch.conn conn).pendingOpen }
    streams := ch.streams.erase id }

/-- What a locked section on a slot leaves behind, in the channel. -/
def apply (ch : Channel) (conn : Lane) (id : Nat) (out : SlotOut) : Channel :=
  let ch := match out.slot with
    | some after => ch.put id after
    | none => ch.free conn id
  (ch.send conn out.frames).notify id out.events

/-! ## Handshake -/

/-- The lanes that a connection carries. -/
def lanesOn (mode : ChannelMode) (conn : Lane) : List Lane :=
  [Lane.control, Lane.bulk].filter fun lane => channelConnection mode lane = conn

/-- `tr_channel_connection_ready_locked`. -/
def connectionReady (cfg : ChannelConfig) (ch : Channel) (conn : Lane) : Bool :=
  !(lanesOn cfg.mode conn).isEmpty && (lanesOn cfg.mode conn).all fun lane => (ch.lane lane).ready

/-- `tr_channel_set_caps_locked`. -/
def setCaps (cfg : ChannelConfig) (ch : Channel) (conn : Lane) (caps : Capabilities) : Channel :=
  { ch with lane := fun lane =>
      if lane ∈ lanesOn cfg.mode conn ∧ ¬ (ch.lane lane).ready then ⟨true, caps⟩
      else ch.lane lane }

/-- A handshake frame. -/
def helloFrame (type : FrameType) (payload : List UInt8) : ChannelFrame :=
  ⟨type, .zero, 0, 0, payload⟩

/-- `tr_channel_handle_hello`. -/
def handleHello (cfg : ChannelConfig) (ch : Channel) (conn : Lane)
    (frame : ChannelFrame) (accept : Bool) : Except Status Channel :=
  if frame.payload = [] ∨ frame.streamId ≠ 0 ∨ frame.messageId ≠ 0 ∨ frame.flags ≠ .zero then
    .error .errState
  else
    match (cfg.handshake conn).negotiate frame.payload with
    | .error ret => .error ret
    | .ok (negotiated, ack) =>
      if (ch.conn conn).goawayAccepted then .error .errState
      else if ¬ accept then .error .again
      else
        .ok (setCaps cfg (ch.send conn [helloFrame .helloAck (encodeHelloAck ack)]) conn negotiated)

/-- `tr_channel_defer_hello_before_start`, before the start. -/
def deferHello (ch : Channel) (conn : Lane) (frame : ChannelFrame) : Except Status Channel :=
  if frame.payload = [] ∨ frame.streamId ≠ 0 ∨ frame.messageId ≠ 0 ∨
      frame.flags ≠ .zero ∨ frame.payload.length ≠ channelHelloWireSize then
    .error .errState
  else
    .ok (ch.setConn conn { ch.conn conn with pendingHello := some frame.payload })

/-- `tr_channel_handle_hello_ack`. -/
def handleHelloAck (cfg : ChannelConfig) (ch : Channel) (conn : Lane)
    (frame : ChannelFrame) : Except Status Channel :=
  if frame.payload = [] ∨ frame.streamId ≠ 0 ∨ frame.messageId ≠ 0 ∨ frame.flags ≠ .zero then
    .error .errState
  else
    match (cfg.handshake conn).acceptAck frame.payload with
    | .error ret => .error ret
    | .ok caps => .ok (setCaps cfg ch conn caps)

/-- The connections of a channel, in the order of the code's loops. -/
def connections : ChannelMode → List Lane
  | .sharedConnection => [.control]
  | .splitConnections => [.control, .bulk]

/-- The locked section of `tr_channel_start`. -/
def start (cfg : ChannelConfig) (ch : Channel) : Channel :=
  if ch.handshakeStarted then ch
  else
    { ch with
      handshakeStarted := true
      startWork :=
        ([Lane.control, Lane.bulk].filterMap fun conn =>
          (ch.conn conn).pendingHello.map (.replay conn)) ++
        (connections cfg.mode).map .hello
      conn := fun conn => { ch.conn conn with pendingHello := none } }

/-- The next task of `tr_channel_start`.  A HELLO that the reactor does not
accept ends the start. -/
def startNext (cfg : ChannelConfig) (ch : Channel) (accept : Bool) :
    Except (Lane × ChannelFrame × Status) Channel :=
  match ch.startWork with
  | [] => .ok ch
  | .replay conn payload :: rest =>
    match handleHello cfg { ch with startWork := rest } conn
      (helloFrame .hello payload) accept with
    | .error ret => .error (conn, helloFrame .hello payload, ret)
    | .ok ch => .ok ch
  | .hello conn :: rest =>
    if accept then
      .ok (({ ch with startWork := rest } : Channel).send conn
        [helloFrame .hello (cfg.handshake conn).hello])
    else .ok { ch with startWork := [] }

/-! ## Drain -/

/-- Freezes the admission on a connection. -/
def startLocal (state : ConnState) : ConnState :=
  if state.localStarted then state
  else { state with
    localStarted := true
    localCutoff := state.lastPeerAdmitted }

/-- `tr_channel_begin_drain_on_owner`, up to the progress. -/
def beginDrain (ch : Channel) : Channel :=
  { ch with
    localDraining := true
    conn := fun conn => startLocal (ch.conn conn) }

/-- One connection of `tr_channel_drain_progress_on_owner`.  The reactor keeps
a place for one GOAWAY per connection. -/
def drainProgress (cfg : ChannelConfig) (ch : Channel) (conn : Lane) : Channel :=
  if conn ∈ connections cfg.mode ∧ (ch.conn conn).localStarted ∧
      ¬ (ch.conn conn).goawayAccepted ∧ connectionReady cfg ch conn then
    let ch := ch.send conn [controlFrame .goaway 0 (ch.conn conn).localCutoff]
    ch.setConn conn { ch.conn conn with goawayAccepted := true }
  else ch

/-- The streams of a connection that this end has opened. -/
def localOn (role : Role) (cfg : ChannelConfig) (ch : Channel) (conn : Lane) :
    List (Nat × StreamSlot) :=
  (ch.streams.entries.map fun entry => (entry.1, entry.2)).filter fun entry =>
    streamIdIsLocal role entry.1 ∧ channelConnection cfg.mode entry.2.lane = conn

/-- `tr_channel_handle_goaway`, without the drain progress at its end. -/
def handleGoaway (role : Role) (cfg : ChannelConfig) (ch : Channel) (conn : Lane)
    (frame : ChannelFrame) : Except Status Channel :=
  let state := ch.conn conn
  let cutoff := frame.messageId
  if frame.payload ≠ [] ∨ frame.streamId ≠ 0 ∨ uint32Max < cutoff ∨ frame.flags ≠ .zero then
    .error .errState
  else if (cutoff ≠ 0 ∧ ¬ streamIdIsLocal role cutoff) ∨ cutoff ≠ state.lastLocalAccepted ∨
      (state.peerStarted ∧ cutoff ≠ state.peerCutoff) then
    .error .errState
  else if state.peerStarted then .ok ch
  else if (localOn role cfg ch conn).any fun entry =>
      (cutoff < entry.1 ∧ entry.2.state ≠ .opening) ∨
        (entry.1 ≤ cutoff ∧ entry.2.state = .opening) then
    .error .errState
  else
    let withdrawn := ((localOn role cfg ch conn).filter fun entry =>
      entry.2.state = .opening ∧ cutoff < entry.1).map Prod.fst
    let ch := ch.setConn conn (startLocal { state with
      peerStarted := true
      peerCutoff := cutoff })
    let ch := { ch with
      peerDraining := fun lane =>
        decide (lane ∈ lanesOn cfg.mode conn) || ch.peerDraining lane }
    .ok (withdrawn.foldl
      (fun ch id => (ch.free conn id).notify id [.error Status.errClosed.code]) ch)

/-! ## Admission -/

/-- A STREAM_OPEN frame. -/
def openFrame (lane : Lane) (id window : Nat) : ChannelFrame :=
  ⟨.streamOpen, ⟨false, false, lane = .bulk⟩, id, window, []⟩

/-- A STREAM_REFUSED frame. -/
def refusedFrame (id : Nat) : ChannelFrame :=
  controlFrame .streamRefused id (-Status.errNomem.code).toNat

/-- `tr_stream_open`. -/
def openStream (cfg : ChannelConfig) (ch : Channel) (lane : Lane)
    (accept : Bool) : Status × Channel :=
  let id := ch.nextLocalStreamId
  if ch.localDraining ∨ ch.peerDraining lane then (.errClosed, ch)
  else if ¬ (ch.lane lane).ready then (.again, ch)
  else if id = 0 then (.errState, ch)
  else
    let ch := { ch with
      nextLocalStreamId := if uint32Max - 2 < id then 0 else id + 2 }
    if (ch.slot id).isSome then (.again, ch)
    else if cfg.maxStreams ≤ ch.activeStreams then (.again, ch)
    else if ¬ accept then (.again, ch)
    else
      (.ok, (ch.put id (streamSlotInit cfg id lane .opening)).send (channelConnection cfg.mode lane)
        [openFrame lane id cfg.initialWindowBytes])

/-- The reactor has accepted the initial credit of a stream. -/
def admitStream (ch : Channel) (conn : Lane) (id : Nat) (slot : StreamSlot) : Channel :=
  let ch := (ch.put id { slot with state := .opened, openedNotified := true }).send
    conn [controlFrame .windowUpdate id slot.rxAdvertisedLimit]
  (ch.setConn conn { ch.conn conn with lastPeerAdmitted := id }).notify id
    [.opened]

/-- `tr_channel_handle_stream_open`, up to the refusal. -/
def handleStreamOpen (role : Role) (cfg : ChannelConfig) (ch : Channel)
    (conn : Lane) (frame : ChannelFrame) (accept : Bool) :
    Except Status Channel :=
  let id := frame.streamId
  let lane := if frame.flags.laneBulk then Lane.bulk else Lane.control
  if frame.payload ≠ [] ∨ frame.flags.first ∨ frame.flags.last then
    .error .errBadFlags
  else if id = 0 ∨ channelConnection cfg.mode lane ≠ conn ∨ streamIdIsLocal role id then
    .error .errState
  else if (ch.conn conn).peerStarted ∨ id ≤ (ch.conn conn).peerStreamFrontier then
    .error .errState
  else if (ch.slot id).isSome then .error .errState
  else
    let ch := ch.setConn conn { ch.conn conn with peerStreamFrontier := id }
    if ch.localDraining ∨ (ch.conn conn).localStarted then .ok ch
    else if cfg.maxStreams ≤ ch.activeStreams then
      .ok { ch.setConn conn { ch.conn conn with refusing := some id } with
        noSlot := ch.noSlot ++ [(id, ch.activeStreams)] }
    else
      let slot := { streamSlotInit cfg id lane .accepting with
        txSendLimit := frame.messageId
        txWindowBytes := frame.messageId }
      if accept then .ok (ch.admitStream conn id slot)
      else
        let ch := ch.put id slot
        .ok (ch.setConn conn { ch.conn conn with
          pendingOpen := some id
          rxHeld := true })

/-- The end of `tr_channel_handle_stream_open` for an OPEN without a slot. -/
def refuse (ch : Channel) (conn : Lane) (accept : Bool) : Channel :=
  match (ch.conn conn).refusing with
  | none => ch
  | some id =>
    if accept then
      let ch := ch.send conn [refusedFrame id]
      ch.setConn conn { ch.conn conn with refusing := none, refusedLast := true }
    else
      ch.setConn conn { ch.conn conn with
        refusing := none
        pendingRefused := some id
        rxHeld := true }

/-- One connection of `tr_channel_refusal_progress_on_owner`. -/
def refusalProgress (cfg : ChannelConfig) (ch : Channel) (conn : Lane) (accept : Bool) : Channel :=
  match (ch.conn conn).pendingRefused with
  | none => ch
  | some id =>
    if ch.localDraining ∨ (ch.conn conn).localStarted then
      ch.setConn conn { ch.conn conn with pendingRefused := none, rxHeld := false }
    else if (ch.conn conn).refusedLast ∧ ch.streams.entries.any fun entry =>
        entry.2.state = .resetting ∧ ¬ entry.2.resetSent ∧
          channelConnection cfg.mode entry.2.lane = conn then
      ch
    else if ¬ accept then ch
    else
      let ch := ch.send conn [refusedFrame id]
      ch.setConn conn { ch.conn conn with
        pendingRefused := none
        refusedLast := true
        rxHeld := false }

/-- One connection of `tr_channel_open_progress_on_owner`. -/
def openProgress (ch : Channel) (conn : Lane) (accept : Bool) : Channel :=
  match (ch.conn conn).pendingOpen with
  | none => ch
  | some id =>
    match ch.slot id with
    | none => ch
    | some slot =>
      if ch.localDraining ∨ (ch.conn conn).localStarted then
        let ch := ch.free conn id
        ch.setConn conn { ch.conn conn with rxHeld := false }
      else if ¬ accept then ch
      else
        let ch := ch.admitStream conn id slot
        ch.setConn conn { ch.conn conn with pendingOpen := none, rxHeld := false }

/-- `tr_channel_handle_stream_refused`. -/
def handleStreamRefused (role : Role) (cfg : ChannelConfig) (ch : Channel)
    (conn : Lane) (frame : ChannelFrame) : Except Status Channel :=
  let id := frame.streamId
  if frame.flags ≠ .zero ∨ frame.payload ≠ [] ∨ frame.messageId ≠ (-Status.errNomem.code).toNat then
    .error .errInvalid
  else
    match ch.slot id with
    | none => .error .errState
    | some slot =>
      if slot.state ≠ .opening ∨ ¬ streamIdIsLocal role id ∨
          channelConnection cfg.mode slot.lane ≠ conn then
        .error .errState
      else .ok ((ch.free conn id).notify id [.refused])

/-! ## Streams -/

/-- The bookkeeping of `tr_channel_reset_progress_on_owner` around a slot: a
RESET that leaves gives way to a refusal, and a slot that is freed leaves a
tombstone. -/
def noteReset (cfg : ChannelConfig) (ch : Channel) (conn : Lane) (id : Nat)
    (slot : StreamSlot) (out : SlotOut) : Channel :=
  let ch := if out.frames = [] then ch
    else ch.setConn conn { ch.conn conn with refusedLast := false }
  if out.slot.isSome then ch
  else { ch with
    tombstones :=
      (⟨conn, id, slot.resetPeerStatus⟩ :: ch.tombstones).take cfg.maxStreams }

/-- An operation on a stream.  The application gets to know a stream when it
is admitted. -/
def streamStep (cfg : ChannelConfig) (ch : Channel) (id : Nat) (op : SlotOp) : Channel :=
  match ch.slot id with
  | none => ch
  | some slot =>
    if slot.state = .accepting then ch
    else
      let conn := channelConnection cfg.mode slot.lane
      let out := slotStep cfg (ch.lane slot.lane) slot op
      let ch := ch.apply conn id out
      match op with
      | .resetProgress _ => noteReset cfg ch conn id slot out
      | _ => ch

/-- What the handlers of stream frames check in the header. -/
def streamFrameError (frame : ChannelFrame) : Option Status :=
  match frame.type with
  | .windowUpdate =>
    if frame.payload ≠ [] ∨ frame.flags ≠ .zero then some .errBadFlags else none
  | .streamClose =>
    if frame.payload ≠ [] ∨ frame.flags ≠ .zero ∨ frame.streamId = 0 ∨ frame.messageId ≠ 0 then
      some .errBadFlags
    else none
  | .streamReset =>
    if frame.flags ≠ .zero ∨ frame.payload ≠ [] ∨ frame.streamId = 0 ∨
        2 ^ 31 - 1 < frame.messageId ∨
        ¬ wireStreamResetStatusValid (-frame.messageId) then
      some .errInvalid
    else none
  | _ => none

/-- The peer has acknowledged a stream: `last_local_accepted`. -/
def noteAccepted (role : Role) (ch : Channel) (conn : Lane) (frame : ChannelFrame) : Channel :=
  if frame.type = .windowUpdate ∧ streamIdIsLocal role frame.streamId ∧
      (ch.conn conn).lastLocalAccepted < frame.streamId then
    ch.setConn conn { ch.conn conn with lastLocalAccepted := frame.streamId }
  else ch

/-- The handlers of DATA, WINDOW_UPDATE, CLOSE and RESET. -/
def handleStreamFrame (role : Role) (cfg : ChannelConfig) (ch : Channel)
    (conn : Lane) (frame : ChannelFrame) (acquire : Status) :
    Except Status Channel :=
  match streamFrameError frame with
  | some ret => .error ret
  | none =>
    match ch.slot frame.streamId with
    | none =>
      if frame.type = .streamReset ∧ ⟨conn, frame.streamId, -frame.messageId⟩ ∈ ch.tombstones then
        .ok ch
      else .error .errState
    | some slot =>
      if channelConnection cfg.mode slot.lane ≠ conn then .error .errState
      else
        match slotReceive cfg (ch.lane slot.lane) slot frame acquire with
        | .error ret => .error ret
        | .ok out =>
          .ok ((ch.noteAccepted role conn frame).apply conn frame.streamId out)

/-! ## Everything -/

/-- The PING of the keepalive timer. -/
def ping (cfg : ChannelConfig) (ch : Channel) (conn : Lane) (id : Nat) (accept : Bool) : Channel :=
  if connectionReady cfg ch conn ∧ accept then
    ch.send conn [controlFrame .ping 0 id]
  else ch

/-- `tr_channel_connection_idle_locked`. -/
def connectionIdle (cfg : ChannelConfig) (ch : Channel) (conn : Lane) : Bool :=
  (ch.conn conn).localStarted && (ch.conn conn).peerStarted && !ch.streams.entries.any fun entry =>
      channelConnection cfg.mode entry.2.lane = conn

/-- The PING case of `tr_channel_on_frame`. -/
def handlePing (cfg : ChannelConfig) (ch : Channel) (conn : Lane)
    (frame : ChannelFrame) (accept : Bool) : Except Status Channel :=
  if frame.payload ≠ [] ∨ frame.flags ≠ .zero ∨ frame.streamId ≠ 0 then
    .error .errState
  else if ¬ connectionIdle cfg ch conn ∧ accept then
    .ok (ch.send conn [controlFrame .pong 0 frame.messageId])
  else .ok ch

/-- `tr_channel_on_frame`: what a frame does, or the protocol error with which
the connection is aborted. -/
def receive (role : Role) (cfg : ChannelConfig) (ch : Channel) (conn : Lane)
    (frame : ChannelFrame) (accept : Bool) (acquire : Status) :
    Except Status Channel :=
  match frame.type with
  | .hello =>
    if ch.handshakeStarted then handleHello cfg ch conn frame accept
    else deferHello ch conn frame
  | .helloAck => handleHelloAck cfg ch conn frame
  | type =>
    if ¬ connectionReady cfg ch conn then .error .errState
    else
      match type with
      | .goaway => handleGoaway role cfg ch conn frame
      | .streamOpen => handleStreamOpen role cfg ch conn frame accept
      | .streamRefused => handleStreamRefused role cfg ch conn frame
      | .ping => handlePing cfg ch conn frame accept
      | .pong => .ok ch
      | .data | .windowUpdate | .streamClose | .streamReset =>
        handleStreamFrame role cfg ch conn frame acquire
      | _ => .error .errBadType

end Channel

/-- What an endpoint does on its own account. -/
inductive LocalAction
  | start
  | startNext (accept : Bool)
  | beginDrain
  | drainProgress (conn : Lane)
  | openStream (lane : Lane) (accept : Bool)
  | openProgress (conn : Lane) (accept : Bool)
  | refuse (conn : Lane) (accept : Bool)
  | refusalProgress (conn : Lane) (accept : Bool)
  | stream (id : Nat) (op : SlotOp)
  | ping (conn : Lane) (id : Nat) (accept : Bool)
  deriving DecidableEq, Repr

/-- One step of an endpoint.  The replay of a HELLO is the only one that can
end in a protocol error. -/
def Channel.act (cfg : ChannelConfig) (ch : Channel) :
    LocalAction → Except (Lane × ChannelFrame × Status) Channel
  | .start => .ok (ch.start cfg)
  | .startNext accept => ch.startNext cfg accept
  | .beginDrain => .ok ch.beginDrain
  | .drainProgress conn => .ok (ch.drainProgress cfg conn)
  | .openStream lane accept => .ok (ch.openStream cfg lane accept).2
  | .openProgress conn accept => .ok (ch.openProgress conn accept)
  | .refuse conn accept => .ok (ch.refuse conn accept)
  | .refusalProgress conn accept => .ok (ch.refusalProgress cfg conn accept)
  | .stream id op => .ok (ch.streamStep cfg id op)
  | .ping conn id accept => .ok (ch.ping cfg conn id accept)

/-! ## Reading back -/

namespace Channel

variable (ch : Channel) (conn : Lane) (id id' : Nat)

@[simp] theorem slot_setConn (state : ConnState) :
    (ch.setConn conn state).slot id = ch.slot id := rfl

@[simp] theorem slot_send (frames : List ChannelFrame) :
    (ch.send conn frames).slot id = ch.slot id := rfl

@[simp] theorem slot_notify (kinds : List EventKind) :
    (ch.notify id' kinds).slot id = ch.slot id := rfl

@[simp] theorem slot_put (slot : StreamSlot) : (ch.put id slot).slot id = some slot :=
  AList.lookup_insert _

theorem slot_put_of_ne {id id' : Nat} (h : id' ≠ id) (slot : StreamSlot) :
    (ch.put id slot).slot id' = ch.slot id' :=
  AList.lookup_insert_ne h

@[simp] theorem slot_free : (ch.free conn id).slot id = none :=
  AList.lookup_erase _ _

theorem slot_free_of_ne {id id' : Nat} (h : id' ≠ id) :
    (ch.free conn id).slot id' = ch.slot id' :=
  AList.lookup_erase_ne h

end Channel

end Trpc
