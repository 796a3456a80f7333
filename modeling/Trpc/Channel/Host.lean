import Trpc.Lib.Runs
import Trpc.Channel.Endpoint

/-!
# A channel over its lifetime

`Channel` is what a Channel knows while its connections stay up.  A `Host` adds
what happens when they do not: the loss of a connection, the streams that fail
with it, the reconnection of a client, and the last part of a drain, the wait
until the reactor has sent everything.

The peer is not modelled.  Any frame may arrive on a connection that is up, and
a frame that is refused costs the connection.  A frame arrives when the owner
has finished with the one before, so the second locked section of
`tr_channel_handle_stream_close` belongs to the arrival here.

The loop of `tr_channel_fail_lane_streams` gives the owner to the application
after every stream, so the streams of a lost connection fail one by one.

`births` and `log` are observations.  A stream handle is a slot and its
generation, of which no two streams share one; here it is the number of the
stream and how often that number has been given to a stream, since a peer can
use its numbers again on a new connection.  `attempts` are the reconnects that
were scheduled or started.
-/

namespace Trpc

/-- What stands for a stream handle. -/
structure StreamRef where
  streamId : Nat
  birth : Nat
  deriving DecidableEq, Repr

/-- Something that was done about a reconnect. -/
inductive ReconnectNote
  | scheduled (lane : Lane)
  | started (lane : Lane)
  deriving DecidableEq, Repr

/-- A channel with its connections. -/
structure Host where
  chan : Channel
  /-- `control_alive` and `bulk_alive`. -/
  alive : Lane → Bool
  /-- `tx_wait_requested` of each connection. -/
  txWaitRequested : Lane → Bool
  /-- `tx_drained` of each connection. -/
  txDrained : Lane → Bool
  reconnectEnabled : Bool
  /-- `control_reconnecting` and `bulk_reconnecting`. -/
  reconnecting : Lane → Bool
  /-- `control_reconnect_attempt` and `bulk_reconnect_attempt`. -/
  reconnectAttempt : Lane → Nat
  reconnectLane : Lane
  attempts : List ReconnectNote
  births : Nat → Nat
  log : List (StreamRef × EventKind)

/-- A channel that has been created on its connections. -/
def Host.init (role : Role) : Host where
  chan := .init role
  alive := fun _ => true
  txWaitRequested := fun _ => false
  txDrained := fun _ => false
  reconnectEnabled := false
  reconnecting := fun _ => false
  reconnectAttempt := fun _ => 0
  reconnectLane := .control
  attempts := []
  births := fun _ => 0
  log := []

/-- `enum tr_channel_state`. -/
inductive ChannelReport
  | running
  | draining
  | drained
  deriving DecidableEq, Repr

namespace Host

/-! ## Streams and their handles -/

/-- How often each number has been given to a stream after a step to `ch`. -/
def birthsAfter (s : Host) (ch : Channel) (id : Nat) : Nat :=
  if (s.chan.slot id).isNone ∧ (ch.slot id).isSome then s.births id + 1
  else s.births id

/-- The channel has made a step. -/
def advance (s : Host) (ch : Channel) : Host :=
  { s with
    chan := ch
    births := s.birthsAfter ch
    log := s.log ++ (ch.events.drop s.chan.events.length).map fun event =>
      (⟨event.streamId, s.birthsAfter ch event.streamId⟩, event.kind) }

/-! ## Connections -/

/-- `tr_channel_connection_alive_locked`. -/
def connectionAlive (cfg : ChannelConfig) (s : Host) (conn : Lane) : Bool :=
  (Channel.lanesOn cfg.mode conn).any s.alive

/-- What `tr_channel_on_connection_event` does to the channel when a connection
has ended. -/
def dropConnection (cfg : ChannelConfig) (ch : Channel) (conn : Lane) : Channel :=
  { ch.setConn conn { ch.conn conn with
      pendingHello := none
      refusing := none
      pendingRefused := none
      refusedLast := false
      out := [] } with
    lane := fun lane =>
      if lane ∈ Channel.lanesOn cfg.mode conn then ⟨false, .zero⟩ else ch.lane lane }

/-- The first part of `tr_channel_on_connection_event` when a connection has
ended. -/
def lose (cfg : ChannelConfig) (s : Host) (conn : Lane) : Host :=
  { s.advance (dropConnection cfg s.chan conn) with
    alive := fun lane => !decide (lane ∈ Channel.lanesOn cfg.mode conn) && s.alive lane
    reconnecting := fun lane =>
      !decide (lane ∈ Channel.lanesOn cfg.mode conn) && s.reconnecting lane }

/-- One stream of `tr_channel_fail_lane_streams`. -/
def failStream (cfg : ChannelConfig) (s : Host) (id : Nat) (status : Int) : Option Host :=
  match s.chan.slot id with
  | none => none
  | some slot =>
    if s.alive slot.lane then none
    else
      some (s.advance ((s.chan.free (channelConnection cfg.mode slot.lane) id).notify id
        [.error status]))

/-- The connections that a reconnect of a lane replaces. -/
def replacedLanes (mode : ChannelMode) (lane : Lane) : List Lane :=
  match mode with
  | .sharedConnection => [.control, .bulk]
  | .splitConnections => [lane]

/-- `tr_channel_replace_connection`.  `accept` says whether the reactor takes
the HELLO. -/
def replace (cfg : ChannelConfig) (s : Host) (lane : Lane) (accept : Bool) : Except Status Host :=
  let lanes := replacedLanes cfg.mode lane
  let conn := channelConnection cfg.mode lane
  if s.chan.localDraining ∨ s.chan.peerDraining lane then .error .errClosed
  else if lanes.any s.alive then .error .errState
  else
    let ch := s.chan.setConn conn { ConnState.init with
      log := (s.chan.conn conn).log }
    let ch := { ch with
      lane := fun l => if l ∈ lanes then ⟨false, .zero⟩ else s.chan.lane l }
    let ch := if accept then
      ch.send conn [Channel.helloFrame .hello (cfg.handshake conn).hello] else ch
    .ok { s.advance ch with
      alive := fun l => decide (l ∈ lanes) || s.alive l
      txWaitRequested := Function.update s.txWaitRequested conn false
      txDrained := Function.update s.txDrained conn false
      reconnecting := fun l => !decide (l ∈ lanes) && s.reconnecting l
      reconnectAttempt := fun l => if l ∈ lanes then 0 else s.reconnectAttempt l }

/-! ## Drain -/

/-- The streams of a connection, `active_streams` of `struct tr_channel_drain`. -/
def connectionStreams (cfg : ChannelConfig) (ch : Channel) (conn : Lane) : Nat :=
  (ch.streams.entries.filter fun entry =>
    channelConnection cfg.mode entry.2.lane = conn).length

/-- The part of `tr_channel_drain_progress_on_owner` that asks the reactor to
tell when everything is sent. -/
def requestTxDrained (cfg : ChannelConfig) (s : Host) (conn : Lane) : Host :=
  if conn ∈ Channel.connections cfg.mode ∧ (s.chan.conn conn).localStarted ∧
      (s.chan.conn conn).goawayAccepted ∧ (s.chan.conn conn).peerStarted ∧
      connectionStreams cfg s.chan conn = 0 ∧ ¬ s.txWaitRequested conn ∧
      s.connectionAlive cfg conn then
    { s with txWaitRequested := Function.update s.txWaitRequested conn true }
  else s

/-- `tr_channel_on_connection_event` for TX_DRAINED. -/
def onTxDrained (cfg : ChannelConfig) (s : Host) (conn : Lane) : Host :=
  if s.txWaitRequested conn ∧ (s.chan.conn conn).goawayAccepted ∧
      s.connectionAlive cfg conn ∧ s.chan.connectionIdle cfg conn then
    { s with txDrained := Function.update s.txDrained conn true }
  else s

/-- `tr_channel_drained_locked`. -/
def drained (cfg : ChannelConfig) (s : Host) : Bool :=
  s.chan.localDraining && s.chan.activeStreams = 0 && (Channel.connections cfg.mode).all fun conn =>
      !s.connectionAlive cfg conn ||
        ((s.chan.conn conn).localStarted && (s.chan.conn conn).peerStarted &&
          (s.chan.conn conn).goawayAccepted && s.txDrained conn)

/-- `tr_channel_get_state`. -/
def getState (cfg : ChannelConfig) (s : Host) : ChannelReport :=
  if ¬ s.chan.localDraining then .running
  else if s.drained cfg then .drained
  else .draining

/-- `tr_channel_disable_client_reconnect_on_owner`.  `torn` says whether the
timer and the connector could be taken down. -/
def disableReconnect (s : Host) (torn : Bool) : Host :=
  { s with
    reconnectEnabled := false
    reconnecting := if torn then fun _ => false else s.reconnecting }

/-- `tr_channel_begin_drain_on_owner`, without the progress.  `timer` says
whether the maintenance timer could be set. -/
def beginDrain (cfg : ChannelConfig) (s : Host) (timer torn : Bool) : Host :=
  if s.drained cfg ∨ ¬ timer then s
  else (s.advance s.chan.beginDrain).disableReconnect torn

/-! ## Reconnects -/

/-- `tr_channel_reconnect_pick_locked`: the lane to reconnect. -/
def reconnectPick (cfg : ChannelConfig) (s : Host) : Option Lane :=
  let down lane := ¬ s.alive lane ∧ ¬ s.chan.peerDraining lane
  if ¬ s.reconnectEnabled ∨ s.chan.localDraining then none
  else
    match cfg.mode with
    | .sharedConnection =>
      if (¬ s.alive .control ∨ ¬ s.alive .bulk) ∧ ¬ s.chan.peerDraining .control ∧
          ¬ s.chan.peerDraining .bulk ∧ ¬ s.reconnecting .control ∧
          ¬ s.reconnecting .bulk then
        some .control
      else none
    | .splitConnections =>
      if s.reconnecting .control ∨ s.reconnecting .bulk then none
      else if s.reconnectLane = .control ∧ s.reconnectAttempt .control ≠ 0 ∧ down .bulk then
        some .bulk
      else if s.reconnectLane = .bulk ∧ s.reconnectAttempt .bulk ≠ 0 ∧ down .control then
        some .control
      else if down .control then some .control
      else if down .bulk then some .bulk
      else none

/-- `tr_channel_lane_still_down_locked`. -/
def laneStillDown (cfg : ChannelConfig) (s : Host) (lane : Lane) : Bool :=
  (replacedLanes cfg.mode lane).any fun l => !s.alive l

/-- `tr_channel_reconnect_attempt_active_locked`. -/
def reconnectAttemptActive (cfg : ChannelConfig) (s : Host) (lane : Lane) : Bool :=
  match cfg.mode with
  | .sharedConnection =>
    s.reconnecting .control && s.reconnecting .bulk && s.reconnectLane = .control
  | .splitConnections => s.reconnectLane = lane && s.reconnecting lane

/-- `tr_channel_reconnect_clear_attempt_locked`. -/
def clearAttempt (cfg : ChannelConfig) (s : Host) (lane : Lane) : Host :=
  { s with reconnecting := fun l =>
      !decide (l ∈ replacedLanes cfg.mode lane) && s.reconnecting l }

/-- `tr_channel_reconnect_finish_attempt`. -/
def finishAttempt (cfg : ChannelConfig) (s : Host) (lane : Lane) (success : Bool) : Host :=
  -- in the shared mode both lanes count with the number of the control lane
  let counted := match cfg.mode with
    | .sharedConnection => s.reconnectAttempt .control
    | .splitConnections => s.reconnectAttempt lane
  { s.clearAttempt cfg lane with
    reconnectAttempt := fun l =>
      if l ∉ replacedLanes cfg.mode lane then s.reconnectAttempt l
      else if success then 0
      else if s.laneStillDown cfg lane then min (counted + 1) uint32Max
      else s.reconnectAttempt l }

/-- `tr_channel_reconnect_schedule_on_owner`.  `armed` says whether the timer
could be set. -/
def reconnectSchedule (cfg : ChannelConfig) (s : Host) (armed : Bool) : Host :=
  match s.reconnectPick cfg with
  | none => s
  | some lane =>
    let picked := { s with
      reconnectLane := lane
      reconnecting := fun l =>
        decide (l ∈ replacedLanes cfg.mode lane) || s.reconnecting l
      attempts := s.attempts ++ [.scheduled lane] }
    if armed then picked
    else { picked.finishAttempt cfg lane false with reconnectEnabled := false }

/-- `tr_channel_reconnect_timer_main`.  `started` says whether the connector has
taken the attempt. -/
def reconnectTimer (cfg : ChannelConfig) (s : Host) (started armed : Bool) : Host :=
  let lane := s.reconnectLane
  if s.reconnectEnabled ∧ s.reconnectAttemptActive cfg lane ∧ s.laneStillDown cfg lane then
    let trying := { s with attempts := s.attempts ++ [.started lane] }
    if started then trying
    else (trying.finishAttempt cfg lane false).reconnectSchedule cfg armed
  else (s.clearAttempt cfg lane).reconnectSchedule cfg armed

/-- `tr_channel_reconnect_connector_complete`. -/
def reconnectComplete (cfg : ChannelConfig) (s : Host) (connected accept armed : Bool) : Host :=
  let lane := s.reconnectLane
  if ¬ s.reconnectEnabled ∨ ¬ s.reconnectAttemptActive cfg lane ∨ ¬ s.laneStillDown cfg lane then
    (s.clearAttempt cfg lane).reconnectSchedule cfg armed
  else if connected then
    match s.replace cfg lane accept with
    | .ok s => (s.finishAttempt cfg lane accept).reconnectSchedule cfg armed
    | .error _ => (s.finishAttempt cfg lane false).reconnectSchedule cfg armed
  else (s.finishAttempt cfg lane false).reconnectSchedule cfg armed

/-- `tr_channel_enable_client_reconnect_on_owner`. -/
def enableReconnect (cfg : ChannelConfig) (s : Host) (armed : Bool) : Host :=
  if s.chan.localDraining ∨ s.reconnectEnabled then s
  else
    { s with
      reconnectEnabled := true
      reconnectAttempt := fun _ => 0
      reconnecting := fun _ => false
      reconnectLane := .control }.reconnectSchedule cfg armed

/-! ## Frames -/

/-- `tr_channel_on_frame` to its end: a stream whose second half the frame has
closed is freed after the notification. -/
def onFrame (role : Role) (cfg : ChannelConfig) (ch : Channel) (conn : Lane)
    (frame : ChannelFrame) (accept : Bool) (acquire : Status) :
    Except Status Channel :=
  match ch.receive role cfg conn frame accept acquire with
  | .error ret => .error ret
  | .ok after =>
    if frame.type = .streamClose ∧
        (ch.slot frame.streamId).any fun slot => slot.state ≠ .resetting then
      .ok (after.streamStep cfg frame.streamId .finishClose)
    else .ok after

end Host

/-- A configuration with one connection, for the examples. -/
def plainConfig : ChannelConfig where
  mode := .sharedConnection
  maxStreams := 2
  initialWindowBytes := 100
  windowUpdateThresholdBytes := 50
  maxMessageBytes := 100
  reassemblyPool := none
  featureBits := channelFeatureStreamReset
  requiredFeatureBits := 0
  maxPayloadLen := 64
  streams_pos := Nat.zero_lt_two
  window_pos := by decide
  window_le := by decide
  threshold_pos := by decide
  threshold_le := by decide
  pool_le := nofun
  required_le := by decide
  payload_pos := by decide

/-- What can happen to a channel. -/
inductive HostAction
  | act (action : LocalAction)
  | receive (conn : Lane) (frame : ChannelFrame) (accept : Bool) (acquire : Status)
  | beginDrain (timer torn : Bool)
  | requestTxDrained (conn : Lane)
  | txDrained (conn : Lane)
  | lose (conn : Lane)
  | failStream (id : Nat) (status : Int)
  | replace (lane : Lane) (accept : Bool)
  | enableReconnect (armed : Bool)
  | disableReconnect (torn : Bool)
  | reconnectSchedule (armed : Bool)
  | reconnectTimer (started armed : Bool)
  | reconnectComplete (connected accept armed : Bool)
  deriving DecidableEq, Repr

/-- No stream of the connections of a lane is left, which is so when
`tr_channel_on_connection_event` has come to its end. -/
def Host.cleared (s : Host) : Bool :=
  s.chan.streams.entries.all fun entry => s.alive entry.2.lane

/-- One step of a channel. -/
def hostStep (role : Role) (cfg : ChannelConfig) (s : Host) : HostAction → Option Host
  | .act .beginDrain => none
  | .act action =>
    match s.chan.act cfg action with
    | .ok ch => some (s.advance ch)
    | .error (conn, _, _) => some (s.lose cfg conn)
  | .receive conn frame accept acquire =>
    if ¬ s.connectionAlive cfg conn ∨ (s.chan.conn conn).blocked then none
    else
      match Host.onFrame role cfg s.chan conn frame accept acquire with
      | .ok ch => some (s.advance ch)
      | .error _ => some (s.lose cfg conn)
  | .beginDrain timer torn => some (s.beginDrain cfg timer torn)
  | .requestTxDrained conn => some (s.requestTxDrained cfg conn)
  | .txDrained conn => some (s.onTxDrained cfg conn)
  | .lose conn => some (s.lose cfg conn)
  | .failStream id status => s.failStream cfg id status
  | .replace lane accept =>
    if s.cleared then
      match s.replace cfg lane accept with
      | .ok s => some s
      | .error _ => some s
    else none
  | .enableReconnect armed => some (s.enableReconnect cfg armed)
  | .disableReconnect torn => some (s.disableReconnect torn)
  | .reconnectSchedule armed => some (s.reconnectSchedule cfg armed)
  | .reconnectTimer started armed => some (s.reconnectTimer cfg started armed)
  | .reconnectComplete connected accept armed =>
    if s.cleared then some (s.reconnectComplete cfg connected accept armed)
    else none

end Trpc
