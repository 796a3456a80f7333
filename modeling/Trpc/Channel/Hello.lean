import Trpc.Lib.Checks
import Trpc.Wire.Header

/-!
# Channel configuration and capability negotiation

The configuration of a channel as `tr_channel_create_common` leaves it, and the
HELLO and HELLO_ACK payloads with which two channels agree on what they may
send.  A HELLO tells what its sender can receive; a HELLO_ACK tells the same
with the feature bits of both sides.

`negotiate` and `acceptAck` are the checks of `tr_channel_handle_hello` and
`tr_channel_handle_hello_ack` up to the point where they touch the channel, for
arbitrary version ranges.
-/

namespace Trpc

/-- `UINT64_MAX`. -/
def uint64Max : Nat := 2 ^ 64 - 1

/-- `enum tr_channel_role`. -/
inductive Role
  | client
  | server
  deriving DecidableEq, Repr

/-- The role at the other end. -/
def Role.peer : Role → Role
  | client => server
  | server => client

@[simp] theorem Role.peer_peer (role : Role) : role.peer.peer = role := by
  cases role <;> rfl

@[simp] theorem Role.peer_ne (role : Role) : role.peer ≠ role := by
  cases role <;> decide

@[simp] theorem Role.ne_peer (role : Role) : role ≠ role.peer := by
  cases role <;> decide

theorem Role.eq_or_eq_peer (role other : Role) : other = role ∨ other = role.peer := by
  cases role <;> cases other <;> decide

/-- `enum tr_lane`.  It also names the two physical connections of a channel
by their index. -/
inductive Lane
  | control
  | bulk
  deriving DecidableEq, Repr

/-- `enum tr_channel_mode`. -/
inductive ChannelMode
  | sharedConnection
  | splitConnections
  deriving DecidableEq, Repr

/-- `TR_CHANNEL_PROTOCOL_VERSION`. -/
def channelProtocolVersion : UInt16 := 3

/-- `TR_CHANNEL_FEATURE_STREAM_RESET`. -/
def channelFeatureStreamReset : UInt64 := 1

/-- `struct tr_channel_config` with its defaults filled in, as far as the
creation accepts it, and the payload limit of the reactor.  Both protocol
versions are `channelProtocolVersion`, the only ones that are accepted. -/
structure ChannelConfig where
  mode : ChannelMode
  maxStreams : Nat
  initialWindowBytes : Nat
  windowUpdateThresholdBytes : Nat
  maxMessageBytes : UInt32
  /-- The buffer size of `reassembly_pool`, if there is one. -/
  reassemblyPool : Option UInt32
  featureBits : UInt64
  requiredFeatureBits : UInt64
  /-- `max_payload_len` of the reactor's limits. -/
  maxPayloadLen : UInt32
  streams_pos : 0 < maxStreams
  window_pos : 0 < initialWindowBytes
  window_le : initialWindowBytes ≤ uint64Max
  threshold_pos : 0 < windowUpdateThresholdBytes
  threshold_le : windowUpdateThresholdBytes ≤ uint64Max
  pool_le : ∀ size, reassemblyPool = some size → 0 < maxMessageBytes ∧ maxMessageBytes ≤ size
  required_le : requiredFeatureBits &&& ~~~featureBits = 0
  payload_pos : 0 < maxPayloadLen

/-- `struct tr_channel_capabilities`. -/
structure Capabilities where
  protocolVersion : UInt16
  laneMask : UInt32
  maxFramePayloadBytes : UInt32
  maxMessageBytes : UInt32
  featureBits : UInt64
  deriving DecidableEq, Repr

/-- A zeroed `struct tr_channel_capabilities`. -/
def Capabilities.zero : Capabilities := ⟨0, 0, 0, 0, 0⟩

/-- `tr_channel_connection`: the connection that carries a lane. -/
def channelConnection (mode : ChannelMode) (lane : Lane) : Lane :=
  match mode with
  | .sharedConnection => .control
  | .splitConnections => lane

/-- `tr_channel_connection_lane_mask_locked`. -/
def connectionLaneMask (mode : ChannelMode) (conn : Lane) : UInt32 :=
  match mode, conn with
  | .sharedConnection, .control => 3
  | .sharedConnection, .bulk => 0
  | .splitConnections, .control => 1
  | .splitConnections, .bulk => 2

/-- `tr_channel_local_max_message`. -/
def localMaxMessage (cfg : ChannelConfig) : UInt32 :=
  if cfg.maxMessageBytes ≠ 0 then cfg.maxMessageBytes else cfg.maxPayloadLen

/-! ## The payloads -/

/-- `TR_CHANNEL_HELLO_WIRE_SIZE`. -/
def channelHelloWireSize : Nat := 32

/-- The fields of a HELLO. -/
structure Hello where
  minVersion : UInt16
  maxVersion : UInt16
  laneMask : UInt32
  maxFramePayload : UInt32
  maxMessageBytes : UInt32
  featureBits : UInt64
  deriving DecidableEq, Repr

/-- `tr_channel_encode_hello`. -/
def encodeHello (hello : Hello) : List UInt8 :=
  putLe16 hello.minVersion ++ (putLe16 hello.maxVersion ++
    (putLe32 hello.laneMask ++ (putLe32 hello.maxFramePayload ++
    (putLe32 hello.maxMessageBytes ++ (putLe64 hello.featureBits ++
    putLe64 0)))))

/-- `tr_channel_encode_hello_ack`. -/
def encodeHelloAck (caps : Capabilities) : List UInt8 :=
  putLe16 caps.protocolVersion ++ (putLe16 0 ++
    (putLe32 caps.laneMask ++ (putLe32 caps.maxFramePayloadBytes ++
    (putLe32 caps.maxMessageBytes ++ (putLe64 caps.featureBits ++
    putLe64 0)))))

/-- `tr_channel_decode_hello`. -/
def decodeHello (data : List UInt8) : Except Status Hello :=
  if data.length ≠ channelHelloWireSize then .error .errBadLength
  else if getLe64 (data.drop 24) ≠ 0 then .error .errReserved
  else .ok {
    minVersion := getLe16 (data.drop 0)
    maxVersion := getLe16 (data.drop 2)
    laneMask := getLe32 (data.drop 4)
    maxFramePayload := getLe32 (data.drop 8)
    maxMessageBytes := getLe32 (data.drop 12)
    featureBits := getLe64 (data.drop 16) }

/-- `tr_channel_decode_hello_ack`. -/
def decodeHelloAck (data : List UInt8) : Except Status Capabilities :=
  if data.length ≠ channelHelloWireSize then .error .errBadLength
  else if getLe16 (data.drop 2) ≠ 0 ∨ getLe64 (data.drop 24) ≠ 0 then
    .error .errReserved
  else .ok {
    protocolVersion := getLe16 (data.drop 0)
    laneMask := getLe32 (data.drop 4)
    maxFramePayloadBytes := getLe32 (data.drop 8)
    maxMessageBytes := getLe32 (data.drop 12)
    featureBits := getLe64 (data.drop 16) }

/-- The fields of a HELLO or a HELLO_ACK, read back. -/
theorem hello_fields {v w : UInt16} {lanes frame message : UInt32} {bits : UInt64}
    {data : List UInt8} (h : data = putLe16 v ++ (putLe16 w ++ (putLe32 lanes ++
      (putLe32 frame ++ (putLe32 message ++ (putLe64 bits ++ putLe64 0)))))) :
    data.length = channelHelloWireSize ∧ getLe16 (data.drop 0) = v ∧
      getLe16 (data.drop 2) = w ∧ getLe32 (data.drop 4) = lanes ∧
      getLe32 (data.drop 8) = frame ∧ getLe32 (data.drop 12) = message ∧
      getLe64 (data.drop 16) = bits ∧ getLe64 (data.drop 24) = 0 := by
  subst h
  exact ⟨rfl, getLe16_putLe16 _ _, getLe16_putLe16 _ _, getLe32_putLe32 _ _,
    getLe32_putLe32 _ _, getLe32_putLe32 _ _, getLe64_putLe64 _ _, getLe64_putLe64 0 []⟩

theorem decodeHello_encode (hello : Hello) : decodeHello (encodeHello hello) = .ok hello := by
  obtain ⟨hlength, hmin, hmax, hmask, hframe, hmessage, hbits, hzero⟩ :=
    hello_fields (rfl : encodeHello hello = _)
  simp only [decodeHello, hlength, hzero, hmin, hmax, hmask, hframe, hmessage, hbits, ne_eq,
    not_true_eq_false, if_false]

theorem decodeHelloAck_encode (caps : Capabilities) :
    decodeHelloAck (encodeHelloAck caps) = .ok caps := by
  obtain ⟨hlength, hversion, hpad, hmask, hframe, hmessage, hbits, hzero⟩ :=
    hello_fields (rfl : encodeHelloAck caps = _)
  simp only [decodeHelloAck, hlength, hpad, hzero, hversion, hmask, hframe, hmessage, hbits,
    ne_eq, not_true_eq_false, or_self, if_false]

/-! ## Negotiation -/

/-- What the handshake of a connection reads from the configuration and the
reactor. -/
structure HandshakeConfig where
  minVersion : UInt16
  maxVersion : UInt16
  mode : ChannelMode
  /-- The index of the connection in the Channel. -/
  conn : Lane
  maxFramePayload : UInt32
  maxMessageBytes : UInt32
  featureBits : UInt64
  requiredFeatureBits : UInt64
  deriving DecidableEq, Repr

/-- The smaller of two versions, as `tr_channel_handle_hello` computes it. -/
def highVersion (peer own : UInt16) : UInt16 :=
  if peer < own then peer else own

/-- The larger of two versions, as `tr_channel_handle_hello` computes it. -/
def lowVersion (peer own : UInt16) : UInt16 :=
  if own < peer then peer else own

namespace HandshakeConfig

/-- The lanes that the connection carries. -/
def laneMask (cfg : HandshakeConfig) : UInt32 :=
  connectionLaneMask cfg.mode cfg.conn

/-- The checks of `tr_channel_local_capabilities`. -/
def usable (cfg : HandshakeConfig) : Bool :=
  cfg.laneMask ≠ 0 ∧ cfg.maxFramePayload ≠ 0 ∧ cfg.maxMessageBytes ≠ 0

/-- The payload of `tr_channel_send_hello`. -/
def hello (cfg : HandshakeConfig) : List UInt8 :=
  encodeHello ⟨cfg.minVersion, cfg.maxVersion, cfg.laneMask, cfg.maxFramePayload,
    cfg.maxMessageBytes, cfg.featureBits⟩

/-- The checks of `tr_channel_handle_hello`: the capabilities to store and those
for the HELLO_ACK. -/
def negotiate (cfg : HandshakeConfig) (payload : List UInt8) :
    Except Status (Capabilities × Capabilities) :=
  match decodeHello payload with
  | .error ret => .error ret
  | .ok peer =>
    if ¬ cfg.usable then .error .errState
    else if peer.minVersion = 0 ∨ peer.maxVersion = 0 ∨
        peer.maxVersion < peer.minVersion ∨ peer.laneMask ≠ cfg.laneMask ∨
        peer.maxFramePayload = 0 ∨ peer.maxMessageBytes = 0 then
      .error .errUnsupported
    else
      let low := lowVersion peer.minVersion cfg.minVersion
      let high := highVersion peer.maxVersion cfg.maxVersion
      let negotiated : Capabilities := {
        protocolVersion := high
        laneMask := cfg.laneMask
        maxFramePayloadBytes :=
          if peer.maxFramePayload < cfg.maxFramePayload then peer.maxFramePayload
          else cfg.maxFramePayload
        maxMessageBytes := peer.maxMessageBytes
        featureBits := peer.featureBits &&& cfg.featureBits }
      if high < low then .error .errBadVersion
      else if negotiated.maxFramePayloadBytes = 0 ∨ negotiated.maxMessageBytes = 0 ∨
          negotiated.featureBits &&& cfg.requiredFeatureBits ≠ cfg.requiredFeatureBits then
        .error .errUnsupported
      else
        .ok (negotiated, {
          protocolVersion := high
          laneMask := cfg.laneMask
          maxFramePayloadBytes := cfg.maxFramePayload
          maxMessageBytes := cfg.maxMessageBytes
          featureBits := negotiated.featureBits })

/-- The checks of `tr_channel_handle_hello_ack`. -/
def acceptAck (cfg : HandshakeConfig) (payload : List UInt8) : Except Status Capabilities :=
  match decodeHelloAck payload with
  | .error ret => .error ret
  | .ok caps =>
    if ¬ cfg.usable then .error .errState
    else if caps.protocolVersion < cfg.minVersion ∨
        cfg.maxVersion < caps.protocolVersion ∨ caps.laneMask ≠ cfg.laneMask ∨
        caps.maxFramePayloadBytes = 0 ∨ caps.maxMessageBytes = 0 ∨
        caps.featureBits &&& ~~~cfg.featureBits ≠ 0 ∨
        caps.featureBits &&& cfg.requiredFeatureBits ≠ cfg.requiredFeatureBits then
      .error .errUnsupported
    else if cfg.maxFramePayload < caps.maxFramePayloadBytes then
      .ok { caps with maxFramePayloadBytes := cfg.maxFramePayload }
    else .ok caps

end HandshakeConfig

/-- The handshake of a Channel on a connection. -/
def ChannelConfig.handshake (cfg : ChannelConfig) (conn : Lane) : HandshakeConfig where
  minVersion := channelProtocolVersion
  maxVersion := channelProtocolVersion
  mode := cfg.mode
  conn := conn
  maxFramePayload := cfg.maxPayloadLen
  maxMessageBytes := localMaxMessage cfg
  featureBits := cfg.featureBits
  requiredFeatureBits := cfg.requiredFeatureBits

end Trpc
