import Trpc.Status
import Trpc.Wire.Endian
import Trpc.Wire.Crc32c

/-!
# The wire header

The 40-byte frame header of `wire.h` and `wire.c`.

* `wireHeaderEncode` writes the fields at their offsets and then the checksum
  of the header with its own checksum field zeroed.
* `wireHeaderDecode` reads the fields back without judging them.
* `wireHeaderValidate` makes the checks in the order of the code and answers
  the first one that fails.

The encoding of a valid header (`FrameHeader.Valid`) validates and decodes to it.
-/

namespace Trpc

/-- `TR_WIRE_HEADER_SIZE`. -/
def wireHeaderSize : Nat := 40

/-- `TR_WIRE_ENV_VERSION`. -/
def wireEnvVersion : UInt16 := 1

/-- `TR_WIRE_DEFAULT_MAX_PAYLOAD`. -/
def wireDefaultMaxPayload : UInt32 := 1024 * 1024

/-- `enum tr_frame_type`. -/
inductive FrameType
  | data
  | streamOpen
  | streamClose
  | windowUpdate
  | ping
  | pong
  | error
  | hello
  | helloAck
  | goaway
  | bind
  | bindAck
  | pipelineControl
  | streamReset
  | streamRefused
  deriving DecidableEq, Repr

/-- The number of a frame type. -/
def FrameType.code : FrameType → UInt16
  | data => 1
  | streamOpen => 2
  | streamClose => 3
  | windowUpdate => 4
  | ping => 5
  | pong => 6
  | error => 7
  | hello => 8
  | helloAck => 9
  | goaway => 10
  | bind => 11
  | bindAck => 12
  | pipelineControl => 13
  | streamReset => 14
  | streamRefused => 15

/-- The frame type that a number names. -/
def FrameType.ofCode : UInt16 → Option FrameType
  | 1 => some data
  | 2 => some streamOpen
  | 3 => some streamClose
  | 4 => some windowUpdate
  | 5 => some ping
  | 6 => some pong
  | 7 => some error
  | 8 => some hello
  | 9 => some helloAck
  | 10 => some goaway
  | 11 => some bind
  | 12 => some bindAck
  | 13 => some pipelineControl
  | 14 => some streamReset
  | 15 => some streamRefused
  | _ => none

/-- `tr_frame_type_valid`. -/
def frameTypeValid (type : UInt16) : Bool :=
  (FrameType.ofCode type).isSome

@[simp] theorem FrameType.ofCode_code (type : FrameType) :
    FrameType.ofCode type.code = some type := by
  cases type <;> rfl

/-- `TR_FRAME_F_FIRST`. -/
def frameFFirst : UInt32 := 1

/-- `TR_FRAME_F_LAST`. -/
def frameFLast : UInt32 := 2

/-- `TR_FRAME_F_LANE_BULK`. -/
def frameFLaneBulk : UInt32 := 4

/-- `TR_FRAME_F_KNOWN_MASK`. -/
def frameFKnownMask : UInt32 := frameFFirst ||| frameFLast ||| frameFLaneBulk

/-- `struct tr_frame_header`. -/
structure FrameHeader where
  version : UInt16
  type : UInt16
  flags : UInt32
  streamId : UInt32
  messageId : UInt64
  payloadLen : UInt32
  payloadCrc32c : UInt32
  headerCrc32c : UInt32
  reserved : UInt32
  deriving DecidableEq, Repr

/-- `tr_magic`: the bytes `TRP1`. -/
def magic : List UInt8 := [0x54, 0x52, 0x50, 0x31]

/-- The header bytes with a given value in the checksum field. -/
def headerBytes (header : FrameHeader) (crc : UInt32) : List UInt8 :=
  magic ++ (putLe16 header.version ++ (putLe16 header.type ++
    (putLe32 header.flags ++ (putLe32 header.streamId ++
    (putLe64 header.messageId ++ (putLe32 header.payloadLen ++
    (putLe32 header.payloadCrc32c ++ (putLe32 crc ++
    putLe32 header.reserved))))))))

/-- `tr_header_crc`: the checksum of the header with its checksum field
zeroed. -/
def headerCrc (raw : List UInt8) : UInt32 :=
  crc32c (raw.take 32 ++ ([0, 0, 0, 0] ++ raw.drop 36))

/-- `tr_wire_header_encode`. -/
def wireHeaderEncode (header : FrameHeader) : List UInt8 :=
  headerBytes header (headerCrc (headerBytes header 0))

/-- `tr_wire_header_decode`. -/
def wireHeaderDecode (raw : List UInt8) : FrameHeader where
  version := getLe16 (raw.drop 4)
  type := getLe16 (raw.drop 6)
  flags := getLe32 (raw.drop 8)
  streamId := getLe32 (raw.drop 12)
  messageId := getLe64 (raw.drop 16)
  payloadLen := getLe32 (raw.drop 24)
  payloadCrc32c := getLe32 (raw.drop 28)
  headerCrc32c := getLe32 (raw.drop 32)
  reserved := getLe32 (raw.drop 36)

/-- The payload limit in force: a zero limit stands for the default. -/
def wireMaxPayload (maxPayloadLen : UInt32) : UInt32 :=
  if maxPayloadLen ≠ 0 then maxPayloadLen else wireDefaultMaxPayload

/-- The last block of `tr_wire_header_validate`: RESET and REFUSED carry a
stream, a reason and nothing else. -/
def wireResetValidate (header : FrameHeader) : Status :=
  if header.flags ≠ 0 then .errBadFlags
  else if header.payloadLen ≠ 0 then .errBadLength
  else if header.streamId = 0 ∨ header.messageId.toNat > 2 ^ 31 - 1 ∨
      ¬ wireStreamResetStatusValid (-(header.messageId.toNat : Int)) then
    .errInvalid
  else if header.type = FrameType.streamRefused.code ∧
      (header.messageId.toNat : Int) ≠ -Status.errNomem.code then
    .errInvalid
  else .ok

/-- `tr_wire_header_validate`. -/
def wireHeaderValidate (raw : List UInt8) (header : FrameHeader)
    (maxPayloadLen : UInt32) : Status :=
  if raw.take 4 ≠ magic then .errBadMagic
  else if headerCrc raw ≠ header.headerCrc32c then .errHeaderCrc
  else if header.version ≠ wireEnvVersion then .errBadVersion
  else if ¬ frameTypeValid header.type then .errBadType
  else if header.flags &&& ~~~frameFKnownMask ≠ 0 then .errBadFlags
  else if header.reserved ≠ 0 then .errReserved
  else if wireMaxPayload maxPayloadLen < header.payloadLen then .errBadLength
  else if header.type = FrameType.streamReset.code ∨ header.type = FrameType.streamRefused.code then
    wireResetValidate header
  else .ok

/-! ## Encoding and decoding -/

@[simp] theorem wireHeaderEncode_length (header : FrameHeader) :
    (wireHeaderEncode header).length = wireHeaderSize := rfl

/-- The checksum does not depend on what stands in the checksum field. -/
theorem headerCrc_headerBytes (header : FrameHeader) (crc : UInt32) :
    headerCrc (headerBytes header crc) = headerCrc (headerBytes header 0) := rfl

theorem wireHeaderDecode_headerBytes (header : FrameHeader) (crc : UInt32) :
    wireHeaderDecode (headerBytes header crc) =
      { header with headerCrc32c := crc } := by
  have hversion : getLe16 ((headerBytes header crc).drop 4) = header.version :=
    getLe16_putLe16 _ _
  have htype : getLe16 ((headerBytes header crc).drop 6) = header.type :=
    getLe16_putLe16 _ _
  have hflags : getLe32 ((headerBytes header crc).drop 8) = header.flags :=
    getLe32_putLe32 _ _
  have hstream : getLe32 ((headerBytes header crc).drop 12) = header.streamId :=
    getLe32_putLe32 _ _
  have hmessage : getLe64 ((headerBytes header crc).drop 16) = header.messageId :=
    getLe64_putLe64 _ _
  have hlen : getLe32 ((headerBytes header crc).drop 24) = header.payloadLen :=
    getLe32_putLe32 _ _
  have hpcrc : getLe32 ((headerBytes header crc).drop 28) = header.payloadCrc32c :=
    getLe32_putLe32 _ _
  have hcrc : getLe32 ((headerBytes header crc).drop 32) = crc :=
    getLe32_putLe32 _ _
  have hreserved : getLe32 ((headerBytes header crc).drop 36) = header.reserved :=
    getLe32_putLe32 _ []
  simp only [wireHeaderDecode, hversion, htype, hflags, hstream, hmessage, hlen,
    hpcrc, hcrc, hreserved]

/-- Decoding an encoding gives the fields back, with the computed checksum in
its field. -/
theorem wireHeaderDecode_encode (header : FrameHeader) :
    wireHeaderDecode (wireHeaderEncode header) =
      { header with headerCrc32c := headerCrc (wireHeaderEncode header) } := by
  rw [wireHeaderEncode, wireHeaderDecode_headerBytes,
    headerCrc_headerBytes header (headerCrc (headerBytes header 0))]

theorem wireHeaderEncode_take (header : FrameHeader) :
    (wireHeaderEncode header).take 4 = magic := rfl

/-! ## Valid headers -/

/-- The header fields that the receiver accepts under a payload limit. -/
structure FrameHeader.Valid (maxPayloadLen : UInt32) (header : FrameHeader) :
    Prop where
  version : header.version = wireEnvVersion
  type : frameTypeValid header.type = true
  flags : header.flags &&& ~~~frameFKnownMask = 0
  reserved : header.reserved = 0
  payloadLen : header.payloadLen ≤ wireMaxPayload maxPayloadLen
  reset : header.type = FrameType.streamReset.code ∨ header.type = FrameType.streamRefused.code →
    wireResetValidate header = .ok

/-- The encoding of a valid header passes every check. -/
theorem wireHeaderValidate_encode {maxPayloadLen : UInt32}
    {header : FrameHeader} (h : header.Valid maxPayloadLen) :
    wireHeaderValidate (wireHeaderEncode header)
      (wireHeaderDecode (wireHeaderEncode header)) maxPayloadLen = .ok := by
  have hreset : wireResetValidate
      { header with headerCrc32c := headerCrc (wireHeaderEncode header) } =
      wireResetValidate header := rfl
  have hlen : ¬ wireMaxPayload maxPayloadLen < header.payloadLen :=
    UInt32.not_lt.mpr h.payloadLen
  rw [wireHeaderDecode_encode]
  unfold wireHeaderValidate
  rw [hreset]
  simp only [wireHeaderEncode_take, h.version, h.type, h.flags, h.reserved,
    hlen, ne_eq, not_true_eq_false, if_false]
  split
  next hkind =>
    exact h.reset hkind
  · rfl

end Trpc
