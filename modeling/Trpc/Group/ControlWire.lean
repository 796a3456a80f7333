import Trpc.Group.Route

/-!
# The messages of a CONTROL connection

`group/pipeline_control_wire.c`: 48 bytes that offer a DATA capability, give one back, or
announce the member of a stream.
-/

namespace Trpc

open Lib

/-- `TR_PIPELINE_CONTROL_WIRE_SIZE`. -/
def controlWireSize : Nat := 48

/-- `TR_PIPELINE_CONTROL_WIRE_VERSION`. -/
def controlWireVersion : UInt16 := 1

/-- `TR_PIPELINE_CONTROL_DATA_OFFER`. -/
def controlDataOffer : UInt16 := 1

/-- `TR_PIPELINE_CONTROL_DATA_CANCEL`. -/
def controlDataCancel : UInt16 := 2

/-- `TR_PIPELINE_CONTROL_TRANSFER_READY`. -/
def controlTransferReady : UInt16 := 3

/-- `struct tr_pipeline_control_wire_message`. -/
structure ControlWireMessage where
  version : UInt16 := controlWireVersion
  type : UInt16
  flags : UInt32 := 0
  ownerShardId : UInt32
  pipelineId : UInt64
  epoch : UInt64
  streamId : UInt32 := 0
  dataIndex : UInt32
  dataGeneration : UInt32
  reserved : UInt32 := 0
  deriving DecidableEq, Repr

/-- The capability that a message names. -/
def ControlWireMessage.data (message : ControlWireMessage) : DataRef :=
  ⟨message.dataIndex.toNat, message.dataGeneration.toNat⟩

/-- `tr_pipeline_control_wire_type_valid`. -/
def controlWireTypeValid (type : UInt16) : Bool :=
  type = controlDataOffer ∨ type = controlDataCancel ∨ type = controlTransferReady

/-- `tr_pipeline_control_wire_fields_valid`. -/
def controlWireFieldsValid (message : ControlWireMessage) : Bool :=
  if message.version ≠ controlWireVersion ∨ ¬ controlWireTypeValid message.type ∨
      message.flags ≠ 0 ∨ message.ownerShardId = 0xffffffff ∨ message.pipelineId = 0 ∨
      message.epoch = 0 ∨ message.dataIndex = 0xffffffff ∨ message.dataGeneration = 0 ∨
      message.reserved ≠ 0 then false
  else if message.type = controlTransferReady then message.streamId ≠ 0
  else message.streamId = 0

/-- The magic bytes `TRC1`. -/
def controlWireMagic : List UInt8 := [0x54, 0x52, 0x43, 0x31]

/-- The 48 bytes of a message. -/
def controlWireBytes (message : ControlWireMessage) : List UInt8 :=
  groupWireBytes controlWireMagic message.version message.type message.flags message.ownerShardId
    message.pipelineId message.epoch message.streamId message.dataIndex message.dataGeneration
    message.reserved

/-- `tr_pipeline_control_wire_encode`. -/
def controlWireEncode (message : ControlWireMessage) : Except Status (List UInt8) :=
  if ¬ controlWireFieldsValid message then .error .errInvalid
  else .ok (controlWireBytes message)

/-- The fields that the decoder reads. -/
def controlWireFields (data : List UInt8) : ControlWireMessage where
  version := getLe16 (data.drop 4)
  type := getLe16 (data.drop 6)
  flags := getLe32 (data.drop 8)
  ownerShardId := getLe32 (data.drop 12)
  pipelineId := getLe64 (data.drop 16)
  epoch := getLe64 (data.drop 24)
  streamId := getLe32 (data.drop 32)
  dataIndex := getLe32 (data.drop 36)
  dataGeneration := getLe32 (data.drop 40)
  reserved := getLe32 (data.drop 44)

/-- `tr_pipeline_control_wire_decode`. -/
def controlWireDecode (data : List UInt8) : Except Status ControlWireMessage :=
  if data.length ≠ controlWireSize then .error .errBadLength
  else if data.take 4 ≠ controlWireMagic then .error .errBadMagic
  else if (controlWireFields data).version ≠ controlWireVersion then .error .errBadVersion
  else if ¬ controlWireTypeValid (controlWireFields data).type then .error .errBadType
  else if (controlWireFields data).flags ≠ 0 then .error .errBadFlags
  else if (controlWireFields data).reserved ≠ 0 then .error .errReserved
  else if ¬ controlWireFieldsValid (controlWireFields data) then .error .errInvalid
  else .ok (controlWireFields data)

/-- The ten fields are read back, whatever the magic. -/
theorem controlWireFields_groupWireBytes (m0 m1 m2 m3 : UInt8) (message : ControlWireMessage) :
    controlWireFields (groupWireBytes [m0, m1, m2, m3] message.version message.type message.flags
      message.ownerShardId message.pipelineId message.epoch message.streamId message.dataIndex
      message.dataGeneration message.reserved) = message := by
  generalize hbytes : groupWireBytes [m0, m1, m2, m3] message.version message.type message.flags
    message.ownerShardId message.pipelineId message.epoch message.streamId message.dataIndex
    message.dataGeneration message.reserved = bytes
  have h4 : getLe16 (bytes.drop 4) = message.version := hbytes ▸ getLe16_putLe16 _ _
  have h6 : getLe16 (bytes.drop 6) = message.type := hbytes ▸ getLe16_putLe16 _ _
  have h8 : getLe32 (bytes.drop 8) = message.flags := hbytes ▸ getLe32_putLe32 _ _
  have h12 : getLe32 (bytes.drop 12) = message.ownerShardId := hbytes ▸ getLe32_putLe32 _ _
  have h16 : getLe64 (bytes.drop 16) = message.pipelineId := hbytes ▸ getLe64_putLe64 _ _
  have h24 : getLe64 (bytes.drop 24) = message.epoch := hbytes ▸ getLe64_putLe64 _ _
  have h32 : getLe32 (bytes.drop 32) = message.streamId := hbytes ▸ getLe32_putLe32 _ _
  have h36 : getLe32 (bytes.drop 36) = message.dataIndex := hbytes ▸ getLe32_putLe32 _ _
  have h40 : getLe32 (bytes.drop 40) = message.dataGeneration := hbytes ▸ getLe32_putLe32 _ _
  have h44 : getLe32 (bytes.drop 44) = message.reserved := by
    have h := getLe32_putLe32 message.reserved []
    rw [List.append_nil] at h
    exact hbytes ▸ h
  simp only [controlWireFields, h4, h6, h8, h12, h16, h24, h32, h36, h40, h44]

theorem controlWireFields_bytes (message : ControlWireMessage) :
    controlWireFields (controlWireBytes message) = message :=
  controlWireFields_groupWireBytes 0x54 0x52 0x43 0x31 message

variable {message : ControlWireMessage}

/-- Fields that are valid together are valid one by one. -/
theorem controlWireFieldsValid_parts (h : controlWireFieldsValid message = true) :
    message.version = controlWireVersion ∧ controlWireTypeValid message.type = true ∧
      message.flags = 0 ∧ message.dataGeneration ≠ 0 ∧ message.reserved = 0 := by
  unfold controlWireFieldsValid at h
  split at h
  · cases h
  rename_i hbad
  push Not at hbad
  obtain ⟨hversion, htype, hflags, _, _, _, _, hgeneration, hreserved⟩ := hbad
  exact ⟨hversion, htype, hflags, hgeneration, hreserved⟩

/-- A message that was encoded is decoded to itself. -/
theorem controlWireDecode_encode {bytes : List UInt8} (h : controlWireEncode message = .ok bytes) :
    controlWireDecode bytes = .ok message ∧ controlWireFieldsValid message = true := by
  obtain ⟨hvalid, hbytes⟩ := check_eq_ok.mp h
  obtain rfl : controlWireBytes message = bytes := by
    injection hbytes
  have hok : controlWireFieldsValid message = true := by simpa using hvalid
  obtain ⟨hversion, htype, hflags, _, hreserved⟩ := controlWireFieldsValid_parts hok
  have hlength : (controlWireBytes message).length = controlWireSize := rfl
  have hmagic : (controlWireBytes message).take 4 = controlWireMagic := rfl
  refine ⟨?_, hok⟩
  rw [controlWireDecode, controlWireFields_bytes]
  simp [hlength, hmagic, hversion, htype, hflags, hreserved, hok]

/-- What the decoder accepts is valid. -/
theorem controlWireDecode_valid {bytes : List UInt8}
    (h : controlWireDecode bytes = .ok message) : controlWireFieldsValid message = true := by
  iterate 6 obtain ⟨_, h⟩ := check_eq_ok.mp h
  obtain ⟨hvalid, h⟩ := check_eq_ok.mp h
  injection h with h
  subst h
  simpa using hvalid

end Trpc
