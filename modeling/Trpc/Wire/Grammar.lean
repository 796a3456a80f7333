import Trpc.Lib.Decoder
import Trpc.Wire.Parser

/-!
# The frame grammar

What a byte stream means, in one piece: a frame is a validated 40-byte header
followed by `payload_len` bytes whose CRC32C is the header field.
`frameDecode` reads one frame off the front of a byte string and
`frameDecoder` is the same with the laws of an incremental decoder, so
`parseAll` inherits `decodeAll_append`.

`encodeFrame` is the sender's side.  `parseAll_encodeFrame` says that a
concatenation of encoded valid frames parses to those frames.
-/

namespace Trpc

/-- The payload of the frame whose header is `header`, checked, and what
follows it. -/
def payloadDecode (header : FrameHeader) (bytes : List UInt8) : Lib.Outcome UInt8 Frame Status :=
  if bytes.length < header.payloadLen.toNat then .more
  else if crc32c (bytes.take header.payloadLen.toNat) ≠ header.payloadCrc32c then
    .bad .errPayloadCrc
  else
    .item ⟨header, bytes.take header.payloadLen.toNat⟩ (bytes.drop header.payloadLen.toNat)

/-- One frame off the front of a byte string. -/
def frameDecode (maxPayloadLen : UInt32) (bytes : List UInt8) : Lib.Outcome UInt8 Frame Status :=
  let raw := bytes.take wireHeaderSize
  let header := wireHeaderDecode raw
  let ret := wireHeaderValidate raw header maxPayloadLen
  if bytes.length < wireHeaderSize then .more
  else if ret ≠ .ok then .bad ret
  else payloadDecode header (bytes.drop wireHeaderSize)

variable {bytes : List UInt8} {maxPayloadLen : UInt32} {header : FrameHeader}

theorem frameDecode_of_lt (h : bytes.length < wireHeaderSize) :
    frameDecode maxPayloadLen bytes = .more := by
  rw [frameDecode, if_pos h]

/-- Behind a whole header the frame is decided by the header's checks and
then by the payload. -/
theorem frameDecode_append {raw : List UInt8}
    (hraw : raw.length = wireHeaderSize) (tail : List UInt8) :
    frameDecode maxPayloadLen (raw ++ tail) =
      if wireHeaderValidate raw (wireHeaderDecode raw) maxPayloadLen ≠ .ok then
        .bad (wireHeaderValidate raw (wireHeaderDecode raw) maxPayloadLen)
      else payloadDecode (wireHeaderDecode raw) tail := by
  have htake : (raw ++ tail).take wireHeaderSize = raw := by
    rw [← hraw, List.take_left]
  have hdrop : (raw ++ tail).drop wireHeaderSize = tail := by
    rw [← hraw, List.drop_left]
  have hlen : ¬ (raw ++ tail).length < wireHeaderSize := by
    rw [List.length_append, hraw]
    omega
  simp only [frameDecode, htake, hdrop, if_neg hlen]

/-! ## The laws of an incremental decoder -/

theorem payloadDecode_item_append {frame : Frame} {rest : List UInt8} (more : List UInt8)
    (h : payloadDecode header bytes = .item frame rest) :
    payloadDecode header (bytes ++ more) = .item frame (rest ++ more) := by
  unfold payloadDecode at h ⊢
  split at h
  · cases h
  rename_i hlen
  have hlen' : ¬ (bytes ++ more).length < header.payloadLen.toNat := by
    rw [List.length_append]
    omega
  rw [if_neg hlen', List.take_append_of_le_length (by omega),
    List.drop_append_of_le_length (by omega)]
  split at h
  · cases h
  rename_i hcrc
  rw [if_neg hcrc]
  cases h
  rfl

theorem payloadDecode_bad_append {err : Status} (more : List UInt8)
    (h : payloadDecode header bytes = .bad err) :
    payloadDecode header (bytes ++ more) = .bad err := by
  unfold payloadDecode at h ⊢
  split at h
  · cases h
  rename_i hlen
  have hlen' : ¬ (bytes ++ more).length < header.payloadLen.toNat := by
    rw [List.length_append]
    omega
  rw [if_neg hlen', List.take_append_of_le_length (by omega)]
  split at h
  next hcrc =>
    rw [if_pos hcrc]
    cases h
    rfl
  · cases h

theorem payloadDecode_item_length {frame : Frame} {rest : List UInt8}
    (h : payloadDecode header bytes = .item frame rest) :
    rest.length ≤ bytes.length := by
  unfold payloadDecode at h
  split at h
  · cases h
  split at h
  · cases h
  · cases h
    simp

/-- A decoded or refused front is a whole header and a tail. -/
theorem frameDecode_split (h : frameDecode maxPayloadLen bytes ≠ .more) :
    ∃ raw tail, raw.length = wireHeaderSize ∧ bytes = raw ++ tail := by
  by_cases hlen : bytes.length < wireHeaderSize
  · exact absurd (frameDecode_of_lt hlen) h
  refine ⟨bytes.take wireHeaderSize, bytes.drop wireHeaderSize, ?_,
    (List.take_append_drop _ _).symm⟩
  rw [List.length_take]
  omega

/-- The frame grammar as an incremental decoder. -/
def frameDecoder (maxPayloadLen : UInt32) : Lib.Decoder UInt8 Frame Status where
  decode := frameDecode maxPayloadLen
  item_append := by
    intro xs frame rest ys h
    obtain ⟨raw, tail, hraw, rfl⟩ := frameDecode_split (by rw [h]; simp)
    rw [frameDecode_append hraw] at h
    rw [List.append_assoc, frameDecode_append hraw]
    split at h
    · cases h
    rename_i hret
    rw [if_neg hret]
    exact payloadDecode_item_append ys h
  bad_append := by
    intro xs err ys h
    obtain ⟨raw, tail, hraw, rfl⟩ := frameDecode_split (by rw [h]; simp)
    rw [frameDecode_append hraw] at h
    rw [List.append_assoc, frameDecode_append hraw]
    split at h
    next hret =>
      rw [if_pos hret]
      exact h
    rename_i hret
    rw [if_neg hret]
    exact payloadDecode_bad_append ys h
  item_length := by
    intro xs frame rest h
    obtain ⟨raw, tail, hraw, rfl⟩ := frameDecode_split (by rw [h]; simp)
    rw [frameDecode_append hraw] at h
    split at h
    · cases h
    have hrest := payloadDecode_item_length h
    rw [List.length_append, hraw, wireHeaderSize]
    omega

/-- The frames of a byte string, the first error, and the bytes of the
unfinished frame at the end. -/
def parseAll (maxPayloadLen : UInt32) (bytes : List UInt8) : Lib.Decoded UInt8 Frame Status :=
  (frameDecoder maxPayloadLen).decodeAll bytes

section ParseAll

variable {maxPayloadLen : UInt32} {bytes : List UInt8}

theorem parseAll_of_more (h : frameDecode maxPayloadLen bytes = .more) :
    parseAll maxPayloadLen bytes = ⟨[], none, bytes⟩ :=
  (frameDecoder maxPayloadLen).decodeAll_of_more h

theorem parseAll_of_bad {err : Status} (h : frameDecode maxPayloadLen bytes = .bad err) :
    parseAll maxPayloadLen bytes = ⟨[], some err, bytes⟩ :=
  (frameDecoder maxPayloadLen).decodeAll_of_bad h

@[simp] theorem parseAll_nil (maxPayloadLen : UInt32) :
    parseAll maxPayloadLen [] = ⟨[], none, []⟩ := by
  apply parseAll_of_more
  exact frameDecode_of_lt (by show 0 < wireHeaderSize; decide)

/-- A byte string that is one whole frame. -/
theorem parseAll_of_frame {frame : Frame} (h : frameDecode maxPayloadLen bytes = .item frame []) :
    parseAll maxPayloadLen bytes = ⟨[frame], none, []⟩ := by
  have hitem := (frameDecoder maxPayloadLen).decodeAll_of_item h
  rw [parseAll, hitem, ← parseAll, parseAll_nil]
  rfl

/-- Parsing may stop anywhere and go on behind the unfinished frame. -/
theorem parseAll_append (h : (parseAll maxPayloadLen bytes).err = none) (more : List UInt8) :
    parseAll maxPayloadLen (bytes ++ more) = (parseAll maxPayloadLen
        ((parseAll maxPayloadLen bytes).rest ++ more)).after (parseAll maxPayloadLen bytes).items :=
  ((frameDecoder maxPayloadLen).decodeAll_append bytes more).1 h

/-- Bytes behind an error change nothing. -/
theorem parseAll_append_of_err {err : Status}
    (h : (parseAll maxPayloadLen bytes).err = some err) (more : List UInt8) :
    (parseAll maxPayloadLen (bytes ++ more)).items = (parseAll maxPayloadLen bytes).items ∧
    (parseAll maxPayloadLen (bytes ++ more)).err = some err :=
  ((frameDecoder maxPayloadLen).decodeAll_append bytes more).2 err h

end ParseAll

/-- How long the frame at the front of `bytes` is, as far as `bytes` tells:
a whole header before the header is there, and the whole frame after. -/
def frameExtent (bytes : List UInt8) : Nat :=
  if bytes.length < wireHeaderSize then wireHeaderSize
  else
    wireHeaderSize + (wireHeaderDecode (bytes.take wireHeaderSize)).payloadLen.toNat

/-! ## The sender's side -/

/-- The bytes of a frame on the wire. -/
def encodeFrame (frame : Frame) : List UInt8 :=
  wireHeaderEncode frame.header ++ frame.payload

/-- A frame that a sender may put on the wire under a payload limit: valid
header fields, length and checksum of the payload, and the checksum that the
encoder computes. -/
structure Frame.Valid (maxPayloadLen : UInt32) (frame : Frame) : Prop where
  header : frame.header.Valid maxPayloadLen
  payloadLen : frame.header.payloadLen.toNat = frame.payload.length
  payloadCrc : frame.header.payloadCrc32c = crc32c frame.payload
  headerCrc : frame.header.headerCrc32c = headerCrc (wireHeaderEncode frame.header)

/-- An encoded valid frame is decoded as that frame, whatever follows. -/
theorem frameDecode_encodeFrame {maxPayloadLen : UInt32} {frame : Frame}
    (h : frame.Valid maxPayloadLen) (rest : List UInt8) :
    frameDecode maxPayloadLen (encodeFrame frame ++ rest) = .item frame rest := by
  have hheader : wireHeaderDecode (wireHeaderEncode frame.header) = frame.header := by
    rw [wireHeaderDecode_encode, ← h.headerCrc]
  have hret := wireHeaderValidate_encode h.header
  rw [encodeFrame, List.append_assoc, frameDecode_append (wireHeaderEncode_length _)]
  rw [hheader] at hret ⊢
  rw [hret, if_neg (by simp)]
  unfold payloadDecode
  rw [h.payloadLen, List.take_left, List.drop_left, if_neg (by simp),
    if_neg (by simp [h.payloadCrc])]

/-- A concatenation of encoded valid frames parses to those frames. -/
theorem parseAll_encodeFrame {maxPayloadLen : UInt32} {frames : List Frame}
    (h : ∀ frame ∈ frames, frame.Valid maxPayloadLen) :
    parseAll maxPayloadLen (frames.flatMap encodeFrame) = ⟨frames, none, []⟩ := by
  refine (frameDecoder maxPayloadLen).decodeAll_flatMap ?_ ?_
  · show frameDecode maxPayloadLen [] = .more
    exact frameDecode_of_lt (by decide)
  · intro frame hmem rest
    exact frameDecode_encodeFrame (h frame hmem) rest

end Trpc
