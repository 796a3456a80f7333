import Trpc.Lib.Ranges
import Trpc.Wire.Grammar

/-!
# Transmit items

A transmit item is a message on its way out: the request that a send accepted
and the position of its transmission.  A DATA message longer than the frame
limit leaves as several frames, prepared one at a time; every other message is
one frame.

In terms of the concatenated message, `frameBytes` is the frame at a message
position and `fragments` lists the positions.  A prepared item holds the header
of `frameBytes` (`txPrepareFrame_spec`) and its scatter list denotes what is
left of it (`txBuildIov_spec`).
-/

namespace Trpc

open List

/-- `TR_REACTOR_MAX_TX_SLICES`. -/
def reactorMaxTxSlices : Nat := 4

/-- `UINT32_MAX`. -/
def uint32Max : Nat := 2 ^ 32 - 1

/-- What a send hands to the reactor, with what `tr_reactor_sendv_limited`
checks before it accepts it. -/
structure TxRequest where
  type : FrameType
  baseFlags : UInt32
  streamId : UInt32
  messageId : UInt64
  payloads : List (List UInt8)
  maxFramePayloadLen : Nat
  flags_known : baseFlags &&& ~~~frameFKnownMask = 0
  slices_le : payloads.length ≤ reactorMaxTxSlices
  len_le : payloads.flatten.length ≤ uint32Max
  frame_pos : 0 < maxFramePayloadLen
  frame_le : maxFramePayloadLen ≤ uint32Max
  control_le : type ≠ .data → payloads.flatten.length ≤ maxFramePayloadLen
  deriving DecidableEq

/-- `message_len`: the total of the slices. -/
def TxRequest.messageLen (request : TxRequest) : Nat :=
  request.payloads.flatten.length

def TxRequest.isData (request : TxRequest) : Bool :=
  request.type == .data

/-- `struct tr_tx_item`.  The list links are the lists of the connection, and
`tag` stands for the address of the item. -/
structure TxItem where
  tag : Nat
  request : TxRequest
  header : List UInt8
  messagePos : Nat
  framePayloadLen : Nat
  wirePos : Nat
  wireLen : Nat
  deriving DecidableEq

def TxItem.isData (item : TxItem) : Bool :=
  item.request.isData

/-- A new item, before its first frame is prepared. -/
def txItemInit (tag : Nat) (request : TxRequest) : TxItem :=
  ⟨tag, request, [], 0, 0, 0, 0⟩

/-- The loop of `tr_tx_crc_range`. -/
def txCrcLoop : List (List UInt8) → Nat → Nat → UInt32 → UInt32
  | [], _, remaining, state => if remaining = 0 then crc32cFinish state else 0
  | payload :: rest, pos, remaining, state =>
    if remaining = 0 then crc32cFinish state
    else if payload.length ≤ pos then
      txCrcLoop rest (pos - payload.length) remaining state
    else
      let take := min (payload.length - pos) remaining
      txCrcLoop rest 0 (remaining - take) (crc32cUpdate state (Lib.range pos take payload))

/-- `tr_tx_crc_range`. -/
def txCrcRange (request : TxRequest) (start len : Nat) : UInt32 :=
  txCrcLoop request.payloads start len crc32cBegin

/-- The length of the frame at a message position. -/
def frameLen (request : TxRequest) (pos : Nat) : Nat :=
  min (request.messageLen - pos) request.maxFramePayloadLen

/-- The flags of the frame at a message position: a DATA message marks its
first and its last frame. -/
def frameFlags (request : TxRequest) (pos : Nat) : UInt32 :=
  if request.type = .data then
    (request.baseFlags &&& ~~~(frameFFirst ||| frameFLast)) |||
      (if pos = 0 then frameFFirst else 0) |||
      (if pos + frameLen request pos = request.messageLen then frameFLast else 0)
  else request.baseFlags

/-- `tr_tx_prepare_frame`. -/
def txPrepareFrame (item : TxItem) : Except Status TxItem :=
  if item.request.messageLen < item.messagePos then .error .errState
  else if item.request.type ≠ .data ∧ item.messagePos ≠ 0 then .error .errState
  else
    let frameLen := frameLen item.request item.messagePos
    let header : FrameHeader := {
      version := wireEnvVersion
      type := item.request.type.code
      flags := frameFlags item.request item.messagePos
      streamId := item.request.streamId
      messageId := item.request.messageId
      payloadLen := UInt32.ofNat frameLen
      payloadCrc32c := txCrcRange item.request item.messagePos frameLen
      headerCrc32c := 0
      reserved := 0 }
    .ok { item with
      header := wireHeaderEncode header
      framePayloadLen := frameLen
      wirePos := 0
      wireLen := wireHeaderSize + frameLen }

/-- An address inside an item: an offset into its header or into one of its
slices. -/
structure TxPointer where
  tag : Nat
  slice : Option Nat
  offset : Nat
  deriving DecidableEq

/-- `struct iovec`. -/
structure IoVec where
  base : TxPointer
  len : Nat
  deriving DecidableEq

/-- The loop of `tr_tx_build_iov` over the slices from index `i` on, with what
is left of the frame when they end. -/
def txIovLoop (tag : Nat) : Nat → List (List UInt8) → Nat → Nat → List IoVec × Nat
  | _, [], _, remaining => ([], remaining)
  | i, payload :: rest, payloadPos, remaining =>
    if remaining = 0 then ([], 0)
    else if payload.length ≤ payloadPos then
      txIovLoop tag (i + 1) rest (payloadPos - payload.length) remaining
    else
      let take := min (payload.length - payloadPos) remaining
      let (iov, left) := txIovLoop tag (i + 1) rest 0 (remaining - take)
      (⟨⟨tag, some i, payloadPos⟩, take⟩ :: iov, left)

/-- `tr_tx_build_iov`; `none` is its answer `-1`. -/
def txBuildIov (item : TxItem) : Option (List IoVec) :=
  let (head, pos) :=
    if item.wirePos < wireHeaderSize then
      ([IoVec.mk ⟨item.tag, none, item.wirePos⟩ (wireHeaderSize - item.wirePos)], 0)
    else ([], item.wirePos - wireHeaderSize)
  if item.framePayloadLen < pos then none
  else
    let (iov, left) := txIovLoop item.tag 0 item.request.payloads
      (item.messagePos + pos) (item.framePayloadLen - pos)
    if left ≠ 0 then none else some (head ++ iov)

/-- `tr_tx_can_bypass_data`: the header-only frames that may pass DATA. -/
def txCanBypassData (request : TxRequest) : Bool :=
  if request.messageLen ≠ 0 ∨ request.baseFlags ≠ 0 then false
  else if request.type = .windowUpdate then request.streamId ≠ 0
  else (request.type = .ping ∨ request.type = .pong) ∧ request.streamId = 0

/-! ## The frames of a request -/

/-- The payload of the frame at a message position. -/
def framePayload (request : TxRequest) (pos : Nat) : List UInt8 :=
  Lib.range pos (frameLen request pos) request.payloads.flatten

/-- The header of the frame at a message position, before its own checksum is
filled in. -/
def frameHeader (request : TxRequest) (pos : Nat) : FrameHeader where
  version := wireEnvVersion
  type := request.type.code
  flags := frameFlags request pos
  streamId := request.streamId
  messageId := request.messageId
  payloadLen := UInt32.ofNat (frameLen request pos)
  payloadCrc32c := crc32c (framePayload request pos)
  headerCrc32c := 0
  reserved := 0

/-- The frame at a message position as it stands on the wire. -/
def frameBytes (request : TxRequest) (pos : Nat) : List UInt8 :=
  wireHeaderEncode (frameHeader request pos) ++ framePayload request pos

theorem frameLen_le (request : TxRequest) (pos : Nat) :
    frameLen request pos ≤ request.messageLen - pos :=
  Nat.min_le_left _ _

variable {request : TxRequest} {pos : Nat} {item : TxItem}

theorem frameLen_pos (h : pos < request.messageLen) : 0 < frameLen request pos := by
  have hframe := request.frame_pos
  rw [frameLen]
  omega

theorem framePayload_length (h : pos ≤ request.messageLen) :
    (framePayload request pos).length = frameLen request pos := by
  have hle := frameLen_le request pos
  rw [framePayload, Lib.range_length]
  rw [TxRequest.messageLen] at h hle
  omega

theorem frameBytes_length (h : pos ≤ request.messageLen) :
    (frameBytes request pos).length = wireHeaderSize + frameLen request pos := by
  rw [frameBytes, length_append, wireHeaderEncode_length, framePayload_length h]

/-- The positions of the frames from `pos` on, at most `fuel` of them. -/
def fragmentsFuel (request : TxRequest) : Nat → Nat → List Nat
  | 0, _ => []
  | fuel + 1, pos =>
    pos :: if pos + frameLen request pos < request.messageLen then
      fragmentsFuel request fuel (pos + frameLen request pos) else []

/-- The positions of the frames from `pos` on.  Every frame but the last is
not empty, so the length of the message is fuel enough. -/
def fragments (request : TxRequest) (pos : Nat) : List Nat :=
  fragmentsFuel request (request.messageLen - pos + 1) pos

private theorem fragmentsFuel_eq {m n : Nat} (hm : request.messageLen - pos < m)
    (hn : request.messageLen - pos < n) :
    fragmentsFuel request m pos = fragmentsFuel request n pos := by
  induction m generalizing n pos with
  | zero => omega
  | succ m ih =>
    obtain ⟨n, rfl⟩ : ∃ k, n = k + 1 := ⟨n - 1, by omega⟩
    rw [fragmentsFuel, fragmentsFuel]
    split
    next hlt =>
      have hpos : 0 < frameLen request pos :=
        frameLen_pos (by have := frameLen_le request pos; omega)
      rw [ih (n := n) (by omega) (by omega)]
    · rfl

/-- The first frame and the frames behind it. -/
theorem fragments_eq (request : TxRequest) (pos : Nat) : fragments request pos =
      pos :: if pos + frameLen request pos < request.messageLen then
        fragments request (pos + frameLen request pos) else [] := by
  rw [fragments, fragmentsFuel]
  split
  next hlt =>
    have hpos : 0 < frameLen request pos :=
      frameLen_pos (by have := frameLen_le request pos; omega)
    rw [fragments, fragmentsFuel_eq (n := request.messageLen -
      (pos + frameLen request pos) + 1) (by omega) (by omega)]
  · rfl

/-! ## The checksum of a range -/

theorem txCrcLoop_eq {payloads : List (List UInt8)} {remaining : Nat} (state : UInt32)
    (h : pos + remaining ≤ payloads.flatten.length) : txCrcLoop payloads pos remaining state =
      crc32cFinish (crc32cUpdate state (Lib.range pos remaining payloads.flatten)) := by
  induction payloads generalizing pos remaining state with
  | nil =>
    obtain rfl : remaining = 0 := by simp at h; omega
    simp [txCrcLoop]
  | cons payload rest ih =>
    rw [flatten_cons, length_append] at h
    rw [txCrcLoop]
    by_cases hzero : remaining = 0
    · simp [hzero]
    rw [if_neg hzero, flatten_cons]
    by_cases hskip : payload.length ≤ pos
    · rw [if_pos hskip, ih _ (by omega), Lib.range_skip _ _ hskip]
    · rw [if_neg hskip, ih _ (by omega), Lib.range_split _ _ (by omega), crc32cUpdate_append]

theorem txCrcRange_eq (h : pos ≤ request.messageLen) :
    txCrcRange request pos (frameLen request pos) = crc32c (framePayload request pos) := by
  have hle := frameLen_le request pos
  rw [TxRequest.messageLen] at h hle
  rw [txCrcRange, txCrcLoop_eq _ (by omega), crc32c, framePayload]

/-! ## Prepared items -/

/-- The item holds the header of the frame at its position and counts its
bytes. -/
structure TxItem.Prepared (item : TxItem) : Prop where
  header : item.header = wireHeaderEncode (frameHeader item.request item.messagePos)
  framePayloadLen : item.framePayloadLen = frameLen item.request item.messagePos
  wireLen : item.wireLen = wireHeaderSize + frameLen item.request item.messagePos
  wirePos : item.wirePos < item.wireLen

/-- What every queued item satisfies. -/
structure TxItem.Ok (item : TxItem) : Prop where
  pos : item.messagePos = 0 ∨ item.isData = true ∧ item.messagePos < item.request.messageLen
  frame : (item.wireLen = 0 ∧ item.wirePos = 0) ∨ item.Prepared

theorem TxItem.Ok.pos_le (h : item.Ok) : item.messagePos ≤ item.request.messageLen := by
  rcases h.pos with hzero | ⟨-, hlt⟩
  · omega
  · omega

theorem TxItem.Ok.prepared (h : item.Ok) (hlen : item.wireLen ≠ 0) : item.Prepared :=
  h.frame.resolve_left fun hnone => hlen hnone.1

theorem TxItem.Prepared.wireLen_ne (h : item.Prepared) : item.wireLen ≠ 0 := by
  have := h.wirePos
  omega

theorem txItemInit_ok (tag : Nat) (request : TxRequest) : (txItemInit tag request).Ok :=
  ⟨.inl rfl, .inl ⟨rfl, rfl⟩⟩

/-- The item with the frame at its position filled in. -/
def TxItem.prepare (item : TxItem) : TxItem :=
  { item with
    header := wireHeaderEncode (frameHeader item.request item.messagePos)
    framePayloadLen := frameLen item.request item.messagePos
    wirePos := 0
    wireLen := wireHeaderSize + frameLen item.request item.messagePos }

theorem TxItem.prepare_prepared (item : TxItem) : item.prepare.Prepared := by
  refine ⟨rfl, rfl, rfl, ?_⟩
  show 0 < wireHeaderSize + frameLen item.request item.messagePos
  rw [wireHeaderSize]
  omega

/-- Preparing an item succeeds and fills in the frame at its position. -/
theorem txPrepareFrame_eq (h : item.Ok) : txPrepareFrame item = .ok item.prepare := by
  have hle := h.pos_le
  have hcontrol : ¬ (item.request.type ≠ .data ∧ item.messagePos ≠ 0) := by
    rintro ⟨htype, hpos⟩
    rcases h.pos with hzero | ⟨hdata, -⟩
    · exact hpos hzero
    · exact htype (by simpa [TxItem.isData, TxRequest.isData] using hdata)
  rw [txPrepareFrame, if_neg (by omega), if_neg hcontrol]
  simp only [txCrcRange_eq hle]
  rfl

/-! ## Scatter lists -/

/-- The bytes from an address inside the item to the end of the header or
slice it points into. -/
def TxItem.bytesAt (item : TxItem) (pointer : TxPointer) : List UInt8 :=
  match pointer.slice with
  | none => item.header.drop pointer.offset
  | some i => (item.request.payloads.getD i []).drop pointer.offset

/-- The bytes that one element of a scatter list denotes. -/
def TxItem.vecBytes (item : TxItem) (vec : IoVec) : List UInt8 :=
  (item.bytesAt vec.base).take vec.len

/-- Every element of a scatter list is a non-empty range inside the item. -/
def IovInto (item : TxItem) (iov : List IoVec) : Prop :=
  ∀ vec ∈ iov, vec.base.tag = item.tag ∧ 0 < vec.len ∧ vec.len ≤ (item.bytesAt vec.base).length

private theorem txIovLoop_spec {done rest : List (List UInt8)} {remaining : Nat}
    (hall : item.request.payloads = done ++ rest) (h : pos + remaining ≤ rest.flatten.length) :
    (txIovLoop item.tag done.length rest pos remaining).2 = 0 ∧
    (txIovLoop item.tag done.length rest pos remaining).1.flatMap
      item.vecBytes = Lib.range pos remaining rest.flatten ∧
    IovInto item (txIovLoop item.tag done.length rest pos remaining).1 := by
  induction rest generalizing done pos remaining with
  | nil =>
    obtain rfl : remaining = 0 := by simp at h; omega
    refine ⟨rfl, by simp [txIovLoop], ?_⟩
    intro vec hmem
    cases hmem
  | cons payload rest ih =>
    rw [flatten_cons, length_append] at h
    have hall' : item.request.payloads = (done ++ [payload]) ++ rest := by
      rw [hall, append_assoc]
      rfl
    rw [txIovLoop]
    by_cases hzero : remaining = 0
    · rw [if_pos hzero, hzero]
      refine ⟨rfl, by simp, ?_⟩
      intro vec hmem
      cases hmem
    rw [if_neg hzero, flatten_cons]
    by_cases hskip : payload.length ≤ pos
    · rw [if_pos hskip, Lib.range_skip _ _ hskip]
      have hrest := ih hall' (show pos - payload.length + remaining ≤ rest.flatten.length by omega)
      rwa [length_append] at hrest
    · rw [if_neg hskip, Lib.range_split _ _ (by omega)]
      have hfirst : item.vecBytes ⟨⟨item.tag, some done.length, pos⟩,
          min (payload.length - pos) remaining⟩ =
          Lib.range pos (min (payload.length - pos) remaining) payload := by
        simp [TxItem.vecBytes, TxItem.bytesAt, hall, Lib.range]
      obtain ⟨hleft, hbytes, hinto⟩ := ih hall'
        (show 0 + (remaining - min (payload.length - pos) remaining) ≤ rest.flatten.length by omega)
      rw [length_append] at hleft hbytes hinto
      refine ⟨hleft, ?_, ?_⟩
      · rw [flatMap_cons, hfirst]
        exact congrArg _ hbytes
      · intro vec hmem
        rcases mem_cons.mp hmem with rfl | hrest
        · refine ⟨rfl, by show 0 < min _ _; omega, ?_⟩
          simp [TxItem.bytesAt, hall]
        · exact hinto vec hrest

theorem txIovLoop_all {item : TxItem} {pos remaining : Nat}
    (h : pos + remaining ≤ item.request.payloads.flatten.length) :
    (txIovLoop item.tag 0 item.request.payloads pos remaining).2 = 0 ∧
    (txIovLoop item.tag 0 item.request.payloads pos remaining).1.flatMap
      item.vecBytes = Lib.range pos remaining item.request.payloads.flatten ∧
    IovInto item (txIovLoop item.tag 0 item.request.payloads pos remaining).1 :=
  txIovLoop_spec (nil_append item.request.payloads).symm h

/-- The scatter list of a prepared item denotes what is left of its frame. -/
theorem txBuildIov_spec (h : item.Ok) (hp : item.Prepared) :
    ∃ iov, txBuildIov item = some iov ∧ iov ≠ [] ∧ IovInto item iov ∧ iov.flatMap item.vecBytes =
        (frameBytes item.request item.messagePos).drop item.wirePos := by
  have hle := h.pos_le
  have hframe := frameLen_le item.request item.messagePos
  have hwire := hp.wirePos
  rw [hp.wireLen] at hwire
  rw [TxRequest.messageLen] at hle hframe
  have hheader : item.header.length = wireHeaderSize := by
    rw [hp.header, wireHeaderEncode_length]
  unfold txBuildIov
  rw [hp.framePayloadLen]
  by_cases hpos : item.wirePos < wireHeaderSize
  · -- The rest of the header and the whole payload are still to go.
    rw [if_pos hpos]
    obtain ⟨hleft, hbytes, hinto⟩ := @txIovLoop_all item item.messagePos
      (frameLen item.request item.messagePos) (by omega)
    simp only [Nat.add_zero, Nat.sub_zero, Nat.not_lt_zero, if_false, hleft,
      ne_eq, not_true_eq_false]
    refine ⟨_, rfl, by simp, ?_, ?_⟩
    · intro vec hmem
      rcases mem_cons.mp hmem with rfl | hrest
      · refine ⟨rfl, by show 0 < wireHeaderSize - item.wirePos; omega, ?_⟩
        show wireHeaderSize - item.wirePos ≤ (item.header.drop item.wirePos).length
        rw [length_drop]
        omega
      · exact hinto vec hrest
    · have hfirst : item.vecBytes ⟨⟨item.tag, none, item.wirePos⟩,
          wireHeaderSize - item.wirePos⟩ = item.header.drop item.wirePos := by
        show (item.header.drop item.wirePos).take _ = _
        apply take_of_length_le
        show (item.header.drop item.wirePos).length ≤ wireHeaderSize - item.wirePos
        rw [length_drop]
        omega
      rw [singleton_append, flatMap_cons, hbytes, hfirst, frameBytes,
        ← hp.header, drop_append_of_le_length (by omega)]
      rfl
  · -- The header is out; the payload is under way.
    rw [if_neg hpos]
    obtain ⟨hleft, hbytes, hinto⟩ := @txIovLoop_all item
      (item.messagePos + (item.wirePos - wireHeaderSize))
      (frameLen item.request item.messagePos - (item.wirePos - wireHeaderSize)) (by omega)
    simp only [hleft, ne_eq, not_true_eq_false, if_false, nil_append]
    rw [if_neg (by omega)]
    have hrest : (frameBytes item.request item.messagePos).drop item.wirePos =
        Lib.range (item.messagePos + (item.wirePos - wireHeaderSize))
          (frameLen item.request item.messagePos -
            (item.wirePos - wireHeaderSize)) item.request.payloads.flatten := by
      rw [frameBytes, drop_append, wireHeaderEncode_length,
        drop_eq_nil_of_le (by rw [wireHeaderEncode_length]; omega),
        nil_append, framePayload, Lib.range_drop]
    refine ⟨_, rfl, ?_, hinto, by rw [hbytes, hrest]⟩
    intro hnil
    rw [hnil, flatMap_nil] at hbytes
    have hlen := congrArg length hbytes
    rw [Lib.range_length (by omega)] at hlen
    simp only [length_nil] at hlen
    omega

/-! ## Bounded scatter lists -/

/-- The loop of the flush that bounds the system call by the budget. -/
def capIov : Nat → List IoVec → List IoVec
  | _, [] => []
  | remaining, vec :: rest =>
    if remaining ≤ vec.len then [{ vec with len := remaining }]
    else vec :: capIov (remaining - vec.len) rest

theorem vecBytes_length {vec : IoVec} (h : vec.len ≤ (item.bytesAt vec.base).length) :
    (item.vecBytes vec).length = vec.len := by
  rw [TxItem.vecBytes, length_take]
  omega

theorem capIov_bytes {iov : List IoVec} (budget : Nat) (h : IovInto item iov) :
    (capIov budget iov).flatMap item.vecBytes = (iov.flatMap item.vecBytes).take budget := by
  induction iov generalizing budget with
  | nil => simp [capIov]
  | cons vec rest ih =>
    have hlen := vecBytes_length (h vec (by simp)).2.2
    rw [capIov, flatMap_cons, take_append, hlen]
    by_cases hcut : budget ≤ vec.len
    · rw [if_pos hcut, Nat.sub_eq_zero_of_le hcut, take_zero,
        append_nil, flatMap_singleton, TxItem.vecBytes,
        TxItem.vecBytes, take_take, Nat.min_eq_left hcut]
    rw [if_neg hcut, flatMap_cons, ih _ fun v hv => h v (by simp [hv])]
    congr 1
    exact (take_of_length_le (by omega)).symm

theorem capIov_into {iov : List IoVec} {budget : Nat} (hpos : 0 < budget) (h : IovInto item iov) :
    IovInto item (capIov budget iov) := by
  induction iov generalizing budget with
  | nil => exact h
  | cons vec rest ih =>
    obtain ⟨htag, hlen, hfull⟩ := h vec (by simp)
    rw [capIov]
    by_cases hcut : budget ≤ vec.len
    · rw [if_pos hcut]
      intro v hmem
      obtain rfl := mem_singleton.mp hmem
      exact ⟨htag, hpos, le_trans hcut hfull⟩
    · rw [if_neg hcut]
      intro v hmem
      rcases mem_cons.mp hmem with rfl | hrest
      · exact ⟨htag, hlen, hfull⟩
      · exact ih (by omega) (fun u hu => h u (by simp [hu])) v hrest

theorem capIov_ne_nil {iov : List IoVec} (budget : Nat) (h : iov ≠ []) :
    capIov budget iov ≠ [] := by
  cases iov with
  | nil => exact absurd rfl h
  | cons vec rest =>
    rw [capIov]
    split <;> simp

end Trpc
