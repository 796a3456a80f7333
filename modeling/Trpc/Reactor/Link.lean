import Trpc.Reactor.Checksum
import Trpc.Reactor.TxRuns
import Trpc.Wire.Canonical
import Trpc.Wire.Receive

/-!
# A connection from end to end

The transmit side of a plain connection, the byte stream, and the receive side of the peer.
Both sides move at any time and by any number of bytes.  The frames arrive as they left, and
the messages byte for byte.
-/

namespace Trpc

open List

/-- A request that the receiver's checks let through: its frames are within the limit, and a
RESET is well formed. -/
structure TxRequest.Fits (maxPayloadLen : UInt32) (request : TxRequest) : Prop where
  len : request.maxFramePayloadLen ≤ (wireMaxPayload maxPayloadLen).toNat
  reset : request.type = .streamReset ∨ request.type = .streamRefused →
    ∀ pos, wireResetValidate (frameHeader request pos) = .ok

/-- What the receiver makes of a frame. -/
def SentFrame.frame (sent : SentFrame) : Frame where
  header := { frameHeader sent.request sent.pos with
    headerCrc32c := headerCrc (wireHeaderEncode (frameHeader sent.request sent.pos)) }
  payload := framePayload sent.request sent.pos

variable {conn : TxConnection} {maxPayloadLen : UInt32}

/-- The frames of a message hold its bytes. -/
theorem fragments_payload (request : TxRequest) (pos : Nat) :
    (fragments request pos).flatMap (framePayload request) = request.payloads.flatten.drop pos := by
  generalize hn : request.messageLen - pos = n
  induction n using Nat.strong_induction_on generalizing pos with
  | _ n ih =>
    have hcut : framePayload request pos ++
        request.payloads.flatten.drop (pos + frameLen request pos) =
        request.payloads.flatten.drop pos := by
      rw [framePayload, Lib.range, ← drop_drop, take_append_drop]
    rw [fragments_eq, flatMap_cons, ← hcut]
    congr 1
    split
    next hlt =>
      have : 0 < frameLen request pos := frameLen_pos (by omega)
      exact ih _ (by omega) _ rfl
    next hle =>
      exact (drop_eq_nil_of_le (Nat.not_lt.mp hle)).symm

theorem SentFrame.frame_valid {sent : SentFrame} (h : sent.request.Fits maxPayloadLen) :
    sent.frame.Valid maxPayloadLen := by
  obtain ⟨_, request, pos, _⟩ := sent
  have hlen : frameLen request pos ≤ request.maxFramePayloadLen := Nat.min_le_right _ _
  have hsize : (UInt32.ofNat (frameLen request pos)).toNat = frameLen request pos :=
    UInt32.toNat_ofNat_of_lt' (hlen.trans_lt (Nat.lt_succ_of_le request.frame_le))
  refine ⟨⟨rfl, frameTypeValid_iff.mpr ⟨_, rfl⟩, ?_, rfl, ?_, fun hreset => h.reset ?_ pos⟩,
    ?_, rfl, rfl⟩
  · have hbase := flags_known_iff.mp request.flags_known
    rw [flags_known_iff]
    show (frameFlags request pos).toNat < 2 ^ 3
    rw [frameFlags]
    split
    · rw [UInt32.toNat_or, UInt32.toNat_or, UInt32.toNat_and]
      refine Nat.or_lt_two_pow (Nat.or_lt_two_pow (Nat.and_le_left.trans_lt hbase) ?_) ?_
      all_goals split <;> decide
    · exact hbase
  · exact UInt32.le_iff_toNat_le.mpr ((hsize.trans_le hlen).trans h.len)
  · have hcode : ∀ type : FrameType, request.type.code = type.code → request.type = type :=
      fun type heq => by simpa using congrArg FrameType.ofCode heq
    exact hreset.imp (hcode _) (hcode _)
  · have hle := frameLen_le request pos
    rw [TxRequest.messageLen] at hle
    show (UInt32.ofNat _).toNat = (framePayload request pos).length
    rw [hsize, framePayload, Lib.range, length_take, length_drop]
    omega

/-- A frame that is not yet whole. -/
theorem frameDecode_part {frame : Frame} {part : List UInt8} (h : frame.Valid maxPayloadLen)
    (hpart : part <+: encodeFrame frame)
    (hlt : part.length < (encodeFrame frame).length) : frameDecode maxPayloadLen part = .more := by
  obtain ⟨tail, htail⟩ := hpart
  have hwhole := frameDecode_encodeFrame h []
  rw [append_nil, ← htail] at hwhole
  cases hdec : frameDecode maxPayloadLen part with
  | more => rfl
  | bad err =>
    cases ((frameDecoder maxPayloadLen).bad_append tail hdec).symm.trans hwhole
  | item other rest =>
    have hitem := ((frameDecoder maxPayloadLen).item_append tail hdec).symm.trans hwhole
    simp only [Lib.Outcome.item.injEq, append_eq_nil_iff] at hitem
    rw [← htail, hitem.2.2, append_nil] at hlt
    exact absurd hlt (lt_irrefl _)

/-- What was written parses to the frames that were finished. -/
theorem TxInv.parse_wire (h : TxInv conn)
    (hfits : ∀ request ∈ conn.accepted, request.Fits maxPayloadLen) :
    (parseAll maxPayloadLen conn.wire).items = conn.frames.map SentFrame.frame ∧
      (parseAll maxPayloadLen conn.wire).err = none := by
  obtain ⟨part, hwire, hpart⟩ := h.partial_bytes
  have hframes : parseAll maxPayloadLen (conn.frames.flatMap SentFrame.bytes) =
      ⟨conn.frames.map SentFrame.frame, none, []⟩ := by
    have hvalid : ∀ frame ∈ conn.frames.map SentFrame.frame, frame.Valid maxPayloadLen := by
      intro frame hframe
      obtain ⟨sent, hsent, rfl⟩ := mem_map.mp hframe
      exact SentFrame.frame_valid (hfits _ (mem_of_getElem? (h.order.requests sent hsent)))
    rw [← parseAll_encodeFrame hvalid, flatMap_map]
    rfl
  have hmore : parseAll maxPayloadLen part = ⟨[], none, part⟩ := by
    rcases hpart with rfl | ⟨item, hitem, hpre, hlt⟩
    · exact parseAll_nil maxPayloadLen
    · have hvalid : (SentFrame.mk item.tag item.request item.messagePos false).frame.Valid
          maxPayloadLen :=
        SentFrame.frame_valid (hfits _ (mem_of_getElem? (h.queue.accepted item hitem)))
      exact parseAll_of_more (frameDecode_part hvalid hpre hlt)
  rw [hwire, parseAll_append (by rw [hframes]), hframes, nil_append, hmore]
  exact ⟨append_nil _, rfl⟩

/-- When nothing is queued, the DATA frames hold the DATA messages in the order of
acceptance. -/
theorem TxInv.payloads (h : TxInv conn) (hqueue : conn.queue = []) :
    (conn.frames.filter (·.isData)).flatMap (·.frame.payload) =
      (conn.accepted.filter (·.isData)).flatMap (·.payloads.flatten) := by
  -- The payload that a tag and a position stand for.
  let payload (key : Nat × Nat) := conn.accepted[key.1]?.elim [] (framePayload · key.2)
  have hdata := h.order.data
  rw [hqueue, filter_nil, flatMap_nil, append_nil] at hdata
  calc (conn.frames.filter (·.isData)).flatMap (·.frame.payload)
      = ((conn.frames.filter (·.isData)).map fun sent => (sent.tag, sent.pos)).flatMap payload := by
        rw [flatMap_map]
        refine flatMap_congr fun sent hsent => ?_
        simp only [payload, h.order.requests sent (mem_of_mem_filter hsent), Option.elim]
        rfl
    _ = (conn.accepted.zipIdx.filter (·.1.isData)).flatMap (·.1.payloads.flatten) := by
        rw [hdata, acceptedData, flatMap_assoc]
        refine flatMap_congr fun entry hentry => ?_
        have hrequest := mem_zipIdx_iff_getElem?.mp (mem_of_mem_filter hentry)
        simp only [payload, flatMap_map, hrequest, Option.elim]
        exact fragments_payload entry.1 0
    _ = _ := by
        conv_rhs => rw [← zipIdx_map_fst 0 conn.accepted, filter_map, flatMap_map]
        rfl

/-- At every moment the receiver has handed on what the grammar says, as far as it has read. -/
theorem RxInv.frames_begin {whole : List UInt8} {s : RxState} (h : RxInv maxPayloadLen whole s) :
    s.frames <+: (parseAll maxPayloadLen whole).items ∧
    (s.input = [] ∨ s.err ≠ none → s.frames = (parseAll maxPayloadLen whole).items ∧
      s.err = (parseAll maxPayloadLen whole).err) := by
  obtain ⟨rfl, -, hframes, herr, -⟩ := h
  rw [← hframes, ← herr]
  cases hnone : (parseAll maxPayloadLen s.consumed).err with
  | none =>
    refine ⟨?_, fun hdone => ?_⟩
    · rw [parseAll_append hnone]
      exact prefix_append _ _
    · rw [hdone.resolve_right (by simp), append_nil]
      exact ⟨rfl, hnone.symm⟩
  | some err =>
    obtain ⟨hitems, herr'⟩ := parseAll_append_of_err hnone s.input
    rw [hitems, herr']
    exact ⟨prefix_rfl, fun _ => ⟨rfl, rfl⟩⟩

/-- Whatever the sockets take and give at a time, the frames arrive in the order in which they
left, each of them as it was sent.  When all is written and read, the DATA frames hold the
messages that were accepted, byte for byte. -/
theorem frames_arrive {sends : List TxAction} {reads : List RxAction} {s : RxState}
    (hsend : Lib.runSteps txStep (txConnectionInit none) sends = some conn)
    (hread : Lib.runSteps rxStep (rxInit maxPayloadLen conn.wire) reads = some s)
    (hpool : ∀ action ∈ reads, action.pool.Usable maxPayloadLen)
    (hfits : ∀ request ∈ conn.accepted, request.Fits maxPayloadLen) :
    s.err = none ∧ s.frames <+: conn.frames.map SentFrame.frame ∧
    (s.input = [] → s.frames = conn.frames.map SentFrame.frame) ∧
    (s.input = [] → conn.queue = [] →
      (s.frames.filter (·.header.type = FrameType.data.code)).flatMap (·.payload) =
        (conn.accepted.filter (·.isData)).flatMap (·.payloads.flatten)) := by
  obtain ⟨h, -⟩ := tx_reachable hsend
  obtain ⟨hitems, hnone⟩ := h.parse_wire hfits
  obtain ⟨hfront, hdone⟩ := (rx_reachable hpool hread).frames_begin
  rw [hitems] at hfront hdone
  have herr : s.err = none := by
    by_contra hne
    exact hne ((hdone (.inr hne)).2.trans hnone)
  refine ⟨herr, hfront, fun hinput => (hdone (.inl hinput)).1, fun hinput hqueue => ?_⟩
  · have hdata : ∀ sent : SentFrame,
        decide (sent.frame.header.type = FrameType.data.code) = sent.isData := by
      rintro ⟨_, request, _, _⟩
      show decide (request.type.code = _) = (request.type == _)
      cases request.type <;> rfl
    rw [(hdone (.inl hinput)).1, filter_map, flatMap_map, ← h.payloads hqueue]
    simp only [Function.comp_def, hdata]

theorem threeByteRequest_fits : threeByteRequest.Fits 2 :=
  ⟨by decide, by rintro (h | h) <;> cases h⟩

theorem receive_usable (counts : List Nat) :
    ∀ action ∈ counts.map (RxAction.receive (amplePool 2)), action.pool.Usable 2 := by
  intro action haction
  obtain ⟨_, -, rfl⟩ := mem_map.mp haction
  exact amplePool_usable 2

/-- A message of three bytes, written in other pieces than its frames. -/
def messageSends : List TxAction := [ .send threeByteRequest,
  .flush 100 [.socket (.sent 30), .socket (.sent 12), .socket (.sent 41)]]

def messageReads : List RxAction := [40, 2, 39, 1, 1].map (.receive (amplePool 2))

theorem frames_arrive_message : ∃ conn s,
    Lib.runSteps txStep (txConnectionInit none) messageSends = some conn ∧
    Lib.runSteps rxStep (rxInit 2 conn.wire) messageReads = some s ∧
    (s.frames.filter (·.header.type = FrameType.data.code)).flatMap (·.payload) = [10, 11, 12] := by
  have hsome : (Lib.runSteps txStep (txConnectionInit none) messageSends).any (fun conn =>
      conn.accepted = [threeByteRequest] ∧ conn.queue.isEmpty ∧
        (Lib.runSteps rxStep (rxInit 2 conn.wire) messageReads).any (·.input = [])) = true := by
    decide +kernel
  obtain ⟨conn, hsend, hconn⟩ := Option.any_eq_true _ _ |>.mp hsome
  obtain ⟨haccepted, hqueue, hsome⟩ := of_decide_eq_true hconn
  obtain ⟨s, hread, hinput⟩ := Option.any_eq_true _ _ |>.mp hsome
  have hfits : ∀ request ∈ conn.accepted, request.Fits 2 := by
    rw [haccepted]
    simpa using threeByteRequest_fits
  obtain ⟨-, -, -, hdata⟩ := frames_arrive hsend hread (receive_usable _) hfits
  refine ⟨conn, s, hsend, hread, ?_⟩
  rw [hdata (of_decide_eq_true hinput) (isEmpty_iff.mp hqueue), haccepted]
  decide

/-! ## Altered bytes -/

section

open Lib

theorem crc32cStep_toBitVec (state : UInt32) (byte : UInt8) : (crc32cStep state byte).toBitVec =
    crcShifts crc32cPolynomial.toBitVec 8 (state.toBitVec ^^^ byte.toBitVec.setWidth 32) := by
  rw [crc32cStep_eq, crc32cByte_toBitVec]

theorem crcShifts_injective : Function.Injective (crcShifts crc32cPolynomial.toBitVec 8) :=
  (crcShift_injective (by decide)).iterate 8

/-- Up to four bytes can be read off the states before and after them.  From two different
states they make up at most for a difference in as many low bytes. -/
theorem crc32cUpdate_window {a b : List UInt8} {s t : UInt32} (hlen : a.length = b.length)
    (hle : a.length ≤ 4) (heq : crc32cUpdate s a = crc32cUpdate t b) :
    (∀ i, 8 * a.length ≤ i → (s.toBitVec ^^^ t.toBitVec).getLsbD i = false) ∧
      (s = t → a = b) := by
  induction a generalizing b s t with
  | nil =>
    obtain rfl := List.length_eq_zero_iff.mp hlen.symm
    obtain rfl : s = t := heq
    simp
  | cons x a ih =>
    obtain ⟨y, b, rfl⟩ := List.exists_cons_of_length_eq_add_one hlen.symm
    rw [List.length_cons] at hle ⊢
    obtain ⟨hhigh, hrest⟩ := ih (Nat.succ.inj hlen) (by omega) heq
    generalize hv : (crc32cStep s x).toBitVec ^^^ (crc32cStep t y).toBitVec = v at hhigh
    -- The difference in front of the step is that behind it, moved up.
    have hu : s.toBitVec ^^^ x.toBitVec.setWidth 32 ^^^ (t.toBitVec ^^^ y.toBitVec.setWidth 32) =
        v <<< 8 := by
      apply crcShifts_injective
      rw [crcShifts_xor, ← crc32cStep_toBitVec, ← crc32cStep_toBitVec, hv,
        crcShifts_clear _ (by simp +contextual)]
      refine BitVec.eq_of_getLsbD_eq fun i _ => ?_
      by_cases hi : i < 24
      · simp
        omega
      · rw [hhigh i (by omega)]
        simp
        omega
    have hbit (i : Nat) := congrArg (BitVec.getLsbD · i) hu
    simp only [BitVec.getLsbD_xor, BitVec.getLsbD_setWidth, BitVec.getLsbD_shiftLeft] at hbit
    refine ⟨fun i hi => ?_, fun hst => ?_⟩
    · have hx := x.toBitVec.getLsbD_of_ge i (by omega)
      have hy := y.toBitVec.getLsbD_of_ge i (by omega)
      simpa [hx, hy, hhigh (i - 8) (by omega)] using hbit i
    · subst hst
      obtain rfl : x = y := by
        refine UInt8.toBitVec_inj.mp (BitVec.eq_of_getLsbD_eq fun i hi => ?_)
        have := hbit i
        rw [show decide (i < 32) = true by simp; omega] at this
        cases hs : s.toBitVec.getLsbD i <;> simpa [hs, hi] using this
      rw [hrest rfl]

theorem crc32cUpdate_injective (data : List UInt8) :
    Function.Injective (crc32cUpdate · data) := by
  induction data with
  | nil => exact fun _ _ h => h
  | cons byte rest ih =>
    intro s t h
    have hstep := congrArg UInt32.toBitVec (ih h)
    rw [crc32cStep_toBitVec, crc32cStep_toBitVec] at hstep
    simpa using UInt32.toBitVec_inj.mp (BitVec.xor_left_inj _ |>.mp (crcShifts_injective hstep))

/-- A change of up to four bytes in a row changes the checksum. -/
theorem crc32c_ne {a b : List UInt8} (hlen : a.length = b.length) (hle : a.length ≤ 4)
    (hne : a ≠ b) (front back : List UInt8) : crc32c (front ++ a ++ back) ≠
      crc32c (front ++ b ++ back) := by
  intro heq
  simp only [crc32c, crc32cFinish, UInt32.xor_left_inj, crc32cUpdate_append] at heq
  exact hne ((crc32cUpdate_window hlen hle (crc32cUpdate_injective back heq)).2 rfl)

end

/-- If up to four bytes in a row of a payload are altered on the way, no run of the receiver
hands the frame on or anything behind it: the frames before it arrive, and the connection ends
with a checksum error. -/
theorem altered_payload_refused {frames : List Frame} {frame : Frame}
    {front a b back more : List UInt8} {actions : List RxAction} {s : RxState}
    (hvalid : ∀ frame ∈ frames, frame.Valid maxPayloadLen) (hframe : frame.Valid maxPayloadLen)
    (hpayload : frame.payload = front ++ a ++ back) (hlen : a.length = b.length)
    (hle : a.length ≤ 4) (hne : a ≠ b)
    (hpool : ∀ action ∈ actions, action.pool.Usable maxPayloadLen)
    (hrun : Lib.runSteps rxStep (rxInit maxPayloadLen (frames.flatMap encodeFrame ++
      (wireHeaderEncode frame.header ++ (front ++ b ++ back ++ more)))) actions = some s) :
    s.frames <+: frames ∧ (s.input = [] ∨ s.err ≠ none →
      s.frames = frames ∧ s.err = some .errPayloadCrc) := by
  have hsize : frame.header.payloadLen.toNat = (front ++ b ++ back).length := by
    rw [hframe.payloadLen, hpayload]
    simp [hlen]
  have hbad : frameDecode maxPayloadLen
      (wireHeaderEncode frame.header ++ (front ++ b ++ back ++ more)) = .bad .errPayloadCrc := by
    have hret := wireHeaderValidate_encode hframe.header
    rw [frameDecode_append (wireHeaderEncode_length _), hret, if_neg (by simp),
      wireHeaderDecode_encode, ← hframe.headerCrc, payloadDecode, hsize, take_left,
      if_neg (by simp), if_pos]
    rw [hframe.payloadCrc, hpayload]
    exact (crc32c_ne hlen hle hne front back).symm
  have hwhole := parseAll_append (by rw [parseAll_encodeFrame hvalid])
    (wireHeaderEncode frame.header ++ (front ++ b ++ back ++ more))
  rw [parseAll_encodeFrame hvalid, nil_append, parseAll_of_bad hbad] at hwhole
  have hread := (rx_reachable hpool hrun).frames_begin
  rw [hwhole] at hread
  simpa using hread

/-- The first frame of `threeByteRequest`. -/
def firstFrame : Frame := (SentFrame.mk 0 threeByteRequest 0 false).frame

/-- It arrives with two other bytes. -/
theorem altered_payload_refused_message : ∃ s,
    Lib.runSteps rxStep (rxInit 2 (wireHeaderEncode firstFrame.header ++ [7, 8]))
      ([40, 2].map (.receive (amplePool 2))) = some s ∧
    s.frames = [] ∧ s.err = some .errPayloadCrc := by
  obtain ⟨s, hrun, hinput⟩ := Option.any_eq_true _ _ |>.mp (by decide +kernel :
    (Lib.runSteps rxStep (rxInit 2 (wireHeaderEncode firstFrame.header ++ [7, 8]))
      ([40, 2].map (.receive (amplePool 2)))).any (·.input = []) = true)
  have hvalid : firstFrame.Valid 2 := SentFrame.frame_valid threeByteRequest_fits
  have hpayload : firstFrame.payload = [] ++ [10, 11] ++ [] := by decide
  have hnone : ∀ frame ∈ ([] : List Frame), frame.Valid 2 := by simp
  exact ⟨s, hrun, (altered_payload_refused (b := [7, 8]) hnone hvalid hpayload rfl (by decide)
    (by decide) (receive_usable _) hrun).2 (.inl (of_decide_eq_true hinput))⟩

end Trpc
