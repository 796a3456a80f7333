import Trpc.Reactor.TxInv

/-!
# Runs of the transmit side

The steps of the transmit side keep the invariants of `TxInv`: the selection,
the preparation of a frame, the credit of written bytes and the enqueue.  A
flush turn is a sequence of those, so `flushLoop_inv` follows from one turn of
its loop, and `tx_reachable` from one step.
-/

namespace Trpc

open List Option

variable {conn : TxConnection}

section Steps

variable {earlier later : List TxItem} {item item' : TxItem}

/-- Making the selected item the active one. -/
theorem TxInv.select (h : TxInv conn)
    (hsel : Selected { conn with active := some item.tag } earlier item later) :
    TxInv { conn with active := some item.tag } := by
  obtain ⟨hqueue, hwire, horder⟩ := h
  refine ⟨⟨hqueue.sorted, hqueue.accepted, hqueue.ok, hqueue.control,
    hqueue.streak, ?_⟩, hwire, ⟨horder.requests, horder.control, horder.data,
    horder.passed, horder.passing, horder.bypass, horder.burst⟩⟩
  intro other hmem hpos
  have hsame : other = item := by
    have hmem' : other ∈ earlier ++ item :: later := hsel.queue ▸ hmem
    by_contra hne
    apply hpos
    apply hsel.others
    rcases mem_append.mp hmem' with hleft | hright
    · exact mem_append_left _ hleft
    rcases mem_cons.mp hright with heq | hright
    · exact absurd heq hne
    · exact mem_append_right _ hright
  subst hsame
  refine ⟨rfl, fun third hthird hlt => ?_⟩
  apply hsel.pass
  have hthird' : third ∈ earlier ++ other :: later := hsel.queue ▸ hthird
  exact ne_nil_of_mem ((hqueue.mem_earlier hsel.queue).mpr ⟨hthird, hlt⟩)

/-- Writing back a later state of the selected item. -/
theorem Selected.setItem (h : TxQueueInv conn)
    (hsel : Selected conn earlier item later) (htag : item'.tag = item.tag)
    (hrequest : item'.request = item.request) :
    Selected (conn.setItem item') earlier item' later := by
  have hqueue := h.setItem_queue hsel.queue htag
  refine ⟨hqueue, by rw [htag]; exact hsel.active, hsel.others, fun hne => ?_⟩
  have hpass := hsel.pass hne
  refine ⟨fun other hmem hlt => ?_, by rw [hrequest]; exact hpass.bypass, hpass.streak⟩
  rw [hqueue] at hmem
  rcases mem_append.mp hmem with hleft | hright
  · exact hsel.earlier_data h other hleft
  rcases mem_cons.mp hright with rfl | hright
  · exact absurd hlt (Nat.lt_irrefl _)
  refine hpass.data other ?_ (htag ▸ hlt)
  rw [hsel.queue]
  exact mem_append_right _ (mem_cons_of_mem _ hright)

/-- Preparing the frame of the selected item. -/
theorem TxInv.prepare (h : TxInv conn) (hsel : Selected conn earlier item later)
    (hpos : item.wirePos = 0) : TxInv (conn.setItem item.prepare) := by
  have hok := h.queue.ok item hsel.mem
  have hqueue := h.queue.setItem_queue hsel.queue (show item.prepare.tag = item.tag from rfl)
  refine ⟨?_, ?_, ?_⟩
  · exact h.queue.replace hsel hqueue rfl rfl
      ⟨hok.pos, .inr item.prepare_prepared⟩ rfl rfl h.queue.streak
      fun hne => absurd rfl hne
  · show conn.wire = _ ++ (conn.setItem item.prepare).queue.flatMap partialBytes
    rw [hqueue, flatMap_partialBytes hsel.others, h.wire, hsel.queue,
      flatMap_partialBytes hsel.others, partialBytes_zero hpos,
      partialBytes_zero rfl]
    rfl
  · exact h.order.replace hsel hqueue rfl rfl rfl rfl rfl rfl

/-- The bytes of the next `n` positions of the frame under way. -/
def nextBytes (item : TxItem) (n : Nat) : List UInt8 :=
  ((frameBytes item.request item.messagePos).drop item.wirePos).take n

/-- The written part grows by what is written. -/
theorem partialBytes_advance (item : TxItem) (n : Nat) : partialBytes item ++ nextBytes item n =
      (frameBytes item.request item.messagePos).take (item.wirePos + n) := by
  rw [partialBytes, nextBytes, take_add]

/-- Crediting bytes that do not finish the frame. -/
theorem TxInv.credit_partial (h : TxInv conn)
    (hsel : Selected conn earlier item later) (hp : item.Prepared) {n : Nat}
    (hlt : item.wirePos + n < item.wireLen) :
    TxInv ({ conn with wire := conn.wire ++ nextBytes item n }.setItem
      { item with wirePos := item.wirePos + n }) := by
  have hok := h.queue.ok item hsel.mem
  have hqueue := h.queue.setItem_queue hsel.queue (show
    { item with wirePos := item.wirePos + n }.tag = item.tag from rfl)
  refine ⟨?_, ?_, ?_⟩
  · exact h.queue.replace hsel hqueue rfl rfl ⟨hok.pos, .inr ⟨hp.header,
      hp.framePayloadLen, hp.wireLen, hlt⟩⟩ rfl rfl h.queue.streak
      fun _ => ⟨rfl, rfl⟩
  · show conn.wire ++ nextBytes item n = conn.frames.flatMap _ ++
      (conn.setItem { item with wirePos := item.wirePos + n }).queue.flatMap
        partialBytes
    rw [hqueue, flatMap_partialBytes hsel.others, h.wire, hsel.queue,
      flatMap_partialBytes hsel.others, append_assoc, partialBytes_advance]
    rfl
  · exact h.order.replace hsel hqueue rfl rfl rfl rfl rfl rfl

/-- The frame that the selected item finishes. -/
def finishedFrame (earlier : List TxItem) (item : TxItem) : SentFrame :=
  ⟨item.tag, item.request, item.messagePos, !earlier.isEmpty⟩

/-- The wire after the last byte of a frame. -/
theorem wire_finish (h : TxInv conn) (hsel : Selected conn earlier item later)
    (hp : item.Prepared) {n : Nat} (hlast : item.wirePos + n = item.wireLen) :
    conn.wire ++ nextBytes item n =
      (conn.frames ++ [finishedFrame earlier item]).flatMap SentFrame.bytes := by
  have hlen := frameBytes_length (h.queue.ok item hsel.mem).pos_le
  rw [h.wire, hsel.queue, flatMap_partialBytes hsel.others, append_assoc,
    partialBytes_advance, hlast, hp.wireLen, ← hlen, take_length,
    flatMap_append, flatMap_singleton]
  rfl

/-- After a frame the remaining frames of a DATA item are those from the next
position on. -/
theorem pendingFrames_next {next : TxItem} (htag : next.tag = item.tag)
    (hrequest : next.request = item.request)
    (hpos : next.messagePos = item.messagePos + frameLen item.request item.messagePos)
    (hmore : next.messagePos < item.request.messageLen) :
    pendingFrames item = (item.tag, item.messagePos) :: [next].flatMap pendingFrames := by
  rw [pendingFrames, fragments_eq, if_pos (by omega), map_cons,
    flatMap_singleton, pendingFrames, htag, hrequest, hpos]

theorem pendingFrames_last (hlast : ¬ item.messagePos + frameLen item.request item.messagePos <
      item.request.messageLen) :
    pendingFrames item =
      (item.tag, item.messagePos) :: ([] : List TxItem).flatMap pendingFrames := by
  rw [pendingFrames, fragments_eq, if_neg hlast]
  rfl

/-- The selected DATA item finishes a frame and has another one to send. -/
theorem TxInv.finish_fragment (h : TxInv conn)
    (hsel : Selected conn earlier item later) (hp : item.Prepared)
    (hdata : item.isData = true) {n : Nat}
    (hlast : item.wirePos + n = item.wireLen)
    (hmore : item.messagePos + item.framePayloadLen < item.request.messageLen)
    {conn' : TxConnection} {next : TxItem}
    (hqueue : conn'.queue = earlier ++ next :: later)
    (htag : next.tag = item.tag) (hrequest : next.request = item.request)
    (hpos : next.messagePos = item.messagePos + item.framePayloadLen)
    (hwirePos : next.wirePos = 0) (hwireLen : next.wireLen = 0)
    (hcontrol : conn'.control = conn.control)
    (haccepted : conn'.accepted = conn.accepted)
    (hstreak : conn'.controlStreak = 0)
    (hframes : conn'.frames = conn.frames ++ [finishedFrame earlier item])
    (hwire : conn'.wire = conn.wire ++ nextBytes item n) :
    TxInv conn' := by
  have hnext : next.isData = true := by
    rw [TxItem.isData, hrequest]
    exact hdata
  rw [hp.framePayloadLen] at hmore hpos
  refine ⟨?_, ?_, ?_⟩
  · refine h.queue.replace hsel hqueue htag hrequest ⟨.inr ⟨hnext, ?_⟩,
      .inl ⟨hwireLen, hwirePos⟩⟩ hcontrol haccepted ?_ fun hne =>
      absurd hwirePos hne
    · rw [hrequest]
      omega
    · rw [hstreak]
      exact Nat.zero_le _
  · rw [TxWireInv, hwire, hframes, hqueue, flatMap_partialBytes hsel.others,
      partialBytes_zero hwirePos, append_nil]
    exact wire_finish h hsel hp hlast
  · refine h.order.finish h.queue hsel
      (show conn'.queue = earlier ++ ([next] ++ later) from hqueue) ?_ ?_
      hframes haccepted ?_
    · intro other hmem
      obtain rfl := mem_singleton.mp hmem
      exact ⟨htag, hnext, hdata⟩
    · intro _
      exact pendingFrames_next htag hrequest hpos (by omega)
    · rw [hframes, hstreak]
      exact h.order.burst.append_data hdata

/-- The selected item finishes its last frame and leaves the queue. -/
theorem TxInv.finish_item (h : TxInv conn)
    (hsel : Selected conn earlier item later) (hp : item.Prepared) {n : Nat}
    (hlast : item.wirePos + n = item.wireLen)
    (hend : ¬ item.messagePos + item.framePayloadLen < item.request.messageLen)
    {conn' : TxConnection} (hqueue : conn'.queue = earlier ++ later)
    (hcontrol : conn'.control = if item.isData then conn.control else conn.control.tail)
    (haccepted : conn'.accepted = conn.accepted)
    (hstreak : conn'.controlStreak ≤ controlBurst)
    (hframes : conn'.frames = conn.frames ++ [finishedFrame earlier item])
    (hwire : conn'.wire = conn.wire ++ nextBytes item n)
    (hburst : BurstInv conn'.frames conn'.controlStreak) :
    TxInv conn' := by
  rw [hp.framePayloadLen] at hend
  refine ⟨h.queue.remove hsel hqueue hcontrol haccepted hstreak, ?_, ?_⟩
  · rw [TxWireInv, hwire, hframes, hqueue, flatMap_partialBytes_nil hsel.others, append_nil]
    exact wire_finish h hsel hp hlast
  · refine h.order.finish h.queue hsel
      (show conn'.queue = earlier ++ ([] ++ later) from hqueue) ?_ ?_
      hframes haccepted hburst
    · intro other hmem
      cases hmem
    · intro _
      exact pendingFrames_last hend

/-- Crediting written bytes to the selected item keeps the invariants. -/
theorem TxInv.credit (h : TxInv conn) (hsel : Selected conn earlier item later)
    (hp : item.Prepared) {n : Nat} (hle : item.wirePos + n ≤ item.wireLen) :
    TxInv (connectionCreditTx { conn with wire := conn.wire ++ nextBytes item n }
      item n) := by
  have hok := h.queue.ok item hsel.mem
  unfold connectionCreditTx
  simp only
  by_cases hlast : item.wirePos + n = item.wireLen
  swap
  · rw [if_neg hlast]
    exact h.credit_partial hsel hp (by omega)
  rw [if_pos hlast]
  unfold connectionFinishFrame
  have hover := hsel.overtook_eq h.queue
  have hremoved := h.queue.complete_queue hsel.queue
  have hkind : { item with wirePos := item.wirePos + n }.isData = item.isData := rfl
  simp only [hover, hkind]
  by_cases hdata : item.isData = true
  · rw [if_pos hdata]
    by_cases hmore : item.messagePos + item.framePayloadLen < item.request.messageLen
    · rw [if_pos hmore]
      let next : TxItem := { item with
        messagePos := item.messagePos + item.framePayloadLen
        wirePos := 0
        wireLen := 0 }
      have hnext : (conn.setItem next).queue = earlier ++ next :: later :=
        h.queue.setItem_queue hsel.queue rfl
      exact h.finish_fragment hsel hp hdata hlast hmore hnext rfl rfl rfl rfl rfl
        rfl rfl rfl rfl rfl
    · rw [if_neg hmore]
      exact h.finish_item hsel hp hlast hmore hremoved rfl rfl (Nat.zero_le _)
        rfl rfl (h.order.burst.append_data hdata)
  · rw [if_neg hdata]
    have hend : ¬ item.messagePos + item.framePayloadLen < item.request.messageLen := by
      rcases hok.pos with hzero | ⟨hdata', -⟩
      · have htype : item.request.type ≠ .data := by
          simpa [TxItem.isData, TxRequest.isData] using hdata
        have hctl := item.request.control_le htype
        rw [hp.framePayloadLen, hzero, frameLen, TxRequest.messageLen]
        omega
      · exact absurd hdata' hdata
    by_cases hpass : txCanBypassData item.request = true ∧ conn.controlStreak < controlBurst
    · rw [if_pos hpass]
      refine h.finish_item hsel hp hlast hend hremoved rfl rfl hpass.2 rfl rfl ?_
      refine h.order.burst.append_control ?_ hpass.2
      show conn.controlStreak + _ ≤ conn.controlStreak + 1
      split <;> omega
    · rw [if_neg hpass]
      refine h.finish_item hsel hp hlast hend hremoved rfl rfl h.queue.streak rfl rfl ?_
      refine h.order.burst.append_control ?_ h.queue.streak
      -- An item that overtook could have been counted.
      have hhead : (!earlier.isEmpty) = false := by
        by_contra hne
        have hne' : earlier ≠ [] := by simpa using hne
        exact hpass ⟨(hsel.pass hne').bypass, (hsel.pass hne').streak⟩
      simp [hhead, connectionCompleteTx]

end Steps

/-! ## One turn of the flush loop -/

/-- What the selection and the preparation leave to the write: an invariant
connection, the selected item with its frame, and its scatter list. -/
structure WriteReady (conn : TxConnection) (earlier : List TxItem)
    (item : TxItem) (later : List TxItem) (iov : List IoVec) : Prop where
  inv : TxInv conn
  selected : Selected conn earlier item later
  prepared : item.Prepared
  nonempty : iov ≠ []
  into : IovInto item iov
  bytes : iov.flatMap item.vecBytes = (frameBytes item.request item.messagePos).drop item.wirePos

/-- One turn selects an item, prepares its frame if that is still to be done,
and writes. -/
theorem flushOnce_spec (h : TxInv conn) (hne : conn.queue ≠ []) (budget : Nat) (answer : IoAnswer) :
    ∃ ready earlier item later iov, WriteReady ready earlier item later iov ∧
      ready.endpoint = conn.endpoint ∧ ready.closed = conn.closed ∧
      ready.wire = conn.wire ∧ NextUp ready item ∧
      (∀ other ∈ conn.queue, NextUp conn other → other.Prepared → other = item) ∧
      flushOnce conn budget answer = flushWrite ready item (capIov budget iov) budget answer := by
  obtain ⟨earlier, item, later, hnext, hup, hsel⟩ :=
    connectionNextTx_spec h.queue hne
  have hinv := h.select hsel
  have hok := hinv.queue.ok item hsel.mem
  have hsame : ∀ other ∈ conn.queue, NextUp conn other → other = item := by
    intro other hmem hother
    have htag : other.tag = item.tag := nextUp_tag h.queue hmem hsel.mem hother hup
    exact h.queue.eq_of_tag hmem hsel.mem htag
  by_cases hlen : item.wireLen = 0
  · have hpos : item.wirePos = 0 := by
      rcases hok.frame with ⟨-, hpos⟩ | hp
      · exact hpos
      · exact absurd hlen hp.wireLen_ne
    have hinv' := hinv.prepare hsel hpos
    have hsel' := hsel.setItem hinv.queue (show item.prepare.tag = item.tag from rfl) rfl
    have hok' := hinv'.queue.ok item.prepare hsel'.mem
    obtain ⟨iov, hiov, hne', hinto, hbytes⟩ :=
      txBuildIov_spec hok' item.prepare_prepared
    refine ⟨_, earlier, item.prepare, later, iov, ⟨hinv', hsel',
      item.prepare_prepared, hne', hinto, hbytes⟩, rfl, rfl, rfl, ?_, ?_, ?_⟩
    · obtain ⟨hzero, hpick⟩ := hup.resolve_left (by simpa using hpos)
      refine .inr ⟨fun other hmem => ?_, ?_⟩
      · rw [hsel'.queue] at hmem
        rcases mem_append.mp hmem with hleft | hright
        · exact hsel'.others other (mem_append_left _ hleft)
        rcases mem_cons.mp hright with rfl | hright
        · rfl
        · exact hsel'.others other (mem_append_right _ hright)
      · rw [TxConnection.entries, hsel'.queue]
        rw [TxConnection.entries, hsel.queue] at hpick
        rw [map_append, map_cons] at hpick ⊢
        exact hpick
    · intro other hmem hother hp
      obtain rfl := hsame other hmem hother
      exact absurd hlen hp.wireLen_ne
    · rw [flushOnce, hnext]
      simp only [hlen, if_true, txPrepareFrame_eq hok, hiov]
  · have hp := hok.prepared hlen
    obtain ⟨iov, hiov, hne', hinto, hbytes⟩ := txBuildIov_spec hok hp
    have hself : ({ conn with active := some item.tag }.setItem item) =
        { conn with active := some item.tag } := by
      have hqueue := hinv.queue.setItem_queue hsel.queue (show item.tag = item.tag from rfl)
      rw [← hsel.queue] at hqueue
      rw [TxConnection.setItem] at hqueue ⊢
      simp only at hqueue ⊢
      rw [hqueue]
    refine ⟨_, earlier, item, later, iov, ⟨hinv, hsel, hp, hne', hinto, hbytes⟩,
      rfl, rfl, rfl, hup, ?_, ?_⟩
    · intro other hmem hother _
      exact hsame other hmem hother
    · rw [flushOnce, hnext]
      simp only [hlen, if_false, hiov, hself]

section Write

variable {earlier later : List TxItem} {item : TxItem} {iov : List IoVec}

theorem TxInv.close (h : TxInv conn) (status : Status) : TxInv (conn.close status) :=
  h.congr rfl rfl rfl rfl rfl rfl rfl

/-- What is left of the frame under way. -/
theorem WriteReady.rest_length (hr : WriteReady conn earlier item later iov) :
    ((frameBytes item.request item.messagePos).drop item.wirePos).length =
      item.wireLen - item.wirePos := by
  have hok := hr.inv.queue.ok item hr.selected.mem
  rw [length_drop, frameBytes_length hok.pos_le, hr.prepared.wireLen]

/-- A write on a plain connection keeps the invariants. -/
theorem flushPlain_inv (hr : WriteReady conn earlier item later iov)
    (budget : Nat) (answer : SocketAnswer) :
    TxInv (flushPlain conn item (capIov budget iov) answer).1 := by
  cases answer with
  | sent n =>
    unfold flushPlain
    simp only
    rw [capIov_bytes budget hr.into, hr.bytes]
    have hlen := hr.rest_length
    generalize hcount : min n (take budget (drop item.wirePos
      (frameBytes item.request item.messagePos))).length = count
    rw [length_take, hlen] at hcount
    have hpos := hr.prepared.wirePos
    split
    · exact hr.inv.close _
    have hbytes : ((drop item.wirePos
        (frameBytes item.request item.messagePos)).take budget).take count =
        nextBytes item count := by
      rw [take_take, nextBytes, Nat.min_eq_left (by omega)]
    rw [hbytes]
    exact hr.inv.credit hr.selected hr.prepared (by omega)
  | interrupted | again => exact hr.inv
  | error => exact hr.inv.close _

/-- The credit does not touch the endpoint. -/
theorem connectionCreditTx_endpoint (conn : TxConnection) (item : TxItem)
    (n : Nat) : (connectionCreditTx conn item n).endpoint = conn.endpoint := by
  unfold connectionCreditTx connectionFinishFrame connectionCompleteTx
  simp only
  repeat' split
  all_goals rfl

theorem flushPlain_endpoint (conn : TxConnection) (item : TxItem)
    (iov : List IoVec) (answer : SocketAnswer) :
    (flushPlain conn item iov answer).1.endpoint = conn.endpoint := by
  cases answer with
  | sent n =>
    unfold flushPlain
    simp only
    split
    · rfl
    · exact connectionCreditTx_endpoint _ _ _
  | interrupted | again | error => rfl

end Write

/-- One turn of the loop on a plain connection. -/
theorem flushOnce_inv (h : TxInv conn) (hplain : conn.endpoint = none) (hne : conn.queue ≠ [])
    (budget : Nat) (answer : IoAnswer) : TxInv (flushOnce conn budget answer).1 ∧
    (flushOnce conn budget answer).1.endpoint = none := by
  obtain ⟨ready, earlier, item, later, iov, hr, hendpoint, -, -, -, -, heq⟩ :=
    flushOnce_spec h hne budget answer
  rw [hplain] at hendpoint
  rw [heq]
  cases answer with
  | socket answer =>
    rw [flushWrite_plain hendpoint]
    refine ⟨flushPlain_inv hr budget answer, ?_⟩
    rw [flushPlain_endpoint, hendpoint]
  | driver answer =>
    rw [flushWrite_plain_driver hendpoint]
    exact ⟨hr.inv, hendpoint⟩

/-- A flush turn on a plain connection keeps the invariants, whatever the
socket answers. -/
theorem flushLoop_inv (h : TxInv conn) (hplain : conn.endpoint = none) (answers : List IoAnswer)
    (budget : Nat) : TxInv (flushLoop answers budget conn) ∧
    (flushLoop answers budget conn).endpoint = none := by
  induction answers generalizing conn budget with
  | nil => exact ⟨h, hplain⟩
  | cons answer rest ih =>
    rw [flushLoop]
    split
    · exact ⟨h, hplain⟩
    rename_i hstop
    push Not at hstop
    obtain ⟨hinv, hplain'⟩ := flushOnce_inv h hplain hstop.2.2 budget answer
    generalize flushOnce conn budget answer = result at hinv hplain'
    obtain ⟨conn', count⟩ := result
    cases count with
    | none => exact ⟨hinv, hplain'⟩
    | some n => exact ih hinv hplain' _

/-! ## Enqueue -/

theorem acceptedControl_append (requests : List TxRequest) (request : TxRequest) :
    acceptedControl (requests ++ [request]) = acceptedControl requests ++
        if request.isData then [] else [requests.length] := by
  rw [acceptedControl, acceptedControl, zipIdx_append, filter_append, map_append]
  cases hdata : request.isData <;> simp [hdata]

theorem acceptedData_append (requests : List TxRequest) (request : TxRequest) :
    acceptedData (requests ++ [request]) = acceptedData requests ++ if request.isData then
          (fragments request 0).map (requests.length, ·) else [] := by
  rw [acceptedData, acceptedData, zipIdx_append, filter_append, flatMap_append]
  cases hdata : request.isData <;> simp [hdata]

/-- A fresh item at the end of the queue keeps the invariants. -/
theorem TxInv.enqueue (h : TxInv conn) {item : TxItem} (htag : item.tag = conn.accepted.length)
    (hok : item.Ok) (hmessage : item.messagePos = 0) (hpos : item.wirePos = 0) :
    TxInv (enqueueTxItemOwner conn item) := by
  obtain ⟨hqueue, hwire, horder⟩ := h
  have hlt : ∀ other ∈ conn.queue, other.tag < item.tag := by
    intro other hmem
    rw [htag]
    exact (List.getElem?_eq_some_iff.mp (hqueue.accepted other hmem)).1
  have hltFrame : ∀ frame ∈ conn.frames, frame.tag < item.tag := by
    intro frame hmem
    rw [htag]
    exact (List.getElem?_eq_some_iff.mp (horder.requests frame hmem)).1
  have hkeep : ∀ {tag : Nat} {request}, conn.accepted[tag]? = some request →
      (conn.accepted ++ [item.request])[tag]? = some request := by
    intro tag request hget
    rw [List.getElem?_append_left (List.getElem?_eq_some_iff.mp hget).1, hget]
  refine ⟨⟨?_, ?_, ?_, ?_, hqueue.streak, ?_⟩, ?_,
    ⟨?_, ?_, ?_, horder.passed, ?_, horder.bypass, horder.burst⟩⟩
  · refine pairwise_append.mpr ⟨hqueue.sorted, pairwise_singleton _ _, ?_⟩
    intro other hmem last hlast
    obtain rfl := mem_singleton.mp hlast
    exact hlt other hmem
  · intro other hmem
    rcases Lib.mem_concat.1 hmem with hleft | rfl
    · exact hkeep (hqueue.accepted other hleft)
    show (conn.accepted ++ [other.request])[other.tag]? = some other.request
    rw [htag, getElem?_concat_length]
  · exact Lib.forall_mem_concat.2 ⟨hqueue.ok, hok⟩
  · show (if item.isData then conn.control else conn.control ++ [item.tag]) =
      ((conn.queue ++ [item]).filter (!·.isData)).map (·.tag)
    rw [filter_append, map_append, ← hqueue.control]
    cases hdata : item.isData <;> simp [hdata]
  · intro other hmem hne
    rcases mem_append.mp hmem with hleft | hright
    · obtain ⟨hactive, hpass⟩ := hqueue.underWay other hleft hne
      refine ⟨hactive, fun third hthird hlt' => ?_⟩
      have hthird' : third ∈ conn.queue := by
        rcases mem_append.mp hthird with hleft' | hright'
        · exact hleft'
        · obtain rfl := mem_singleton.mp hright'
          exact absurd hlt' (Nat.lt_asymm (hlt other hleft))
      obtain ⟨hdata, hbypass, hstreak⟩ := hpass third hthird' hlt'
      refine ⟨fun fourth hfourth hlt'' => ?_, hbypass, hstreak⟩
      rcases mem_append.mp hfourth with hleft' | hright'
      · exact hdata fourth hleft' hlt''
      · obtain rfl := mem_singleton.mp hright'
        exact absurd hlt'' (Nat.lt_asymm (hlt other hleft))
    · obtain rfl := mem_singleton.mp hright
      exact absurd hpos hne
  · show conn.wire = conn.frames.flatMap _ ++ (conn.queue ++ [item]).flatMap _
    rw [flatMap_append, flatMap_singleton, partialBytes_zero hpos, append_nil]
    exact hwire
  · intro frame hmem
    exact hkeep (horder.requests frame hmem)
  · show (conn.frames.filter (!·.isData)).map (·.tag) ++
      ((conn.queue ++ [item]).filter (!·.isData)).map (·.tag) =
      acceptedControl (conn.accepted ++ [item.request])
    rw [acceptedControl_append, ← horder.control, filter_append,
      map_append, ← htag, append_assoc]
    have hkind : item.isData = item.request.isData := rfl
    cases hdata : item.request.isData <;> simp [hkind, hdata]
  · show (conn.frames.filter (·.isData)).map (fun frame => (frame.tag, frame.pos)) ++
      ((conn.queue ++ [item]).filter (·.isData)).flatMap pendingFrames =
      acceptedData (conn.accepted ++ [item.request])
    rw [acceptedData_append, ← horder.data, filter_append,
      flatMap_append, ← htag, append_assoc]
    have hkind : item.isData = item.request.isData := rfl
    cases hdata : item.request.isData <;>
      simp [hkind, hdata, pendingFrames, hmessage]
  · intro frame hframe other hmem hlt'
    rcases Lib.mem_concat.1 hmem with hleft | rfl
    · exact horder.passing frame hframe other hleft hlt'
    · exact absurd hlt' (Nat.lt_asymm (hltFrame frame hframe))

/-! ## Runs -/

/-- What one step can do. -/
theorem txStep_cases {conn' : TxConnection} {action : TxAction}
    (h : txStep conn action = some conn') : conn.closed = none ∧
    ((∃ request, (action = .send request ∧ conn' = enqueueTxItemOwner conn
          (txItemInit conn.accepted.length request).prepare) ∨
        (action = .reserve request ∧ isReserved request = true ∧ conn' = enqueueTxItemOwner conn
            (txItemInit conn.accepted.length request))) ∨
      (∃ events, action = .ready events ∧ conn' = { conn with byteReadyEvents := events }) ∨
      (∃ left answers, action = .flush left answers ∧
        conn' = connectionFlushTx conn left answers)) := by
  unfold txStep at h
  split at h
  · cases h
  rename_i hclosed
  refine ⟨by simpa using hclosed, ?_⟩
  cases action with
  | send request =>
    simp only [txPrepareFrame_eq (txItemInit_ok _ _)] at h
    exact .inl ⟨request, .inl ⟨rfl, (some.inj h).symm⟩⟩
  | reserve request =>
    simp only at h
    split at h
    next hreserved =>
      exact .inl ⟨request, .inr ⟨rfl, hreserved, (some.inj h).symm⟩⟩
    · cases h
  | ready events => exact .inr (.inl ⟨events, rfl, (some.inj h).symm⟩)
  | flush left answers =>
    exact .inr (.inr ⟨left, answers, rfl, (some.inj h).symm⟩)

theorem txConnectionInit_inv (endpoint : Option (ByteEndpoint TxPointer)) :
    TxInv (txConnectionInit endpoint) := by
  refine ⟨⟨List.Pairwise.nil, ?_, ?_, rfl, Nat.zero_le _, ?_⟩, rfl,
    ⟨?_, rfl, rfl, List.Pairwise.nil, ?_, ?_, ?_, ?_⟩⟩
  iterate 3
    · intro item hmem
      cases hmem
  iterate 3
    · intro frame hmem
      cases hmem
  · intro stretch hsuffix _
    rw [suffix_nil.mp hsuffix]
    exact Nat.le_refl _
  · intro stretch hinfix _
    rw [infix_nil.mp hinfix]
    exact Nat.zero_le _

/-- Both ways into the queue keep the invariants and the endpoint. -/
theorem TxInv.enqueue_request (h : TxInv conn) (request : TxRequest) :
    TxInv (enqueueTxItemOwner conn (txItemInit conn.accepted.length request).prepare) ∧
    TxInv (enqueueTxItemOwner conn (txItemInit conn.accepted.length request)) := by
  have hok := txItemInit_ok conn.accepted.length request
  refine ⟨?_, ?_⟩
  · exact h.enqueue rfl ⟨hok.pos, .inr (TxItem.prepare_prepared _)⟩ rfl rfl
  · exact h.enqueue rfl hok rfl rfl

/-- One step of a plain connection. -/
theorem txStep_inv {conn' : TxConnection} {action : TxAction} (h : TxInv conn)
    (hplain : conn.endpoint = none) (hstep : txStep conn action = some conn') :
    TxInv conn' ∧ conn'.endpoint = none := by
  obtain ⟨-, hcase⟩ := txStep_cases hstep
  rcases hcase with ⟨request, ⟨-, rfl⟩ | ⟨-, -, rfl⟩⟩ | ⟨events, -, rfl⟩ | ⟨left, answers, -, rfl⟩
  · exact ⟨(h.enqueue_request request).1, hplain⟩
  · exact ⟨(h.enqueue_request request).2, hplain⟩
  · exact ⟨h.congr rfl rfl rfl rfl rfl rfl rfl, hplain⟩
  · exact flushLoop_inv h hplain answers _

/-- What every state of a plain connection satisfies. -/
theorem tx_reachable {actions : List TxAction}
    (hrun : Lib.runSteps txStep (txConnectionInit none) actions = some conn) :
    TxInv conn ∧ conn.endpoint = none :=
  Lib.runSteps_invariant (fun _ _ _ hinv hstep => txStep_inv hinv.1 hinv.2 hstep)
    ⟨txConnectionInit_inv none, rfl⟩ hrun

/-- The written part of the frame under way is a proper part of it. -/
theorem TxInv.partial_bytes (h : TxInv conn) :
    ∃ rest, conn.wire = conn.frames.flatMap SentFrame.bytes ++ rest ∧
      (rest = [] ∨ ∃ item ∈ conn.queue, rest <+: frameBytes item.request item.messagePos ∧
        rest.length < (frameBytes item.request item.messagePos).length) := by
  refine ⟨_, h.wire, ?_⟩
  by_cases hunder : ∃ item ∈ conn.queue, item.wirePos ≠ 0
  · obtain ⟨item, hmem, hpos⟩ := hunder
    obtain ⟨earlier, later, hqueue⟩ := mem_iff_append.mp hmem
    have hactive := (h.queue.underWay item hmem hpos).1
    have hok := h.queue.ok item hmem
    have hp : item.Prepared := hok.frame.resolve_left fun hnone => hpos hnone.2
    have hlt := hp.wirePos
    rw [hp.wireLen] at hlt
    refine .inr ⟨item, hmem, ?_, ?_⟩
    · rw [hqueue, flatMap_partialBytes (h.queue.others_zero hqueue hactive)]
      exact take_prefix _ _
    · rw [hqueue, flatMap_partialBytes (h.queue.others_zero hqueue hactive),
        partialBytes, length_take, frameBytes_length hok.pos_le]
      omega
  · push Not at hunder
    exact .inl (flatMap_partialBytes_nil hunder)

/-- The credit leaves the wire as it finds it. -/
theorem connectionCreditTx_wire (conn : TxConnection) (item : TxItem)
    (n : Nat) : (connectionCreditTx conn item n).wire = conn.wire := by
  unfold connectionCreditTx connectionFinishFrame connectionCompleteTx
  simp only
  repeat' split
  all_goals rfl

/-- A turn that the socket answers with a positive count writes something. -/
theorem flush_progress (h : TxInv conn) (hplain : conn.endpoint = none)
    (hclosed : conn.closed = none) (hne : conn.queue ≠ []) {left n : Nat} (hleft : 0 < left)
    (hn : 0 < n) : conn.wire.length <
      (connectionFlushTx conn left [.socket (.sent n)]).wire.length := by
  have hbudget : 0 < min left ioQuantum := by
    rw [ioQuantum]
    omega
  obtain ⟨ready, earlier, item, later, iov, hr, hendpoint, -, hwire, -, -, heq⟩ :=
    flushOnce_spec h hne (min left ioQuantum) (.socket (.sent n))
  rw [hplain] at hendpoint
  rw [flushWrite_plain hendpoint] at heq
  have hloop : connectionFlushTx conn left [.socket (.sent n)] =
      (flushPlain ready item (capIov (min left ioQuantum) iov) (.sent n)).1 := by
    rw [connectionFlushTx, flushLoop, if_neg (by
      simp only [hclosed, hne, ne_eq, not_true_eq_false, or_false]
      omega), heq]
    split
    next hresult =>
      rw [hresult]
    rename_i hresult
    rw [hresult]
    rfl
  have hlen := hr.rest_length
  have hpos := hr.prepared.wirePos
  rw [hloop, flushPlain, capIov_bytes _ hr.into, hr.bytes]
  generalize hoffer : take (min left ioQuantum) (drop item.wirePos
    (frameBytes item.request item.messagePos)) = offered
  have hoffered : 0 < offered.length := by
    rw [← hoffer, length_take, hlen]
    omega
  rw [if_neg (by omega)]
  rw [connectionCreditTx_wire]
  simp only
  rw [hwire, length_append, length_take]
  omega

/-- The transmit ordering law of a plain connection.  In every state of every
run:

* the bytes written are whole frames, one after the other, and then a proper
  part of one more;
* every frame belongs to the request that was accepted under its tag;
* the non-DATA frames written and then those still queued are the accepted
  ones in the order of acceptance;
* so are the frames of the DATA requests, each message in the order of its
  positions;
* a frame that left before a frame of an earlier request, written later or not
  yet, overtook it: it is a header-only WINDOW_UPDATE, PING or PONG, and the
  earlier one is DATA;
* in a stretch of frames without DATA at most eight overtook;
* and a turn that the socket answers with a positive count writes something,
  as long as the connection is open and has something to send. -/
theorem tx_order_law (actions : List TxAction) (conn : TxConnection)
    (hrun : Lib.runSteps txStep (txConnectionInit none) actions = some conn) :
    (∃ rest, conn.wire = conn.frames.flatMap SentFrame.bytes ++ rest ∧
      (rest = [] ∨ ∃ item ∈ conn.queue, rest <+: frameBytes item.request item.messagePos ∧
        rest.length < (frameBytes item.request item.messagePos).length)) ∧
    (∀ frame ∈ conn.frames, conn.accepted[frame.tag]? = some frame.request) ∧
    (conn.frames.filter (!·.isData)).map (·.tag) ++ (conn.queue.filter (!·.isData)).map (·.tag) =
      acceptedControl conn.accepted ∧
    (conn.frames.filter (·.isData)).map (fun frame => (frame.tag, frame.pos)) ++
        (conn.queue.filter (·.isData)).flatMap pendingFrames =
      acceptedData conn.accepted ∧
    (conn.frames.Pairwise fun first second => second.tag < first.tag →
      first.overtook = true ∧ second.isData = true) ∧
    (∀ frame ∈ conn.frames, ∀ item ∈ conn.queue, item.tag < frame.tag →
      frame.overtook = true ∧ item.isData = true) ∧
    (∀ frame ∈ conn.frames, frame.overtook = true → txCanBypassData frame.request = true) ∧
    (∀ stretch, stretch <:+: conn.frames → (∀ frame ∈ stretch, frame.isData = false) →
      stretch.countP (·.overtook) ≤ controlBurst) ∧
    (conn.closed = none → conn.queue ≠ [] → ∀ left n, 0 < left → 0 < n → conn.wire.length <
        (connectionFlushTx conn left [.socket (.sent n)]).wire.length) := by
  obtain ⟨h, hplain⟩ := tx_reachable hrun
  refine ⟨h.partial_bytes, h.order.requests, h.order.control, h.order.data,
    h.order.passed, h.order.passing, h.order.bypass, h.order.burst.all, ?_⟩
  intro hclosed hne left n hleft hn
  exact flush_progress h hplain hclosed hne hleft hn

/-- A DATA request of three bytes in one slice, sent two bytes to a frame. -/
def threeByteRequest : TxRequest where
  type := .data
  baseFlags := 0
  streamId := 1
  messageId := 1
  payloads := [[10, 11, 12]]
  maxFramePayloadLen := 2
  flags_known := by decide
  slices_le := by decide
  len_le := by decide
  frame_pos := by decide
  frame_le := by decide
  control_le := by decide

/-- The credit update of the same stream. -/
def creditRequest : TxRequest where
  type := .windowUpdate
  baseFlags := 0
  streamId := 1
  messageId := 5
  payloads := []
  maxFramePayloadLen := 2
  flags_known := by decide
  slices_le := by decide
  len_le := by decide
  frame_pos := by decide
  frame_le := by decide
  control_le := by decide

/-- A WINDOW_UPDATE passes the second fragment of a message that is under
way. -/
theorem tx_order_law_overtaking : ∃ conn, Lib.runSteps txStep (txConnectionInit none)
        [.send threeByteRequest, .flush 100 [.socket (.sent 42), .socket .again],
          .send creditRequest,
          .flush 100 [.socket (.sent 40), .socket (.sent 41)]] = some conn ∧
      conn.frames.map (fun frame => (frame.tag, frame.pos)) = [(0, 0), (1, 0), (0, 2)] ∧
      (∀ stretch, stretch <:+: conn.frames → (∀ frame ∈ stretch, frame.isData = false) →
        stretch.countP (·.overtook) ≤ controlBurst) := by
  have hsome : (Lib.runSteps txStep (txConnectionInit none)
      [.send threeByteRequest, .flush 100 [.socket (.sent 42), .socket .again], .send creditRequest,
        .flush 100 [.socket (.sent 40), .socket (.sent 41)]]).any (fun conn =>
      conn.frames.map (fun frame => (frame.tag, frame.pos)) = [(0, 0), (1, 0), (0, 2)]) = true := by
    decide +kernel
  obtain ⟨conn, hrun, hframes⟩ := Option.any_eq_true _ _ |>.mp hsome
  exact ⟨conn, hrun, by simpa using hframes, (tx_order_law _ conn hrun).2.2.2.2.2.2.2.1⟩

end Trpc
