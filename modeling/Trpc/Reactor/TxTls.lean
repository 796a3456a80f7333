import Trpc.Reactor.TxRuns

/-!
# Retried writes over TLS

A TLS driver that answers `TR_AGAIN` must be offered the same bytes again, so
the endpoint retains them.  The flush selects an item anew in every turn and
credits what the driver took to the item it has just selected.  The two agree
as long as the retained bytes are those of the selected item.

They come apart in one way.  The retained write is the first of a frame of a
DATA item, so the item has no written byte and is not sticky; the control FIFO
is empty; and then a header-only WINDOW_UPDATE, PING or PONG is queued, which
the next turn prefers.  Then the DATA header goes out twice and the credit
update never does.

`RetrySafe` excludes that step.  `TlsInv` is the invariant of the other runs: a
retained write belongs to the item that the next turn selects.
-/

namespace Trpc

open List Option

/-- The buffer and length denote the next bytes of the item's frame. -/
structure Offer (item : TxItem) (buffer : TxPointer) (length : Nat) : Prop where
  pos : 0 < length
  fits : item.wirePos + length ≤ item.wireLen
  tag : buffer.tag = item.tag
  bytes : (item.bytesAt buffer).take length = nextBytes item length

/-- The retained write belongs to the item, and the item is next. -/
structure Retained (conn : TxConnection) (buffer : TxPointer) (length : Nat)
    (item : TxItem) : Prop where
  mem : item ∈ conn.queue
  active : conn.active = some item.tag
  next : NextUp conn item
  prepared : item.Prepared
  offer : Offer item buffer length

/-- Every retained write of the endpoint belongs to the item that is next. -/
def RetainedInv (conn : TxConnection) (endpoint : ByteEndpoint TxPointer) : Prop :=
  ∀ buffer length, endpoint.writeBuffer = some (buffer, length) →
    ∃ item, Retained conn buffer length item

/-- The invariant of an open TLS connection. -/
structure TlsInv (conn : TxConnection) : Prop where
  inv : TxInv conn
  endpoint : ∃ endpoint, conn.endpoint = some endpoint ∧
    (conn.closed = none → RetainedInv conn endpoint)

/-! ## What a turn offers -/

section Turn

variable {conn : TxConnection} {earlier later : List TxItem} {item : TxItem}
  {iov : List IoVec} {budget : Nat}

section

variable (hr : WriteReady conn earlier item later iov)

include hr

/-- The first element of the bounded scatter list is an offer. -/
theorem WriteReady.offer (hbudget : 0 < budget) {vec : IoVec} {rest : List IoVec}
    (hcap : capIov budget iov = vec :: rest) :
    Offer item vec.base vec.len := by
  have hinto := capIov_into hbudget hr.into
  have hbytes := capIov_bytes budget hr.into
  have hlen := hr.rest_length
  rw [hcap] at hinto hbytes
  obtain ⟨htag, hpos, hfull⟩ := hinto vec (by simp)
  have hvec := vecBytes_length hfull
  rw [hr.bytes, flatMap_cons] at hbytes
  have htotal := congrArg length hbytes
  rw [length_append, hvec, length_take, hlen] at htotal
  have hwire := hr.prepared.wirePos
  refine ⟨hpos, by omega, htag, ?_⟩
  calc (item.bytesAt vec.base).take vec.len
      = (item.vecBytes vec ++ rest.flatMap item.vecBytes).take vec.len := by
        rw [← hvec, take_left, hvec]
        rfl
    _ = (((frameBytes item.request item.messagePos).drop
          item.wirePos).take budget).take vec.len := by rw [hbytes]
    _ = nextBytes item vec.len := by
        rw [take_take, nextBytes, Nat.min_eq_left (by omega)]

/-- What the TLS branch offers belongs to the selected item. -/
theorem tlsOffer_spec (hbudget : 0 < budget) {endpoint : ByteEndpoint TxPointer}
    (hretained : ∀ buffer length, endpoint.writeBuffer = some (buffer, length) →
      Offer item buffer length) :
    Offer item (tlsOffer endpoint (capIov budget iov)).1
      (tlsOffer endpoint (capIov budget iov)).2 := by
  obtain ⟨vec, rest, hcap⟩ :=
    exists_cons_of_ne_nil (capIov_ne_nil budget hr.nonempty)
  unfold tlsOffer
  rw [hcap]
  cases hbuffer : endpoint.writeBuffer with
  | none => exact hr.offer hbudget hcap
  | some retained => exact hretained retained.1 retained.2 hbuffer

omit hr in
theorem Offer.take {buffer : TxPointer} {length n : Nat}
    (h : Offer item buffer length) (hle : n ≤ length) :
    (item.bytesAt buffer).take n = nextBytes item n := by
  have hbytes := congrArg (List.take n) h.bytes
  rw [take_take, nextBytes, take_take, Nat.min_eq_left hle] at hbytes
  exact hbytes

theorem WriteReady.bytesAt {buffer : TxPointer} {length : Nat} (h : Offer item buffer length) :
    conn.bytesAt buffer = item.bytesAt buffer := by
  rw [TxConnection.bytesAt, h.tag, hr.inv.queue.find_eq hr.selected.queue]

/-- Retaining an offer of the selected item keeps the invariant. -/
theorem WriteReady.retained (hup : NextUp conn item) {buffer : TxPointer} {length : Nat}
    (h : Offer item buffer length) : Retained conn buffer length item :=
  ⟨hr.selected.mem, hr.selected.active, hup, hr.prepared, h⟩

omit hr in
theorem Retained.congr {conn' : TxConnection} {buffer : TxPointer} {length : Nat}
    (h : Retained conn buffer length item) (hqueue : conn'.queue = conn.queue)
    (hactive : conn'.active = conn.active)
    (hstreak : conn'.controlStreak = conn.controlStreak) :
    Retained conn' buffer length item := by
  refine ⟨hqueue ▸ h.mem, hactive ▸ h.active, ?_, h.prepared, h.offer⟩
  rcases h.next with hpos | ⟨hzero, hpick⟩
  · exact .inl hpos
  refine .inr ⟨by rw [hqueue]; exact hzero, ?_⟩
  rw [hstreak, TxConnection.entries, hqueue]
  exact hpick

/-- The TLS branch of a turn keeps the invariant. -/
theorem flushTls_inv (hup : NextUp conn item) (hbudget : 0 < budget)
    {endpoint : ByteEndpoint TxPointer} (hendpoint : conn.endpoint = some endpoint)
    (hretained : ∀ buffer length, endpoint.writeBuffer = some (buffer, length) →
      Offer item buffer length) (answer : DriverAnswer) :
    TlsInv (flushTls conn item (capIov budget iov) budget endpoint answer).1 := by
  have hoffer := tlsOffer_spec hr hbudget hretained
  unfold flushTls
  generalize tlsOffer endpoint (capIov budget iov) = offer at hoffer
  obtain ⟨buffer, length⟩ := offer
  simp only at hoffer ⊢
  have hkeep : TlsInv conn := ⟨hr.inv, endpoint, hendpoint, fun _ b l hbuffer =>
    ⟨item, hr.retained hup (hretained b l hbuffer)⟩⟩
  split
  · exact hkeep
  split
  · exact hkeep
  rcases byteEndpointWrite_cases endpoint buffer length conn.byteReadyEvents
    answer with hwait | ⟨-, hagain⟩ | ⟨n, hpos, hle, hok⟩ | ⟨hne, hne'⟩
  · rw [hwait]
    simp only [if_true]
    refine ⟨hr.inv.congr rfl rfl rfl rfl rfl rfl rfl, endpoint, rfl,
      fun _ b l hbuffer => ⟨item, ?_⟩⟩
    exact (hr.retained hup (hretained b l hbuffer)).congr rfl rfl rfl
  · rw [hagain]
    simp only [if_true]
    refine ⟨hr.inv.congr rfl rfl rfl rfl rfl rfl rfl, _, rfl, fun _ b l hbuffer => ⟨item, ?_⟩⟩
    obtain ⟨rfl, rfl⟩ : buffer = b ∧ length = l := by
      simpa using hbuffer
    exact (hr.retained hup hoffer).congr rfl rfl rfl
  · rw [hok]
    simp only
    rw [if_neg (by decide), if_neg (by decide), hr.bytesAt hoffer, hoffer.take hle]
    have hfits := hoffer.fits
    refine ⟨?_, { endpoint with writeWait := 0, writeBuffer := none }, ?_, ?_⟩
    · let cleared : TxConnection := { conn with
        endpoint := some { endpoint with writeWait := 0, writeBuffer := none } }
      have hinv : TxInv cleared := hr.inv.congr rfl rfl rfl rfl rfl rfl rfl
      have hsel : Selected cleared earlier item later :=
        hr.selected.congr rfl rfl rfl
      exact hinv.credit hsel hr.prepared (by omega)
    · rw [connectionCreditTx_endpoint]
    · intro _ b l hbuffer
      cases hbuffer
  · rw [if_neg hne', if_pos hne]
    refine ⟨hr.inv.congr rfl rfl rfl rfl rfl rfl rfl, _, rfl, fun hclosed => ?_⟩
    cases hclosed

end

end Turn

variable {conn : TxConnection}

/-- One turn of the loop on a TLS connection. -/
theorem flushOnce_tlsInv (h : TlsInv conn)
    (hclosed : conn.closed = none) (hne : conn.queue ≠ []) {budget : Nat}
    (hbudget : 0 < budget) (answer : IoAnswer) :
    TlsInv (flushOnce conn budget answer).1 := by
  obtain ⟨endpoint, hendpoint, hinv⟩ := h.endpoint
  have hretained := hinv hclosed
  obtain ⟨ready, earlier, item, later, iov, hr, hendpoint', -, -, hup, hsame, heq⟩ :=
    flushOnce_spec h.inv hne budget answer
  rw [hendpoint] at hendpoint'
  -- The item with the retained write is the one that was selected.
  have hoffer : ∀ buffer length, endpoint.writeBuffer = some (buffer, length) →
      Offer item buffer length := by
    intro buffer length hbuffer
    obtain ⟨owner, howner⟩ := hretained buffer length hbuffer
    obtain rfl := hsame owner howner.mem howner.next howner.prepared
    exact howner.offer
  rw [heq]
  cases answer with
  | socket answer =>
    rw [flushWrite_tls_socket hendpoint']
    exact ⟨hr.inv, endpoint, hendpoint', fun _ b l hbuffer =>
      ⟨item, hr.retained hup (hoffer b l hbuffer)⟩⟩
  | driver answer =>
    rw [flushWrite_tls hendpoint']
    exact flushTls_inv hr hup hbudget hendpoint' hoffer answer

/-- A flush turn on a TLS connection keeps the invariant, whatever the driver
answers. -/
theorem flushLoop_tlsInv (h : TlsInv conn) (answers : List IoAnswer) (budget : Nat) :
    TlsInv (flushLoop answers budget conn) := by
  induction answers generalizing conn budget with
  | nil => exact h
  | cons answer rest ih =>
    rw [flushLoop]
    split
    · exact h
    rename_i hstop
    push Not at hstop
    have hinv := flushOnce_tlsInv h hstop.2.1 hstop.2.2 (Nat.pos_of_ne_zero hstop.1) answer
    generalize flushOnce conn budget answer = result at hinv
    obtain ⟨conn', count⟩ := result
    cases count with
    | none => exact hinv
    | some n => exact ih hinv _

/-! ## Safe sends -/

/-- The endpoint retains the first write of a frame of a DATA item. -/
def TxConnection.retainsDataStart (conn : TxConnection) : Bool :=
  match conn.endpoint.bind (·.writeBuffer) with
  | none => false
  | some (buffer, _) =>
    match conn.find buffer.tag with
    | none => false
    | some item => item.isData && item.wirePos == 0

/-- The step does not queue a frame that the next turn would prefer to the
DATA item whose write the driver has to be offered again. -/
def RetrySafe (conn : TxConnection) : TxAction → Prop
  | .send request =>
    ¬ (txCanBypassData request = true ∧ conn.retainsDataStart = true ∧
      conn.control = [] ∧ conn.controlStreak < controlBurst)
  | _ => True

instance (conn : TxConnection) : ∀ action, Decidable (RetrySafe conn action)
  | .send _ => inferInstanceAs (Decidable (¬ (_ ∧ _ ∧ _ ∧ _)))
  | .reserve _ => isTrue trivial
  | .ready _ => isTrue trivial
  | .flush _ _ => isTrue trivial

/-- Appending an entry changes the choice only when it is the first control
entry behind DATA and may pass it. -/
theorem pickTag_append {streak tag : Nat} {entries : List (Nat × TxRequest)}
    {entry : Nat × TxRequest} (hpick : pickTag streak entries = some tag)
    (hsafe : entries.find? (!·.2.isData) = none →
      streak < controlBurst → txCanBypassData entry.2 = true →
      ∀ first ∈ entries.head?, first.2.isData = false) :
    pickTag streak (entries ++ [entry]) = some tag := by
  cases entries with
  | nil => cases hpick
  | cons first rest =>
    unfold pickTag at hpick ⊢
    rw [find?_append]
    cases hfind : (first :: rest).find? (!·.2.isData) with
    | some control =>
      rw [hfind] at hpick
      exact hpick
    | none =>
      rw [hfind] at hpick
      rw [cons_append, head?_cons, none_or]
      cases hlast : [entry].find? (!·.2.isData) with
      | none => exact hpick
      | some control =>
        simp only
        rw [if_neg]
        · exact hpick
        rintro ⟨hdata, hstreak, hbypass⟩
        have hentry : control = entry := by
          simpa using mem_of_find?_eq_some hlast
        have := hsafe hfind hstreak (hentry ▸ hbypass) first rfl
        rw [this] at hdata
        cases hdata

/-- A reserved frame never passes DATA. -/
theorem isReserved_bypass {request : TxRequest} (h : isReserved request = true) :
    txCanBypassData request = false := by
  unfold isReserved at h
  simp only [Bool.decide_and, Bool.decide_or, Bool.and_eq_true, Bool.or_eq_true,
    decide_eq_true_eq] at h
  obtain ⟨htype, -⟩ := h
  unfold txCanBypassData
  rcases htype with htype | htype | htype <;> simp [htype]

/-- A fresh item whose send is safe keeps the invariant. -/
theorem TlsInv.enqueue (h : TlsInv conn)
    (hclosed : conn.closed = none) {item : TxItem} (hpos : item.wirePos = 0)
    (hinv : TxInv (enqueueTxItemOwner conn item))
    (hsafe : ¬ (txCanBypassData item.request = true ∧
      conn.retainsDataStart = true ∧ conn.control = [] ∧
      conn.controlStreak < controlBurst)) :
    TlsInv (enqueueTxItemOwner conn item) := by
  obtain ⟨endpoint, hendpoint, hretained⟩ := h.endpoint
  refine ⟨hinv, endpoint, hendpoint, fun _ buffer length hbuffer => ?_⟩
  obtain ⟨owner, howner⟩ := hretained hclosed buffer length hbuffer
  refine ⟨owner, mem_append_left _ howner.mem, howner.active, ?_,
    howner.prepared, howner.offer⟩
  by_cases hstart : owner.wirePos = 0
  swap
  · exact .inl hstart
  obtain ⟨hzero, hpick⟩ := howner.next.resolve_left (by simpa using hstart)
  refine .inr ⟨?_, ?_⟩
  · exact Lib.forall_mem_concat.2 ⟨hzero, hpos⟩
  · have hentries : (enqueueTxItemOwner conn item).entries =
        conn.entries ++ [(item.tag, item.request)] := by
      simp [TxConnection.entries, enqueueTxItemOwner]
    rw [hentries]
    refine pickTag_append hpick ?_
    intro hnone hstreak hbypass first hfirst
    by_contra hdata
    -- The retained write is that of the head of the queue, which is DATA.
    have hfirst' : conn.entries.head? = some first := hfirst
    have htag : owner.tag = first.1 := by
      rw [pickTag, hfirst', hnone] at hpick
      simpa using hpick.symm
    have hkind : owner.isData = true := by
      obtain ⟨head, hhead, rfl⟩ := by
        rw [TxConnection.entries, head?_map] at hfirst'
        exact map_eq_some_iff.mp hfirst'
      have hmem := mem_of_head? hhead
      rw [h.inv.queue.eq_of_tag howner.mem hmem htag]
      show head.request.isData = true
      simpa using hdata
    refine hsafe ⟨hbypass, ?_, ?_, hstreak⟩
    · obtain ⟨earlier, later, hqueue⟩ := mem_iff_append.mp howner.mem
      rw [TxConnection.retainsDataStart, hendpoint, bind_some, hbuffer]
      simp [howner.offer.tag, h.inv.queue.find_eq hqueue, hkind, hstart]
    · rw [h.inv.queue.control]
      rw [TxConnection.entries, find?_map, map_eq_none_iff, find?_eq_none] at hnone
      rw [map_eq_nil_iff, filter_eq_nil_iff]
      exact hnone

/-- One safe step of a TLS connection. -/
theorem txStep_tlsInv {conn conn' : TxConnection} {action : TxAction}
    (h : TlsInv conn) (hsafe : RetrySafe conn action)
    (hstep : txStep conn action = some conn') : TlsInv conn' := by
  obtain ⟨hclosed, hcase⟩ := txStep_cases hstep
  rcases hcase with ⟨request, ⟨rfl, rfl⟩ | ⟨-, hreserved, rfl⟩⟩ |
    ⟨events, -, rfl⟩ | ⟨left, answers, -, rfl⟩
  · exact h.enqueue hclosed rfl (h.inv.enqueue_request request).1 hsafe
  · refine h.enqueue hclosed rfl (h.inv.enqueue_request request).2 ?_
    rintro ⟨hbypass, -⟩
    have hnot : txCanBypassData request = false := isReserved_bypass hreserved
    exact absurd (hnot.symm.trans hbypass) (by decide)
  · obtain ⟨endpoint, hendpoint, hretained⟩ := h.endpoint
    refine ⟨h.inv.congr rfl rfl rfl rfl rfl rfl rfl, endpoint, hendpoint,
      fun hopen buffer length hbuffer => ?_⟩
    obtain ⟨owner, howner⟩ := hretained hopen buffer length hbuffer
    exact ⟨owner, howner.congr rfl rfl rfl⟩
  · exact flushLoop_tlsInv h answers _

/-- What every state of a TLS connection satisfies, if the steps to it are
safe. -/
theorem tls_reachable {actions : List TxAction}
    (hsafe : Lib.StepsMeet txStep RetrySafe (txConnectionInit (some tlsEndpointInit)) actions)
    (hrun : Lib.runSteps txStep (txConnectionInit (some tlsEndpointInit)) actions =
      some conn) : TlsInv conn := by
  refine Lib.runSteps_invariant_of (fun _ _ _ hinv hcond hstep =>
    txStep_tlsInv hinv hcond hstep) ?_ hsafe hrun
  refine ⟨txConnectionInit_inv _, tlsEndpointInit, rfl, fun _ b l hbuffer => ?_⟩
  cases hbuffer

/-- Transmit integrity over TLS.  In every state of a run whose sends are safe,
whatever the driver answered and however the turns were cut, the bytes that the
driver accepted are whole frames, one after the other, and then a proper part
of one more; and every accepted item has its frames exactly once among those
written and those still queued. -/
theorem tls_retry_integrity (actions : List TxAction) (conn : TxConnection)
    (hsafe : Lib.StepsMeet txStep RetrySafe (txConnectionInit (some tlsEndpointInit)) actions)
    (hrun : Lib.runSteps txStep (txConnectionInit (some tlsEndpointInit)) actions = some conn) :
    (∃ rest, conn.wire = conn.frames.flatMap SentFrame.bytes ++ rest ∧
      (rest = [] ∨ ∃ item ∈ conn.queue, rest <+: frameBytes item.request item.messagePos ∧
        rest.length < (frameBytes item.request item.messagePos).length)) ∧
    (∀ frame ∈ conn.frames, conn.accepted[frame.tag]? = some frame.request) ∧
    (conn.frames.filter (!·.isData)).map (·.tag) ++ (conn.queue.filter (!·.isData)).map (·.tag) =
      acceptedControl conn.accepted ∧
    (conn.frames.filter (·.isData)).map (fun frame => (frame.tag, frame.pos)) ++
        (conn.queue.filter (·.isData)).flatMap pendingFrames =
      acceptedData conn.accepted := by
  have h := (tls_reachable hsafe hrun).inv
  exact ⟨h.partial_bytes, h.order.requests, h.order.control, h.order.data⟩

/-- A DATA request of three bytes in one frame. -/
def oneFrameRequest : TxRequest :=
  { threeByteRequest with
    maxFramePayloadLen := 16
    frame_pos := by decide
    frame_le := by decide
    control_le := by decide }

/-- The driver lets the header of a DATA frame wait, then takes a part of it; a
credit update that is queued then leaves behind the frame. -/
theorem tls_retry_integrity_waiting :
    ∃ conn, Lib.runSteps txStep (txConnectionInit (some tlsEndpointInit))
        [.send oneFrameRequest, .flush 100 [.driver ⟨.again, 0, 2⟩], .ready 2,
          .flush 100 [.driver ⟨.ok, 10, 0⟩], .send creditRequest,
          .flush 100 [.driver ⟨.ok, 30, 0⟩, .driver ⟨.ok, 3, 0⟩,
            .driver ⟨.ok, 40, 0⟩]] = some conn ∧
      conn.queue = [] ∧
      (conn.frames.filter (!·.isData)).map (·.tag) ++ (conn.queue.filter (!·.isData)).map (·.tag) =
      acceptedControl conn.accepted := by
  have hsafe : Lib.StepsMeet txStep RetrySafe (txConnectionInit (some tlsEndpointInit))
      [.send oneFrameRequest, .flush 100 [.driver ⟨.again, 0, 2⟩], .ready 2,
        .flush 100 [.driver ⟨.ok, 10, 0⟩], .send creditRequest,
        .flush 100 [.driver ⟨.ok, 30, 0⟩, .driver ⟨.ok, 3, 0⟩, .driver ⟨.ok, 40, 0⟩]] := by
    decide +kernel
  have hsome : (Lib.runSteps txStep (txConnectionInit (some tlsEndpointInit))
      [.send oneFrameRequest, .flush 100 [.driver ⟨.again, 0, 2⟩], .ready 2,
        .flush 100 [.driver ⟨.ok, 10, 0⟩], .send creditRequest,
        .flush 100 [.driver ⟨.ok, 30, 0⟩, .driver ⟨.ok, 3, 0⟩,
          .driver ⟨.ok, 40, 0⟩]]).any (fun conn => conn.queue = []) = true := by
    decide +kernel
  obtain ⟨conn, hrun, hqueue⟩ := Option.any_eq_true _ _ |>.mp hsome
  exact ⟨conn, hrun, by simpa using hqueue, (tls_retry_integrity _ conn hsafe hrun).2.2.1⟩

/-- A DATA header waits for its retry, a credit update of the same stream is
queued, and the retry succeeds.  Nothing failed and nothing is left to send,
but the wire holds the DATA header twice and no credit update. -/
theorem tls_retry_misplaced : ∃ conn, Lib.runSteps txStep (txConnectionInit (some tlsEndpointInit))
        [.send oneFrameRequest, .flush 100 [.driver ⟨.again, 0, 2⟩], .send creditRequest, .ready 2,
          .flush 200 [.driver ⟨.ok, 40, 0⟩, .driver ⟨.ok, 40, 0⟩,
            .driver ⟨.ok, 3, 0⟩]] = some conn ∧
      conn.closed = none ∧ conn.queue = [] ∧
      conn.accepted = [oneFrameRequest, creditRequest] ∧
      conn.wire = (frameBytes oneFrameRequest 0).take 40 ++ frameBytes oneFrameRequest 0 ∧
      conn.wire ≠ frameBytes oneFrameRequest 0 ++ frameBytes creditRequest 0 ∧
      conn.wire ≠ frameBytes creditRequest 0 ++ frameBytes oneFrameRequest 0 := by
  have hsome : (Lib.runSteps txStep (txConnectionInit (some tlsEndpointInit))
      [.send oneFrameRequest, .flush 100 [.driver ⟨.again, 0, 2⟩], .send creditRequest, .ready 2,
        .flush 200 [.driver ⟨.ok, 40, 0⟩, .driver ⟨.ok, 40, 0⟩,
          .driver ⟨.ok, 3, 0⟩]]).any (fun conn =>
      conn.closed = none ∧ conn.queue = [] ∧
      conn.accepted = [oneFrameRequest, creditRequest] ∧
      conn.wire = (frameBytes oneFrameRequest 0).take 40 ++ frameBytes oneFrameRequest 0 ∧
      conn.wire ≠ frameBytes oneFrameRequest 0 ++ frameBytes creditRequest 0 ∧
      conn.wire ≠ frameBytes creditRequest 0 ++ frameBytes oneFrameRequest 0) =
      true := by
    decide +kernel
  obtain ⟨conn, hrun, hconn⟩ := Option.any_eq_true _ _ |>.mp hsome
  exact ⟨conn, hrun, of_decide_eq_true hconn⟩

end Trpc
