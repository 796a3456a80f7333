import Trpc.Lib.Counting
import Trpc.Lib.Fifo
import Trpc.Lib.Runs
import Trpc.Channel.Hello
import Trpc.Rpc.RecordClient
import Trpc.Rpc.RecordReply

/-!
# The server's endpoint

`rpc/rpc_record_endpoint.c` keeps one slot for each stream that the Channel
opened, from its OPENED event to the report of its outcome.  A slot outlives
its stream while the dispatcher still holds the call, so there are more slots
than streams: as many as the Channel has streams and the dispatcher has calls.

Every call out of the endpoint may come back into it.  A send can make the
Channel deliver events of any stream, and a call into the dispatcher can end
calls.  Such a nested event sets flags of its slot and waits in a queue for the
next pump.

The model gives each call out of the endpoint an `Answer`: what it returns, and
the upcalls made while it runs.  The answers of a step are its script, so the
results hold for every Channel, dispatcher, executor and clock that keep to
this.

* The Channel has at most `maxStreams` streams at a time.  It opens a stream
  once, and gives no event of a stream it has let go.
* The dispatcher holds at most `dispatchCapacity` calls.

`depth` is not kept.  What runs at depth zero are the steps, and everything
else is nested.  The frame of a slot's error FINAL belongs to the transport: if
it is still busy, the send answers AGAIN.  The `terminal` callback of the
server signals its shard and does not call back.
-/

namespace Trpc

/-- `tr_rpc_record_status_from_reset`. -/
def rpcRecordStatusFromReset (reason : Int) : UInt32 :=
  if reason = Status.errClosed.code then rpcStatusCancelled
  else if reason = Status.errTimeout.code then rpcStatusDeadlineExceeded
  else if reason = Status.errNomem.code then rpcStatusResourceExhausted
  else if reason = Status.errState.code then rpcStatusInvalidArgument
  else if reason = Status.errSys.code then rpcStatusInternal
  else rpcStatusCount

/-! ## The state -/

/-- `struct tr_rpc_endpoint_result`. -/
structure EndpointResult where
  status : UInt32 := rpcStatusOk
  delivery : RpcDelivery := .onOwner
  finalAccepted : Bool := false
  deriving DecidableEq, Repr

/-- `struct tr_endpoint_slot`.  An event carries its status. -/
structure EndpointSlot where
  stream : Nat := 0
  call : Option Nat := none
  result : EndpointResult := {}
  finalDue : Nat := 0
  openDue : Nat := 0
  pendingEvent : Option EventKind := none
  pendingNext : Option Nat := none
  active : Bool := false
  terminal : Bool := false
  reported : Bool := false
  peerClosed : Bool := false
  dead : Bool := false
  closeAccepted : Bool := false
  resetAccepted : Bool := false
  deriving DecidableEq, Repr

/-- `struct tr_rpc_record_endpoint_config`, and the number of streams of the
Channel. -/
structure EndpointConfig where
  maxStreams : Nat
  dispatchCapacity : Nat
  progressLimit : Nat
  finalWaitNs : Nat
  openTimeoutNs : Nat
  deriving DecidableEq, Repr

/-- A call into the endpoint from below. -/
inductive Upcall
  | event (stream : Nat) (kind : EventKind)
  | terminal (call stream : Nat) (result : EndpointResult) (admissionFailed : Bool)
  deriving DecidableEq, Repr

/-- What a call out of the endpoint returns, and what it calls meanwhile. -/
structure Answer where
  status : Status := .ok
  now : Nat := 0
  terminal : Bool := false
  finalAccepted : Bool := false
  upcalls : List Upcall := []
  deriving DecidableEq, Repr

/-- `struct tr_rpc_record_endpoint`, with the streams of its Channel and the
calls of its dispatcher.  The last six fields record what happened: the reports, the streams
that found no slot, and the events that were deferred, applied and handed to the dispatcher. -/
structure RecordEndpoint where
  config : EndpointConfig
  slots : Nat → EndpointSlot
  cursor : Nat
  pendingHead : Option Nat
  pendingTail : Option Nat
  stopping : Bool
  cleanup : Bool
  dispatch : Bool
  freed : Bool
  live : List Nat
  opened : Nat
  calls : List Nat
  admitted : Nat
  script : List Answer
  reports : List Nat
  lost : List Nat
  late : List Nat
  deferred : List Nat
  applied : List (Nat × EventKind)
  handed : List (Nat × EventKind)

namespace RecordEndpoint

/-- A slot for every stream and for every call that outlives its stream. -/
def capacity (w : RecordEndpoint) : Nat :=
  w.config.maxStreams + w.config.dispatchCapacity

def put (w : RecordEndpoint) (i : Nat) (slot : EndpointSlot) : RecordEndpoint :=
  { w with slots := Function.update w.slots i slot }

@[simp] theorem put_self (w : RecordEndpoint) (i : Nat) (slot : EndpointSlot) :
    (w.put i slot).slots i = slot := by
  unfold put
  exact Function.update_self i slot w.slots

theorem put_of_ne (w : RecordEndpoint) {i j : Nat} (hne : j ≠ i) (slot : EndpointSlot) :
    (w.put i slot).slots j = w.slots j := by
  unfold put
  exact Function.update_of_ne hne slot w.slots

/-- The next answer of the script. -/
def answer (w : RecordEndpoint) : Answer × RecordEndpoint :=
  match w.script with
  | [] => ({}, w)
  | a :: rest => (a, { w with script := rest })

end RecordEndpoint

/-- The clock.  `tr_endpoint_now`. -/
def endpointNow (w : RecordEndpoint) : Option Nat × RecordEndpoint :=
  let (a, w) := w.answer
  (if a.status = .ok then some a.now else none, w)

/-- `tr_endpoint_after`. -/
def endpointAfter (now delta : Nat) : Nat :=
  if uint64Max - now < delta then uint64Max else now + delta

/-- `tr_endpoint_find`. -/
def endpointFind (w : RecordEndpoint) (stream : Nat) : Option Nat :=
  (List.range w.capacity).find? fun i =>
    (w.slots i).active && (w.slots i).stream == stream

/-! ## The dispatcher -/

/-- `tr_rpc_record_dispatch_admit_until_on_owner`. -/
def dispatchAdmit (w : RecordEndpoint) : Option Nat × RecordEndpoint :=
  let (a, w) := w.answer
  if a.status = .ok ∧ w.calls.length < w.config.dispatchCapacity then
    (some w.admitted, { w with
      calls := w.calls ++ [w.admitted]
      admitted := w.admitted + 1 })
  else (none, w)

/-- `tr_rpc_record_dispatch_retire_on_owner`. -/
def dispatchRetire (w : RecordEndpoint) (call : Nat) : Status × RecordEndpoint :=
  let (a, w) := w.answer
  if a.status ≠ .ok then (a.status, w)
  else if call ∈ w.calls then (.ok, { w with calls := w.calls.erase call })
  else (.errStale, w)

/-! ## Slots -/

/-- Link a slot behind the last one of the queue. -/
def endpointLink (w : RecordEndpoint) (i : Nat) : RecordEndpoint :=
  match w.pendingTail with
  | some t => { w.put t { w.slots t with pendingNext := some i } with pendingTail := some i }
  | none => { w with pendingHead := some i, pendingTail := some i }

/-- `tr_endpoint_defer`.  A slot queues one event.  A stronger one takes the
place of OPENED and of REMOTE_CLOSED. -/
def endpointDefer (w : RecordEndpoint) (i : Nat) (kind : EventKind) : RecordEndpoint :=
  match (w.slots i).pendingEvent with
  | some pending =>
    if pending = .remoteClosed ∨ pending = .opened then
      w.put i { w.slots i with pendingEvent := some kind }
    else w
  | none =>
    let queued := w.put i { w.slots i with pendingEvent := some kind, pendingNext := none }
    endpointLink { queued with deferred := w.deferred ++ [(w.slots i).stream] } i

/-- `tr_endpoint_terminal`. -/
def endpointTerminal (w : RecordEndpoint) (i : Nat) (result : EndpointResult)
    (immediateReset : Bool) : RecordEndpoint :=
  if (w.slots i).terminal then w
  else if immediateReset then
    w.put i { w.slots i with terminal := true, result := result, finalDue := 0 }
  else
    match endpointNow w with
    | (some now, w) => w.put i { w.slots i with
        terminal := true
        result := result
        finalDue := endpointAfter now w.config.finalWaitNs }
    | (none, w) => w.put i { w.slots i with terminal := true, result := result, finalDue := 0 }

/-- `tr_endpoint_dispatch_terminal`. -/
def endpointDispatchTerminal (w : RecordEndpoint) (call stream : Nat)
    (result : EndpointResult) (admissionFailed : Bool) : RecordEndpoint :=
  match endpointFind w stream with
  | none => w
  | some i =>
    if (w.slots i).call = some call then
      endpointTerminal w i result (result.delivery = .onOwner && admissionFailed)
    else w

/-- `tr_endpoint_admit`. -/
def endpointAdmit (w : RecordEndpoint) (i : Nat) : RecordEndpoint :=
  if (w.slots i).terminal ∨ (w.slots i).call.isSome then w
  else if w.stopping then endpointTerminal w i { status := rpcStatusUnavailable } false
  else
    match dispatchAdmit w with
    | (some call, w) => w.put i { w.slots i with call := some call, openDue := 0 }
    | (none, w) => endpointTerminal w i { status := rpcStatusResourceExhausted } false

/-- `tr_endpoint_report`. -/
def endpointReport (w : RecordEndpoint) (i : Nat) : RecordEndpoint :=
  if (w.slots i).reported then w
  else { w.put i { w.slots i with reported := true } with
    reports := w.reports ++ [(w.slots i).stream] }

/-- The stream of the slot is over for both ends. -/
def EndpointSlot.over (slot : EndpointSlot) : Bool :=
  slot.dead || slot.resetAccepted || (slot.closeAccepted && slot.peerClosed)

/-- The end of `tr_endpoint_progress`: report, and clear the slot of a stream
that is over. -/
def endpointRelease (w : RecordEndpoint) (i : Nat) : Status × RecordEndpoint :=
  let w := endpointReport w i
  if (w.slots i).over && !w.stopping && (w.slots i).pendingEvent.isNone then
    match (w.slots i).call with
    | none => (.ok, w.put i {})
    | some call =>
      match dispatchRetire w call with
      | (.ok, w) => (.ok, w.put i {})
      | (ret, w) => (ret, w)
  else (.ok, w)

/-! ## Opening -/

/-- A slot that `tr_endpoint_open_slot` may take back. -/
def EndpointSlot.reclaimable (slot : EndpointSlot) (nested : Bool) : Bool :=
  slot.active && slot.dead && slot.terminal && slot.pendingEvent.isNone &&
    (!nested || slot.reported)

/-- One candidate of the loop in `tr_endpoint_open_slot`.  The progress of a
slot that is dead and terminal is `endpointRelease`. -/
def endpointReclaim (w : RecordEndpoint) (nested : Bool) (i : Nat) : RecordEndpoint :=
  if (w.slots i).reclaimable nested then
    if w.stopping = false then (endpointRelease w i).2
    else if (w.slots i).call = none ∨ w.dispatch = false then
      (endpointReport w i).put i {}
    else w
  else w

/-- The loop in `tr_endpoint_open_slot`. -/
def endpointScan (nested : Bool) : RecordEndpoint → List Nat → Option Nat × RecordEndpoint
  | w, [] => (none, w)
  | w, i :: rest =>
    let w := endpointReclaim w nested i
    if (w.slots i).active then endpointScan nested w rest else (some i, w)

/-- A slot without a call keeps a stream that has left the Channel, and an
OPENED cannot take it back. -/
def EndpointSlot.lingers (slot : EndpointSlot) (live : List Nat) (nested : Bool) : Bool :=
  slot.active && slot.call.isNone && !live.contains slot.stream && !slot.reclaimable nested

/-- Some slot lingers. -/
def RecordEndpoint.crowded (w : RecordEndpoint) (nested : Bool) : Bool :=
  (List.range w.capacity).any fun i => (w.slots i).lingers w.live nested

/-- `tr_endpoint_open_slot`. -/
def endpointOpenSlot (w : RecordEndpoint) (stream : Nat) (nested : Bool) : RecordEndpoint :=
  let (clock, w) := if w.stopping then (some none, w) else
    match endpointNow w with
    | (some now, w) => (some (some now), w)
    | (none, w) => (none, w)
  let w := if w.crowded nested then { w with late := w.late ++ [stream] } else w
  match endpointScan nested w (List.range w.capacity) with
  | (none, w) => { w with lost := w.lost ++ [stream] }
  | (some i, w) =>
    match clock with
    | none =>
      endpointTerminal (w.put i { stream := stream, active := true }) i
        { status := rpcStatusInternal } true
    | some now =>
      let due := match now with
        | some now => endpointAfter now w.config.openTimeoutNs
        | none => 0
      let w := w.put i { stream := stream, active := true, openDue := due }
      if nested then endpointDefer w i .opened else endpointAdmit w i

/-! ## Events from below -/

/-- What an event of the stream says about it. -/
def EndpointSlot.mark (slot : EndpointSlot) : EventKind → EndpointSlot
  | .remoteClosed => { slot with peerClosed := true }
  | .closed | .error _ | .refused => { slot with dead := true }
  | .reset _ => { slot with resetAccepted := true }
  | .opened | .writable | .data _ _ => slot

/-- The Channel's side of an event.  It opens a stream once and while it has
room.  CLOSED, ERROR and REFUSED come with the end of the stream, RESET is
followed by CLOSED. -/
def channelAnnounce (w : RecordEndpoint) (stream : Nat) : EventKind → Option RecordEndpoint
  | .opened =>
    if stream = w.opened ∧ w.live.length < w.config.maxStreams then
      some { w with live := w.live ++ [stream], opened := w.opened + 1 }
    else none
  | .closed | .error _ | .refused =>
    if stream ∈ w.live then some { w with live := w.live.erase stream } else none
  | .remoteClosed | .reset _ | .writable | .data _ _ =>
    if stream ∈ w.live then some w else none

/-- `tr_endpoint_event` and `tr_endpoint_data` while the endpoint is in a call
of its own. -/
def endpointNested (w : RecordEndpoint) (stream : Nat) (kind : EventKind) : RecordEndpoint :=
  match endpointFind w stream with
  | none => if kind = .opened then endpointOpenSlot w stream true else w
  | some i =>
    match kind with
    | .data _ _ =>
      -- the borrowed bytes cannot be kept, so the stream fails
      if (w.slots i).terminal then w
      else endpointDefer w i (.error Status.errState.code)
    | kind =>
      let w := w.put i ((w.slots i).mark kind)
      if rpcRecordIsTerminalEvent kind then endpointDefer w i kind else w

def endpointUpcall (w : RecordEndpoint) : Upcall → RecordEndpoint
  | .event stream kind =>
    match channelAnnounce w stream kind with
    | none => w
    | some w => endpointNested w stream kind
  | .terminal call stream result admissionFailed =>
    endpointDispatchTerminal w call stream result admissionFailed

def Upcall.isTerminal : Upcall → Bool
  | .terminal _ _ _ _ => true
  | .event _ _ => false

/-- A call out of the endpoint. -/
def RecordEndpoint.callOut (w : RecordEndpoint) : Answer × RecordEndpoint :=
  let (a, w) := w.answer
  (a, a.upcalls.foldl endpointUpcall w)

/-- `tr_rpc_record_dispatch_event_on_owner`. -/
def dispatchEvent (w : RecordEndpoint) (stream : Nat) (kind : EventKind) :
    Answer × RecordEndpoint :=
  RecordEndpoint.callOut { w with handed := w.handed ++ [(stream, kind)] }

/-! ## Deferred events -/

/-- The outcome of a stream that ended before its call was admitted. -/
def endpointDeferredStatus : EventKind → UInt32
  | .reset status => rpcRecordStatusFromReset status
  | .refused => rpcRecordStatusFromReset Status.errNomem.code
  | .error status =>
    if status = Status.errSys.code then rpcStatusInternal else rpcStatusInvalidArgument
  | .opened | .remoteClosed | .closed | .writable | .data _ _ => rpcStatusUnavailable

/-- One event of the queue, already off it. -/
def endpointApply (w : RecordEndpoint) (i : Nat) (kind : EventKind) : RecordEndpoint :=
  let w := { w with applied := w.applied ++ [((w.slots i).stream, kind)] }
  if kind = .opened then endpointAdmit w i
  else if w.dispatch ∧ (w.slots i).call.isSome ∧ (w.slots i).terminal = false then
    (dispatchEvent w (w.slots i).stream kind).2
  else if (w.slots i).terminal = false ∧ (w.slots i).call = none then
    endpointTerminal w i { status := endpointDeferredStatus kind } true
  else w

/-- Take the first slot off the queue. -/
def endpointTake (w : RecordEndpoint) (i : Nat) : RecordEndpoint :=
  { w.put i { w.slots i with pendingEvent := none, pendingNext := none } with
    pendingHead := (w.slots i).pendingNext
    pendingTail := if (w.slots i).pendingNext = none then none else w.pendingTail }

/-- `tr_endpoint_apply_deferred`, with the budget that is left. -/
def endpointApplyDeferred : RecordEndpoint → Nat → Nat × RecordEndpoint
  | w, 0 => (0, w)
  | w, budget + 1 =>
    match w.pendingHead with
    | none => (budget + 1, w)
    | some i =>
      match (w.slots i).pendingEvent with
      | none => endpointApplyDeferred (endpointTake w i) budget
      | some kind => endpointApplyDeferred (endpointApply (endpointTake w i) i kind) budget

/-! ## Progress -/

/-- `tr_endpoint_send_error`. -/
def endpointSendError (w : RecordEndpoint) (i : Nat) : Status × RecordEndpoint :=
  let (a, w) := w.callOut
  if a.status = .ok then
    (.ok, w.put i { w.slots i with
      result := { (w.slots i).result with finalAccepted := true } })
  else (a.status, w)

/-- `tr_endpoint_reset`. -/
def endpointReset (w : RecordEndpoint) (i : Nat) : Status × RecordEndpoint :=
  let (a, w) := w.callOut
  match a.status with
  | .ok => (.ok, w.put i { w.slots i with resetAccepted := true })
  | .errClosed | .errStale => (.ok, w.put i { w.slots i with dead := true })
  | ret => (ret, w)

/-- `tr_stream_close`.  If the peer has closed its half, the stream leaves the
Channel without an event. -/
def endpointStreamClose (w : RecordEndpoint) (i : Nat) : Status × RecordEndpoint :=
  let (a, w) := w.callOut
  if a.status = .ok ∧ (w.slots i).peerClosed then
    (.ok, { w with live := w.live.erase (w.slots i).stream })
  else (a.status, w)

/-- The error FINAL, while its time is not over.  The answer says whether the
send is to be tried again. -/
def endpointFinal (w : RecordEndpoint) (i now : Nat) : Bool × RecordEndpoint :=
  let slot := w.slots i
  if slot.result.finalAccepted = false ∧ slot.result.status ≠ rpcStatusOk ∧ now < slot.finalDue then
    match endpointSendError w i with
    | (.again, w) => (true, w)
    | (.ok, w) | (.errClosed, w) | (.errStale, w) => (false, w)
    | (_, w) => (false, w.put i { w.slots i with finalDue := 0 })
  else (false, w)

/-- End the stream, with a RESET if no FINAL was accepted. -/
def endpointEnd (w : RecordEndpoint) (i : Nat) : Status × RecordEndpoint :=
  let slot := w.slots i
  if slot.dead ∨ slot.resetAccepted then (.ok, w)
  else if slot.result.finalAccepted = false then endpointReset w i
  else
    let (stop, w) := w.callOut
    let (ret, w) := if stop.status = .ok then endpointStreamClose w i else (stop.status, w)
    match ret with
    | .ok => (.ok, w.put i { w.slots i with closeAccepted := true })
    | .errClosed | .errStale => (.ok, w.put i { w.slots i with dead := true })
    | ret => (ret, w)

/-- `tr_endpoint_progress`. -/
def endpointProgress (w : RecordEndpoint) (i now : Nat) : Status × RecordEndpoint :=
  let slot := w.slots i
  if slot.active = false then (.ok, w)
  else if slot.terminal = false then
    if w.dispatch ∧ slot.call.isSome ∧ slot.dead = false ∧ slot.resetAccepted = false ∧
        slot.closeAccepted = false then
      -- the call may have chosen its end while a worker still runs
      let (a, w) := w.answer
      if a.status ≠ .ok then (a.status, w)
      else if a.terminal ∧ a.finalAccepted = false then endpointReset w i
      else (.ok, w)
    else (.ok, w)
  else if slot.dead = false ∧ slot.closeAccepted = false ∧ slot.resetAccepted = false then
    match endpointFinal w i now with
    | (true, w) => (.again, w)
    | (false, w) =>
      match endpointEnd w i with
      | (.ok, w) => endpointRelease w i
      | (ret, w) => (ret, w)
  else endpointRelease w i

/-- The dispatcher's share of a pump: one call of it at a time, and the queue
after each. -/
def endpointDispatchLoop : RecordEndpoint → Nat → Nat → Bool × Status × Nat × RecordEndpoint
  | w, budget, 0 => (false, .ok, budget, w)
  | w, budget, n + 1 =>
    let (a, w) := w.callOut
    let (budget, w) := endpointApplyDeferred w budget
    if a.status ≠ .ok ∨ w.pendingHead ≠ none then (true, a.status, budget, w)
    else endpointDispatchLoop w budget n

/-- The slots' share of a pump. -/
def endpointProgressLoop (now : Nat) : RecordEndpoint → Nat → Status → Nat → Status × RecordEndpoint
  | w, _, ret, 0 => (ret, w)
  | w, budget, ret, n + 1 =>
    let i := w.cursor
    let (step, w) := endpointProgress { w with cursor := (i + 1) % w.capacity } i now
    -- a failed send of one stream does not end the Channel
    let ret := if ret = .ok ∧ step ≠ .ok ∧ step ≠ .again then step else ret
    let (budget, w) := endpointApplyDeferred w budget
    if w.pendingHead ≠ none then (ret, w) else endpointProgressLoop now w budget ret n

/-- The slots' share of a pump, after the clock was read. -/
def endpointProgressAll (w : RecordEndpoint) (budget : Nat) : Status × RecordEndpoint :=
  let (clock, w) := endpointNow w
  endpointProgressLoop (clock.getD uint64Max) w budget .ok (min w.config.progressLimit w.capacity)

/-- `tr_rpc_record_endpoint_pump_on_owner` at depth zero. -/
def endpointPump (w : RecordEndpoint) : Status × RecordEndpoint :=
  let (budget, w) := endpointApplyDeferred w w.config.progressLimit
  if w.pendingHead ≠ none then (.ok, w)
  else if w.dispatch then
    let (a, w) := w.callOut
    let (budget, w) := endpointApplyDeferred w budget
    if a.status ≠ .ok ∨ w.pendingHead ≠ none then (a.status, w)
    else
      match endpointDispatchLoop w budget
          (min w.config.progressLimit w.config.dispatchCapacity) with
      | (true, ret, _, w) => (ret, w)
      | (false, _, budget, w) => endpointProgressAll w budget
  else endpointProgressAll w budget

/-! ## Steps -/

/-- `tr_endpoint_event` at depth zero, before its pump. -/
def endpointEvent (w : RecordEndpoint) (stream : Nat) (kind : EventKind) : RecordEndpoint :=
  match endpointFind w stream with
  | none => if kind = .opened then endpointOpenSlot w stream false else w
  | some i =>
    let w := w.put i ((w.slots i).mark kind)
    if (w.slots i).call.isSome ∧ (w.slots i).terminal = false then
      (dispatchEvent w stream kind).2
    else if (w.slots i).terminal = false ∧ rpcRecordIsTerminalEvent kind then
      endpointDefer w i kind
    else w

/-- `tr_endpoint_data` at depth zero. -/
def endpointData (w : RecordEndpoint) (stream : Nat) : RecordEndpoint :=
  match endpointFind w stream with
  | none => w
  | some i =>
    let slot := w.slots i
    if slot.terminal = false ∧ (slot.pendingEvent = none ∨ slot.pendingEvent = some .opened) then
      let w := endpointAdmit w i
      if (w.slots i).call.isSome ∧ (w.slots i).terminal = false then w.callOut.2 else w
    else w

/-- The aborts of `tr_rpc_record_endpoint_close_on_owner`. -/
def endpointAbortAll : RecordEndpoint → List Nat → RecordEndpoint
  | w, [] => w
  | w, i :: rest =>
    if (w.slots i).active ∧ (w.slots i).terminal = false ∧ (w.slots i).call.isSome then
      endpointAbortAll w.callOut.2 rest
    else endpointAbortAll w rest

/-- A slot that keeps the endpoint from being closed. -/
def EndpointSlot.busy (slot : EndpointSlot) : Bool :=
  slot.active && (!slot.terminal || !slot.reported || slot.pendingEvent.isSome ||
    (!slot.dead && !slot.closeAccepted && !slot.resetAccepted))

/-- Stop the dispatcher.  It gives back the calls it holds, and does not touch
the Channel. -/
def RecordEndpoint.teardown (w : RecordEndpoint) : Status × RecordEndpoint :=
  let (a, w) := w.answer
  let w := (a.upcalls.filter Upcall.isTerminal).foldl endpointUpcall w
  (a.status, if a.status = .ok then { w with dispatch := false } else w)

/-- `tr_endpoint_detach`, and then `tr_endpoint_free`. -/
def endpointFree (w : RecordEndpoint) : RecordEndpoint :=
  let (a, w) := w.answer
  if a.status = .ok then { w with freed := true } else w

/-- `tr_rpc_record_endpoint_close_on_owner` after its pump. -/
def endpointCloseTail (w : RecordEndpoint) : RecordEndpoint :=
  if (List.range w.capacity).any fun i => (w.slots i).busy then w
  else if w.dispatch then
    match w.teardown with
    | (.ok, w) => endpointFree w
    | (_, w) => w
  else endpointFree w

/-- `tr_rpc_record_endpoint_close_on_owner`. -/
def endpointClose (w : RecordEndpoint) : RecordEndpoint :=
  let w := { w with stopping := true }
  let w := if w.dispatch then endpointAbortAll w (List.range w.capacity) else w
  match endpointPump w with
  | (.ok, w) => endpointCloseTail w
  | (_, w) => w

/-- The reports of `tr_rpc_record_endpoint_reap_stopped`. -/
def endpointReapLoop : RecordEndpoint → List Nat → RecordEndpoint
  | w, [] => w
  | w, i :: rest =>
    if (w.slots i).active ∧ (w.slots i).reported = false then
      endpointReapLoop (endpointReport (w.put i { w.slots i with
        result := ⟨rpcStatusCancelled, .ownerStopped, false⟩ }) i) rest
    else endpointReapLoop w rest

/-- `tr_rpc_record_endpoint_reap_stopped` once the dispatcher is gone.  The
guard is taken again, and given back after the reports. -/
def endpointReapTail (w : RecordEndpoint) : RecordEndpoint :=
  let (acquired, w) := w.answer
  if acquired.status ≠ .ok then w
  else
    let (release, w) := (endpointReapLoop w (List.range w.capacity)).answer
    if release.status = .ok then endpointFree w else w

/-- `tr_rpc_record_endpoint_reap_stopped`. -/
def endpointReapStopped (w : RecordEndpoint) : RecordEndpoint :=
  let (acquired, w) := w.answer
  if acquired.status ≠ .ok then w
  else
    let (released, w) := { w with cleanup := true, stopping := true }.answer
    if released.status ≠ .ok then w
    else if w.dispatch then
      match w.teardown with
      | (.ok, w) => endpointReapTail w
      | (_, w) => w
    else endpointReapTail w

/-- What can happen to an endpoint.  While `progress_notify` runs, an event
does not pump. -/
inductive EndpointStep
  | event (stream : Nat) (kind : EventKind) (notifying : Bool) (script : List Answer)
  | pump (script : List Answer)
  | close (script : List Answer)
  | reap (script : List Answer)
  deriving DecidableEq, Repr

def endpointDeliver (w : RecordEndpoint) (stream : Nat) (notifying : Bool) :
    EventKind → RecordEndpoint
  | .data _ _ => endpointData w stream
  | kind =>
    let w := endpointEvent w stream kind
    if notifying ∨ w.cleanup then w else (endpointPump w).2

/-- A step.  The owner's calls are refused once the endpoint is being reaped,
and nothing happens to an endpoint that is gone. -/
def endpointStep (w : RecordEndpoint) (step : EndpointStep) : Option RecordEndpoint :=
  if w.freed then none
  else match step with
    | .event stream kind notifying script =>
      (channelAnnounce { w with script := script } stream kind).map fun w =>
        endpointDeliver w stream notifying kind
    | .pump script =>
      if w.cleanup then none else some (endpointPump { w with script := script }).2
    | .close script =>
      if w.cleanup then none else some (endpointClose { w with script := script })
    | .reap script => some (endpointReapStopped { w with script := script })

def endpointRun (w : RecordEndpoint) (steps : List EndpointStep) : Option RecordEndpoint :=
  Lib.runSteps endpointStep w steps

/-- `tr_rpc_record_endpoint_create_on_owner` and a successful start. -/
def endpointCreate (config : EndpointConfig) : RecordEndpoint where
  config := config
  slots := fun _ => {}
  cursor := 0
  pendingHead := none
  pendingTail := none
  stopping := false
  cleanup := false
  dispatch := true
  freed := false
  live := []
  opened := 0
  calls := []
  admitted := 0
  script := []
  reports := []
  lost := []
  late := []
  deferred := []
  applied := []
  handed := []

end Trpc
