import Trpc.Rpc.CallBook
import Trpc.Rpc.RecordState

/-!
# The client host

`rpc_record_client.c`: a table of call slots, pumped by the owner of a reactor.

Two things decide what may happen inside what.  `depth` counts the entries of the
host that are on the stack; a transport callback that comes in while it is not
zero only leaves a fact in the slot.  `callbackDepth` counts the application
callbacks on the stack; while it is not zero no terminal callback is made.  An
application callback runs with both of them positive, so what it calls into the
host makes no further callback.  A callback is therefore a list of `Reentry`,
and the functions that can make callbacks take them as part of their answers.

The layers below are the binding (`rpc_record_stream.c`), the Channel, the clock
and the memory pools.  What they return is an argument here and is not
restricted: an answer holds a status, what the binding reports through its
terminal bridge, and the transport callbacks that came in meanwhile.

The fields `notes`, `admitted`, `starts`, `snapshots` and `freed` record what the
application sees.
-/

namespace Trpc

/-! ## State -/

/-- `struct tr_stream_handle`, within one Channel. -/
structure RecordStreamHandle where
  slot : Nat
  generation : Nat
  deriving DecidableEq, Repr

/-- The records that a client sends after OPEN. -/
inductive RequestKind
  | message
  | halfClose
  deriving DecidableEq, Repr

/-- `struct tr_record_client_slot`.  `unaryLen` is the length of `unary_body`, and
`hasWritable` and `hasMetadata` say whether the optional callbacks are set. -/
structure ClientSlot where
  stream : RecordStreamHandle := ⟨0, 0⟩
  binding : Bool := false
  method : Option RpcMethodDesc := none
  hasWritable : Bool := false
  hasMetadata : Bool := false
  unaryLen : Nat := 0
  unaryPending : Option RequestKind := none
  unaryMode : Bool := false
  generation : Nat := 0
  deadline : Nat := 0
  peerWindow : Nat := 0
  status : UInt32 := 0
  delivery : RpcDelivery := .onOwner
  pendingEvent : Option EventKind := none
  metadataSize : Nat := 0
  receiving : Nat := 0
  sending : Nat := 0
  active : Bool := false
  routed : Bool := false
  accepted : Bool := false
  openPending : Bool := false
  writable : Bool := false
  peerWindowKnown : Bool := false
  terminal : Bool := false
  reported : Bool := false
  peerFinal : Bool := false
  peerClosed : Bool := false
  dead : Bool := false
  closeAccepted : Bool := false
  resetAccepted : Bool := false
  publicMode : Bool := false
  sendPoolWaiting : Bool := false

/-- `struct tr_rpc_record_client`. -/
structure RecordClient where
  methods : List RpcMethodDesc
  capacity : Nat
  progressLimit : Nat
  routeCapacity : Nat
  slots : Nat → ClientSlot := fun _ => {}
  routes : Nat → Nat := fun _ => 0
  sendPool : Bool := false
  counters : SemanticCounters := {}
  tlsFailed : Bool := false
  cursor : Nat := 0
  generation : Nat := 0
  depth : Nat := 0
  callbackDepth : Nat := 0
  started : Bool := false
  stopping : Bool := false
  cleanup : Bool := false
  handlerLive : Bool := false
  timerLive : Bool := false
  progress : Bool := false
  draining : Bool := false
  progressValid : Bool := false
  progressDrained : Bool := false
  progressActive : Bool := false
  freed : Bool := false
  notes : List (Nat × CallNote) := []
  admitted : List Nat := []
  starts : List (Nat × Status) := []
  snapshots : List (Except Status Nat × Nat) := []

namespace RecordClient

def setSlot (c : RecordClient) (i : Nat) (slot : ClientSlot) : RecordClient :=
  { c with slots := Function.update c.slots i slot }

def modifySlot (c : RecordClient) (i : Nat) (f : ClientSlot → ClientSlot) : RecordClient :=
  c.setSlot i (f (c.slots i))

/-- `++client->depth`. -/
def enter (c : RecordClient) : RecordClient := { c with depth := c.depth + 1 }

/-- `--client->depth`. -/
def leave (c : RecordClient) : RecordClient := { c with depth := c.depth - 1 }

/-- `tr_record_client_owner`, on the owner's thread. -/
def owner (c : RecordClient) : Bool :=
  !c.cleanup && !c.progressActive

/-- How many accepted calls have not been reported. -/
def unreported (c : RecordClient) : Nat :=
  ((Finset.range c.capacity).filter fun i =>
    (c.slots i).accepted && !(c.slots i).reported).card

end RecordClient

/-! ## The binding -/

/-- What a call into the binding returns, and what its terminal bridge is told
while the call runs. -/
structure BindingAnswer where
  status : Status := .ok
  terminal : Option (UInt32 × RpcDelivery) := none

/-- `tr_record_client_terminal`. -/
def ClientSlot.bridge (slot : ClientSlot) (status : UInt32) (delivery : RpcDelivery) : ClientSlot :=
  if slot.terminal then slot
  else { slot with
    terminal := true
    status := status
    delivery := delivery
    writable := false }

/-- A call into the binding of a slot: abort, event, send or reap. -/
def ClientSlot.bindingCall (slot : ClientSlot) (answer : BindingAnswer) : Status × ClientSlot :=
  if slot.binding then
    match answer.terminal with
    | none => (answer.status, slot)
    | some (status, delivery) => (answer.status, slot.bridge status delivery)
  else (.errInvalid, slot)

/-- `tr_rpc_record_is_terminal_event`. -/
def rpcRecordIsTerminalEvent : EventKind → Bool
  | .remoteClosed | .closed | .error _ | .reset _ | .refused => true
  | .opened | .writable | .data _ _ => false

/-- `tr_record_client_defer`. -/
def ClientSlot.defer (slot : ClientSlot) (event : EventKind) : ClientSlot :=
  if rpcRecordIsTerminalEvent event ∧
      (slot.pendingEvent = none ∨ slot.pendingEvent = some .remoteClosed) then
    { slot with pendingEvent := some event }
  else slot

/-- `tr_record_client_apply_pending`.  Inside a receive the binding is asked to
abort, elsewhere it is given the event. -/
def ClientSlot.applyPending (slot : ClientSlot) (answer : BindingAnswer) : ClientSlot :=
  if slot.pendingEvent = none ∨ slot.sending ≠ 0 then slot
  else if slot.binding = false ∨ slot.terminal = true then
    { slot with pendingEvent := none }
  else
    let (ret, slot) := slot.bindingCall answer
    if ret = .ok ∨ ret = .errState then { slot with pendingEvent := none } else slot

/-- `tr_record_client_time` and then `tr_record_client_expire`.  A clock that
fails ends the call as well. -/
def ClientSlot.checkTime (slot : ClientSlot) (clock : Option Nat)
    (failed expired : BindingAnswer) : ClientSlot :=
  match clock with
  | none =>
    if slot.accepted ∧ slot.binding ∧ slot.terminal = false then
      (slot.bindingCall failed).2
    else slot
  | some now =>
    if slot.binding ∧ slot.terminal = false ∧ slot.deadline ≠ 0 ∧
        slot.deadline ≤ now ∧ slot.sending = 0 then
      (slot.bindingCall expired).2
    else slot

/-- `tr_record_client_clear_unary`. -/
def ClientSlot.clearUnary (slot : ClientSlot) : ClientSlot :=
  { slot with unaryLen := 0, unaryPending := none }

/-! ## Transport callbacks that come in while the host is busy -/

/-- What an event proves about the stream. -/
def ClientSlot.noteStream (slot : ClientSlot) : EventKind → ClientSlot
  | .remoteClosed => { slot with peerClosed := true }
  | .closed => { slot with peerClosed := true, dead := true }
  | .error _ => { slot with dead := true }
  | .refused => { slot with dead := true }
  | .reset _ => { slot with resetAccepted := true }
  | .opened | .writable | .data _ _ => slot

/-- The peer's window, once the stream is open. -/
def ClientSlot.notePeerWindow (slot : ClientSlot) (flow : Option Nat) : ClientSlot :=
  if slot.peerWindowKnown then slot
  else match flow with
    | some limit => { slot with peerWindow := limit, peerWindowKnown := true }
    | none => slot.defer (.error Status.errState.code)

/-- `tr_record_client_event` up to its test of `depth`.  `flow` is the send limit
that `tr_stream_get_flow_state` answers. -/
def ClientSlot.noteEvent (slot : ClientSlot) (event : EventKind) (flow : Option Nat) : ClientSlot :=
  let slot := slot.noteStream event
  let slot := if event = .opened then slot.notePeerWindow flow else slot
  let slot := slot.defer event
  if event = .writable then { slot with writable := true } else slot

/-- `tr_record_client_data` while the host is busy. -/
def ClientSlot.noteData (slot : ClientSlot) : ClientSlot :=
  if slot.binding = false ∨ slot.accepted = false ∨ slot.terminal = true then slot
  else slot.defer (.error Status.errState.code)

/-- A transport callback that comes in while the host is busy. -/
inductive TransportNote
  | event (stream : RecordStreamHandle) (event : EventKind) (flow : Option Nat)
  | data (stream : RecordStreamHandle)

namespace RecordClient

/-- `tr_record_client_find`. -/
def find (c : RecordClient) (stream : RecordStreamHandle) : Option Nat :=
  if stream.slot ≥ c.routeCapacity then none
  else
    let route := c.routes stream.slot
    if route = 0 ∨ c.capacity < route then none
    else
      let slot := c.slots (route - 1)
      if slot.active ∧ slot.routed ∧ slot.stream = stream then some (route - 1) else none

/-- `tr_record_client_unroute`. -/
def unroute (c : RecordClient) (i : Nat) : RecordClient :=
  let slot := c.slots i
  let c := if slot.routed ∧ slot.stream.slot < c.routeCapacity ∧
      c.routes slot.stream.slot = i + 1 then
    { c with routes := Function.update c.routes slot.stream.slot 0 } else c
  c.modifySlot i fun slot => { slot with routed := false }

def takeNote (c : RecordClient) : TransportNote → RecordClient
  | .event stream event flow =>
    match c.find stream with
    | none => c
    | some i => c.modifySlot i fun slot => slot.noteEvent event flow
  | .data stream =>
    match c.find stream with
    | none => c
    | some i => c.modifySlot i ClientSlot.noteData

/-- The transport callbacks that come in during a call into the Channel. -/
def takeNotes (c : RecordClient) (notes : List TransportNote) : RecordClient :=
  notes.foldl takeNote c

end RecordClient

/-! ## Sending a record -/

structure SendAnswer where
  inside : List TransportNote := []
  sent : BindingAnswer := {}
  pending : BindingAnswer := {}

namespace RecordClient

/-- `tr_record_client_send_record`. -/
def sendRecord (c : RecordClient) (i : Nat) (answer : SendAnswer) : Status × RecordClient :=
  let c := c.modifySlot i fun slot => { slot with sending := slot.sending + 1 }
  let c := c.takeNotes answer.inside
  let (ret, slot) := (c.slots i).bindingCall answer.sent
  let c := c.setSlot i { slot with sending := slot.sending - 1 }
  (ret, c.modifySlot i fun slot => slot.applyPending answer.pending)

/-- `tr_record_client_report`, with what the application does in its callback. -/
def reportWith (callback : RecordClient → RecordClient) (c : RecordClient) (i : Nat) :
    RecordClient :=
  let slot := c.slots i
  if slot.accepted = false ∨ slot.terminal = false ∨ slot.reported = true ∨
      c.callbackDepth ≠ 0 ∨ slot.sending ≠ 0 then c
  else
    let c := c.setSlot i { slot.clearUnary with reported := true }
    let c := callback { c with
      counters := rpcRecordSemanticFinish c.counters slot.status
      notes := c.notes ++ [(slot.generation, .terminal slot.status slot.delivery)]
      callbackDepth := c.callbackDepth + 1 }
    { c with callbackDepth := c.callbackDepth - 1 }

end RecordClient

/-! ## Requests and cancellation -/

/-- `struct tr_rpc_record_client_handle`, within one host. -/
structure CallHandle where
  slot : Nat
  generation : Nat
  deriving DecidableEq, Repr

/-- The arguments of `tr_record_client_request`: the length of `*body`, and that
of `message` if one is given. -/
structure RequestArgs where
  kind : RequestKind
  bodyLen : Nat := 0
  message : Option Nat := none
  automatic : Bool := false

structure RequestAnswer where
  pending : BindingAnswer := {}
  clock : Option Nat := none
  failed : BindingAnswer := {}
  expired : BindingAnswer := {}
  snapshot : Status := .ok
  bindingTerminal : Bool := false
  applied : Status := .ok
  acquire : Status := .ok
  send : SendAnswer := {}

structure CancelAnswer where
  pending : BindingAnswer := {}
  abort : BindingAnswer := {}

namespace RecordClient

/-- `tr_record_client_lookup`. -/
def lookup (c : RecordClient) (handle : CallHandle) : Except Status Nat :=
  if c.owner = false then .error .errState
  else if handle.generation = 0 ∨ c.capacity ≤ handle.slot then .error .errStale
  else
    let slot := c.slots handle.slot
    if slot.active = false ∨ slot.accepted = false ∨
        slot.generation ≠ handle.generation then .error .errStale
    else if c.stopping ∨ slot.terminal then .error .errState
    else .ok handle.slot

/-- `header.encoded_size` of the record that a request sends. -/
def requestSize (args : RequestArgs) : Nat :=
  match args.kind with
  | .message => args.message.getD args.bodyLen
  | .halfClose => 0

/-- The part of `tr_record_client_request` that builds and sends the record. -/
def requestSend (c : RecordClient) (i : Nat) (args : RequestArgs)
    (answer : RequestAnswer) : Status × RecordClient :=
  let slot := c.slots i
  if slot.peerWindow < rpcRecordHeaderSize + requestSize args then (.errBadLength, c)
  else match args.message with
    | none => c.sendRecord i answer.send
    | some len =>
      if ∀ method ∈ slot.method, method.maxRequestBytes.toNat < len then (.errBadLength, c)
      else if answer.applied ≠ .ok then (answer.applied, c)
      else if len = 0 then c.sendRecord i answer.send
      else match answer.acquire with
        | .ok =>
          (c.modifySlot i fun slot => { slot with sendPoolWaiting := false }).sendRecord i
            answer.send
        | .again =>
          (.again, c.modifySlot i fun slot => { slot with sendPoolWaiting := true })
        | ret => (ret, c)

/-- The part of `tr_record_client_request` between its entry and its report. -/
def requestBody (c : RecordClient) (i : Nat) (args : RequestArgs)
    (answer : RequestAnswer) : Status × RecordClient :=
  let c := c.modifySlot i fun slot => slot.applyPending answer.pending
  let c := c.modifySlot i fun slot =>
    slot.checkTime answer.clock answer.failed answer.expired
  if answer.clock = none then (.errSys, c)
  else if answer.snapshot ≠ .ok then (answer.snapshot, c)
  else if answer.bindingTerminal then (.errState, c)
  else if (c.slots i).openPending then (.again, c)
  else c.requestSend i args answer

/-- `tr_record_client_request`. -/
def requestWith (callback pump : RecordClient → RecordClient) (c : RecordClient)
    (handle : CallHandle) (args : RequestArgs) (answer : RequestAnswer) :
    Status × RecordClient :=
  match c.lookup handle with
  | .error ret => (ret, c)
  | .ok i =>
    let slot := c.slots i
    if c.tlsFailed then (.errState, c)
    else if slot.sending ≠ 0 ∨ (slot.unaryMode = true ∧ args.automatic = false) then
      (.errState, c)
    else if args.message.isSome ∧ (slot.publicMode = false ∨ c.sendPool = false) then
      (.errUnsupported, c)
    else
      let (ret, c) := c.enter.requestBody i args answer
      let c := if ret = .again then
        c.modifySlot i fun slot => { slot with writable := true } else c
      let c := (reportWith callback c i).leave
      (ret, if c.depth = 0 then pump c else c)

/-- `tr_rpc_record_client_cancel_on_owner`. -/
def cancelWith (callback pump : RecordClient → RecordClient) (c : RecordClient)
    (handle : CallHandle) (answer : CancelAnswer) : RecordClient :=
  match c.lookup handle with
  | .error _ => c
  | .ok i =>
    if c.tlsFailed = true ∨ (c.slots i).sending ≠ 0 then c
    else
      let c := c.enter.modifySlot i fun slot => slot.applyPending answer.pending
      let c := c.modifySlot i fun slot =>
        if slot.terminal then slot else (slot.bindingCall answer.abort).2
      let c := (reportWith callback c i).leave
      if c.depth = 0 then pump c else c

/-- `tr_rpc_record_client_get_semantic_stats_on_owner`. -/
def stats (c : RecordClient) : RecordClient :=
  if c.owner then
    { c with snapshots := c.snapshots ++
      [((rpcRecordSemanticStatsRead c.counters).map (·.callsInflight), c.unreported)] }
  else c

/-- `tr_rpc_record_client_begin_drain_on_owner`. -/
def beginDrainWith (publish : RecordClient → RecordClient) (c : RecordClient) : RecordClient :=
  if c.owner = true ∧ c.started = true ∧ c.stopping = false then
    publish { c with draining := true }
  else c

end RecordClient

/-! ## Application callbacks -/

/-- What the application does in a callback: it sends, closes its half, cancels,
asks for a drain or for the counters, or uses the Channel, which may call back.
`start`, `pump`, `close`, `reap` and the setters answer a state error there. -/
inductive Reentry
  | request (handle : CallHandle) (args : RequestArgs) (answer : RequestAnswer)
  | cancel (handle : CallHandle) (answer : CancelAnswer)
  | beginDrain
  | stats
  | transport (note : TransportNote)
  | markTlsFailed

namespace RecordClient

/-- In a callback no terminal callback is due and no pump runs, so both are the
identity. -/
def reenter (c : RecordClient) : Reentry → RecordClient
  | .request handle args answer => (requestWith id id c handle args answer).2
  | .cancel handle answer => cancelWith id id c handle answer
  | .beginDrain => beginDrainWith id c
  | .stats => c.stats
  | .transport note => c.takeNote note
  | .markTlsFailed => { c with tlsFailed := true }

def reenterAll (script : List Reentry) (c : RecordClient) : RecordClient :=
  script.foldl reenter c

/-- A callback that is not the terminal one. -/
def tell (c : RecordClient) (i : Nat) (note : CallNote) (script : List Reentry) : RecordClient :=
  let c := reenterAll script { c with
    notes := c.notes ++ [((c.slots i).generation, note)]
    callbackDepth := c.callbackDepth + 1 }
  { c with callbackDepth := c.callbackDepth - 1 }

/-- `tr_record_client_report`. -/
def report (c : RecordClient) (i : Nat) (script : List Reentry) : RecordClient :=
  reportWith (reenterAll script) c i

end RecordClient

/-! ## Retiring a slot -/

structure RetireAnswer where
  inside : List TransportNote := []
  reset : Status := .ok
  stopCredit : Status := .ok
  close : Status := .ok
  destroy : Status := .ok
  destroyed : Bool := true

/-- The answer to `tr_stream_stop_credit_on_owner` and then `tr_stream_close`. -/
def RetireAnswer.closed (answer : RetireAnswer) : Status :=
  if answer.stopCredit = .ok then answer.close else answer.stopCredit

namespace RecordClient

/-- The part of `tr_record_client_retire` that gives the stream back: by a RESET,
or by a CLOSE when the peer has ended the call. -/
def releaseStream (c : RecordClient) (i : Nat) (answer : RetireAnswer) : Status × RecordClient :=
  let slot := c.slots i
  if slot.dead ∨ slot.closeAccepted ∨ slot.resetAccepted then (.ok, c)
  else
    let ret := if slot.peerFinal then answer.closed else answer.reset
    let c := c.takeNotes answer.inside
    if ret = .errClosed ∨ ret = .errStale then
      (.ok, c.modifySlot i fun slot => { slot with dead := true })
    else if ret ≠ .ok then (ret, c)
    else if slot.peerFinal then
      (.ok, c.modifySlot i fun slot => { slot with closeAccepted := true })
    else (.ok, c.modifySlot i fun slot => { slot with resetAccepted := true })

/-- `tr_record_client_retire`.  The binding is gone even when its memory could not
be given back to the budget. -/
def retire (c : RecordClient) (i : Nat) (answer : RetireAnswer) : Status × RecordClient :=
  let slot := c.slots i
  if slot.accepted = true ∧ (slot.terminal = false ∨ slot.reported = false) then (.again, c)
  else
    let c := c.modifySlot i ClientSlot.clearUnary
    let (ret, c) := c.releaseStream i answer
    if ret ≠ .ok then (ret, c)
    else
      let c := c.unroute i
      if (c.slots i).binding = true ∧ answer.destroy ≠ .ok then
        (answer.destroy, c.modifySlot i fun slot =>
          { slot with binding := !answer.destroyed })
      else (.ok, c.setSlot i {})

end RecordClient

/-! ## Progress of one slot -/

structure UnaryAnswer where
  request : RequestAnswer := {}
  report : List Reentry := []
  abort : BindingAnswer := {}

structure ProgressAnswer where
  pending : BindingAnswer := {}
  clock : Option Nat := none
  failed : BindingAnswer := {}
  expired : BindingAnswer := {}
  openSend : SendAnswer := {}
  openAbort : BindingAnswer := {}
  unary : UnaryAnswer := {}
  unaryNext : UnaryAnswer := {}
  poolFree : Bool := true
  writable : List Reentry := []
  writablePending : BindingAnswer := {}
  report : List Reentry := []
  retire : RetireAnswer := {}

namespace RecordClient

/-- The OPEN record of a call.  The flag says that the call can go on. -/
def sendOpen (c : RecordClient) (i : Nat) (answer : ProgressAnswer) : Bool × RecordClient :=
  let slot := c.slots i
  if slot.openPending = false then (true, c)
  else if slot.peerWindowKnown = false then (false, c)
  else
    let (ret, c) :=
      if slot.peerWindow < rpcRecordHeaderSize + slot.metadataSize then (.errBadLength, c)
      else c.sendRecord i answer.openSend
    match ret with
    | .ok => (true, c.modifySlot i fun slot =>
        { slot with openPending := false, writable := true })
    | .again => (false, c)
    | _ => (true, c.modifySlot i fun slot => (slot.bindingCall answer.openAbort).2)

/-- One turn of the loop that sends a unary request.  The flag says that the
record was taken. -/
def unaryTurn (c : RecordClient) (i : Nat) (kind : RequestKind) (answer : UnaryAnswer) :
    Bool × RecordClient :=
  let slot := c.slots i
  let (ret, c) := requestWith (reenterAll answer.report) id c ⟨i, slot.generation⟩
    { kind := kind, bodyLen := slot.unaryLen, automatic := true } answer.request
  if ret ≠ .ok then
    (false, if ret ≠ .again then
      c.modifySlot i fun slot =>
        if slot.terminal then slot else (slot.bindingCall answer.abort).2
      else c)
  else (true, c.modifySlot i fun slot =>
    if slot.terminal then slot
    else { slot with
      unaryPending := match kind with
        | .message => some .halfClose
        | .halfClose => none })

/-- The record that the loop sends next, if it goes on. -/
def unaryReady (c : RecordClient) (i : Nat) : Option RequestKind :=
  let slot := c.slots i
  if slot.terminal = false ∧ slot.openPending = false ∧ c.callbackDepth = 0 then
    slot.unaryPending
  else none

/-- The loop itself: the body and then the half close, so two turns at most. -/
def unarySend (c : RecordClient) (i : Nat) (answer : ProgressAnswer) : RecordClient :=
  match c.unaryReady i with
  | none => c
  | some kind =>
    let (more, c) := c.unaryTurn i kind answer.unary
    if more then
      match c.unaryReady i with
      | none => c
      | some kind => (c.unaryTurn i kind answer.unaryNext).2
    else c

/-- The writable callback. -/
def tellWritable (c : RecordClient) (i : Nat) (answer : ProgressAnswer) : RecordClient :=
  let slot := c.slots i
  if slot.terminal = false ∧ slot.unaryMode = false ∧ slot.writable = true ∧
      slot.hasWritable = true ∧ c.callbackDepth = 0 ∧
      (slot.sendPoolWaiting = false ∨ answer.poolFree = true) then
    let c := c.modifySlot i fun slot =>
      { slot with writable := false, sendPoolWaiting := false }
    let c := c.tell i .writable answer.writable
    c.modifySlot i fun slot => slot.applyPending answer.writablePending
  else c

/-- The part of `tr_record_client_progress` for a call that is still going on. -/
def progressLive (c : RecordClient) (i : Nat) (answer : ProgressAnswer) : Status × RecordClient :=
  let (more, c) := c.sendOpen i answer
  if more = false then (.again, c)
  else
    let c := c.unarySend i answer
    let c := c.tellWritable i answer
    let c := c.report i answer.report
    if (c.slots i).terminal then c.retire i answer.retire else (.ok, c)

/-- `tr_record_client_progress`. -/
def progressSlot (c : RecordClient) (i : Nat) (answer : ProgressAnswer) : Status × RecordClient :=
  if (c.slots i).active = false then (.ok, c)
  else
    let c := c.modifySlot i fun slot => slot.applyPending answer.pending
    let timed := (c.slots i).accepted && !(c.slots i).terminal
    let ret := if timed = true ∧ answer.clock = none then Status.errSys else .ok
    let c := if timed then
      c.modifySlot i fun slot =>
        slot.checkTime answer.clock answer.failed answer.expired else c
    if (c.slots i).accepted = false ∨ (c.slots i).terminal = true then
      let (retired, c) := (c.report i answer.report).retire i answer.retire
      (if retired = .ok then ret else retired, c)
    else if ret ≠ .ok then (ret, c)
    else c.progressLive i answer

end RecordClient

/-! ## Transport callbacks that find the host idle -/

/-- A record that the binding hands to `tr_record_client_received`. -/
structure ReceivedTurn where
  kind : RpcRecordKind
  script : List Reentry := []
  pending : BindingAnswer := {}

structure DataAnswer where
  pending : BindingAnswer := {}
  clock : Option Nat := none
  failed : BindingAnswer := {}
  expired : BindingAnswer := {}
  received : List ReceivedTurn := []
  receive : BindingAnswer := {}
  receivePending : BindingAnswer := {}
  report : List Reentry := []

/-- A callback of the Channel. -/
inductive TransportCall
  | event (stream : RecordStreamHandle) (event : EventKind) (flow : Option Nat)
      (answer : ProgressAnswer)
  | data (stream : RecordStreamHandle) (answer : DataAnswer)

namespace RecordClient

/-- The callback that a record is given to, if the application set one. -/
def receivedNote (slot : ClientSlot) (kind : RpcRecordKind) : Option CallNote :=
  if slot.publicMode then
    if kind = .message then some .message
    else if slot.hasMetadata then some .metadata else none
  else some (.received kind)

/-- `tr_record_client_received`. -/
def received (i : Nat) (c : RecordClient) (turn : ReceivedTurn) : RecordClient :=
  let slot := c.slots i
  if slot.binding = false ∨ slot.accepted = false then c
  else
    let c := if turn.kind = .finalStatus then
      c.modifySlot i fun slot => { slot with peerFinal := true } else c
    if slot.reported = true ∨ c.stopping = true then c
    else
      let c := match receivedNote slot turn.kind with
        | none => c
        | some note => c.tell i note turn.script
      c.modifySlot i fun slot => slot.applyPending turn.pending

/-- `tr_rpc_record_stream_receive_on_owner` on the binding of a slot. -/
def receive (c : RecordClient) (i : Nat) (answer : DataAnswer) : RecordClient :=
  let c := c.modifySlot i fun slot => { slot with receiving := slot.receiving + 1 }
  let c := answer.received.foldl (received i) c
  let c := c.modifySlot i fun slot => (slot.bindingCall answer.receive).2
  let c := c.modifySlot i fun slot => { slot with receiving := slot.receiving - 1 }
  c.modifySlot i fun slot => slot.applyPending answer.receivePending

/-- `tr_record_client_data`, up to the progress notice. -/
def dataBody (c : RecordClient) (stream : RecordStreamHandle) (answer : DataAnswer) :
    RecordClient :=
  match c.find stream with
  | none => c
  | some i =>
    let slot := c.slots i
    if slot.binding = false ∨ slot.accepted = false ∨ slot.terminal = true then c
    else if c.depth ≠ 0 then c.modifySlot i ClientSlot.noteData
    else
      let c := c.enter.modifySlot i fun slot => slot.applyPending answer.pending
      let c := c.modifySlot i fun slot =>
        slot.checkTime answer.clock answer.failed answer.expired
      let c := if (c.slots i).terminal = false then c.receive i answer else c
      (c.report i answer.report).leave

/-- `tr_record_client_event`, up to the progress notice. -/
def eventBody (c : RecordClient) (stream : RecordStreamHandle) (event : EventKind)
    (flow : Option Nat) (answer : ProgressAnswer) : RecordClient :=
  match c.find stream with
  | none => c
  | some i =>
    let c := c.modifySlot i fun slot => slot.noteEvent event flow
    if c.depth ≠ 0 then c else (c.enter.progressSlot i answer).2.leave

/-- A callback of the Channel, up to the progress notice. -/
def transportBody (c : RecordClient) : TransportCall → RecordClient
  | .event stream event flow answer => c.eventBody stream event flow answer
  | .data stream answer => c.dataBody stream answer

/-- The Channel's callback finds a call to act on and the host not busy. -/
def handles (c : RecordClient) : TransportCall → Bool
  | .event stream _ _ _ => (c.find stream).isSome && c.depth = 0
  | .data stream _ =>
    match c.find stream with
    | none => false
    | some i => (c.slots i).binding && (c.slots i).accepted && !(c.slots i).terminal &&
        c.depth = 0

/-- No slot holds a call. -/
def idle (c : RecordClient) : Bool :=
  (List.range c.capacity).all fun i => !(c.slots i).active

/-- `tr_record_client_publish_progress`.  The observer may use the Channel, which
calls back; the host itself answers it a state error, and a second notice is not
made while the first one runs. -/
def publishProgress (inside : List TransportCall) (c : RecordClient) : RecordClient :=
  if c.progress = false ∨ c.draining = false ∨ c.cleanup = true ∨ c.depth ≠ 0 ∨
      c.callbackDepth ≠ 0 ∨ c.progressActive = true then c
  else
    let drained := c.idle
    if c.progressValid = true ∧ c.progressDrained = drained then c
    else
      let c := { c with
        progressValid := true
        progressDrained := drained
        progressActive := true }
      { inside.foldl transportBody c with progressActive := false }

/-- A callback of the Channel. -/
def transport (c : RecordClient) (call : TransportCall) (inside : List TransportCall) :
    RecordClient :=
  if c.handles call then publishProgress inside (c.transportBody call)
  else c.transportBody call

end RecordClient

/-! ## The entries of the host -/

structure PumpAnswer where
  slots : Nat → ProgressAnswer := fun _ => {}
  progress : List TransportCall := []

namespace RecordClient

/-- The loop of `tr_rpc_record_client_pump_on_owner`: `turns` slots from the
cursor on.  The first error that is not `TR_AGAIN` is kept. -/
def pumpLoop (c : RecordClient) (answer : Nat → ProgressAnswer) : Nat → Status × RecordClient
  | 0 => (.ok, c)
  | turns + 1 =>
    let (ret, c) := c.pumpLoop answer turns
    let i := c.cursor
    let c := { c with cursor := (c.cursor + 1) % c.capacity }
    let (result, c) := c.progressSlot i (answer turns)
    (if ret = .ok ∧ result ≠ .again then result else ret, c)

/-- `tr_rpc_record_client_pump_on_owner`, which is also the timer's callback. -/
def pump (c : RecordClient) (answer : PumpAnswer) : Status × RecordClient :=
  if c.owner = false ∨ c.depth ≠ 0 ∨ c.callbackDepth ≠ 0 then (.errState, c)
  else
    let (ret, c) := c.enter.pumpLoop answer.slots (min c.progressLimit c.capacity)
    (ret, publishProgress answer.progress c.leave)

end RecordClient

/-- The arguments of `tr_record_client_call_start`.  `callbacks` says that the
callbacks and out-parameters it insists on are there, `metadata` is the answer of
`tr_rpc_v2_metadata_encode`, and `unary` the length of `unary_request`. -/
structure StartArgs where
  serviceId : UInt32
  methodId : UInt32
  callbacks : Bool := true
  publicMode : Bool := false
  hasWritable : Bool := false
  hasMetadata : Bool := false
  timeoutMs : Nat := 0
  metadata : Except Status Nat := .ok 0
  unary : Option Nat := none

structure StartAnswer where
  clock : Option Nat := none
  copy : Status := .ok
  inside : List TransportNote := []
  opened : Status := .ok
  stream : RecordStreamHandle := ⟨0, 0⟩
  create : Status := .ok
  retire : RetireAnswer := {}
  pump : PumpAnswer := {}

/-- `tr_record_client_after`. -/
def recordClientAfter (now delta : Nat) : Nat :=
  if uint64Max - now < delta then uint64Max else now + delta

namespace RecordClient

/-- The checks of `tr_record_client_call_start`: the method, the time and the slot
that the call is given. -/
def startCheck (c : RecordClient) (args : StartArgs) (answer : StartAnswer) :
    Except Status (RpcMethodDesc × Nat × Nat × Nat) :=
  if c.owner = false then .error .errState
  else if args.callbacks = false then .error .errInvalid
  else if args.publicMode = true ∧ c.sendPool = false then .error .errUnsupported
  else if c.tlsFailed = true ∨ c.started = false ∨ c.stopping = true ∨ c.depth ≠ 0 ∨
      c.callbackDepth ≠ 0 ∨ c.generation = uint64Max then .error .errState
  else if c.draining then .error .errClosed
  else match c.methods.find? fun method =>
      method.serviceId = args.serviceId ∧ method.methodId = args.methodId with
    | none => .error .errUnsupported
    | some method =>
      if args.unary.isSome ∧ args.publicMode = false then .error .errInvalid
      else if args.unary.isSome ∧ (method.requestCardinality ≠ .one ∨
          method.responseCardinality ≠ .one) then .error .errUnsupported
      else if method.maxRequestBytes.toNat < args.unary.getD 0 then .error .errBadLength
      else match args.metadata with
        | .error ret => .error ret
        | .ok metadataSize =>
          match answer.clock with
          | none => .error .errSys
          | some now =>
            match (List.range c.capacity).find? fun i => !(c.slots i).active with
            | none => .error .again
            | some i =>
              if args.unary.getD 0 ≠ 0 ∧ answer.copy ≠ .ok then .error answer.copy
              else .ok (method, metadataSize, now, i)

/-- The slot that `tr_record_client_call_start` begins with. -/
def startSlot (c : RecordClient) (args : StartArgs) (method : RpcMethodDesc)
    (metadataSize now : Nat) : ClientSlot where
  method := some method
  unaryMode := args.unary.isSome
  unaryLen := args.unary.getD 0
  unaryPending := args.unary.map fun _ => .message
  generation := c.generation + 1
  deadline := if args.timeoutMs = 0 then 0
    else recordClientAfter now (args.timeoutMs * 1000000)
  metadataSize := metadataSize
  active := true
  openPending := true

/-- `tr_record_client_call_start`. -/
def callStart (c : RecordClient) (args : StartArgs) (answer : StartAnswer) : RecordClient :=
  match c.startCheck args answer with
  | .error _ => c
  | .ok (method, metadataSize, now, i) =>
    let g := c.generation + 1
    let c := { c with generation := g }.setSlot i (c.startSlot args method metadataSize now)
    let c := c.enter.takeNotes answer.inside
    if answer.opened ≠ .ok then
      { (c.setSlot i {}).leave with starts := c.starts ++ [(g, answer.opened)] }
    else
      let c := c.modifySlot i fun slot => { slot with stream := answer.stream, routed := true }
      let c := { c with routes := Function.update c.routes answer.stream.slot (i + 1) }
      if answer.create ≠ .ok then
        let c := (c.retire i answer.retire).2.leave
        { c with starts := c.starts ++ [(g, answer.create)] }
      else
        let c := c.modifySlot i fun slot => { slot with
          binding := true
          publicMode := args.publicMode
          hasWritable := args.hasWritable
          hasMetadata := args.hasMetadata
          accepted := true }
        let c := { c with
          counters := rpcRecordSemanticStart c.counters
          admitted := c.admitted ++ [g] }
        let c := (c.leave.pump answer.pump).2
        { c with starts := c.starts ++ [(g, .ok)] }

/-- `tr_record_client_request` from outside every callback. -/
def request (c : RecordClient) (handle : CallHandle) (args : RequestArgs)
    (answer : RequestAnswer) (script : List Reentry) (after : PumpAnswer) :
    RecordClient :=
  (requestWith (reenterAll script) (fun c => (c.pump after).2) c handle args answer).2

/-- `tr_rpc_record_client_cancel_on_owner` from outside every callback. -/
def cancel (c : RecordClient) (handle : CallHandle) (answer : CancelAnswer)
    (script : List Reentry) (after : PumpAnswer) : RecordClient :=
  cancelWith (reenterAll script) (fun c => (c.pump after).2) c handle answer

/-- `tr_record_client_detach`. -/
def detach (c : RecordClient) (handler unregister : Status) : Status × RecordClient :=
  if c.handlerLive = true ∧ handler ≠ .ok then (handler, c)
  else
    let c := { c with handlerLive := false }
    if c.timerLive = true ∧ unregister ≠ .ok then (unregister, c)
    else (.ok, { c with timerLive := false })

/-- `tr_rpc_record_client_start_on_owner`. -/
def start (c : RecordClient) (clock register arm handler : Status) : RecordClient :=
  if c.owner = false ∨ c.started = true ∨ c.stopping = true ∨ c.depth ≠ 0 ∨
      c.callbackDepth ≠ 0 then c
  else
    let c := { c with started := true }
    if clock ≠ .ok ∨ register ≠ .ok then { c with stopping := true }
    else
      let c := { c with timerLive := true }
      if arm = .ok ∧ handler = .ok then { c with handlerLive := true }
      else { c with stopping := true }

/-- `tr_rpc_record_client_set_send_pool_on_owner`, with a pool that fits. -/
def setSendPool (c : RecordClient) : RecordClient :=
  if c.owner = false ∨ c.started = true ∨ c.sendPool = true ∨ c.depth ≠ 0 ∨
      c.callbackDepth ≠ 0 then c
  else { c with sendPool := true }

/-- `tr_rpc_record_client_set_progress_notify_on_owner`. -/
def setProgressNotify (c : RecordClient) (notify : Bool) (inside : List TransportCall) :
    RecordClient :=
  if c.owner = false ∨ c.depth ≠ 0 ∨ c.callbackDepth ≠ 0 then c
  else publishProgress inside { c with progress := notify, progressValid := false }

end RecordClient

/-! ## Closing and reaping -/

structure CloseAnswer where
  pending : Nat → BindingAnswer := fun _ => {}
  abort : Nat → BindingAnswer := fun _ => {}
  pump : PumpAnswer := {}
  handler : Status := .ok
  unregister : Status := .ok

/-- What the binding of a slot does when it is reaped, and the terminal callback. -/
structure ReapSlotAnswer where
  reap : BindingAnswer := {}
  destroyed : Bool := true
  script : List Reentry := []

structure ReapAnswer where
  acquire : Status := .ok
  release : Status := .ok
  slots : Nat → ReapSlotAnswer := fun _ => {}
  acquireAgain : Status := .ok
  handler : Status := .ok
  unregister : Status := .ok
  releaseAgain : Status := .ok

namespace RecordClient

/-- One turn of the loop of `tr_rpc_record_client_close_on_owner`. -/
def closeSlot (answer : CloseAnswer) (c : RecordClient) (i : Nat) : RecordClient :=
  let slot := c.slots i
  if slot.active = true ∧ slot.binding = true ∧ slot.terminal = false then
    let slot := slot.applyPending (answer.pending i)
    c.setSlot i (if slot.terminal then slot
      else (slot.bindingCall (answer.abort i)).2)
  else c

/-- `tr_rpc_record_client_close_on_owner`. -/
def close (c : RecordClient) (answer : CloseAnswer) : RecordClient :=
  if c.owner = false ∨ c.depth ≠ 0 ∨ c.callbackDepth ≠ 0 then c
  else
    let c := { c with stopping := true }.enter
    let c := ((List.range c.capacity).foldl (closeSlot answer) c).leave
    let (ret, c) := c.pump answer.pump
    if ret ≠ .ok then c
    else if c.idle = false then c
    else
      let (ret, c) := c.detach answer.handler answer.unregister
      if ret = .ok then { c with freed := true } else c

/-- One turn of the loop of `tr_rpc_record_client_reap_stopped`. -/
def reapSlot (c : RecordClient) (i : Nat) (answer : ReapSlotAnswer) : Status × RecordClient :=
  if (c.slots i).active = false then (.ok, c)
  else
    let c := c.unroute i
    let bound := (c.slots i).binding
    let c := c.modifySlot i fun slot => (slot.bindingCall answer.reap).2
    if bound = true ∧ answer.reap.status ≠ .ok then
      (answer.reap.status, c.modifySlot i fun slot =>
        { slot with binding := !answer.destroyed })
    else
      let c := c.modifySlot i fun slot => { slot with binding := false }
      let c := c.modifySlot i fun slot =>
        if slot.accepted = true ∧ slot.terminal = false then
          { slot with terminal := true, status := 1 } else slot
      let c := c.modifySlot i fun slot =>
        if slot.reported then slot else { slot with delivery := .ownerStopped }
      let c := c.report i answer.script
      (.ok, c.setSlot i {})

/-- The loop itself, which ends at the first binding that cannot be reaped. -/
def reapSlots (answer : Nat → ReapSlotAnswer) (c : RecordClient) : List Nat → Status × RecordClient
  | [] => (.ok, c)
  | i :: rest =>
    let (ret, c) := c.reapSlot i (answer i)
    if ret = .ok then reapSlots answer c rest else (ret, c)

/-- `tr_rpc_record_client_reap_stopped`. -/
def reap (c : RecordClient) (answer : ReapAnswer) : RecordClient :=
  if answer.acquire ≠ .ok ∨ c.depth ≠ 0 ∨ c.callbackDepth ≠ 0 then c
  else
    let c := { c with cleanup := true, stopping := true, progress := false }
    if answer.release ≠ .ok then c
    else
      let (ret, c) := reapSlots answer.slots c.enter (List.range c.capacity)
      let c := c.leave
      if ret ≠ .ok ∨ answer.acquireAgain ≠ .ok then c
      else
        let (ret, c) := c.detach answer.handler answer.unregister
        if ret = .ok ∧ answer.releaseAgain = .ok then { c with freed := true } else c

end RecordClient

/-! ## Runs -/

/-- What can happen to a client host from outside. -/
inductive ClientAction
  | start (clock register arm handler : Status)
  | setSendPool
  | setProgressNotify (notify : Bool) (inside : List TransportCall)
  | beginDrain (inside : List TransportCall)
  | markTlsFailed
  | stats
  | callStart (args : StartArgs) (answer : StartAnswer)
  | request (handle : CallHandle) (args : RequestArgs) (answer : RequestAnswer)
      (script : List Reentry) (after : PumpAnswer)
  | cancel (handle : CallHandle) (answer : CancelAnswer) (script : List Reentry)
      (after : PumpAnswer)
  | pump (answer : PumpAnswer)
  | transport (call : TransportCall) (inside : List TransportCall)
  | close (answer : CloseAnswer)
  | reap (answer : ReapAnswer)

/-- One of them, as long as the host exists. -/
def clientStep (c : RecordClient) (action : ClientAction) : Option RecordClient :=
  if c.freed then none
  else some <| match action with
    | .start clock register arm handler => c.start clock register arm handler
    | .setSendPool => c.setSendPool
    | .setProgressNotify notify inside => c.setProgressNotify notify inside
    | .beginDrain inside => RecordClient.beginDrainWith (.publishProgress inside) c
    | .markTlsFailed => { c with tlsFailed := true }
    | .stats => c.stats
    | .callStart args answer => c.callStart args answer
    | .request handle args answer script after => c.request handle args answer script after
    | .cancel handle answer script after => c.cancel handle answer script after
    | .pump answer => (c.pump answer).2
    | .transport call inside => c.transport call inside
    | .close answer => c.close answer
    | .reap answer => c.reap answer

/-- The host that `tr_rpc_record_client_create_on_owner` makes. -/
def RecordClient.create (methods : List RpcMethodDesc)
    (capacity progressLimit routeCapacity : Nat) : RecordClient where
  methods := methods
  capacity := capacity
  progressLimit := progressLimit
  routeCapacity := routeCapacity

end Trpc
