import Trpc.Group.ClientGroup

/-!
# The two ends of a CONTROL connection

The server's side of CONTROL (`group/pipeline_control.c` and
`transport/group/pipeline_control_transport.c`) and the client group, joined by a
connection that keeps the order of its frames.  DATA connections come and go at either
end without any order with those frames.

* `Peers.Ok` says that every frame on the way will be applied: an offer finds its index
  unused, a READY finds its member active and a place for its stream, a CANCEL names the
  present generation of its slot.
* `Peers.Ordered` is what a step must meet to keep it.
-/

namespace Trpc

open Lib Lib.Tombstones

/-! ## The server's side -/

/-- `tr_pipeline_control_offer_matches`, for an offer with the capability of its route. -/
def controlOfferMatches (p : Pipeline) (route : RoutePreface) : Bool :=
  routePrefaceValidateFields route = .ok ∧ route.role = routeData ∧
    route.ownerShardId = p.ownerShardId ∧ route.pipelineId = p.pipelineId ∧
    route.epoch = p.epoch

/-- `tr_pipeline_control_cancel_data`. -/
def controlCancelData (p : Pipeline) (route : RoutePreface) : Status × Pipeline :=
  if ¬ controlOfferMatches p route then (.errStale, p)
  else pipelineCancelDataOffer p route.member

/-- `tr_pipeline_control_cancel_data_wire`. -/
def controlCancelDataWire (p : Pipeline) (payload : List UInt8) : Status × Pipeline :=
  match controlWireDecode payload with
  | .error ret => (ret, p)
  | .ok message =>
    if message.type ≠ controlDataCancel then (.errBadType, p)
    else controlCancelData p (controlWireDataRoute message)

/-- `tr_pipeline_control_transport_message_matches`. -/
def controlTransportMessageMatches (p : Pipeline) (message : ControlWireMessage) : Bool :=
  message.ownerShardId = p.ownerShardId ∧ message.pipelineId = p.pipelineId ∧
    message.epoch = p.epoch

/-- `tr_pipeline_control_transport_frame`, for a frame of the CONTROL type: anything but
`ok` aborts CONTROL. -/
def controlTransportFrame (p : Pipeline) (payload : List UInt8) : Status × Pipeline :=
  match controlWireDecode payload with
  | .error ret => (ret, p)
  | .ok message =>
    if ¬ controlTransportMessageMatches p message ∨ message.type ≠ controlDataCancel then
      (if message.type = controlDataCancel then .errStale else .errBadType, p)
    else controlCancelDataWire p payload

/-- A message with the identity that `tr_pipeline_control_wire_identity` writes. -/
def controlMessage (p : Pipeline) (type : UInt16) (streamId : UInt32) (data : DataRef) :
    ControlWireMessage where
  type := type
  ownerShardId := p.ownerShardId
  pipelineId := p.pipelineId
  epoch := p.epoch
  streamId := streamId
  dataIndex := UInt32.ofNat data.index
  dataGeneration := UInt32.ofNat data.generation

/-- `tr_pipeline_control_transport_send_data_offer_on_owner`, once it has a buffer; the
reservation is taken back when the frame is not accepted. -/
def controlSendDataOffer (p : Pipeline) (answer : Status) : Pipeline × Option (List UInt8) :=
  match pipelineReserveData p with
  | (.ok, p', some data) =>
    let message := controlMessage p' controlDataOffer 0 data
    match controlWireEncode message with
    | .error _ => ((controlCancelData p' (controlWireDataRoute message)).2, none)
    | .ok bytes =>
      if answer = .ok then (p', some bytes)
      else ((controlCancelData p' (controlWireDataRoute message)).2, none)
  | (_, p', _) => (p', none)

/-- `tr_pipeline_control_transport_send_transfer_ready_on_owner`, once it has a buffer. -/
def controlSendTransferReady (p : Pipeline) (streamId : UInt32) (answer : Status) :
    Pipeline × Option (List UInt8) :=
  match pipelinePrepareTransfer p streamId with
  | (.ok, p', some data) =>
    match controlWireEncode (controlMessage p' controlTransferReady streamId data) with
    | .error _ => ((pipelineUnbindStream p' streamId).2, none)
    | .ok bytes =>
      if answer = .ok then (p', some bytes) else ((pipelineUnbindStream p' streamId).2, none)
  | (_, p', _) => (p', none)

/-- A DATA preface that the server judges: it joins, or its reservation is released. -/
def controlAcceptData (p : Pipeline) (data : DataRef) (connection : ConnHandle) : Pipeline :=
  match pipelineAttachData p data connection with
  | (.ok, p') => p'
  | (_, p') => (pipelineCancelDataReservation p' data).2

/-! ## Both ends -/

/-- An end of the connection. -/
inductive ControlSide
  | client
  | server
  deriving DecidableEq, Repr

/-- The CONTROL connection. -/
inductive ControlState
  | up
  | closed
  | aborted (side : ControlSide) (refusal : Refusal)
  deriving DecidableEq, Repr

/-- Both ends, the frames on their way to the client (the client's outbox holds the
others), and the DATA prefaces that the client has sent and the server has not judged. -/
structure Peers where
  server : Pipeline
  client : ClientGroup
  toClient : List (List UInt8) := []
  dialed : List DataRef := []
  control : ControlState := .up

/-- What can happen while CONTROL is up. -/
inductive PeersAction
  | serverOffer (answer : Status)
  | serverReady (streamId : UInt32) (answer : Status)
  | serverRelease (streamId : UInt32)
  | serverAccept (data : DataRef) (connection : ConnHandle)
  | serverReject (data : DataRef)
  | serverDataClosed (data : DataRef)
  | serverFrame
  | clientFrame (env : ClientEnv)
  | clientConnected (result : Except Status ConnHandle) (env : ClientEnv)
  | clientPrefaceSent (connection : ConnHandle)
  | clientDataEvent (connection : ConnHandle) (env : ClientEnv)
  | clientRelease (streamId : UInt32)
  | clientLookup (streamId : UInt32)
  | clientDrain (env : ClientEnv)
  | clientClose (ret : Status)
  | closed

namespace Peers

/-- The client's turn is over. -/
def settle (w : Peers) (out : ClientGroup × Option Refusal) : Peers :=
  { w with
    client := out.1
    control := match out.2 with
      | none => .up
      | some refusal => .aborted .client refusal }

/-- The server has changed and may have sent a frame. -/
def serve (w : Peers) (out : Pipeline × Option (List UInt8)) : Peers :=
  { w with server := out.1, toClient := w.toClient ++ out.2.toList }

/-- The preface that goes out when the connector is done: with TLS it goes later. -/
def dialedBy (g : ClientGroup) : Except Status ConnHandle → List DataRef
  | .error _ => []
  | .ok _ => if g.tls then [] else g.connectorSlot.toList.map fun k => (g.data k).route.member

/-- The preface that goes out on a TLS connection. -/
def dialedOn (g : ClientGroup) (connection : ConnHandle) : List DataRef :=
  (g.dataSlotOf connection).toList.map fun k => (g.data k).route.member

end Peers

/-- One turn of either end. -/
def peersStep (w : Peers) (action : PeersAction) : Option Peers :=
  if w.control ≠ .up then none
  else
    match action with
    | .serverOffer answer => some (w.serve (controlSendDataOffer w.server answer))
    | .serverReady streamId answer =>
      some (w.serve (controlSendTransferReady w.server streamId answer))
    | .serverRelease streamId =>
      some { w with server := (pipelineUnbindStream w.server streamId).2 }
    | .serverAccept data connection =>
      if data ∈ w.dialed then
        some { w with
          server := controlAcceptData w.server data connection
          dialed := w.dialed.erase data }
      else none
    | .serverReject data =>
      if data ∈ w.dialed then
        some { w with
          server := (pipelineCancelDataReservation w.server data).2
          dialed := w.dialed.erase data }
      else none
    | .serverDataClosed data => some { w with server := (pipelineRemoveData w.server data).2 }
    | .serverFrame =>
      match w.client.outbox with
      | [] => none
      | bytes :: rest =>
        let out := controlTransportFrame w.server bytes
        some { w with
          server := out.2
          client := { w.client with outbox := rest }
          control := if out.1 = .ok then .up else .aborted .server (.message out.1) }
    | .clientFrame env =>
      match w.toClient with
      | [] => none
      | bytes :: rest =>
        some ({ w with toClient := rest }.settle (clientControlFrame w.client bytes env))
    | .clientConnected result env =>
      some { w.settle (clientConnectorComplete w.client result env) with
        dialed := w.dialed ++ Peers.dialedBy w.client result }
    | .clientPrefaceSent connection =>
      some { w with
        client := clientTlsPrefaceSent w.client connection
        dialed := w.dialed ++ Peers.dialedOn w.client connection }
    | .clientDataEvent connection env =>
      some (w.settle (clientDataEvent w.client connection env))
    | .clientRelease streamId =>
      some { w with client := clientReleaseTransfer w.client streamId }
    | .clientLookup streamId =>
      some { w with client := (clientTransferConnection w.client streamId).2 }
    | .clientDrain env => some (w.settle (clientBeginDrain w.client env))
    | .clientClose ret =>
      -- A close that fails half-way leaves the admission barrier behind.
      if ret = .ok then some { w with control := .closed }
      else some { w with client := { w.client with closing := true } }
    | .closed => some { w with control := .closed }

/-! ## What a frame on the way must find -/

/-- A decoded frame has a property. -/
def reads (bytes : List UInt8) (P : ControlWireMessage → Prop) : Prop :=
  match controlWireDecode bytes with
  | .ok message => P message
  | .error _ => True

instance (bytes : List UInt8) (P : ControlWireMessage → Prop) [DecidablePred P] :
    Decidable (reads bytes P) := by
  unfold reads
  split <;> infer_instance

theorem reads_of_decode {bytes : List UInt8} {P : ControlWireMessage → Prop}
    {message : ControlWireMessage} (h : controlWireDecode bytes = .ok message) :
    reads bytes P ↔ P message := by
  rw [reads, h]

/-- The stream of a READY. -/
def readyStream (bytes : List UInt8) : Option UInt32 :=
  match controlWireDecode bytes with
  | .ok message => if message.type = controlTransferReady then some message.streamId else none
  | .error _ => none

namespace ClientGroup

/-- There is a place for the transfers of these streams, all of which are new: a cell for each,
within the limit, in a table that is not too large for the 32-bit sums of its searches. -/
def roomFor (g : ClientGroup) (streams : List UInt32) : Prop :=
  streams.Nodup ∧
    (∀ id ∈ streams, ∀ pos < g.transferCapacity, (g.transfers pos).key? ≠ some id) ∧
    streams.length ≤ slotCount g.transferCapacity (fun pos => (g.transfers pos).key?.isNone) ∧
    streams.length ≤ g.transferLimit - g.transferCount ∧
    (streams = [] ∨ g.transferCapacity ≤ 2 ^ 31)

instance (g : ClientGroup) (streams : List UInt32) : Decidable (g.roomFor streams) :=
  -- Otherwise all the values of `UInt32` would be gone through.
  haveI : Decidable (∀ id ∈ streams, ∀ pos < g.transferCapacity,
    (g.transfers pos).key? ≠ some id) := List.decidableBAll _ streams
  inferInstanceAs (Decidable (_ ∧ _))

/-- The client has this member active. -/
def activeMember (g : ClientGroup) (index generation : UInt32) : Prop :=
  ∃ k < g.dataCapacity, (g.data k).state = .active ∧
    (g.data k).route.memberIndex = index ∧ (g.data k).route.memberGeneration = generation

instance (g : ClientGroup) (index generation : UInt32) :
    Decidable (g.activeMember index generation) :=
  inferInstanceAs (Decidable (∃ k < g.dataCapacity, _))

end ClientGroup

namespace Peers

/-- Nothing of an index is left: the client holds no connection for it, and no frame
about it is on its way. -/
def Silent (w : Peers) (index : Nat) : Prop :=
  (∀ k < w.client.dataCapacity, (w.client.data k).state ≠ .free →
      (w.client.data k).route.memberIndex.toNat ≠ index) ∧
    ∀ bytes ∈ w.toClient ++ w.client.outbox,
      reads bytes fun message => message.dataIndex.toNat ≠ index

instance (w : Peers) (index : Nat) : Decidable (w.Silent index) :=
  inferInstanceAs (Decidable (_ ∧ _))

/-- The streams of the READYs on their way. -/
def announced (w : Peers) : List UInt32 := w.toClient.filterMap readyStream

/-- The client waits for a READY: it has the member active, and room for the stream behind
those whose READY is on its way. -/
def Awaits (w : Peers) (streamId : UInt32) (data : DataRef) : Prop :=
  w.client.activeMember (UInt32.ofNat data.index) (UInt32.ofNat data.generation) ∧
    w.client.roomFor (w.announced ++ [streamId])

instance (w : Peers) (streamId : UInt32) (data : DataRef) :
    Decidable (w.Awaits streamId data) :=
  inferInstanceAs (Decidable (_ ∧ _))

/-- No READY on its way names the DATA connection of a slot. -/
def Unnamed (w : Peers) (k : Nat) : Prop :=
  ∀ bytes ∈ w.toClient, reads bytes fun message =>
    message.type = controlTransferReady → message.dataIndex ≠ (w.client.data k).route.memberIndex

instance (w : Peers) (k : Nat) : Decidable (w.Unnamed k) :=
  inferInstanceAs (Decidable (∀ bytes ∈ w.toClient, _))

/-- The order between CONTROL and the DATA connections that keeps CONTROL alive: an index
is offered again only when nothing of it is left, a READY is sent only to a client that
waits for it, and no DATA connection ends at the client under a READY that names it. -/
def Ordered (w : Peers) : PeersAction → Prop
  | .serverOffer _ => ∀ data ∈ (pipelineReserveData w.server).2.2, w.Silent data.index
  | .serverReady streamId _ =>
    ∀ data ∈ (pipelinePrepareTransfer w.server streamId).2.2, w.Awaits streamId data
  | .clientDataEvent connection _ => ∀ k ∈ w.client.dataSlotOf connection, w.Unnamed k
  | _ => True

instance (w : Peers) (action : PeersAction) : Decidable (w.Ordered action) := by
  cases action <;> unfold Ordered <;> infer_instance

end Peers

end Trpc
