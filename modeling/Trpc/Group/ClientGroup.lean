import Trpc.Group.ControlWire

/-!
# The client of a connection group

`transport/group/client_group.c`: the table of DATA connections that the client was
offered, and the table of transfers that the server announced.  A function that may end
the CONTROL connection answers with a `Refusal`.  What the pool, the reactor and the
connector answer is in a `ClientEnv`; a list of bytes in the outbox is a frame that
CONTROL has accepted and the server has not read.
-/

namespace Trpc

open Lib Lib.Tombstones

/-- `enum tr_client_group_data_state`. -/
inductive ClientDataState
  | free
  | queued
  | connecting
  | active
  deriving DecidableEq, Repr

/-- The route that `memset` leaves. -/
def routePrefaceZero : RoutePreface := ⟨0, 0, 0, 0, 0, 0, 0, 0, 0, 0⟩

/-- `struct tr_client_group_data`.  The handle is absent until the connector is done. -/
structure ClientData where
  route : RoutePreface := routePrefaceZero
  connection : Option ConnHandle := none
  state : ClientDataState := .free
  deriving DecidableEq, Repr

/-- `struct tr_client_group`, with the frames that CONTROL still carries to the server.
A transfer holds the slot and the generation of its DATA connection. -/
structure ClientGroup where
  controlRoute : RoutePreface
  tls : Bool := false
  closing : Bool := false
  draining : Bool := false
  data : Nat → ClientData := fun _ => {}
  dataCapacity : Nat
  transfers : Nat → Cell UInt32 (Nat × UInt32) := fun _ => .empty
  transferLimit : Nat
  transferCapacity : Nat
  transferCount : Nat := 0
  connectorSlot : Option Nat := none
  outbox : List (List UInt8) := []

/-- Why CONTROL is aborted: a message was refused, or a call of the client's own failed. -/
inductive Refusal
  | message (ret : Status)
  | resource (ret : Status)
  deriving DecidableEq, Repr

/-- What the surroundings answer in one turn: the connector's start and the frame of a
CANCEL, for each slot; the frame of a CANCEL for an offer that takes no slot; the
connector's cancel; the close of each slot's connection. -/
structure ClientEnv where
  start : Nat → Status
  send : Nat → Status
  reply : Status
  cancelConnector : Status
  close : Nat → Status

/-- Everything succeeds. -/
def clientEnvOk : ClientEnv := ⟨fun _ => .ok, fun _ => .ok, .ok, .ok, fun _ => .ok⟩

/-- `tr_pipeline_control_wire_data_route`, of a message that passed the decoder. -/
def controlWireDataRoute (message : ControlWireMessage) : RoutePreface where
  version := routeVersion
  role := routeData
  flags := 0
  ownerShardId := message.ownerShardId
  pipelineId := message.pipelineId
  epoch := message.epoch
  memberIndex := message.dataIndex
  memberGeneration := message.dataGeneration
  headerCrc32c := 0
  reserved := 0

/-- An offer stands for a DATA route. -/
theorem controlWireDataRoute_valid {message : ControlWireMessage}
    (h : controlWireFieldsValid message = true) :
    routePrefaceValidateFields (controlWireDataRoute message) = .ok := by
  unfold controlWireFieldsValid at h
  split at h
  · cases h
  rename_i hbad
  push Not at hbad
  obtain ⟨_, _, _, hshard, hid, hepoch, hindex, hgeneration, _⟩ := hbad
  simp [routePrefaceValidateFields, controlWireDataRoute, routeMemberControl, routeControl,
    routeData, hshard, hid, hepoch, hindex, hgeneration]

/-- The message that gives a capability back. -/
def clientCancelMessage (route : RoutePreface) : ControlWireMessage where
  type := controlDataCancel
  ownerShardId := route.ownerShardId
  pipelineId := route.pipelineId
  epoch := route.epoch
  dataIndex := route.memberIndex
  dataGeneration := route.memberGeneration

/-- `tr_client_group_send_cancel_on_owner`; `answer` is what the pool and the reactor
answer. -/
def clientSendCancel (g : ClientGroup) (route : RoutePreface) (answer : Status) :
    Status × ClientGroup :=
  match controlWireEncode (clientCancelMessage route) with
  | .error ret => (ret, g)
  | .ok bytes =>
    if answer = .ok then (.ok, { g with outbox := g.outbox ++ [bytes] }) else (answer, g)

namespace ClientGroup

/-- A slot is written. -/
def put (g : ClientGroup) (k : Nat) (entry : ClientData) : ClientGroup :=
  { g with data := Function.update g.data k entry }

theorem put_self (g : ClientGroup) (k : Nat) (entry : ClientData) :
    (g.put k entry).data k = entry := Function.update_self _ _ _

theorem put_of_ne (g : ClientGroup) {j k : Nat} (entry : ClientData) (h : j ≠ k) :
    (g.put k entry).data j = g.data j := Function.update_of_ne h _ _

/-- A cell holds a transfer of this DATA connection. -/
def carries (g : ClientGroup) (k : Nat) (generation : UInt32) (pos : Nat) : Bool :=
  (g.transfers pos).value? = some (k, generation)

/-- `tr_client_group_message_matches`. -/
def messageMatches (g : ClientGroup) (message : ControlWireMessage) : Bool :=
  message.ownerShardId = g.controlRoute.ownerShardId ∧
    message.pipelineId = g.controlRoute.pipelineId ∧ message.epoch = g.controlRoute.epoch

/-- `tr_client_group_transfer_find`. -/
def transferFind (g : ClientGroup) (streamId : UInt32) : Found :=
  find g.transferCapacity g.transfers (affinityProbe g.transferCapacity) streamId

/-- The slot of a DATA connection. -/
def dataSlotOf (g : ClientGroup) (connection : ConnHandle) : Option Nat :=
  (List.range g.dataCapacity).find? fun k =>
    ((g.data k).state = .active ∨ (g.data k).state = .connecting) ∧
      (g.data k).connection = some connection

end ClientGroup

/-- `tr_client_group_invalidate_data_transfers`. -/
def clientInvalidateDataTransfers (g : ClientGroup) (k : Nat) (generation : UInt32) : ClientGroup :=
  { g with
    transfers := fun pos =>
      if pos < g.transferCapacity ∧ g.carries k generation pos then .tombstone
      else g.transfers pos
    transferCount := g.transferCount -
      ((List.range g.transferCapacity).filter fun pos => g.carries k generation pos).length }

/-- A DATA connection is given up: its slot is cleared and its capability given back.
CONTROL is aborted when that fails. -/
def clientDropData (g : ClientGroup) (k : Nat) (answer : Status) : ClientGroup × Option Refusal :=
  match clientSendCancel (g.put k {}) (g.data k).route answer with
  | (.ok, g') => (g', none)
  | (ret, g') => (g', some (.resource ret))

/-- The loop of `tr_client_group_start_next_on_owner`.  A completion inside the start is
the completion that follows it. -/
def clientStartLoop (env : ClientEnv) : List Nat → ClientGroup → ClientGroup × Option Refusal
  | [], g => (g, none)
  | k :: rest, g =>
    if (g.data k).state ≠ .queued then clientStartLoop env rest g
    else if env.start k = .ok then
      ({ g.put k { g.data k with state := .connecting } with connectorSlot := some k }, none)
    else
      match clientDropData g k (env.send k) with
      | (g', some refusal) => (g', some refusal)
      | (g', none) => clientStartLoop env rest g'

/-- `tr_client_group_start_next_on_owner`. -/
def clientStartNext (g : ClientGroup) (env : ClientEnv) : ClientGroup × Option Refusal :=
  if g.closing ∨ g.draining ∨ g.connectorSlot ≠ none then (g, none)
  else clientStartLoop env (List.range g.dataCapacity) g

/-- The turn goes on with the next offer unless CONTROL was aborted. -/
def clientThenStart (out : ClientGroup × Option Refusal) (env : ClientEnv) :
    ClientGroup × Option Refusal :=
  match out with
  | (g, some refusal) => (g, some refusal)
  | (g, none) => clientStartNext g env

/-- `tr_client_group_data_event`: a DATA connection has ended. -/
def clientDataEvent (g : ClientGroup) (connection : ConnHandle) (env : ClientEnv) :
    ClientGroup × Option Refusal :=
  match g.dataSlotOf connection with
  | none => clientStartNext g env
  | some k =>
    let g' := clientInvalidateDataTransfers g k (g.data k).route.memberGeneration
    if g.closing then (g'.put k {}, none)
    else clientThenStart (clientDropData g' k (env.send k)) env

/-- `tr_client_group_connector_complete`: the handle of the adopted connection, or why
there is none. -/
def clientConnectorComplete (g : ClientGroup) (result : Except Status ConnHandle)
    (env : ClientEnv) : ClientGroup × Option Refusal :=
  match g.connectorSlot with
  | none => (g, none)
  | some k =>
    let g' := { g with connectorSlot := none }
    match result with
    | .error _ => clientThenStart (clientDropData g' k (env.send k)) env
    | .ok connection =>
      clientStartNext (g'.put k
        { g.data k with
          connection := some connection
          state := if g.tls then .connecting else .active }) env

/-- `tr_client_group_tls_preface_sent`, for a DATA connection. -/
def clientTlsPrefaceSent (g : ClientGroup) (connection : ConnHandle) : ClientGroup :=
  match (List.range g.dataCapacity).find? fun k =>
      (g.data k).state = .connecting ∧ (g.data k).connection = some connection with
  | none => g
  | some k => g.put k { g.data k with state := .active }

/-- `tr_client_group_offer_duplicate`. -/
def clientOfferDuplicate (g : ClientGroup) (route : RoutePreface) : Bool :=
  (List.range g.dataCapacity).any fun k =>
    (g.data k).state ≠ .free ∧ (g.data k).route.memberIndex = route.memberIndex

/-- An offer that takes no slot is given back. -/
def clientDecline (g : ClientGroup) (route : RoutePreface) (env : ClientEnv) :
    ClientGroup × Option Refusal :=
  match clientSendCancel g route env.reply with
  | (.ok, g') => (g', none)
  | (ret, g') => (g', some (.resource ret))

/-- `tr_client_group_queue_offer_on_owner`. -/
def clientQueueOffer (g : ClientGroup) (route : RoutePreface) (env : ClientEnv) :
    ClientGroup × Option Refusal :=
  if clientOfferDuplicate g route then (g, some (.message .errState))
  else
    match (List.range g.dataCapacity).find? fun k => (g.data k).state = .free with
    | some k => clientStartNext (g.put k { g.data k with route := route, state := .queued }) env
    | none => clientDecline g route env

/-- `tr_client_group_ready_data_slot`. -/
def clientReadyDataSlot (g : ClientGroup) (message : ControlWireMessage) : Option Nat :=
  (List.range g.dataCapacity).find? fun k =>
    (g.data k).state = .active ∧ (g.data k).route.memberIndex = message.dataIndex ∧
      (g.data k).route.memberGeneration = message.dataGeneration ∧
      (g.data k).route.ownerShardId = message.ownerShardId ∧
      (g.data k).route.pipelineId = message.pipelineId ∧
      (g.data k).route.epoch = message.epoch

/-- `tr_client_group_accept_transfer_ready_on_owner`. -/
def clientAcceptTransferReady (g : ClientGroup) (message : ControlWireMessage) :
    ClientGroup × Option Refusal :=
  if g.transferCapacity = 0 then (g, some (.message .errState))
  else
    match g.transferFind message.streamId with
    | .hit _ => (g, some (.message .errState))
    | .missing none => (g, some (.message .errState))
    | .missing (some insert) =>
      if g.transferLimit ≤ g.transferCount then (g, some (.message .errState))
      else
        match clientReadyDataSlot g message with
        | none => (g, some (.message .errStale))
        | some k =>
          ({ g with
              transfers := Function.update g.transfers insert
                (.used message.streamId (k, (g.data k).route.memberGeneration))
              transferCount := g.transferCount + 1 }, none)

/-- `tr_client_group_control_frame`, for a frame of the CONTROL type. -/
def clientControlFrame (g : ClientGroup) (payload : List UInt8) (env : ClientEnv) :
    ClientGroup × Option Refusal :=
  match controlWireDecode payload with
  | .error ret => (g, some (.message ret))
  | .ok message =>
    if ¬ g.messageMatches message then (g, some (.message .errStale))
    else if message.type = controlDataOffer then
      if g.dataCapacity = 0 ∨ g.draining then
        clientDecline g (controlWireDataRoute message) env
      else clientQueueOffer g (controlWireDataRoute message) env
    else if message.type = controlTransferReady then
      if g.draining then (g, none) else clientAcceptTransferReady g message
    else (g, some (.message .errBadType))

/-- `tr_client_group_release_transfer_on_owner`. -/
def clientReleaseTransfer (g : ClientGroup) (streamId : UInt32) : ClientGroup :=
  match g.transferFind streamId with
  | .missing _ => g
  | .hit slot =>
    { g with
      transfers := Function.update g.transfers slot .tombstone
      transferCount := g.transferCount - 1 }

/-- `tr_client_group_transfer_connection_on_owner`: a transfer whose DATA connection is
gone is removed when it is looked up. -/
def clientTransferConnection (g : ClientGroup) (streamId : UInt32) :
    Except Status ConnHandle × ClientGroup :=
  match g.transferFind streamId with
  | .missing _ => (.error .errStale, g)
  | .hit slot =>
    match (g.transfers slot).value? with
    | none => (.error .errStale, g)
    | some (k, generation) =>
      if g.dataCapacity ≤ k then (.error .errState, g)
      else
        match (g.data k).connection with
        | some connection =>
          if (g.data k).state = .active ∧ (g.data k).route.memberGeneration = generation then
            (.ok connection, g)
          else (.error .errStale, clientReleaseTransfer g streamId)
        | none => (.error .errStale, clientReleaseTransfer g streamId)

/-- The slots that a drain gives up. -/
def clientDrainLoop (env : ClientEnv) : List Nat → ClientGroup → ClientGroup × Option Refusal
  | [], g => (g, none)
  | k :: rest, g =>
    if (g.data k).state = .queued ∨
        ((g.data k).state = .connecting ∧ (g.data k).connection ≠ none) then
      -- Closing the connection runs its event, which gives the capability back.
      if (g.data k).state = .connecting ∧ env.close k ≠ .ok ∧ env.close k ≠ .errStale then
        (g, some (.resource (env.close k)))
      else
        match clientDropData g k (env.send k) with
        | (g', some refusal) => (g', some refusal)
        | (g', none) => clientDrainLoop env rest g'
    else clientDrainLoop env rest g

/-- `tr_client_group_begin_drain_on_owner`. -/
def clientBeginDrain (g : ClientGroup) (env : ClientEnv) : ClientGroup × Option Refusal :=
  let g := { g with draining := true }
  match g.connectorSlot with
  | none => clientDrainLoop env (List.range g.dataCapacity) g
  | some k =>
    if env.cancelConnector ≠ .ok then (g, none)
    else
      match clientDropData { g with connectorSlot := none } k (env.send k) with
      | (g', some refusal) => (g', some refusal)
      | (g', none) => clientDrainLoop env (List.range g'.dataCapacity) g'

end Trpc
