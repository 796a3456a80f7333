import Trpc.Group.Ingress

/-!
# The listener of connection groups

`transport/group/pipeline_listener.c`: every connection first sends a route.  A CONTROL
route opens a group and a session; a DATA route joins the group of a session.  Who is at
the other end of a connection is what TLS reports, and whether they may is what the
authorizer answers; both are parameters.

`Pipeline.Quiet` and `GroupWorld.Quiet` are the calls in which nobody joins and no CONTROL
connection changes.
-/

namespace Trpc

open Lib Lib.Tombstones GroupWorld
open Relation (ReflTransGen)

/-! ## Peers -/

/-- `enum tr_peer_identity_authentication`. -/
inductive PeerAuthentication
  | none
  | tlsCertificate
  deriving DecidableEq, Repr

/-- `struct tr_peer_identity_view`; without a pointer there is no name. -/
structure PeerIdentity where
  authentication : PeerAuthentication := .none
  uriSan : Option (List UInt8) := Option.none
  deriving DecidableEq, Repr

/-- `uri_san_len`. -/
def PeerIdentity.uriSanLen (identity : PeerIdentity) : Nat :=
  (identity.uriSan.getD []).length

/-- `tr_pipeline_listener_identity_equal`. -/
def listenerIdentityEqual (left right : PeerIdentity) : Bool :=
  if left.authentication ≠ right.authentication ∨ left.uriSanLen ≠ right.uriSanLen then false
  else if left.uriSanLen = 0 then left.uriSan = none ∧ right.uriSan = none
  else left.uriSan.isSome ∧ right.uriSan.isSome ∧ left.uriSan.getD [] = right.uriSan.getD []

/-- Identities that compare as equal are equal. -/
theorem listenerIdentityEqual_eq {left right : PeerIdentity}
    (h : listenerIdentityEqual left right = true) : left = right := by
  unfold listenerIdentityEqual at h
  split at h
  · cases h
  rename_i hsame
  push Not at hsame
  have huri : left.uriSan = right.uriSan := by
    split at h
    · simp only [decide_eq_true_eq] at h
      rw [h.1, h.2]
    simp only [decide_eq_true_eq] at h
    obtain ⟨hleft, hright, hbytes⟩ := h
    obtain ⟨l, hl⟩ := Option.isSome_iff_exists.mp hleft
    obtain ⟨r, hr⟩ := Option.isSome_iff_exists.mp hright
    rw [hl, hr] at hbytes ⊢
    exact congrArg some hbytes
  cases left
  cases right
  simp_all

/-- What TLS says of a connection: who is there, and under which profile generation. -/
structure TlsFacts where
  identity : ConnHandle → PeerIdentity
  generation : ConnHandle → UInt64

/-- `enum tr_connection_group_role`. -/
inductive GroupRole
  | control
  | data
  deriving DecidableEq, Repr

/-- `struct tr_connection_group_authorization`, which the authorizer is asked about. -/
structure Authorization where
  groupId : UInt64
  epoch : UInt64
  role : GroupRole
  peerIdentity : PeerIdentity
  controlIdentity : PeerIdentity
  deriving DecidableEq, Repr

/-! ## The listener -/

/-- `struct tr_pipeline_listener_session`; the transport is its connection and pipeline. -/
structure ListenerSession where
  used : Bool := false
  closing : Bool := false
  pipelineId : UInt64 := 0
  epoch : UInt64 := 0
  peerIdentity : PeerIdentity := {}
  tlsGeneration : UInt64 := 0
  connection : ConnHandle := connHandleZero
  group : Nat := 0
  deriving DecidableEq, Repr

/-- `struct tr_pipeline_listener`, with its registry, the pipelines and the handlers of the
DATA connections.  `pending` are the connections that still send their route.  `asked`
and `presented` are histories and not in the source: what the authorizer was asked, with its
answers, and the routes that came in whole. -/
structure ListenerWorld where
  ingress : IngressWorld
  sessions : Nat → ListenerSession := fun _ => {}
  pipelineCapacity : Nat
  dataCapacity : Nat
  streamAffinityCapacity : Nat
  draining : Bool := false
  pending : ConnHandle → Option RouteParser := fun _ => none
  asked : List (Authorization × Status) := []
  presented : List (ConnHandle × RoutePreface) := []

/-- What the surroundings answer while a route is read: the clock before and after, the
reactor's answers about the connection, the authorizer, the memory of a new pipeline, and
the handlers that are installed. -/
structure PrefaceEnv where
  deadline : Status := .ok
  facts : Status := .ok
  authorize : Status := .ok
  group : Nat := 0
  transport : Status := .ok
  handler : Status := .ok
  finalDeadline : Status := .ok

namespace ListenerWorld

/-- The shard of the listener. -/
abbrev shard (w : ListenerWorld) : GroupWorld := w.ingress.shard

/-- The shard changes. -/
def setShard (w : ListenerWorld) (shard : GroupWorld) : ListenerWorld :=
  { w with ingress := { w.ingress with shard := shard } }

/-- A session is written. -/
def setSession (w : ListenerWorld) (s : Nat) (session : ListenerSession) : ListenerWorld :=
  { w with sessions := Function.update w.sessions s session }

/-- A connection is no longer waited for. -/
def settled (w : ListenerWorld) (connection : ConnHandle) : ListenerWorld :=
  { w with pending := Function.update w.pending connection none }

/-- The authorizer has answered. -/
def ask (w : ListenerWorld) (authorization : Authorization) (answer : Status) : ListenerWorld :=
  { w with asked := w.asked ++ [(authorization, answer)] }

end ListenerWorld

/-- `tr_pipeline_listener_session_find`. -/
def listenerSessionFind (w : ListenerWorld) (pipelineId epoch : UInt64) : Option Nat :=
  (List.range w.pipelineCapacity).find? fun s =>
    (w.sessions s).used ∧ ¬ (w.sessions s).closing ∧ (w.sessions s).pipelineId = pipelineId ∧
      (w.sessions s).epoch = epoch

/-- `tr_pipeline_listener_session_reserve`. -/
def listenerSessionReserve (w : ListenerWorld) : Option Nat :=
  (List.range w.pipelineCapacity).find? fun s => ¬ (w.sessions s).used

/-- `tr_pipeline_control_create`; a pipeline that is not registered is freed again. -/
def controlCreate (w : ListenerWorld) (route : RoutePreface) (connection : ConnHandle)
    (g : Nat) : Status × GroupWorld :=
  match pipelineCreate
      { owner := w.shard.registry.owner
        ownerShardId := w.shard.registry.ownerShardId
        pipelineId := route.pipelineId
        epoch := route.epoch
        dataCapacity := w.dataCapacity
        streamAffinityCapacity := w.streamAffinityCapacity } with
  | .error ret => (ret, w.shard)
  | .ok p =>
    match registryRegisterControl (w.shard.setGroup g p) g connection with
    | (.ok, shard) => (.ok, shard)
    | (ret, _) => (ret, w.shard)

/-- `tr_pipeline_listener_accept_control`, with the session it opened. -/
def listenerAcceptControl (tls : TlsFacts) (w : ListenerWorld) (route : RoutePreface)
    (connection : ConnHandle) (env : PrefaceEnv) : Status × ListenerWorld × Option Nat :=
  if w.draining then (.errClosed, w, none)
  else if route.ownerShardId ≠ w.shard.registry.ownerShardId then (.errStale, w, none)
  else if env.facts ≠ .ok then (env.facts, w, none)
  else
    let w := w.ask
      { groupId := route.pipelineId
        epoch := route.epoch
        role := .control
        peerIdentity := tls.identity connection
        controlIdentity := {} } env.authorize
    if env.authorize ≠ .ok then (env.authorize, w, none)
    else match listenerSessionReserve w with
    | none => (.again, w, none)
    | some s =>
      match controlCreate w route connection env.group with
      | (.ok, shard) =>
        let session : ListenerSession :=
          { used := true
            pipelineId := route.pipelineId
            epoch := route.epoch
            peerIdentity := tls.identity connection
            tlsGeneration := tls.generation connection
            connection := connection
            group := env.group }
        if env.transport = .ok then (.ok, (w.setShard shard).setSession s session, some s)
        else
          (env.transport,
            (w.setShard (registryCloseControl shard env.group connection).2).setSession s
              { session with used := false }, none)
      | (ret, _) => (ret, w, none)

/-- `tr_pipeline_listener_accept_data`. -/
def listenerAcceptData (tls : TlsFacts) (w : ListenerWorld) (route : RoutePreface)
    (connection : ConnHandle) (env : PrefaceEnv) : Status × ListenerWorld :=
  match registryResolveDataRoute w.shard route with
  | .error ret => (ret, w)
  | .ok _ =>
    match listenerSessionFind w route.pipelineId route.epoch with
    | none => (.errStale, w)
    | some s =>
      if env.facts ≠ .ok then (env.facts, w)
      else if tls.generation connection ≠ (w.sessions s).tlsGeneration then (.errStale, w)
      else if ¬ listenerIdentityEqual (tls.identity connection) (w.sessions s).peerIdentity then
        (.errInvalid, w)
      else
        let w := w.ask
          { groupId := route.pipelineId
            epoch := route.epoch
            role := .data
            peerIdentity := tls.identity connection
            controlIdentity := (w.sessions s).peerIdentity } env.authorize
        if env.authorize ≠ .ok then (env.authorize, w)
        else match ingressAttachDataRoute w.ingress route connection true env.handler with
        | (ret, ingress) => (ret, { w with ingress := ingress })

/-- `tr_pipeline_attached_data_snapshot`. -/
def attachedDataSnapshot (p : Pipeline) : List (DataRef × ConnHandle) :=
  ((List.range p.dataCapacity).filter fun i => (p.dataSlots i).state = .attached).map fun i =>
    (p.refOf i, (p.dataSlots i).connection)

/-- The removals of `tr_pipeline_control_abort_on_owner`. -/
def controlRemoveAll : List (DataRef × ConnHandle) → Pipeline → Status × Pipeline
  | [], p => (.ok, p)
  | (data, _) :: rest, p =>
    match pipelineRemoveData p data with
    | (.ok, p') => controlRemoveAll rest p'
    | (ret, p') => (ret, p')

/-- `tr_pipeline_control_transport_abort_on_owner` with the callbacks of the listener: the
CONTROL connection of a session has ended. -/
def listenerControlAbort (w : ListenerWorld) (s : Nat) : ListenerWorld :=
  let session := w.sessions s
  let closing := w.setSession s { session with closing := true }
  let members := attachedDataSnapshot (w.shard.groups session.group)
  match controlRemoveAll members (w.shard.groups session.group) with
  | (.ok, p) =>
    match registryCloseControl (w.shard.setGroup session.group p) session.group
        session.connection with
    | (.ok, shard) =>
      let closed := (w.setShard shard).setSession s {}
      { closed with
        ingress := members.foldl (fun ingress member => ingressEvent ingress member.2)
          closed.ingress }
    | (_, shard) => closing.setShard shard
  | (_, p) => closing.setShard (w.shard.setGroup session.group p)

/-- A route that came in whole.  What is rejected is closed by the reactor; a connection
that was handed off already closes through its handler. -/
def listenerRouted (tls : TlsFacts) (w : ListenerWorld) (route : RoutePreface)
    (connection : ConnHandle) (env : PrefaceEnv) : Status × ListenerWorld :=
  if route.role = routeControl then
    match listenerAcceptControl tls w route connection env with
    | (.ok, w', some s) =>
      if env.finalDeadline = .ok then (.ok, w')
      else (env.finalDeadline, listenerControlAbort w' s)
    | (ret, w', _) => (ret, w')
  else if route.role = routeData then
    match listenerAcceptData tls w route connection env with
    | (.ok, w') =>
      if env.finalDeadline = .ok then (.ok, w')
      else (env.finalDeadline, { w' with ingress := ingressEvent w'.ingress connection })
    | (ret, w') => (ret, w'.setShard (registryCancelDataRoute w'.shard route).2)
  else (.errBadType, w)

/-- The route that a piece of bytes completes. -/
def listenerRoute (w : ListenerWorld) (connection : ConnHandle) (data : List UInt8) :
    Option RoutePreface :=
  match w.pending connection with
  | none => none
  | some parser => (routeParserFeed parser data).2.2.2

/-- `tr_pipeline_listener_preface_feed`. -/
def listenerPrefaceFeed (tls : TlsFacts) (w : ListenerWorld) (connection : ConnHandle)
    (data : List UInt8) (env : PrefaceEnv) : Status × ListenerWorld :=
  match w.pending connection with
  | none => (.errStale, w)
  | some parser =>
    if env.deadline ≠ .ok then (env.deadline, w.settled connection)
    else
      match routeParserFeed parser data with
      | (ret, parser', consumed, found) =>
        if ret ≠ .ok then (ret, w.settled connection)
        else if consumed ≠ data.length then (.errState, w.settled connection)
        else
          match found with
          | none =>
            (.ok, { w with pending := Function.update w.pending connection (some parser') })
          | some route =>
            listenerRouted tls
              { w.settled connection with presented := w.presented ++ [(connection, route)] }
              route connection env

/-! ## Runs -/

/-- What a CONTROL connection has the server do on its pipeline. -/
inductive ControlCall
  | reserveData
  | cancelDataOffer (data : DataRef)
  | prepareTransfer (streamId : UInt32)
  | unbindStream (streamId : UInt32)

/-- The pipeline after the call. -/
def controlCall (p : Pipeline) : ControlCall → Pipeline
  | .reserveData => (pipelineReserveData p).2.1
  | .cancelDataOffer data => (pipelineCancelDataOffer p data).2
  | .prepareTransfer streamId => (pipelinePrepareTransfer p streamId).2.1
  | .unbindStream streamId => (pipelineUnbindStream p streamId).2

/-- What happens at a listener. -/
inductive ListenerAction
  | connect (connection : ConnHandle)
  | preface (connection : ConnHandle) (data : List UInt8) (env : PrefaceEnv)
  | timeout (connection : ConnHandle)
  | controlEvent (s : Nat)
  | control (s : Nat) (call : ControlCall)
  | dataFrame (connection : ConnHandle) (type : FrameType) (streamId : UInt32)
  | dataEvent (connection : ConnHandle)
  | drain (draining : Bool)

/-- A pipeline is in the registry. -/
def GroupWorld.registered (w : GroupWorld) (g : Nat) : Prop :=
  ∃ pos < w.registry.capacity, w.pipelineAt pos = some g

instance (w : GroupWorld) (g : Nat) : Decidable (w.registered g) :=
  inferInstanceAs (Decidable (∃ pos < w.registry.capacity, _))

/-- One event.  The memory of a new pipeline is not that of a registered one. -/
def listenerStep (tls : TlsFacts) (w : ListenerWorld) : ListenerAction → Option ListenerWorld
  | .connect connection =>
    some { w with pending := Function.update w.pending connection (some {}) }
  | .preface connection data env =>
    if w.shard.registered env.group then none
    else some (listenerPrefaceFeed tls w connection data env).2
  | .timeout connection => some (w.settled connection)
  | .controlEvent s =>
    if s < w.pipelineCapacity ∧ (w.sessions s).used then some (listenerControlAbort w s)
    else none
  | .control s call =>
    if s < w.pipelineCapacity ∧ (w.sessions s).used ∧ ¬ (w.sessions s).closing then
      some (w.setShard (w.shard.setGroup (w.sessions s).group
        (controlCall (w.shard.groups (w.sessions s).group) call)))
    else none
  | .dataFrame connection type streamId =>
    some { w with ingress := (ingressFrame w.ingress connection type streamId).2 }
  | .dataEvent connection => some { w with ingress := ingressEvent w.ingress connection }
  | .drain draining => some { w with draining := draining }

/-- The state of a run. -/
def listenerRun (tls : TlsFacts) : ListenerWorld → List ListenerAction → Option ListenerWorld :=
  runSteps (listenerStep tls)

/-! ## Calls in which nobody joins -/

/-- The group keeps its name and its CONTROL connection, and who is a member was one
before, in the same slot. -/
structure Pipeline.Quiet (p p' : Pipeline) : Prop where
  same : p.SameGroup p'
  capacity : p'.dataCapacity = p.dataCapacity
  control : p'.control = p.control
  members : ∀ i, (p'.dataSlots i).state = .attached → p'.dataSlots i = p.dataSlots i

namespace Pipeline.Quiet

theorem refl (p : Pipeline) : Quiet p p := ⟨⟨rfl, rfl, rfl, rfl⟩, rfl, rfl, fun _ _ => rfl⟩

theorem trans {p q r : Pipeline} (h : Quiet p q) (h' : Quiet q r) : Quiet p r where
  same := ⟨h'.same.owner.trans h.same.owner, h'.same.shard.trans h.same.shard,
    h'.same.id.trans h.same.id, h'.same.epoch.trans h.same.epoch⟩
  capacity := h'.capacity.trans h.capacity
  control := h'.control.trans h.control
  members i hi := by
    have hr := h'.members i hi
    rw [hr] at hi ⊢
    exact h.members i hi

/-- A slot that is written and not a member afterwards. -/
theorem update_members {slots : Nat → DataSlot} {i : Nat} {slot : DataSlot}
    (h : slot.state ≠ .attached) (j : Nat)
    (hj : (Function.update slots i slot j).state = .attached) :
    Function.update slots i slot j = slots j := by
  rw [Function.update_apply] at hj ⊢
  grind

theorem freeSlot (p : Pipeline) (i : Nat) : Quiet p (p.freeSlot i) :=
  ⟨⟨rfl, rfl, rfl, rfl⟩, rfl, rfl, update_members (by simp)⟩

theorem reserveSlot (p : Pipeline) (i : Nat) : Quiet p (p.reserveSlot i) :=
  ⟨⟨rfl, rfl, rfl, rfl⟩, rfl, rfl, update_members (by simp)⟩

theorem dropMember (p : Pipeline) (i : Nat) : Quiet p (p.dropMember i) :=
  ⟨⟨rfl, rfl, rfl, rfl⟩, rfl, rfl, update_members (by simp)⟩

/-- Only bindings, the turn or the history change. -/
theorem slots {p p' : Pipeline} (hsame : p.SameGroup p')
    (hcapacity : p'.dataCapacity = p.dataCapacity)
    (hcontrol : p'.control = p.control) (hslots : p'.dataSlots = p.dataSlots) : Quiet p p' :=
  ⟨hsame, hcapacity, hcontrol, fun i _ => congrFun hslots i⟩

theorem cancelDataReservation (p : Pipeline) (data : DataRef) :
    Quiet p (pipelineCancelDataReservation p data).2 := by
  unfold pipelineCancelDataReservation
  split_ifs
  · exact freeSlot p _
  · exact refl p

theorem removeData (p : Pipeline) (data : DataRef) : Quiet p (pipelineRemoveData p data).2 := by
  unfold pipelineRemoveData
  split_ifs
  · exact dropMember p _
  · exact refl p

theorem streamData (p : Pipeline) (streamId : UInt32) :
    Quiet p (pipelineStreamData p streamId).2.1 := by
  unfold pipelineStreamData
  split
  · exact refl p
  split
  · exact refl p
  split
  · split
    · exact refl p
    · exact slots ⟨rfl, rfl, rfl, rfl⟩ rfl rfl rfl
  · exact refl p

theorem call (p : Pipeline) (c : ControlCall) : Quiet p (controlCall p c) := by
  cases c with
  | reserveData =>
    show Quiet p (pipelineReserveData p).2.1
    rcases pipelineReserveData_cases p with ⟨_, hsame⟩ | ⟨i, _, _, _, heq⟩
    · rw [hsame]
      exact refl p
    · rw [heq]
      exact reserveSlot p i
  | cancelDataOffer data =>
    show Quiet p (pipelineCancelDataOffer p data).2
    unfold pipelineCancelDataOffer
    split
    · exact refl p
    split
    · exact refl p
    split
    · exact freeSlot p _
    · exact refl p
    · exact refl p
  | prepareTransfer streamId =>
    show Quiet p (pipelinePrepareTransfer p streamId).2.1
    unfold pipelinePrepareTransfer
    iterate 3
      split
      · exact refl p
    · exact refl p
    · split
      · exact refl p
      · split
        · exact refl p
        · exact slots ⟨rfl, rfl, rfl, rfl⟩ rfl rfl rfl
  | unbindStream streamId =>
    show Quiet p (pipelineUnbindStream p streamId).2
    unfold pipelineUnbindStream
    split
    · exact refl p
    split
    · exact refl p
    · exact slots ⟨rfl, rfl, rfl, rfl⟩ rfl rfl rfl

end Pipeline.Quiet

/-- The moves that a call makes. -/
theorem controlCall_moves (p : Pipeline) (c : ControlCall) :
    ReflTransGen Pipeline.Move p (controlCall p c) := by
  cases c with
  | reserveData => exact pipelineReserveData_moves p
  | cancelDataOffer data => exact pipelineCancelDataOffer_moves p data
  | prepareTransfer streamId => exact pipelinePrepareTransfer_moves p streamId
  | unbindStream streamId => exact pipelineUnbindStream_moves p streamId

/-- The registry stays, and every group is quiet. -/
structure GroupWorld.Quiet (w w' : GroupWorld) : Prop where
  registry : w'.registry = w.registry
  groups : ∀ g, (w.groups g).Quiet (w'.groups g)

namespace GroupWorld.Quiet

theorem refl (w : GroupWorld) : Quiet w w := ⟨rfl, fun _ => Pipeline.Quiet.refl _⟩

theorem setGroup {w : GroupWorld} {g : Nat} {p : Pipeline} (h : (w.groups g).Quiet p) :
    Quiet w (w.setGroup g p) :=
  ⟨rfl, (Function.forall_update_iff w.groups fun g' => (w.groups g').Quiet).2
    ⟨h, fun _ _ => Pipeline.Quiet.refl _⟩⟩

theorem cancelDataRoute (w : GroupWorld) (route : RoutePreface) :
    Quiet w (registryCancelDataRoute w route).2 := by
  unfold registryCancelDataRoute
  split
  · exact refl w
  · exact setGroup (Pipeline.Quiet.cancelDataReservation _ _)

theorem detachDataRoute (w : GroupWorld) (route : RoutePreface) (expected : ConnHandle) :
    Quiet w (registryDetachDataRoute w route expected).2 := by
  unfold registryDetachDataRoute
  iterate 7
    split
    · exact refl w
  · exact setGroup (Pipeline.Quiet.removeData _ _)

end GroupWorld.Quiet

theorem ingressEvent_quiet (s : IngressWorld) (connection : ConnHandle) :
    s.shard.Quiet (ingressEvent s connection).shard := by
  unfold ingressEvent
  split
  · exact GroupWorld.Quiet.refl _
  · exact GroupWorld.Quiet.detachDataRoute _ _ _

theorem ingressFrame_quiet (s : IngressWorld) (connection : ConnHandle) (type : FrameType)
    (streamId : UInt32) :
    s.shard.Quiet (ingressFrame s connection type streamId).2.shard := by
  unfold ingressFrame
  split
  · exact GroupWorld.Quiet.refl _
  rename_i member _
  have hquiet := Pipeline.Quiet.streamData (s.shard.groups member.group) streamId
  split
  · split
    next p data bound hdata =>
      rw [hdata] at hquiet
      split
      · exact GroupWorld.Quiet.setGroup hquiet
      split
      · exact GroupWorld.Quiet.setGroup (hquiet.trans (.slots ⟨rfl, rfl, rfl, rfl⟩ rfl rfl rfl))
      · exact GroupWorld.Quiet.setGroup hquiet
    next hdata =>
      rw [hdata] at hquiet
      exact GroupWorld.Quiet.setGroup hquiet
  · split <;> exact GroupWorld.Quiet.refl _

end Trpc
