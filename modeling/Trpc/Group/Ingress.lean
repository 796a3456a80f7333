import Trpc.Group.Registry
import Trpc.Wire.Header

/-!
# Frames of a DATA connection

`transport/group/pipeline_ingress.c`: the frame and event handlers of a connection that
has joined a group.  A DATA frame is handed on only if its stream is bound to the member
and the connection that carried it; every other one aborts the connection.

The state adds the handlers to a shard: which member a connection belongs to.  A member
keeps the pipeline and the capability it joined with, however the group went on since.
-/

namespace Trpc

open Lib Lib.Tombstones GroupWorld
open Relation (ReflTransGen)

/-- `struct tr_pipeline_ingress_member`; `frameCb` says whether there is a callback. -/
structure IngressMember where
  group : Nat
  route : RoutePreface
  data : DataRef
  frameCb : Bool
  deriving DecidableEq, Repr

/-- A shard with the handlers of its DATA connections. -/
structure IngressWorld where
  shard : GroupWorld
  members : ConnHandle → Option IngressMember

/-- What became of a frame. -/
inductive FrameFate
  | released
  | aborted (status : Status)
  | delivered
  deriving DecidableEq, Repr

/-- The handler that is installed for a connection. -/
def IngressWorld.setMember (s : IngressWorld) (connection : ConnHandle)
    (member : Option IngressMember) : IngressWorld :=
  { s with members := Function.update s.members connection member }

/-- `tr_pipeline_ingress_frame`. -/
def ingressFrame (s : IngressWorld) (connection : ConnHandle) (type : FrameType)
    (streamId : UInt32) : FrameFate × IngressWorld :=
  match s.members connection with
  | none => (.released, s)
  | some member =>
    if type = .data then
      match pipelineStreamData (s.shard.groups member.group) streamId with
      | (.ok, p, some (data, bound)) =>
        if data ≠ member.data ∨ bound ≠ connection then
          (.aborted .errStale, { s with shard := s.shard.setGroup member.group p })
        else if member.frameCb then
          (.delivered,
            { s with
              shard := s.shard.setGroup member.group (p.noteDelivered streamId data connection) })
        else (.released, { s with shard := s.shard.setGroup member.group p })
      | (ret, p, _) =>
        (.aborted (if ret.code < 0 then ret else .errState),
          { s with shard := s.shard.setGroup member.group p })
    else if member.frameCb then (.delivered, s)
    else (.released, s)

/-- `tr_pipeline_ingress_event`: the connection has closed or failed. -/
def ingressEvent (s : IngressWorld) (connection : ConnHandle) : IngressWorld :=
  match s.members connection with
  | none => s
  | some member =>
    { s with shard := (registryDetachDataRoute s.shard member.route connection).2 }.setMember
      connection none

/-- `tr_pipeline_ingress_attach_data_route_on_owner`; `handler` is what the
reactor answers to the new handler. -/
def ingressAttachDataRoute (s : IngressWorld) (route : RoutePreface) (connection : ConnHandle)
    (frameCb : Bool) (handler : Status) : Status × IngressWorld :=
  if connection.reactor ≠ s.shard.registry.owner then (.errInvalid, s)
  else
    match registryAttachDataRoute s.shard route connection with
    | (.ok, shard, some g) =>
      if handler = .ok then
        (.ok, { s with shard := shard }.setMember connection
          (some { group := g, route := route, data := route.member, frameCb := frameCb }))
      else
        match registryDetachDataRoute shard route connection with
        | (ret, shard) =>
          (if ret ≠ .ok then ret else handler, { s with shard := shard })
    | (ret, shard, _) => (ret, { s with shard := shard })

/-- What happens: a call on the shard, a connection that joins, a frame, or the end of a
connection. -/
inductive IngressAction
  | group (action : GroupAction)
  | attach (route : RoutePreface) (connection : ConnHandle) (frameCb : Bool)
      (handler : Status)
  | frame (connection : ConnHandle) (type : FrameType) (streamId : UInt32)
  | event (connection : ConnHandle)

def ingressStep (s : IngressWorld) : IngressAction → IngressWorld
  | .group action => { s with shard := groupStep s.shard action }
  | .attach route connection frameCb handler =>
    (ingressAttachDataRoute s route connection frameCb handler).2
  | .frame connection type streamId => (ingressFrame s connection type streamId).2
  | .event connection => ingressEvent s connection

/-- The state of a run. -/
def ingressRun : IngressWorld → List IngressAction → Option IngressWorld :=
  runSteps fun s action => some (ingressStep s action)

/-! ## The shard keeps its invariant -/

/-- An answer of `tr_pipeline_stream_data` is the binding of the stream. -/
theorem pipelineStreamData_ok {p p' : Pipeline} {streamId : UInt32} {data : DataRef}
    {bound : ConnHandle}
    (h : pipelineStreamData p streamId = (.ok, p', some (data, bound))) :
    p' = p ∧ p.binding streamId = some data ∧ p.dataRefMatches data .attached ∧
      bound = (p.dataSlots data.index).connection := by
  unfold pipelineStreamData at h
  split at h
  · simp at h
  split at h
  · simp at h
  rename_i slot hfind
  split at h
  next data' hvalue =>
    split at h
    next hmatch =>
      simp only [Prod.mk.injEq, Option.some.injEq, true_and] at h
      obtain ⟨rfl, rfl, rfl⟩ := h
      refine ⟨rfl, ?_, hmatch, rfl⟩
      unfold Pipeline.binding Tombstones.lookup
      rw [show Tombstones.find p.affinityCapacity p.affinities
        (affinityProbe p.affinityCapacity) streamId = .hit slot from hfind]
      exact hvalue
    · simp at h
  · simp at h

/-- A frame that was delivered, or anything else a frame does, is a move of its group. -/
theorem ingressFrame_steps (s : IngressWorld) (connection : ConnHandle) (type : FrameType)
    (streamId : UInt32) :
    Steps s.shard (ingressFrame s connection type streamId).2.shard := by
  unfold ingressFrame
  split
  · exact steps_refl _
  rename_i member _
  have hmoves := pipelineStreamData_moves (s.shard.groups member.group) streamId
  split
  · split
    next p data bound hdata =>
      obtain ⟨rfl, hbinding, _, hbound⟩ := pipelineStreamData_ok hdata
      split
      · exact steps_setGroup .refl
      rename_i hsame
      push Not at hsame
      split
      · refine steps_setGroup (.single ?_)
        rw [← hsame.2, hbound]
        exact .deliver hbinding
      · exact steps_setGroup .refl
    next hdata =>
      rw [hdata] at hmoves
      exact steps_setGroup hmoves
  · split <;> exact steps_refl _

theorem GroupWorld.Steps.trans {w w' w'' : GroupWorld} (h : Steps w w') (h' : Steps w' w'') :
    Steps w w'' :=
  ⟨fun g => (h.1 g).trans (h'.1 g), fun hnamed => h'.2 (h.2 hnamed)⟩

theorem ingressAttachDataRoute_steps (s : IngressWorld) (route : RoutePreface)
    (connection : ConnHandle) (frameCb : Bool) (handler : Status) :
    Steps s.shard (ingressAttachDataRoute s route connection frameCb handler).2.shard := by
  have hattach := registryAttachDataRoute_steps s.shard route connection
  unfold ingressAttachDataRoute
  split
  · exact steps_refl _
  split
  next shard g heq =>
    rw [heq] at hattach
    split
    · exact hattach
    · exact hattach.trans (registryDetachDataRoute_steps shard route connection)
  next heq =>
    rw [heq] at hattach
    exact hattach

theorem ingressStep_steps (s : IngressWorld) (action : IngressAction) :
    Steps s.shard (ingressStep s action).shard := by
  cases action with
  | group action => exact groupStep_steps s.shard action
  | attach route connection frameCb handler =>
    exact ingressAttachDataRoute_steps s route connection frameCb handler
  | frame connection type streamId => exact ingressFrame_steps s connection type streamId
  | event connection =>
    show Steps s.shard (ingressEvent s connection).shard
    unfold ingressEvent
    split
    · exact steps_refl _
    · exact registryDetachDataRoute_steps _ _ _

theorem ingressRun_ok {start s : IngressWorld} {actions : List IngressAction}
    (hstart : start.shard.Ok) (hrun : ingressRun start actions = some s) : s.shard.Ok := by
  refine @runSteps_invariant _ _ _ (fun s => s.shard.Ok) (fun s action s' hs hstep => ?_) _ _ _
    hstart hrun
  cases hstep
  exact hs.steps (ingressStep_steps s action)

/-! ## Isolation -/

/-- A DATA frame that is handed on belongs to the member and connection its stream is bound
to. -/
theorem ingressFrame_delivered {s : IngressWorld} {connection : ConnHandle} {streamId : UInt32}
    (h : (ingressFrame s connection .data streamId).1 = .delivered) :
    ∃ member, s.members connection = some member ∧
      (s.shard.groups member.group).binding streamId = some member.data ∧
      (s.shard.groups member.group).dataRefMatches member.data .attached ∧
      ((s.shard.groups member.group).dataSlots member.data.index).connection = connection := by
  unfold ingressFrame at h
  split at h
  · cases h
  rename_i member hmember
  rw [if_pos rfl] at h
  split at h
  next p data bound hdata =>
    obtain ⟨_, hbinding, hmatch, hbound⟩ := pipelineStreamData_ok hdata
    split at h
    · cases h
    rename_i hsame
    push Not at hsame
    obtain ⟨rfl, rfl⟩ := hsame
    exact ⟨member, hmember, hbinding, hmatch, hbound.symm⟩
  · cases h

/-- After a stream was bound, and until it is bound again, its frames come from one
connection. -/
theorem DeliveredBound.segment {events before middle after : List GroupEvent} {stream : UInt32}
    {data data' : DataRef} {connection connection' : ConnHandle} (h : DeliveredBound events)
    (hevents : events = before ++ .bound stream data connection :: middle ++ after)
    (hmiddle : ∀ e ∈ middle, e.binds stream = none)
    (hdelivered : .delivered stream data' connection' ∈ middle) :
    data' = data ∧ connection' = connection := by
  obtain ⟨first, rest, rfl⟩ := List.append_of_mem hdelivered
  have hlast := h (before ++ .bound stream data connection :: first) stream data' connection'
    (rest ++ after) (by simp [hevents])
  have hsplit : before ++ .bound stream data connection :: first =
      (before ++ [.bound stream data connection]) ++ first := by simp
  rw [hsplit, lastBound_append_of_none fun e he => hmiddle e (by simp [he]),
    lastBound_append_bound] at hlast
  cases hlast
  exact ⟨rfl, rfl⟩

/-- A member that leaves takes its own bindings and no other. -/
theorem Pipeline.Ok.remove_binding {p : Pipeline} (h : p.Ok) {data : DataRef}
    (hok : (pipelineRemoveData p data).1 = .ok) (stream : UInt32) :
    (pipelineRemoveData p data).2.binding stream =
      if p.binding stream = some data then none else p.binding stream := by
  have hafter := (h.moves (pipelineRemoveData_moves p data)).bindings
  have hmatch : p.dataRefMatches data .attached := by
    unfold pipelineRemoveData at hok
    split_ifs at hok with hmatch
    exact hmatch
  have hdrop : (pipelineRemoveData p data).2 = p.dropMember data.index := by
    unfold pipelineRemoveData
    rw [if_neg (not_not.mpr hmatch)]
  rw [hdrop] at hafter ⊢
  have hcell : ∀ pos, pos < p.affinityCapacity → (p.dropMember data.index).affinities pos =
      if (p.affinities pos).value? = some data then .tombstone else p.affinities pos := by
    intro pos hpos
    unfold Pipeline.dropMember Pipeline.bindsTo
    dsimp only
    rw [hmatch.refOf_eq]
    simp [hpos]
  refine Option.ext fun data' => ?_
  rw [hafter.binding_eq_some, Option.ite_none_left_eq_some, h.bindings.binding_eq_some,
    h.bindings.binding_eq_some]
  constructor
  · rintro ⟨pos, hpos, hused⟩
    rw [hcell pos hpos] at hused
    split at hused
    · cases hused
    rename_i hne
    refine ⟨fun ⟨pos', hpos', hused'⟩ => hne ?_, pos, hpos, hused⟩
    rw [h.bindings.sound.single pos hpos pos' hpos' stream data' data hused hused', hused']
    rfl
  · rintro ⟨hne, pos, hpos, hused⟩
    refine ⟨pos, hpos, ?_⟩
    rw [hcell pos hpos, if_neg, hused]
    intro hvalue
    rw [hused] at hvalue
    cases hvalue
    exact hne ⟨pos, hpos, hused⟩

/-- A stream that is bound is not bound again. -/
theorem Pipeline.Ok.bound_once {p : Pipeline} (h : p.Ok) {stream : UInt32} {data : DataRef}
    (hbound : p.binding stream = some data) :
    (pipelinePrepareTransfer p stream).1 ≠ .ok ∧
      ∀ data', (pipelineBindStream p stream data').1 ≠ .ok := by
  obtain ⟨pos, hpos, hcell⟩ := h.bindings.binding_eq_some.mp hbound
  have hfind : p.affinityFind stream = .hit pos :=
    h.bindings.sound.find_eq (Pipeline.affinityProbe_lt h.bindings.positive) hpos hcell
  constructor
  · unfold pipelinePrepareTransfer
    rw [hfind]
    split_ifs <;> simp
  · intro data'
    unfold pipelineBindStream
    rw [hfind]
    split_ifs <;> simp

/-- In every run, whatever frames arrive on whatever connections: a DATA frame is handed to
the application only if its stream is bound, then, to the member and the connection that
carried it; a stream has one binding, and it points at a member; a bound stream is not
bound again, and between two bindings all its frames come from one connection; and a
member that leaves takes exactly its own bindings. -/
theorem group_stream_isolation {start s : IngressWorld} {actions : List IngressAction}
    (hfresh : start.shard.Fresh) (hrun : ingressRun start actions = some s) :
    (∀ connection streamId, (ingressFrame s connection .data streamId).1 = .delivered →
      ∃ member, s.members connection = some member ∧
        (s.shard.groups member.group).binding streamId = some member.data ∧
        (s.shard.groups member.group).dataRefMatches member.data .attached ∧
        ((s.shard.groups member.group).dataSlots member.data.index).connection = connection) ∧
      ∀ g, (∀ streamId data, (s.shard.groups g).binding streamId = some data →
          (s.shard.groups g).dataRefMatches data .attached) ∧
        (∀ pos < (s.shard.groups g).affinityCapacity,
          ∀ pos' < (s.shard.groups g).affinityCapacity, ∀ streamId data data',
          (s.shard.groups g).affinities pos = .used streamId data →
          (s.shard.groups g).affinities pos' = .used streamId data' → pos = pos') ∧
        (∀ streamId data, (s.shard.groups g).binding streamId = some data →
          (pipelinePrepareTransfer (s.shard.groups g) streamId).1 ≠ .ok ∧
            ∀ data', (pipelineBindStream (s.shard.groups g) streamId data').1 ≠ .ok) ∧
        (∀ before middle after streamId data connection, (s.shard.groups g).events =
            before ++ .bound streamId data connection :: middle ++ after →
          (∀ e ∈ middle, e.binds streamId = none) →
          ∀ data' connection', .delivered streamId data' connection' ∈ middle →
            data' = data ∧ connection' = connection) ∧
        ∀ data, ((pipelineRemoveData (s.shard.groups g) data).1 = .ok ↔
            (s.shard.groups g).dataRefMatches data .attached) ∧
          ((pipelineRemoveData (s.shard.groups g) data).1 = .ok → ∀ streamId,
            (pipelineRemoveData (s.shard.groups g) data).2.binding streamId =
              if (s.shard.groups g).binding streamId = some data then none
              else (s.shard.groups g).binding streamId) := by
  have hok := ingressRun_ok hfresh.ok hrun
  refine ⟨fun _ _ h => ingressFrame_delivered h, fun g => ?_⟩
  have hg := hok.groups g
  refine ⟨fun streamId data hbound => ?_, hg.bindings.sound.single,
    fun _ _ hbound => hg.bound_once hbound,
    fun _ _ _ _ _ _ hevents hmiddle _ _ hdelivered =>
      hg.bindings.delivered.segment hevents hmiddle hdelivered,
    fun _ => ⟨by unfold pipelineRemoveData; split <;> simp_all, hg.remove_binding⟩⟩
  obtain ⟨pos, hpos, hcell⟩ := hg.bindings.binding_eq_some.mp hbound
  exact hg.bindings.attached pos hpos streamId data hcell

/-- A member joins, a stream is prepared and its frame delivered.  The route is turned down a
second time, the member leaves, and the stream is prepared again on another one. -/
def exampleIngress : List IngressAction :=
  [.group (.registerControl 0 ⟨1, 0, 1⟩), .group (.pipeline 0 .reserveData),
    .attach exampleRoute ⟨1, 1, 1⟩ true .ok, .group (.pipeline 0 (.prepareTransfer 5)),
    .frame ⟨1, 1, 1⟩ .data 5, .group (.pipeline 0 .reserveData),
    .attach exampleRoute ⟨1, 2, 1⟩ true .ok, .event ⟨1, 1, 1⟩,
    .attach { exampleRoute with memberIndex := 1 } ⟨1, 2, 1⟩ true .ok,
    .group (.pipeline 0 (.prepareTransfer 5)), .frame ⟨1, 1, 1⟩ .data 5, .frame ⟨1, 2, 1⟩ .data 5]

def exampleDeliveries : List GroupEvent :=
  [.reserved ⟨0, 1⟩, .attached ⟨0, 1⟩ ⟨1, 1, 1⟩ (some ⟨1, 0, 1⟩), .bound 5 ⟨0, 1⟩ ⟨1, 1, 1⟩,
    .delivered 5 ⟨0, 1⟩ ⟨1, 1, 1⟩, .reserved ⟨1, 1⟩, .ended ⟨0, 1⟩,
    .attached ⟨1, 1⟩ ⟨1, 2, 1⟩ (some ⟨1, 0, 1⟩), .bound 5 ⟨1, 1⟩ ⟨1, 2, 1⟩,
    .delivered 5 ⟨1, 1⟩ ⟨1, 2, 1⟩]

theorem group_stream_isolation_delivered :
    ∃ s, ingressRun ⟨exampleShard, fun _ => none⟩ exampleIngress = some s ∧
      (s.shard.groups 0).events = exampleDeliveries ∧
      (pipelineRemoveData (s.shard.groups 0) ⟨1, 1⟩).1 = .ok := by
  obtain ⟨s, hs, hfacts⟩ := Option.map_eq_some_iff.mp (show
    (ingressRun ⟨exampleShard, fun _ => none⟩ exampleIngress).map
      (fun s => ((s.shard.groups 0).events, (s.shard.groups 0).binding 5)) =
      some (exampleDeliveries, some ⟨1, 1⟩) by decide +kernel)
  rw [Prod.mk.injEq] at hfacts
  obtain ⟨hbound, _, _, _, hremove⟩ := (group_stream_isolation exampleShard_fresh hs).2 0
  exact ⟨s, hs, hfacts.1, (hremove ⟨1, 1⟩).1.mpr (hbound 5 ⟨1, 1⟩ hfacts.2)⟩

end Trpc
