import Trpc.Lib.Counting
import Trpc.Lib.Runs
import Trpc.Lib.Tombstones
import Trpc.Status

/-!
# A connection group

`group/pipeline.c`: one CONTROL connection and up to `data_capacity` DATA connections.
A DATA connection joins with a capability, the index of a slot and its generation, that
was reserved before.  A stream is bound to one DATA member; the bindings are a hash
table with tombstones.

`Pipeline.Move` are the updates with the conditions under which they are made; every
function is a sequence of moves (`pipelineStep_moves`).
-/

namespace Trpc

open Lib Lib.Tombstones

/-! ## The pipeline -/

/-- `struct tr_conn_handle`; the reactor is a pointer, and 0 is `NULL`. -/
structure ConnHandle where
  reactor : Nat
  slot : Nat
  generation : Nat
  deriving DecidableEq, Repr

/-- The handle that `memset` leaves. -/
def connHandleZero : ConnHandle := ⟨0, 0, 0⟩

/-- `struct tr_pipeline_data_ref`: the capability of a DATA connection. -/
structure DataRef where
  index : Nat
  generation : Nat
  deriving DecidableEq, Repr

/-- `enum tr_pipeline_data_state`. -/
inductive DataState
  | free
  | reserved
  | attached
  deriving DecidableEq, Repr

/-- `struct tr_pipeline_data_slot`. -/
structure DataSlot where
  connection : ConnHandle := connHandleZero
  generation : Nat := 0
  state : DataState := .free
  deriving DecidableEq, Repr

/-- What has been done in a group.  `attached` holds the CONTROL connection of that
moment, `bound` the connection of the member, and `delivered` the connection that
carried the frame. -/
inductive GroupEvent
  | reserved (data : DataRef)
  | attached (data : DataRef) (connection : ConnHandle) (control : Option ConnHandle)
  | ended (data : DataRef)
  | bound (stream : UInt32) (data : DataRef) (connection : ConnHandle)
  | delivered (stream : UInt32) (data : DataRef) (connection : ConnHandle)
  deriving DecidableEq, Repr

/-- `struct tr_pipeline`.  `control_bound` is part of `control`.  The events are a
history and not in the source. -/
structure Pipeline where
  owner : Nat
  ownerShardId : UInt32
  pipelineId : UInt64
  epoch : UInt64
  control : Option ConnHandle := none
  dataSlots : Nat → DataSlot := fun _ => {}
  dataCapacity : Nat
  dataReservedCount : Nat := 0
  dataCount : Nat := 0
  nextDataIndex : Nat := 0
  affinities : Nat → Cell UInt32 DataRef := fun _ => .empty
  affinityCapacity : Nat
  affinityCount : Nat := 0
  events : List GroupEvent := []

/-- `struct tr_pipeline_config`. -/
structure PipelineConfig where
  owner : Nat
  ownerShardId : UInt32
  pipelineId : UInt64
  epoch : UInt64
  dataCapacity : Nat
  streamAffinityCapacity : Nat

/-- `UINT32_MAX`: no shard has this number. -/
def shardIdNone : UInt32 := 0xffffffff

/-- `tr_pipeline_create`. -/
def pipelineCreate (config : PipelineConfig) : Except Status Pipeline :=
  if config.owner = 0 ∨ config.ownerShardId = shardIdNone ∨ config.pipelineId = 0 ∨
      config.epoch = 0 ∨ config.dataCapacity = 0 ∨ config.streamAffinityCapacity = 0 then
    .error .errInvalid
  else
    .ok
      { owner := config.owner
        ownerShardId := config.ownerShardId
        pipelineId := config.pipelineId
        epoch := config.epoch
        dataCapacity := config.dataCapacity
        affinityCapacity := config.streamAffinityCapacity }

/-- `tr_pipeline_stream_hash`. -/
def pipelineStreamHash (streamId : UInt32) : UInt32 :=
  let value := streamId ^^^ (streamId >>> 16)
  let value := value * 0x7feb352d
  let value := value ^^^ (value >>> 15)
  let value := value * 0x846ca68b
  value ^^^ (value >>> 16)

/-- The cell at an offset of a search; the sum is a 32-bit one. -/
def affinityProbe (capacity : Nat) (streamId : UInt32) (offset : Nat) : Nat :=
  ((pipelineStreamHash streamId).toNat % capacity + offset) % 2 ^ 32 % capacity

/-- `tr_pipeline_next_generation`: the next number of 32 bits that is not 0. -/
def pipelineNextGeneration (generation : Nat) : Nat :=
  if (generation + 1) % 2 ^ 32 = 0 then 1 else (generation + 1) % 2 ^ 32

namespace Pipeline

/-- `tr_pipeline_connection_is_data`. -/
def connectionIsData (p : Pipeline) (connection : ConnHandle) : Bool :=
  (List.range p.dataCapacity).any fun i =>
    (p.dataSlots i).state = .attached ∧ (p.dataSlots i).connection = connection

/-- `tr_pipeline_data_ref_matches`. -/
def dataRefMatches (p : Pipeline) (data : DataRef) (state : DataState) : Prop :=
  data.index < p.dataCapacity ∧ data.generation ≠ 0 ∧ (p.dataSlots data.index).state = state ∧
    (p.dataSlots data.index).generation = data.generation

instance (p : Pipeline) (data : DataRef) (state : DataState) :
    Decidable (p.dataRefMatches data state) :=
  inferInstanceAs (Decidable (_ ∧ _))

/-- `tr_pipeline_affinity_find`. -/
def affinityFind (p : Pipeline) (streamId : UInt32) : Found :=
  find p.affinityCapacity p.affinities (affinityProbe p.affinityCapacity) streamId

/-- The member that a stream is bound to. -/
def binding (p : Pipeline) (streamId : UInt32) : Option DataRef :=
  lookup p.affinityCapacity p.affinities (affinityProbe p.affinityCapacity) streamId

/-- The capability of what is in a slot. -/
def refOf (p : Pipeline) (i : Nat) : DataRef := ⟨i, (p.dataSlots i).generation⟩

/-! ## What the functions write -/

/-- A new CONTROL connection. -/
def bindControl (p : Pipeline) (connection : ConnHandle) : Pipeline :=
  { p with control := some connection }

/-- The slots that are reserved. -/
def reservedSlots (p : Pipeline) : List Nat :=
  (List.range p.dataCapacity).filter fun i => (p.dataSlots i).state = .reserved

/-- CONTROL leaves, and takes every reservation with it. -/
def releaseControl (p : Pipeline) : Pipeline :=
  { p with
    control := none
    dataSlots := fun i =>
      if i < p.dataCapacity ∧ (p.dataSlots i).state = .reserved then
        { p.dataSlots i with state := .free, connection := connHandleZero }
      else p.dataSlots i
    dataReservedCount := 0
    events := p.events ++ p.reservedSlots.map fun i => .ended (p.refOf i) }

/-- A new reservation of a slot. -/
def reserveSlot (p : Pipeline) (i : Nat) : Pipeline :=
  { p with
    dataSlots := Function.update p.dataSlots i
      { generation := pipelineNextGeneration (p.dataSlots i).generation
        connection := connHandleZero
        state := .reserved }
    dataReservedCount := p.dataReservedCount + 1
    events := p.events ++ [.reserved ⟨i, pipelineNextGeneration (p.dataSlots i).generation⟩] }

/-- A reservation becomes a member. -/
def attachSlot (p : Pipeline) (i : Nat) (connection : ConnHandle) : Pipeline :=
  { p with
    dataSlots := Function.update p.dataSlots i
      { p.dataSlots i with connection := connection, state := .attached }
    dataReservedCount := p.dataReservedCount - 1
    dataCount := p.dataCount + 1
    events := p.events ++ [.attached (p.refOf i) connection p.control] }

/-- A reservation is given back. -/
def freeSlot (p : Pipeline) (i : Nat) : Pipeline :=
  { p with
    dataSlots := Function.update p.dataSlots i
      { p.dataSlots i with connection := connHandleZero, state := .free }
    dataReservedCount := p.dataReservedCount - 1
    events := p.events ++ [.ended (p.refOf i)] }

/-- A cell holds a binding of this member. -/
def bindsTo (p : Pipeline) (data : DataRef) (pos : Nat) : Bool :=
  (p.affinities pos).value? = some data

/-- A member leaves, and its bindings with it. -/
def dropMember (p : Pipeline) (i : Nat) : Pipeline :=
  { p with
    dataSlots := Function.update p.dataSlots i
      { p.dataSlots i with connection := connHandleZero, state := .free }
    dataCount := p.dataCount - 1
    affinities := fun pos =>
      if pos < p.affinityCapacity ∧ p.bindsTo (p.refOf i) pos then .tombstone
      else p.affinities pos
    affinityCount := p.affinityCount -
      ((Finset.range p.affinityCapacity).filter fun pos => p.bindsTo (p.refOf i) pos).card
    events := p.events ++ [.ended (p.refOf i)] }

/-- A stream is bound to the member of a slot. -/
def bindAffinity (p : Pipeline) (pos : Nat) (streamId : UInt32) (i : Nat) : Pipeline :=
  { p with
    affinities := Function.update p.affinities pos (.used streamId (p.refOf i))
    affinityCount := p.affinityCount + 1
    events := p.events ++ [.bound streamId (p.refOf i) (p.dataSlots i).connection] }

/-- A binding is removed. -/
def dropAffinity (p : Pipeline) (pos : Nat) : Pipeline :=
  { p with
    affinities := Function.update p.affinities pos .tombstone
    affinityCount := p.affinityCount - 1 }

/-- The next selection starts behind this slot; the sum is a 32-bit one. -/
def turnPast (p : Pipeline) (i : Nat) : Pipeline :=
  { p with nextDataIndex := (i + 1) % 2 ^ 32 % p.dataCapacity }

/-- A frame of a stream has been handed to the application. -/
def noteDelivered (p : Pipeline) (streamId : UInt32) (data : DataRef)
    (connection : ConnHandle) : Pipeline :=
  { p with events := p.events ++ [.delivered streamId data connection] }

end Pipeline

/-! ## The functions -/

/-- `tr_pipeline_set_control_on_owner`. -/
def pipelineSetControl (p : Pipeline) (connection : ConnHandle) : Status × Pipeline :=
  if connection.reactor ≠ p.owner then (.errInvalid, p)
  else if p.control.isSome ∨ p.connectionIsData connection then (.errState, p)
  else (.ok, p.bindControl connection)

/-- `tr_pipeline_clear_control_on_owner`. -/
def pipelineClearControl (p : Pipeline) (expected : ConnHandle) : Status × Pipeline :=
  if p.control ≠ some expected then (.errStale, p)
  else if p.dataReservedCount ≠ 0 then (.ok, p.releaseControl)
  else (.ok, { p with control := none })

/-- `tr_pipeline_reserve_data_on_owner`, with the reference it writes. -/
def pipelineReserveData (p : Pipeline) : Status × Pipeline × Option DataRef :=
  if p.control = none then (.errState, p, none)
  else if p.dataCapacity ≤ p.dataCount + p.dataReservedCount then (.again, p, none)
  else
    match (List.range p.dataCapacity).find? fun i => (p.dataSlots i).state = .free with
    | some i => (.ok, p.reserveSlot i, some ((p.reserveSlot i).refOf i))
    | none => (.again, p, none)

/-- `tr_pipeline_attach_data_on_owner`. -/
def pipelineAttachData (p : Pipeline) (data : DataRef) (connection : ConnHandle) :
    Status × Pipeline :=
  if p.control = none then (.errState, p)
  else if connection.reactor ≠ p.owner then (.errInvalid, p)
  else if p.control = some connection ∨ p.connectionIsData connection then (.errState, p)
  else if ¬ p.dataRefMatches data .reserved then (.errStale, p)
  else (.ok, p.attachSlot data.index connection)

/-- `tr_pipeline_validate_data_reservation_on_owner`. -/
def pipelineValidateDataReservation (p : Pipeline) (data : DataRef) : Status :=
  if p.control = none then .errState
  else if ¬ p.dataRefMatches data .reserved then .errStale
  else .ok

/-- `tr_pipeline_cancel_data_reservation_on_owner`. -/
def pipelineCancelDataReservation (p : Pipeline) (data : DataRef) : Status × Pipeline :=
  if ¬ p.dataRefMatches data .reserved then (.errStale, p)
  else (.ok, p.freeSlot data.index)

/-- `tr_pipeline_cancel_data_offer_on_owner`. -/
def pipelineCancelDataOffer (p : Pipeline) (data : DataRef) : Status × Pipeline :=
  if p.dataCapacity ≤ data.index ∨ data.generation = 0 then (.errStale, p)
  else if (p.dataSlots data.index).generation ≠ data.generation then (.errStale, p)
  else
    match (p.dataSlots data.index).state with
    | .reserved => (.ok, p.freeSlot data.index)
    | .attached => (.ok, p)
    | .free => (.ok, p)

/-- `tr_pipeline_add_data_on_owner`. -/
def pipelineAddData (p : Pipeline) (connection : ConnHandle) : Status × Pipeline × Option DataRef :=
  if connection.reactor ≠ p.owner then (.errInvalid, p, none)
  else if p.control = some connection ∨ p.connectionIsData connection then (.errState, p, none)
  else
    match pipelineReserveData p with
    | (.ok, reserved, some data) =>
      match pipelineAttachData reserved data connection with
      | (.ok, attached) => (.ok, attached, some data)
      | (ret, reserved') => (ret, (pipelineCancelDataReservation reserved' data).2, some data)
    | (ret, p', out) => (ret, p', out)

/-- `tr_pipeline_remove_data_on_owner`. -/
def pipelineRemoveData (p : Pipeline) (data : DataRef) : Status × Pipeline :=
  if ¬ p.dataRefMatches data .attached then (.errStale, p)
  else (.ok, p.dropMember data.index)

/-- `tr_pipeline_data_connection_on_owner`. -/
def pipelineDataConnection (p : Pipeline) (data : DataRef) : Except Status ConnHandle :=
  if ¬ p.dataRefMatches data .attached then .error .errStale
  else .ok (p.dataSlots data.index).connection

/-- The first attached slot from `next_data_index` on; the sum is a 32-bit one. -/
def pipelineNextMember (p : Pipeline) : Option Nat :=
  ((List.range p.dataCapacity).map fun offset =>
    (p.nextDataIndex + offset) % 2 ^ 32 % p.dataCapacity).find? fun index =>
      (p.dataSlots index).state = .attached

/-- `tr_pipeline_select_data_on_owner`. -/
def pipelineSelectData (p : Pipeline) : Status × Pipeline × Option DataRef :=
  if p.dataCount = 0 then (.again, p, none)
  else
    match pipelineNextMember p with
    | some index => (.ok, p.turnPast index, some (p.refOf index))
    | none => (.again, p, none)

/-- `tr_pipeline_bind_stream_on_owner`. -/
def pipelineBindStream (p : Pipeline) (streamId : UInt32) (data : DataRef) : Status × Pipeline :=
  if streamId = 0 then (.errInvalid, p)
  else if ¬ p.dataRefMatches data .attached then (.errStale, p)
  else
    match p.affinityFind streamId with
    | .hit _ => (.errState, p)
    | .missing none => (.again, p)
    | .missing (some insert) => (.ok, p.bindAffinity insert streamId data.index)

/-- `tr_pipeline_prepare_transfer_on_owner`, with the member it answers. -/
def pipelinePrepareTransfer (p : Pipeline) (streamId : UInt32) :
    Status × Pipeline × Option DataRef :=
  if streamId = 0 then (.errInvalid, p, none)
  else if p.control = none then (.errState, p, none)
  else
    match p.affinityFind streamId with
    | .hit _ => (.errState, p, none)
    | .missing none => (.again, p, none)
    | .missing (some insert) =>
      if p.dataCount = 0 then (.again, p, none)
      else
        match pipelineNextMember p with
        | none => (.again, p, none)
        | some selected =>
          (.ok, (p.bindAffinity insert streamId selected).turnPast selected,
            some (p.refOf selected))

/-- `tr_pipeline_stream_data_on_owner`: the member of a stream and its connection. -/
def pipelineStreamData (p : Pipeline) (streamId : UInt32) :
    Status × Pipeline × Option (DataRef × ConnHandle) :=
  if streamId = 0 then (.errInvalid, p, none)
  else
    match p.affinityFind streamId with
    | .missing _ => (.errStale, p, none)
    | .hit slot =>
      match (p.affinities slot).value? with
      | some data =>
        if p.dataRefMatches data .attached then
          (.ok, p, some (data, (p.dataSlots data.index).connection))
        else (.errStale, p.dropAffinity slot, none)
      | none => (.errStale, p, none)

/-- `tr_pipeline_unbind_stream_on_owner`. -/
def pipelineUnbindStream (p : Pipeline) (streamId : UInt32) : Status × Pipeline :=
  if streamId = 0 then (.errInvalid, p)
  else
    match p.affinityFind streamId with
    | .missing _ => (.errStale, p)
    | .hit slot => (.ok, p.dropAffinity slot)

/-- The functions that change a pipeline. -/
inductive PipelineAction
  | setControl (connection : ConnHandle)
  | clearControl (expected : ConnHandle)
  | reserveData
  | attachData (data : DataRef) (connection : ConnHandle)
  | cancelDataReservation (data : DataRef)
  | cancelDataOffer (data : DataRef)
  | addData (connection : ConnHandle)
  | removeData (data : DataRef)
  | selectData
  | bindStream (streamId : UInt32) (data : DataRef)
  | prepareTransfer (streamId : UInt32)
  | streamData (streamId : UInt32)
  | unbindStream (streamId : UInt32)
  deriving DecidableEq, Repr

/-- The pipeline after a call. -/
def pipelineStep (p : Pipeline) : PipelineAction → Pipeline
  | .setControl connection => (pipelineSetControl p connection).2
  | .clearControl expected => (pipelineClearControl p expected).2
  | .reserveData => (pipelineReserveData p).2.1
  | .attachData data connection => (pipelineAttachData p data connection).2
  | .cancelDataReservation data => (pipelineCancelDataReservation p data).2
  | .cancelDataOffer data => (pipelineCancelDataOffer p data).2
  | .addData connection => (pipelineAddData p connection).2.1
  | .removeData data => (pipelineRemoveData p data).2
  | .selectData => (pipelineSelectData p).2.1
  | .bindStream streamId data => (pipelineBindStream p streamId data).2
  | .prepareTransfer streamId => (pipelinePrepareTransfer p streamId).2.1
  | .streamData streamId => (pipelineStreamData p streamId).2.1
  | .unbindStream streamId => (pipelineUnbindStream p streamId).2

/-! ## Moves -/

/-- What can happen to a pipeline at once, and when. -/
inductive Pipeline.Move : Pipeline → Pipeline → Prop
  | bindControl {p : Pipeline} {connection : ConnHandle} (hcontrol : p.control = none)
      (hdata : p.connectionIsData connection = false) : Move p (p.bindControl connection)
  | releaseControl {p : Pipeline} : Move p p.releaseControl
  | dropControl {p : Pipeline} (hnone : p.dataReservedCount = 0) :
      Move p { p with control := none }
  | reserve {p : Pipeline} {i : Nat} (hi : i < p.dataCapacity) (hcontrol : p.control ≠ none)
      (hstate : (p.dataSlots i).state = .free) : Move p (p.reserveSlot i)
  | attach {p : Pipeline} {i : Nat} {connection : ConnHandle} (hi : i < p.dataCapacity)
      (hcontrol : p.control ≠ none) (hother : p.control ≠ some connection)
      (hdata : p.connectionIsData connection = false)
      (hstate : (p.dataSlots i).state = .reserved) : Move p (p.attachSlot i connection)
  | free {p : Pipeline} {i : Nat} (hi : i < p.dataCapacity)
      (hstate : (p.dataSlots i).state = .reserved) : Move p (p.freeSlot i)
  | drop {p : Pipeline} {i : Nat} (hi : i < p.dataCapacity)
      (hstate : (p.dataSlots i).state = .attached) : Move p (p.dropMember i)
  | bind {p : Pipeline} {pos i : Nat} {streamId : UInt32} (hi : i < p.dataCapacity)
      (hstate : (p.dataSlots i).state = .attached)
      (hfind : p.affinityFind streamId = .missing (some pos)) :
      Move p (p.bindAffinity pos streamId i)
  | unbind {p : Pipeline} {pos : Nat} {streamId : UInt32}
      (hfind : p.affinityFind streamId = .hit pos) : Move p (p.dropAffinity pos)
  | turn {p : Pipeline} {i : Nat} : Move p (p.turnPast i)
  | deliver {p : Pipeline} {streamId : UInt32} {data : DataRef}
      (hbinding : p.binding streamId = some data) :
      Move p (p.noteDelivered streamId data (p.dataSlots data.index).connection)

open Relation (ReflTransGen)

section

variable (p : Pipeline)

/-- CONTROL is bound where there is none, to a connection that is not a member. -/
theorem pipelineSetControl_cases (connection : ConnHandle) :
    ((pipelineSetControl p connection).1 ≠ .ok ∧ (pipelineSetControl p connection).2 = p) ∨
      (p.control = none ∧ p.connectionIsData connection = false ∧
        pipelineSetControl p connection = (.ok, p.bindControl connection)) := by
  unfold pipelineSetControl
  split_ifs with howner hused
  · exact .inl ⟨by simp, rfl⟩
  · exact .inl ⟨by simp, rfl⟩
  · push Not at hused
    exact .inr ⟨by simpa using hused.1, by simpa using hused.2, rfl⟩

theorem pipelineSetControl_moves (connection : ConnHandle) :
    ReflTransGen Pipeline.Move p (pipelineSetControl p connection).2 := by
  rcases pipelineSetControl_cases p connection with ⟨_, hsame⟩ | ⟨hcontrol, hdata, heq⟩
  · rw [hsame]
  · rw [heq]
    exact .single (.bindControl hcontrol hdata)

theorem pipelineClearControl_moves (expected : ConnHandle) :
    ReflTransGen Pipeline.Move p (pipelineClearControl p expected).2 := by
  unfold pipelineClearControl
  split_ifs with hstale hcount
  · exact .refl
  · exact .single .releaseControl
  · exact .single (.dropControl (not_not.mp hcount))

/-- A reservation that succeeds has taken a free slot. -/
theorem pipelineReserveData_cases :
    ((pipelineReserveData p).1 ≠ .ok ∧ (pipelineReserveData p).2.1 = p) ∨
      ∃ i < p.dataCapacity, p.control ≠ none ∧ (p.dataSlots i).state = .free ∧
        pipelineReserveData p = (.ok, p.reserveSlot i, some ((p.reserveSlot i).refOf i)) := by
  unfold pipelineReserveData
  split_ifs with hcontrol hfull
  · exact .inl ⟨by simp, rfl⟩
  · exact .inl ⟨by simp, rfl⟩
  · split
    next i hfind =>
      refine .inr ⟨i, ?_, hcontrol, ?_, rfl⟩
      · exact List.mem_range.mp (List.mem_of_find?_eq_some hfind)
      · simpa using List.find?_some hfind
    · exact .inl ⟨by simp, rfl⟩

theorem pipelineReserveData_moves :
    ReflTransGen Pipeline.Move p (pipelineReserveData p).2.1 := by
  rcases pipelineReserveData_cases p with ⟨_, hsame⟩ | ⟨i, hi, hcontrol, hstate, heq⟩
  · rw [hsame]
  · rw [heq]
    exact .single (.reserve hi hcontrol hstate)

/-- An attach that succeeds has met all its conditions. -/
theorem pipelineAttachData_cases (data : DataRef) (connection : ConnHandle) :
    ((pipelineAttachData p data connection).1 ≠ .ok ∧
        (pipelineAttachData p data connection).2 = p) ∨
      (p.control ≠ none ∧ connection.reactor = p.owner ∧ p.control ≠ some connection ∧
        p.connectionIsData connection = false ∧ p.dataRefMatches data .reserved ∧
        pipelineAttachData p data connection = (.ok, p.attachSlot data.index connection)) := by
  unfold pipelineAttachData
  split_ifs with hcontrol howner hused hmatch
  iterate 3 · exact .inl ⟨by simp, rfl⟩
  · push Not at hused
    exact .inr ⟨hcontrol, not_not.mp howner, hused.1, by simpa using hused.2, hmatch, rfl⟩
  · exact .inl ⟨by simp, rfl⟩

theorem pipelineAttachData_moves (data : DataRef) (connection : ConnHandle) :
    ReflTransGen Pipeline.Move p (pipelineAttachData p data connection).2 := by
  rcases pipelineAttachData_cases p data connection with
    ⟨_, hsame⟩ | ⟨hcontrol, _, hother, hdata, hmatch, heq⟩
  · rw [hsame]
  · rw [heq]
    exact .single (.attach hmatch.1 hcontrol hother hdata hmatch.2.2.1)

theorem pipelineCancelDataReservation_moves (data : DataRef) :
    ReflTransGen Pipeline.Move p (pipelineCancelDataReservation p data).2 := by
  unfold pipelineCancelDataReservation
  split_ifs with hmatch
  · exact .single (.free hmatch.1 hmatch.2.2.1)
  · exact .refl

theorem pipelineCancelDataOffer_moves (data : DataRef) :
    ReflTransGen Pipeline.Move p (pipelineCancelDataOffer p data).2 := by
  unfold pipelineCancelDataOffer
  split_ifs with hrange hgeneration
  · exact .refl
  · exact .refl
  · push Not at hrange
    cases hstate : (p.dataSlots data.index).state with
    | reserved => exact .single (.free hrange.1 hstate)
    | attached => exact .refl
    | free => exact .refl

theorem pipelineAddData_moves (connection : ConnHandle) :
    ReflTransGen Pipeline.Move p (pipelineAddData p connection).2.1 := by
  unfold pipelineAddData
  split_ifs with howner hused
  · exact .refl
  · exact .refl
  · rcases pipelineReserveData_cases p with ⟨hret, hsame⟩ | ⟨i, hi, hcontrol, hstate, heq⟩
    · split
      next hok =>
        rw [hok] at hret
        exact absurd rfl hret
      next hother =>
        rw [hother] at hsame
        rw [hsame]
    · have hreserve : Pipeline.Move p (p.reserveSlot i) := .reserve hi hcontrol hstate
      rw [heq]
      dsimp only
      have hattach := pipelineAttachData_moves (p.reserveSlot i) ((p.reserveSlot i).refOf i)
        connection
      split
      next hok =>
        rw [hok] at hattach
        exact .head hreserve hattach
      rename_i hother
      rw [hother] at hattach
      exact (ReflTransGen.head hreserve hattach).trans (pipelineCancelDataReservation_moves _ _)

theorem pipelineRemoveData_moves (data : DataRef) :
    ReflTransGen Pipeline.Move p (pipelineRemoveData p data).2 := by
  unfold pipelineRemoveData
  split_ifs with hmatch
  · exact .single (.drop hmatch.1 hmatch.2.2.1)
  · exact .refl

end

theorem pipelineNextMember_some {p : Pipeline} {i : Nat} (h : pipelineNextMember p = some i) :
    i < p.dataCapacity ∧ (p.dataSlots i).state = .attached := by
  obtain ⟨offset, hoffset, rfl⟩ := List.mem_map.mp (List.mem_of_find?_eq_some h)
  refine ⟨Nat.mod_lt _ ?_, by simpa using List.find?_some h⟩
  exact Nat.lt_of_le_of_lt (Nat.zero_le _) (List.mem_range.mp hoffset)

section

variable (p : Pipeline)

theorem pipelineSelectData_moves :
    ReflTransGen Pipeline.Move p (pipelineSelectData p).2.1 := by
  unfold pipelineSelectData
  split_ifs with hcount
  · exact .refl
  split
  · exact .single .turn
  · exact .refl

theorem pipelineBindStream_moves (streamId : UInt32) (data : DataRef) :
    ReflTransGen Pipeline.Move p (pipelineBindStream p streamId data).2 := by
  unfold pipelineBindStream
  split_ifs with hzero hmatch
  · exact .refl
  · split
    · exact .refl
    · exact .refl
    next hfind =>
      exact .single (.bind hmatch.1 hmatch.2.2.1 hfind)
  · exact .refl

theorem pipelinePrepareTransfer_moves (streamId : UInt32) :
    ReflTransGen Pipeline.Move p (pipelinePrepareTransfer p streamId).2.1 := by
  unfold pipelinePrepareTransfer
  split_ifs with hzero hcontrol hcount
  · exact .refl
  · exact .refl
  · split <;> exact .refl
  · split
    · exact .refl
    · exact .refl
    next insert hfind =>
      split
      · exact .refl
      rename_i selected hselected
      obtain ⟨hi, hstate⟩ := pipelineNextMember_some hselected
      exact .head (.bind hi hstate hfind) (.single .turn)

theorem pipelineStreamData_moves (streamId : UInt32) :
    ReflTransGen Pipeline.Move p (pipelineStreamData p streamId).2.1 := by
  unfold pipelineStreamData
  split_ifs with hzero
  · exact .refl
  split
  · exact .refl
  rename_i slot hfind
  split
  · split_ifs
    · exact .refl
    · exact .single (.unbind hfind)
  · exact .refl

theorem pipelineUnbindStream_moves (streamId : UInt32) :
    ReflTransGen Pipeline.Move p (pipelineUnbindStream p streamId).2 := by
  unfold pipelineUnbindStream
  split_ifs with hzero
  · exact .refl
  split
  · exact .refl
  next slot hfind =>
    exact .single (.unbind hfind)

/-- Every function is a sequence of moves. -/
theorem pipelineStep_moves (action : PipelineAction) :
    ReflTransGen Pipeline.Move p (pipelineStep p action) := by
  cases action with
  | setControl connection => exact pipelineSetControl_moves p connection
  | clearControl expected => exact pipelineClearControl_moves p expected
  | reserveData => exact pipelineReserveData_moves p
  | attachData data connection => exact pipelineAttachData_moves p data connection
  | cancelDataReservation data => exact pipelineCancelDataReservation_moves p data
  | cancelDataOffer data => exact pipelineCancelDataOffer_moves p data
  | addData connection => exact pipelineAddData_moves p connection
  | removeData data => exact pipelineRemoveData_moves p data
  | selectData => exact pipelineSelectData_moves p
  | bindStream streamId data => exact pipelineBindStream_moves p streamId data
  | prepareTransfer streamId => exact pipelinePrepareTransfer_moves p streamId
  | streamData streamId => exact pipelineStreamData_moves p streamId
  | unbindStream streamId => exact pipelineUnbindStream_moves p streamId

end

end Trpc
