import Trpc.Group.PipelineInv
import Trpc.Group.Route

/-!
# The groups of a shard

`group/pipeline_registry.c`: the table that a DATA connection is routed by.  The state
of a shard is the registry with the pipelines themselves; the registry holds pointers,
and a pointer here is a number.

`GroupWorld.Ok`: every group keeps its invariant, and an entry of the registry names
the identity of the pipeline it points at.
-/

namespace Trpc

open Lib Lib.Tombstones
open Relation (ReflTransGen)

/-- `struct tr_pipeline_registry`. -/
structure PipelineRegistry where
  owner : Nat
  ownerShardId : UInt32
  entries : Nat → Cell UInt64 Nat := fun _ => .empty
  capacity : Nat
  count : Nat := 0

/-- `tr_pipeline_registry_create`. -/
def registryCreate (owner : Nat) (ownerShardId : UInt32) (capacity : Nat) :
    Except Status PipelineRegistry :=
  if owner = 0 ∨ ownerShardId = shardIdNone ∨ capacity = 0 then .error .errInvalid
  else .ok { owner := owner, ownerShardId := ownerShardId, capacity := capacity }

/-- `tr_pipeline_registry_hash`. -/
def registryHash (pipelineId : UInt64) : UInt32 :=
  let value := pipelineId ^^^ (pipelineId >>> 33)
  let value := value * 0xff51afd7ed558ccd
  let value := value ^^^ (value >>> 33)
  let value := value * 0xc4ceb9fe1a85ec53
  let value := value ^^^ (value >>> 33)
  (value ^^^ (value >>> 32)).toUInt32

/-- The cell at an offset of a search; the sum is a 32-bit one. -/
def registryProbe (capacity : Nat) (pipelineId : UInt64) (offset : Nat) : Nat :=
  ((registryHash pipelineId).toNat % capacity + offset) % 2 ^ 32 % capacity

/-- A shard: its registry and the pipelines that pointers lead to. -/
structure GroupWorld where
  registry : PipelineRegistry
  groups : Nat → Pipeline

namespace GroupWorld

/-- `tr_pipeline_registry_find`. -/
def find (w : GroupWorld) (pipelineId : UInt64) : Found :=
  Tombstones.find w.registry.capacity w.registry.entries (registryProbe w.registry.capacity)
    pipelineId

/-- The pipeline in a cell. -/
def pipelineAt (w : GroupWorld) (pos : Nat) : Option Nat :=
  (w.registry.entries pos).value?

/-- One pipeline changes. -/
def setGroup (w : GroupWorld) (g : Nat) (p : Pipeline) : GroupWorld :=
  { w with groups := Function.update w.groups g p }

/-- A pipeline is entered. -/
def enter (w : GroupWorld) (pos g : Nat) : GroupWorld :=
  { w with
    registry :=
      { w.registry with
        entries := Function.update w.registry.entries pos (.used (w.groups g).pipelineId g)
        count := w.registry.count + 1 } }

/-- An entry becomes a tombstone. -/
def erase (w : GroupWorld) (pos : Nat) : GroupWorld :=
  { w with
    registry :=
      { w.registry with
        entries := Function.update w.registry.entries pos .tombstone
        count := w.registry.count - 1 } }

end GroupWorld

/-! ## The functions -/

/-- `tr_pipeline_registry_register_on_owner`. -/
def registryRegister (w : GroupWorld) (g : Nat) : Status × GroupWorld :=
  if (w.groups g).owner ≠ w.registry.owner ∨
      (w.groups g).ownerShardId ≠ w.registry.ownerShardId then (.errInvalid, w)
  else
    match w.find (w.groups g).pipelineId with
    | .hit _ => (.errState, w)
    | .missing none => (.again, w)
    | .missing (some insert) =>
      if w.registry.count = w.registry.capacity then (.again, w)
      else (.ok, w.enter insert g)

/-- `tr_pipeline_registry_register_control_on_owner`. -/
def registryRegisterControl (w : GroupWorld) (g : Nat) (control : ConnHandle) :
    Status × GroupWorld :=
  if (w.groups g).owner ≠ w.registry.owner ∨ (w.groups g).ownerShardId ≠ w.registry.ownerShardId ∨
      control.reactor ≠ w.registry.owner then (.errInvalid, w)
  else
    match w.find (w.groups g).pipelineId with
    | .hit _ => (.errState, w)
    | .missing none => (.again, w)
    | .missing (some insert) =>
      if w.registry.count = w.registry.capacity then (.again, w)
      else
        match pipelineSetControl (w.groups g) control with
        | (.ok, p) => (.ok, (w.setGroup g p).enter insert g)
        | (ret, _) => (ret, w)

/-- `tr_pipeline_registry_unregister_on_owner`. -/
def registryUnregister (w : GroupWorld) (g : Nat) : Status × GroupWorld :=
  match w.find (w.groups g).pipelineId with
  | .missing _ => (.errStale, w)
  | .hit found =>
    if w.pipelineAt found ≠ some g then (.errStale, w)
    else if (w.groups g).control.isSome ∨ (w.groups g).dataReservedCount ≠ 0 ∨
        (w.groups g).dataCount ≠ 0 ∨ (w.groups g).affinityCount ≠ 0 then (.errState, w)
    else (.ok, w.erase found)

/-- `tr_pipeline_registry_close_control`, with its checks before the owner's part. -/
def registryCloseControl (w : GroupWorld) (g : Nat) (expected : ConnHandle) : Status × GroupWorld :=
  if (w.groups g).owner ≠ w.registry.owner ∨
      (w.groups g).ownerShardId ≠ w.registry.ownerShardId then (.errInvalid, w)
  else
    match w.find (w.groups g).pipelineId with
    | .missing _ => (.errStale, w)
    | .hit found =>
      if w.pipelineAt found ≠ some g then (.errStale, w)
      else if (w.groups g).control = none then (.errStale, w)
      else if (w.groups g).dataCount ≠ 0 ∨ (w.groups g).affinityCount ≠ 0 then (.errState, w)
      else
        match pipelineClearControl (w.groups g) expected with
        | (.ok, p) => (.ok, (w.setGroup g p).erase found)
        | (ret, _) => (ret, w)

/-- The checks that every route function makes before it looks into the pipeline.
`strict` adds the comparison of owner and shard, which the detach leaves out. -/
def registryRoute (w : GroupWorld) (route : RoutePreface) (strict : Bool) : Except Status Nat :=
  if routePrefaceValidateFields route ≠ .ok then .error (routePrefaceValidateFields route)
  else if route.role ≠ routeData then .error .errBadType
  else if route.ownerShardId ≠ w.registry.ownerShardId then .error .errStale
  else
    match w.find route.pipelineId with
    | .missing _ => .error .errStale
    | .hit found =>
      match w.pipelineAt found with
      | none => .error .errStale
      | some g =>
        if strict ∧ ((w.groups g).owner ≠ w.registry.owner ∨
            (w.groups g).ownerShardId ≠ w.registry.ownerShardId) then .error .errStale
        else if (w.groups g).epoch ≠ route.epoch then .error .errStale
        else .ok g

/-- `tr_pipeline_registry_resolve_data_route_on_owner`. -/
def registryResolveDataRoute (w : GroupWorld) (route : RoutePreface) : Except Status Nat :=
  match registryRoute w route true with
  | .error ret => .error ret
  | .ok g =>
    match pipelineValidateDataReservation (w.groups g) route.member with
    | .ok => .ok g
    | ret => .error ret

/-- `tr_pipeline_registry_attach_data_route_on_owner`, with the pipeline it reached. -/
def registryAttachDataRoute (w : GroupWorld) (route : RoutePreface) (connection : ConnHandle) :
    Status × GroupWorld × Option Nat :=
  if connection.reactor ≠ w.registry.owner then (.errInvalid, w, none)
  else
    match registryResolveDataRoute w route with
    | .error ret => (ret, w, none)
    | .ok g =>
      match pipelineAttachData (w.groups g) route.member connection with
      | (.ok, p) => (.ok, w.setGroup g p, some g)
      | (ret, _) => (ret, w, none)

/-- `tr_pipeline_registry_cancel_data_route_on_owner`. -/
def registryCancelDataRoute (w : GroupWorld) (route : RoutePreface) : Status × GroupWorld :=
  match registryRoute w route true with
  | .error ret => (ret, w)
  | .ok g =>
    match pipelineCancelDataReservation (w.groups g) route.member with
    | (ret, p) => (ret, w.setGroup g p)

/-- `tr_pipeline_registry_detach_data_route_on_owner`.  The reactor of the connection is
checked after the shard and before the search. -/
def registryDetachDataRoute (w : GroupWorld) (route : RoutePreface) (expected : ConnHandle) :
    Status × GroupWorld :=
  if routePrefaceValidateFields route ≠ .ok then (routePrefaceValidateFields route, w)
  else if route.role ≠ routeData then (.errBadType, w)
  else if route.ownerShardId ≠ w.registry.ownerShardId then (.errStale, w)
  else if expected.reactor ≠ w.registry.owner then (.errInvalid, w)
  else
    match registryRoute w route false with
    | .error ret => (ret, w)
    | .ok g =>
      match pipelineDataConnection (w.groups g) route.member with
      | .error ret => (ret, w)
      | .ok current =>
        if current ≠ expected then (.errStale, w)
        else
          match pipelineRemoveData (w.groups g) route.member with
          | (ret, p) => (ret, w.setGroup g p)

/-! ## Runs -/

/-- What happens on a shard: a call on one pipeline, or a call of the registry. -/
inductive GroupAction
  | pipeline (g : Nat) (action : PipelineAction)
  | register (g : Nat)
  | registerControl (g : Nat) (control : ConnHandle)
  | unregister (g : Nat)
  | closeControl (g : Nat) (expected : ConnHandle)
  | attachDataRoute (route : RoutePreface) (connection : ConnHandle)
  | cancelDataRoute (route : RoutePreface)
  | detachDataRoute (route : RoutePreface) (expected : ConnHandle)

/-- The shard after a call. -/
def groupStep (w : GroupWorld) : GroupAction → GroupWorld
  | .pipeline g action => w.setGroup g (pipelineStep (w.groups g) action)
  | .register g => (registryRegister w g).2
  | .registerControl g control => (registryRegisterControl w g control).2
  | .unregister g => (registryUnregister w g).2
  | .closeControl g expected => (registryCloseControl w g expected).2
  | .attachDataRoute route connection => (registryAttachDataRoute w route connection).2.1
  | .cancelDataRoute route => (registryCancelDataRoute w route).2
  | .detachDataRoute route expected => (registryDetachDataRoute w route expected).2

/-- A shard before anything has happened: an empty registry and new pipelines. -/
structure GroupWorld.Fresh (w : GroupWorld) : Prop where
  registry : ∃ owner shard capacity, registryCreate owner shard capacity = .ok w.registry
  groups : ∀ g, ∃ config, pipelineCreate config = .ok (w.groups g)

/-! ## The groups move -/

/-- What no move changes. -/
structure Pipeline.SameGroup (p p' : Pipeline) : Prop where
  owner : p'.owner = p.owner
  shard : p'.ownerShardId = p.ownerShardId
  id : p'.pipelineId = p.pipelineId
  epoch : p'.epoch = p.epoch

variable {p : Pipeline} {w : GroupWorld}

theorem Pipeline.Move.sameGroup {p' : Pipeline} (h : Move p p') : p.SameGroup p' := by
  cases h <;> exact ⟨rfl, rfl, rfl, rfl⟩

theorem Pipeline.sameGroup_of_moves {p' : Pipeline} (h : ReflTransGen Move p p') :
    p.SameGroup p' := by
  induction h with
  | refl => exact ⟨rfl, rfl, rfl, rfl⟩
  | tail _ hmove ih =>
    have hone := hmove.sameGroup
    exact ⟨hone.owner.trans ih.owner, hone.shard.trans ih.shard, hone.id.trans ih.id,
      hone.epoch.trans ih.epoch⟩

namespace GroupWorld

/-- Every group made moves. -/
def GroupsMove (w w' : GroupWorld) : Prop :=
  ∀ g, ReflTransGen Pipeline.Move (w.groups g) (w'.groups g)

theorem groupsMove_refl (w : GroupWorld) : GroupsMove w w := fun _ => .refl

theorem groupsMove_setGroup {g : Nat} (h : ReflTransGen Pipeline.Move (w.groups g) p) :
    GroupsMove w (w.setGroup g p) :=
  (Function.forall_update_iff w.groups fun g' => ReflTransGen Pipeline.Move (w.groups g')).2
    ⟨h, fun _ _ => .refl⟩

/-! ## The registry -/

/-- The registry is a table of the groups it names. -/
structure Named (w : GroupWorld) : Prop where
  positive : 0 < w.registry.capacity
  sound : Sound w.registry.capacity w.registry.entries (registryProbe w.registry.capacity)
  named : ∀ pos < w.registry.capacity, ∀ id g, w.registry.entries pos = .used id g →
    (w.groups g).pipelineId = id

theorem registryProbe_lt {capacity : Nat} (h : 0 < capacity) (id : UInt64) (offset : Nat) :
    registryProbe capacity id offset < capacity :=
  Nat.mod_lt _ h

theorem Named.groups {w' : GroupWorld} (h : w.Named) (hregistry : w'.registry = w.registry)
    (hmove : GroupsMove w w') : w'.Named where
  positive := by
    rw [hregistry]
    exact h.positive
  sound := by
    rw [hregistry]
    exact h.sound
  named pos hpos id g hcell := by
    rw [hregistry] at hpos hcell
    rw [(Pipeline.sameGroup_of_moves (hmove g)).id]
    exact h.named pos hpos id g hcell

theorem Named.setGroup (h : w.Named) {g : Nat} (hmove : ReflTransGen Pipeline.Move (w.groups g) p) :
    (w.setGroup g p).Named :=
  h.groups rfl (groupsMove_setGroup hmove)

theorem Named.enter (h : w.Named) {g pos : Nat}
    (hfind : w.find (w.groups g).pipelineId = .missing (some pos)) : (w.enter pos g).Named where
  positive := h.positive
  sound := h.sound.store (registryProbe_lt h.positive) hfind g
  named pos' hpos' id g' hcell := by
    have hold := h.named pos' hpos' id g'
    dsimp only [GroupWorld.enter] at hcell ⊢
    rw [Function.update_apply] at hcell
    grind

theorem Named.erase (h : w.Named) (pos : Nat) : (w.erase pos).Named := by
  have hcells : ∀ pos', (w.erase pos).registry.entries pos' = w.registry.entries pos' ∨
      (w.erase pos).registry.entries pos' = .tombstone :=
    (Function.forall_update_iff w.registry.entries fun pos' cell =>
      cell = w.registry.entries pos' ∨ cell = .tombstone).2 ⟨.inr rfl, fun _ _ => .inl rfl⟩
  refine ⟨h.positive, h.sound.bury hcells, fun pos' hpos' id g hcell => ?_⟩
  rcases hcells pos' with hsame | htomb
  · rw [hsame] at hcell
    exact h.named pos' hpos' id g hcell
  · rw [htomb] at hcell
    cases hcell

/-- The search depends only on the registry. -/
theorem find_setGroup (w : GroupWorld) (g : Nat) (p : Pipeline) (id : UInt64) :
    (w.setGroup g p).find id = w.find id := rfl

/-- One step of a shard: the groups move, and the registry stays a table of them. -/
def Steps (w w' : GroupWorld) : Prop :=
  GroupsMove w w' ∧ (w.Named → w'.Named)

theorem steps_refl (w : GroupWorld) : Steps w w := ⟨groupsMove_refl w, id⟩

theorem steps_setGroup {g : Nat} (h : ReflTransGen Pipeline.Move (w.groups g) p) :
    Steps w (w.setGroup g p) :=
  ⟨groupsMove_setGroup h, fun hnamed => hnamed.setGroup h⟩

end GroupWorld

open GroupWorld

section

variable (w : GroupWorld)

theorem registryRegister_steps (g : Nat) : Steps w (registryRegister w g).2 := by
  unfold registryRegister
  split
  · exact steps_refl w
  split
  · exact steps_refl w
  · exact steps_refl w
  next insert hfind =>
    split
    · exact steps_refl w
    · exact ⟨groupsMove_refl w, fun hnamed => hnamed.enter hfind⟩

/-- A group is entered together with its CONTROL connection. -/
theorem registryRegisterControl_cases (g : Nat) (control : ConnHandle) :
    ((registryRegisterControl w g control).1 ≠ .ok ∧ (registryRegisterControl w g control).2 = w) ∨
      ∃ insert, ((w.groups g).owner = w.registry.owner ∧
          (w.groups g).ownerShardId = w.registry.ownerShardId ∧
          control.reactor = w.registry.owner) ∧
        w.find (w.groups g).pipelineId = .missing (some insert) ∧
        (w.groups g).control = none ∧ (w.groups g).connectionIsData control = false ∧
        registryRegisterControl w g control =
          (.ok, (w.setGroup g ((w.groups g).bindControl control)).enter insert g) := by
  unfold registryRegisterControl
  split
  · exact .inl ⟨by simp, rfl⟩
  rename_i hsame
  push Not at hsame
  split
  · exact .inl ⟨by simp, rfl⟩
  · exact .inl ⟨by simp, rfl⟩
  next insert hfind =>
    split
    · exact .inl ⟨by simp, rfl⟩
    split
    next p hset =>
      rcases pipelineSetControl_cases (w.groups g) control with ⟨hret, _⟩ | ⟨hnone, hdata, heq⟩
      · exact absurd (congrArg Prod.fst hset) hret
      rw [hset] at heq
      cases heq
      exact .inr ⟨insert, hsame, hfind, hnone, hdata, rfl⟩
    next hne _ =>
      exact .inl ⟨hne, rfl⟩

theorem registryRegisterControl_steps (g : Nat) (control : ConnHandle) :
    Steps w (registryRegisterControl w g control).2 := by
  rcases registryRegisterControl_cases w g control with
    ⟨_, hsame⟩ | ⟨insert, _, hfind, hnone, hdata, heq⟩
  · rw [hsame]
    exact steps_refl w
  have hmoves : ReflTransGen Pipeline.Move (w.groups g) ((w.groups g).bindControl control) :=
    .single (.bindControl hnone hdata)
  rw [heq]
  refine ⟨groupsMove_setGroup hmoves, fun hnamed => (hnamed.setGroup hmoves).enter ?_⟩
  rw [show (w.setGroup g ((w.groups g).bindControl control)).groups g =
    (w.groups g).bindControl control from Function.update_self _ _ _]
  exact hfind

theorem registryUnregister_steps (g : Nat) :
    Steps w (registryUnregister w g).2 := by
  unfold registryUnregister
  iterate 3
    split
    · exact steps_refl w
  · exact ⟨groupsMove_refl w, fun hnamed => hnamed.erase _⟩

/-- A group that is closed had neither members nor bindings, and its entry is gone. -/
theorem registryCloseControl_cases (g : Nat) (expected : ConnHandle) :
    ((registryCloseControl w g expected).1 ≠ .ok ∧ (registryCloseControl w g expected).2 = w) ∨
      ∃ found, w.find (w.groups g).pipelineId = .hit found ∧ w.pipelineAt found = some g ∧
        (w.groups g).dataCount = 0 ∧ (w.groups g).control = some expected ∧
        registryCloseControl w g expected =
          (.ok, (w.setGroup g (pipelineClearControl (w.groups g) expected).2).erase found) := by
  unfold registryCloseControl
  split
  · exact .inl ⟨by simp, rfl⟩
  split
  · exact .inl ⟨by simp, rfl⟩
  rename_i found hfind
  split
  · exact .inl ⟨by simp, rfl⟩
  rename_i hat
  split
  · exact .inl ⟨by simp, rfl⟩
  split
  · exact .inl ⟨by simp, rfl⟩
  rename_i hcount
  push Not at hcount
  split
  next p hclear =>
    have hexpected : (w.groups g).control = some expected := by
      by_contra hne
      rw [pipelineClearControl, if_pos hne] at hclear
      cases hclear
    refine .inr ⟨found, hfind, not_not.mp hat, hcount.1, hexpected, ?_⟩
    rw [hclear]
  next hne _ =>
    exact .inl ⟨hne, rfl⟩

theorem registryCloseControl_steps (g : Nat) (expected : ConnHandle) :
    Steps w (registryCloseControl w g expected).2 := by
  rcases registryCloseControl_cases w g expected with ⟨_, hsame⟩ | ⟨found, _, _, _, _, heq⟩
  · rw [hsame]
    exact steps_refl w
  · have hmoves := pipelineClearControl_moves (w.groups g) expected
    rw [heq]
    exact ⟨groupsMove_setGroup hmoves, fun hnamed => (hnamed.setGroup hmoves).erase _⟩

/-- An attach through the registry that succeeds is one of the pipeline it reached. -/
theorem registryAttachDataRoute_cases (route : RoutePreface) (connection : ConnHandle) :
    ((registryAttachDataRoute w route connection).1 ≠ .ok ∧
        (registryAttachDataRoute w route connection).2 = (w, none)) ∨
      ∃ g, registryRoute w route true = .ok g ∧
        (pipelineAttachData (w.groups g) route.member connection).1 = .ok ∧
        registryAttachDataRoute w route connection = (.ok, w.setGroup g
            (pipelineAttachData (w.groups g) route.member connection).2, some g) := by
  unfold registryAttachDataRoute
  split
  · exact .inl ⟨by simp, rfl⟩
  unfold registryResolveDataRoute
  cases hroute : registryRoute w route true with
  | error ret =>
    dsimp only
    by_cases hret : ret = .ok
    · -- an error of the route is never `ok`
      exfalso
      subst hret
      unfold registryRoute at hroute
      split at hroute
      next hbad =>
        simp only [Except.error.injEq] at hroute
        exact hbad hroute
      · repeat' split at hroute
        all_goals simp at hroute
    · exact .inl ⟨hret, rfl⟩
  | ok g =>
    dsimp only
    split
    next ret hresolve =>
      split at hresolve
      · cases hresolve
      rename_i hne
      cases hresolve
      exact .inl ⟨hne, rfl⟩
    next g' hresolve =>
      split at hresolve
      · cases hresolve
        split
        next p hattach =>
          refine .inr ⟨g, rfl, ?_, ?_⟩
          · rw [hattach]
          · rw [hattach]
        next ret p hne _ =>
          exact .inl ⟨hne, rfl⟩
      · cases hresolve

theorem registryAttachDataRoute_steps (route : RoutePreface)
    (connection : ConnHandle) : Steps w (registryAttachDataRoute w route connection).2.1 := by
  rcases registryAttachDataRoute_cases w route connection with ⟨_, hsame⟩ | ⟨g, _, _, heq⟩
  · rw [hsame]
    exact steps_refl w
  · rw [heq]
    exact steps_setGroup (pipelineAttachData_moves _ _ _)

theorem registryCancelDataRoute_steps (route : RoutePreface) :
    Steps w (registryCancelDataRoute w route).2 := by
  unfold registryCancelDataRoute
  split
  · exact steps_refl w
  · exact steps_setGroup (pipelineCancelDataReservation_moves _ _)

theorem registryDetachDataRoute_steps (route : RoutePreface)
    (expected : ConnHandle) : Steps w (registryDetachDataRoute w route expected).2 := by
  unfold registryDetachDataRoute
  iterate 7
    split
    · exact steps_refl w
  · exact steps_setGroup (pipelineRemoveData_moves _ _)

theorem groupStep_steps (action : GroupAction) : Steps w (groupStep w action) := by
  cases action with
  | pipeline g action => exact steps_setGroup (pipelineStep_moves _ _)
  | register g => exact registryRegister_steps w g
  | registerControl g control => exact registryRegisterControl_steps w g control
  | unregister g => exact registryUnregister_steps w g
  | closeControl g expected => exact registryCloseControl_steps w g expected
  | attachDataRoute route connection => exact registryAttachDataRoute_steps w route connection
  | cancelDataRoute route => exact registryCancelDataRoute_steps w route
  | detachDataRoute route expected => exact registryDetachDataRoute_steps w route expected

end

/-- The invariant of a shard. -/
structure GroupWorld.Ok (w : GroupWorld) : Prop where
  groups : ∀ g, (w.groups g).Ok
  named : w.Named

theorem GroupWorld.Ok.steps {w' : GroupWorld} (h : w.Ok) (hsteps : Steps w w') : w'.Ok :=
  ⟨fun g => (h.groups g).moves (hsteps.1 g), hsteps.2 h.named⟩

theorem GroupWorld.Fresh.ok (h : w.Fresh) : w.Ok := by
  obtain ⟨owner, shard, capacity, hcreate⟩ := h.registry
  unfold registryCreate at hcreate
  split_ifs at hcreate with hbad
  push Not at hbad
  have hregistry := Except.ok.inj hcreate
  refine ⟨fun g => ?_, ?_⟩
  · obtain ⟨config, hconfig⟩ := h.groups g
    exact pipelineCreate_ok hconfig
  · refine ⟨?_, ?_, fun pos _ id g hcell => ?_⟩
    · rw [← hregistry]
      exact Nat.pos_of_ne_zero hbad.2.2
    · rw [← hregistry]
      exact sound_empty _ _
    · rw [← hregistry] at hcell
      cases hcell

/-- The shard of a run. -/
def groupRun : GroupWorld → List GroupAction → Option GroupWorld :=
  runSteps fun w action => some (groupStep w action)

theorem groupRun_ok {start : GroupWorld} {actions : List GroupAction} (hstart : start.Ok)
    (hrun : groupRun start actions = some w) : w.Ok := by
  refine runSteps_invariant (fun s action s' hs hstep => ?_) hstart hrun
  cases hstep
  exact hs.steps (groupStep_steps s action)

/-- A route that is found names a group of the registry. -/
theorem registryRoute_ok (hok : w.Ok) {route : RoutePreface} {g : Nat}
    (h : registryRoute w route true = .ok g) :
    (∃ pos < w.registry.capacity, w.registry.entries pos = .used route.pipelineId g) ∧
      route.role = routeData ∧ route.ownerShardId = (w.groups g).ownerShardId ∧
      route.pipelineId = (w.groups g).pipelineId ∧ route.epoch = (w.groups g).epoch := by
  unfold registryRoute at h
  simp only [check_eq_ok] at h
  obtain ⟨_, hrole, hshard, h⟩ := h
  split at h
  · cases h
  rename_i found hfind
  obtain ⟨hpos, g', hcell⟩ := find_hit (registryProbe_lt hok.named.positive) hfind
  have hat : w.pipelineAt found = some g' := by
    unfold pipelineAt
    rw [hcell]
    rfl
  rw [hat] at h
  dsimp only at h
  simp only [check_eq_ok] at h
  obtain ⟨howner, hepoch, hg⟩ := h
  cases hg
  have hsame : (w.groups g).ownerShardId = w.registry.ownerShardId := by
    by_contra hne
    exact howner ⟨trivial, .inr hne⟩
  refine ⟨⟨found, hpos, hcell⟩, not_not.mp hrole, ?_, ?_, (not_not.mp hepoch).symm⟩
  · rw [hsame]
    exact not_not.mp hshard
  · exact (hok.named.named found hpos _ _ hcell).symm

/-- In every run on a shard, for every group none of whose slots has been reserved
2^32 - 1 times: a capability is attached at most once and while CONTROL is bound; one
that was cancelled, detached or left behind by CONTROL is never attached again; no
connection is in the group twice; and the counters count the slots.  The registry
attaches only what a route names exactly. -/
theorem data_capability_lifecycle {start w : GroupWorld} {actions : List GroupAction}
    (hfresh : start.Fresh) (hrun : groupRun start actions = some w) :
    (∀ g, (w.groups g).Few → (w.groups g).Lifecycle) ∧
      ∀ route connection, (registryAttachDataRoute w route connection).1 = .ok →
        ∃ g, (∃ pos < w.registry.capacity, w.registry.entries pos = .used route.pipelineId g) ∧
          route.ownerShardId = (w.groups g).ownerShardId ∧
          route.pipelineId = (w.groups g).pipelineId ∧
          route.epoch = (w.groups g).epoch ∧
          (w.groups g).control ≠ none ∧
          (w.groups g).dataRefMatches route.member .reserved ∧
          (registryAttachDataRoute w route connection).2 =
            (w.setGroup g ((w.groups g).attachSlot route.memberIndex.toNat connection),
              some g) := by
  have hok := groupRun_ok hfresh.ok hrun
  refine ⟨fun g hfew => (hok.groups g).lifecycle hfew, fun route connection hattach => ?_⟩
  rcases registryAttachDataRoute_cases w route connection with ⟨hret, _⟩ | ⟨g, hroute, hone, heq⟩
  · exact absurd hattach hret
  obtain ⟨hentry, _, hshard, hid, hepoch⟩ := registryRoute_ok hok hroute
  rcases pipelineAttachData_cases (w.groups g) route.member connection with
    ⟨hret, _⟩ | ⟨hcontrol, _, _, _, hmatch, hwrite⟩
  · exact absurd hone hret
  refine ⟨g, hentry, hshard, hid, hepoch, hcontrol, hmatch, ?_⟩
  rw [heq, hwrite]
  rfl

/-- A shard of one owner whose pipelines are all of one configuration. -/
def exampleShard : GroupWorld where
  registry := { owner := 1, ownerShardId := 0, capacity := 2 }
  groups _ :=
    { owner := 1, ownerShardId := 0, pipelineId := 7, epoch := 3, dataCapacity := 2,
      affinityCapacity := 4 }

/-- The first capability of the group. -/
def exampleRoute : RoutePreface where
  version := 1
  role := 2
  flags := 0
  ownerShardId := 0
  pipelineId := 7
  epoch := 3
  memberIndex := 0
  memberGeneration := 1
  headerCrc32c := 0
  reserved := 0

theorem exampleShard_fresh : exampleShard.Fresh where
  registry := ⟨1, 0, 2, rfl⟩
  groups _ := ⟨⟨1, 0, 7, 3, 2, 4⟩, rfl⟩

/-- A capability is attached through the registry and its route presented again; one is
cancelled and one detached; of the next two one is attached, and CONTROL leaves. -/
def exampleActions : List GroupAction :=
  [.registerControl 0 ⟨1, 0, 1⟩, .pipeline 0 .reserveData, .pipeline 0 .reserveData,
    .attachDataRoute exampleRoute ⟨1, 1, 1⟩, .attachDataRoute exampleRoute ⟨1, 2, 1⟩,
    .cancelDataRoute { exampleRoute with memberIndex := 1 }, .pipeline 0 .reserveData,
    .detachDataRoute exampleRoute ⟨1, 1, 1⟩, .pipeline 0 .reserveData,
    .attachDataRoute { exampleRoute with memberGeneration := 2 } ⟨1, 3, 1⟩,
    .pipeline 0 (.clearControl ⟨1, 0, 1⟩)]

def exampleEvents : List GroupEvent :=
  [.reserved ⟨0, 1⟩, .reserved ⟨1, 1⟩, .attached ⟨0, 1⟩ ⟨1, 1, 1⟩ (some ⟨1, 0, 1⟩),
    .ended ⟨1, 1⟩, .reserved ⟨1, 2⟩, .ended ⟨0, 1⟩, .reserved ⟨0, 2⟩,
    .attached ⟨0, 2⟩ ⟨1, 3, 1⟩ (some ⟨1, 0, 1⟩), .ended ⟨1, 2⟩]

theorem few_of_length (h : p.events.length < 2 ^ 32 - 1) : p.Few :=
  fun _ => List.countP_le_length.trans_lt h

theorem data_capability_lifecycle_orphaned :
    ∃ w, groupRun exampleShard exampleActions = some w ∧ (w.groups 0).events = exampleEvents ∧
      (w.groups 0).Lifecycle := by
  obtain ⟨w, hw, hevents⟩ := Option.map_eq_some_iff.mp (show
    (groupRun exampleShard exampleActions).map (fun w => (w.groups 0).events) =
      some exampleEvents by decide +kernel)
  refine ⟨w, hw, hevents, (data_capability_lifecycle exampleShard_fresh hw).1 0 ?_⟩
  refine few_of_length ?_
  rw [hevents]
  decide

end Trpc
