import Trpc.Lib.Runs
import Trpc.Status

/-!
# Rotation of the TLS profile

`tr_server_tls_update_profile` of `server.c` installs a new TLS profile on every shard, or
restores the old one.  The calls to a shard run on the owner of its reactor and may fail;
between two of them the shards go on accepting.  So every call to one shard is a step here,
with the status that it answers, and the rotation is a sequence of sweeps over the shards.

* `ShardOp` is what one call does to one shard, `Rotation` a rotation under way, and
  `rotationFinish` what follows when a sweep is over.
* `tlsStep` interleaves the rotation with connections that come and go.
-/

namespace Trpc

open Lib

/-! ## The state -/

/-- A TLS connection: the profile it was created from and the generation it copied. -/
structure TlsConn where
  profile : Nat
  generation : Nat
  deriving DecidableEq, Repr

/-- What a shard knows of TLS: `tls_profile` of the shard, `tls_admission_paused` of its
reactor, and the active connections. -/
structure TlsShard where
  profile : Nat
  paused : Bool := false
  conns : List TlsConn := []
  deriving DecidableEq, Repr

/-- Where a rotation is; every phase is one sweep over the shards. -/
inductive RotationPhase
  | pausing
  | reopenPause
  | installing
  | uninstalling
  | reopenInstall
  | revoking
  | opening
  | repausing
  | closing
  | restoring
  | reopenRestored
  deriving DecidableEq, Repr

/-- A rotation under way.  `next` counts the shards of the sweep that are behind it,
`result` is the first error of the sweep, and `ret` the error that will be returned. -/
structure Rotation where
  old : Nat
  candidate : Nat
  revoke : Bool
  phase : RotationPhase := .pausing
  next : Nat := 0
  result : Status := .ok
  ret : Status := .ok
  deriving DecidableEq, Repr

/-- The TLS side of a server.  Profiles are numbers; `generation` and `refs` are fields of
the profiles, and `sessions` are the profiles that CONTROL sessions have retained. -/
structure TlsServer where
  shardCount : Nat
  shards : Nat → TlsShard
  listener : Option Nat
  profile : Nat
  recovery : Option Nat := none
  generation : Nat → Nat
  refs : Nat → Nat
  fresh : Nat
  sessions : List Nat := []
  rotation : Option Rotation := none
  rotationFailed : Bool := false
  lastResult : Option Status := none

namespace TlsServer

/-- `tr_tls_openssl_profile_retain`. -/
def retain (s : TlsServer) (profile : Nat) : TlsServer :=
  { s with refs := Function.update s.refs profile (s.refs profile + 1) }

/-- `tr_tls_openssl_profile_release`. -/
def release (s : TlsServer) (profile : Nat) : TlsServer :=
  { s with refs := Function.update s.refs profile (s.refs profile - 1) }

def setShard (s : TlsServer) (i : Nat) (shard : TlsShard) : TlsServer :=
  { s with shards := Function.update s.shards i shard }

end TlsServer

/-! ## One call to one shard -/

/-- What the owner of a shard is asked to do. -/
inductive ShardOp
  | gate (paused : Bool)
  | install (profile : Nat)
  | closeBefore (generation : Nat)
  | closeGeneration (generation : Nat)
  deriving DecidableEq, Repr

/-- `tr_server_tls_install_on_owner`; the group listener belongs to shard 0. -/
def tlsInstall (s : TlsServer) (i profile : Nat) : TlsServer :=
  if (s.shards i).profile = profile then s
  else
    (({ s with
        listener := if i = 0 then s.listener.map fun _ => profile else s.listener }.retain
        profile).setShard i { s.shards i with profile := profile }).release (s.shards i).profile

/-- `tr_reactor_tls_close_generation_on_owner`: the connections that `drop` picks are closed,
and each gives back its profile. -/
def tlsCloseConns (s : TlsServer) (i : Nat) (drop : TlsConn → Bool) : TlsServer :=
  { s.setShard i { s.shards i with conns := (s.shards i).conns.filter fun c => !drop c } with
    refs := fun profile => s.refs profile -
      (s.shards i).conns.countP fun c => drop c && decide (c.profile = profile) }

/-- The connections that the two forms of the call close. -/
def dropBefore (generation : Nat) (c : TlsConn) : Bool :=
  c.generation ≠ 0 ∧ c.generation < generation

def dropGeneration (generation : Nat) (c : TlsConn) : Bool :=
  c.generation = generation

/-- A call that succeeds. -/
def shardPerform (s : TlsServer) (i : Nat) : ShardOp → TlsServer
  | .gate paused => s.setShard i { s.shards i with paused := paused }
  | .install profile => tlsInstall s i profile
  | .closeBefore generation => tlsCloseConns s i (dropBefore generation)
  | .closeGeneration generation => tlsCloseConns s i (dropGeneration generation)

/-! ## The rotation -/

/-- The call that a phase makes on every shard. -/
def Rotation.op (s : TlsServer) (r : Rotation) : ShardOp :=
  match r.phase with
  | .pausing | .repausing => .gate true
  | .reopenPause | .reopenInstall | .opening | .reopenRestored => .gate false
  | .installing => .install r.candidate
  | .uninstalling | .restoring => .install r.old
  | .revoking => .closeBefore (s.generation r.candidate)
  | .closing => .closeGeneration (s.generation r.candidate)

/-- `tr_server_tls_install_all` stops at the first error; the other sweeps go on. -/
def RotationPhase.stops : RotationPhase → Bool
  | .installing | .uninstalling | .restoring => true
  | _ => false

/-- The shard at an offset of a sweep: a restore goes backwards, and an install leaves the
shard of the group listener to the end. -/
def Rotation.index (s : TlsServer) (r : Rotation) (offset : Nat) : Nat :=
  match r.phase with
  | .uninstalling | .restoring => s.shardCount - offset - 1
  | .installing =>
    if s.listener.isSome ∧ 1 < s.shardCount then
      if offset + 1 < s.shardCount then offset + 1 else 0
    else offset
  | _ => offset

/-- The next sweep. -/
def Rotation.enter (r : Rotation) (phase : RotationPhase) : Rotation :=
  { r with phase := phase, next := 0, result := .ok }

/-- The next sweep after an error, which will be returned. -/
def Rotation.fallBack (r : Rotation) (phase : RotationPhase) : Rotation :=
  { r with phase := phase, next := 0, result := .ok, ret := r.result }

namespace TlsServer

/-- The call returns. -/
def finish (s : TlsServer) (status : Status) : TlsServer :=
  { s with rotation := none, lastResult := some status }

/-- `tr_server_tls_rotation_mark_failed`. -/
def markFailed (s : TlsServer) : TlsServer := { s with rotationFailed := true }

def goOn (s : TlsServer) (r : Rotation) : TlsServer := { s with rotation := some r }

end TlsServer

/-- `tr_server_tls_update_profile_impl` at the end of a sweep. -/
def rotationFinish (s : TlsServer) (r : Rotation) : TlsServer :=
  match r.phase with
  | .pausing =>
    if r.result = .ok then s.goOn (r.enter .installing) else s.goOn (r.fallBack .reopenPause)
  | .reopenPause | .reopenInstall =>
    if r.result = .ok then (s.release r.candidate).finish r.ret
    else (s.markFailed.release r.candidate).finish r.ret
  | .installing =>
    if r.result = .ok then
      { s with profile := r.candidate, recovery := some r.old }.goOn
        (r.enter (if r.revoke then .revoking else .opening))
    else s.goOn (r.fallBack .uninstalling)
  | .uninstalling =>
    if r.result = .ok then s.goOn (r.enter .reopenInstall)
    else (s.markFailed.release r.candidate).finish r.ret
  | .revoking =>
    if r.result = .ok then s.goOn (r.enter .opening)
    else s.markFailed.finish .errState
  | .opening =>
    if r.result = .ok then ({ s with recovery := none }.release r.old).finish .ok
    else s.goOn (r.fallBack .repausing)
  | .repausing =>
    if r.result = .ok then s.goOn (r.enter .closing)
    else s.markFailed.finish .errState
  | .closing =>
    if r.result = .ok then s.goOn (r.enter .restoring)
    else s.markFailed.finish .errState
  | .restoring =>
    if r.result = .ok then
      ({ s with profile := r.old, recovery := none }.release r.candidate).goOn
        (r.enter .reopenRestored)
    else s.markFailed.finish .errState
  | .reopenRestored =>
    if r.result = .ok then s.finish r.ret else s.markFailed.finish .errState

/-- One step of a rotation: the call to the next shard, which answers `ret`, or the end of
the sweep. -/
def rotationTick (s : TlsServer) (r : Rotation) (ret : Status) : TlsServer :=
  if r.next < s.shardCount ∧ ¬ (r.phase.stops ∧ r.result ≠ .ok) then
    if ret = .ok then
      (shardPerform s (r.index s r.next) (r.op s)).goOn { r with next := r.next + 1 }
    else
      s.goOn
        { r with next := r.next + 1, result := if r.result = .ok then ret else r.result }
  else rotationFinish s r

/-- `tr_server_tls_update_profile`, up to its first sweep; `created` is the status of the
creation of the candidate.  `.inProgress` says that the rotation has begun. -/
def rotationBegin (s : TlsServer) (created : Status) (revoke : Bool) : Status × TlsServer :=
  if s.rotation.isSome then (.again, s)
  else if s.rotationFailed then (.errState, s)
  else if s.generation s.profile = 0 ∨ s.generation s.profile = 2 ^ 64 - 1 then (.errState, s)
  else if created ≠ .ok then (created, s)
  else
    (.inProgress,
      { s with
        generation := Function.update s.generation s.fresh (s.generation s.profile + 1)
        refs := Function.update s.refs s.fresh 1
        fresh := s.fresh + 1
        rotation := some { old := s.profile, candidate := s.fresh, revoke := revoke } })

/-! ## Connections -/

/-- `tr_connection_adopt` with a TLS profile on a shard. -/
def tlsAdopt (s : TlsServer) (i profile : Nat) : TlsServer :=
  if (s.shards i).paused then s
  else
    (s.retain profile).setShard i
      { s.shards i with conns := ⟨profile, s.generation profile⟩ :: (s.shards i).conns }

/-- What happens to a server. -/
inductive TlsAction
  | update (created : Status) (revoke : Bool)
  | tick (ret : Status)
  | accept (i : Nat)
  | acceptGroup
  | closeConn (i : Nat) (c : TlsConn)
  | openSession (c : TlsConn)
  | closeSession (profile : Nat)
  deriving DecidableEq, Repr

/-- One step.  The connections of the group listener are accepted on shard 0. -/
def tlsStep (s : TlsServer) : TlsAction → Option TlsServer
  | .update created revoke => some (rotationBegin s created revoke).2
  | .tick ret => s.rotation.map fun r => rotationTick s r ret
  | .accept i => if i < s.shardCount then some (tlsAdopt s i (s.shards i).profile) else none
  | .acceptGroup => s.listener.map fun profile => tlsAdopt s 0 profile
  | .closeConn i c =>
    if i < s.shardCount ∧ c ∈ (s.shards i).conns then
      some ((s.release c.profile).setShard i
        { s.shards i with conns := (s.shards i).conns.erase c })
    else none
  | .openSession c =>
    if c ∈ (s.shards 0).conns then
      some { s.retain c.profile with sessions := c.profile :: s.sessions }
    else none
  | .closeSession profile =>
    if profile ∈ s.sessions then
      some { s.release profile with sessions := s.sessions.erase profile }
    else none

/-- A server that has just been created. -/
structure TlsServer.Created (s : TlsServer) : Prop where
  count : 0 < s.shardCount
  shards : ∀ i < s.shardCount, s.shards i = { profile := s.profile }
  listener : ∀ profile, s.listener = some profile → profile = s.profile
  recovery : s.recovery = none
  positive : 0 < s.generation s.profile
  fresh : s.profile < s.fresh
  sessions : s.sessions = []
  rotation : s.rotation = none
  failed : s.rotationFailed = false
  refs : ∀ profile, s.refs profile = if profile = s.profile then 1 + s.shardCount else 0

end Trpc
