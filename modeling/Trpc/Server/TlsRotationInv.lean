import Trpc.Lib.Counting
import Trpc.Server.TlsRotation

/-!
# What holds during a rotation of the TLS profile

The invariants of `tlsStep`.

* `TlsServer.Counted`: the reference count of a profile is the number of its holders.
* `TlsServer.Base`: a connection has the generation of its profile, and a generation belongs
  to one profile.
* `TlsServer.Between`, what holds of two profiles that are installed side by side, and
  `PhaseFacts`, what a rotation has achieved in each of its phases.
-/

namespace Trpc

open Lib Function List Option

/-! ## What a call changes -/

/-- A call, as a change of the shard alone. -/
def ShardOp.apply (shard : TlsShard) : ShardOp → TlsShard
  | .gate paused => { shard with paused := paused }
  | .install profile => { shard with profile := profile }
  | .closeBefore generation =>
    { shard with conns := shard.conns.filter fun c => !dropBefore generation c }
  | .closeGeneration generation =>
    { shard with conns := shard.conns.filter fun c => !dropGeneration generation c }

namespace TlsServer

/-- A pointer that holds a reference, or is `NULL`. -/
def heldBy (pointer : Option Nat) (profile : Nat) : Nat :=
  if pointer = some profile then 1 else 0

theorem heldBy_none (profile : Nat) : heldBy none profile = 0 := rfl

theorem heldBy_self (profile : Nat) : heldBy (some profile) profile = 1 := if_pos rfl

theorem heldBy_of_ne {profile other : Nat} (h : profile ≠ other) :
    heldBy (some profile) other = 0 :=
  if_neg fun heq => h (some.inj heq)

/-- What `retain` does to the counts. -/
theorem retain_refs (refs : Nat → Nat) (profile other : Nat) :
    update refs profile (refs profile + 1) other =
      refs other + heldBy (some profile) other := by
  by_cases heq : profile = other
  · rw [heq, update_self, heldBy_self]
  · rw [update_of_ne (Ne.symm heq), heldBy_of_ne heq, Nat.add_zero]

/-- What `release` does to the counts. -/
theorem release_refs {refs : Nat → Nat} {profile : Nat} (h : 0 < refs profile) (other : Nat) :
    update refs profile (refs profile - 1) other + heldBy (some profile) other =
      refs other := by
  by_cases heq : profile = other
  · rw [← heq, update_self, heldBy_self]
    exact Nat.sub_add_cancel h
  · rw [update_of_ne (Ne.symm heq), heldBy_of_ne heq, Nat.add_zero]

end TlsServer

/-- The references that a shard holds to a profile. -/
def TlsShard.holds (shard : TlsShard) (profile : Nat) : Nat :=
  (if shard.profile = profile then 1 else 0) +
    shard.conns.countP fun c => decide (c.profile = profile)

theorem TlsShard.holds_eq (shard : TlsShard) (profile : Nat) :
    shard.holds profile = TlsServer.heldBy (some shard.profile) profile +
      shard.conns.countP fun c => decide (c.profile = profile) := by
  simp [holds, TlsServer.heldBy]

theorem countP_filter_not_add (conns : List TlsConn) (drop p : TlsConn → Bool) :
    (conns.filter fun c => !drop c).countP p + conns.countP (fun c => drop c && p c) =
      conns.countP p := by
  induction conns with
  | nil => rfl
  | cons c rest ih =>
    rw [filter_cons, countP_cons, countP_cons]
    cases hdrop : drop c with
    | false =>
      rw [if_pos (by simp), countP_cons]
      simp
      omega
    | true =>
      rw [if_neg (by simp)]
      simp
      omega

/-- The conditions under which the group listener follows shard 0. -/
def TlsServer.Follows (s : TlsServer) : Prop :=
  ∀ profile, s.listener = some profile → profile = (s.shards 0).profile

/-- A call changes its shard, the group listener with shard 0, and the reference counts by
what the shard holds. -/
theorem shardPerform_spec (s : TlsServer) (i : Nat) (op : ShardOp) (hfollows : s.Follows)
    (hrefs : ∀ profile, (s.shards i).holds profile ≤ s.refs profile) :
    ∃ listener refs, shardPerform s i op =
        { s with
          shards := update s.shards i (op.apply (s.shards i))
          listener := listener
          refs := refs } ∧
      (listener.isSome = s.listener.isSome) ∧
      (∀ profile, listener = some profile →
        profile = (update s.shards i (op.apply (s.shards i)) 0).profile) ∧
      ∀ profile, refs profile + (s.shards i).holds profile =
        s.refs profile + (op.apply (s.shards i)).holds profile := by
  have hkeep : ∀ shard : TlsShard, shard.profile = (s.shards i).profile →
      ∀ profile, s.listener = some profile →
        profile = (update s.shards i shard 0).profile := by
    intro shard hshard profile hprofile
    rw [hfollows profile hprofile, update_apply]
    grind
  have hclose : ∀ drop : TlsConn → Bool, ∀ profile, s.refs profile - (s.shards i).conns.countP
          (fun c => drop c && decide (c.profile = profile)) + (s.shards i).holds profile =
        s.refs profile + TlsShard.holds
          { s.shards i with conns := (s.shards i).conns.filter fun c => !drop c } profile := by
    intro drop profile
    have hcount := countP_filter_not_add (s.shards i).conns drop
      fun c => decide (c.profile = profile)
    have hle := hrefs profile
    unfold TlsShard.holds at hle ⊢
    dsimp only
    omega
  cases op with
  | gate paused => exact ⟨s.listener, s.refs, rfl, rfl, hkeep _ rfl, fun _ => rfl⟩
  | closeBefore generation
  | closeGeneration generation => exact ⟨s.listener, _, rfl, rfl, hkeep _ rfl, hclose _⟩
  | install profile =>
    rw [shardPerform, tlsInstall]
    by_cases hsame : (s.shards i).profile = profile
    · rw [if_pos hsame]
      have happly : ShardOp.apply (s.shards i) (.install profile) = s.shards i := by
        unfold ShardOp.apply
        rw [← hsame]
      rw [happly, update_eq_self]
      exact ⟨s.listener, s.refs, rfl, rfl, hfollows, fun _ => rfl⟩
    · rw [if_neg hsame]
      refine ⟨_, _, rfl, ?_, fun profile' hprofile' => ?_, fun profile' => ?_⟩
      · dsimp only [TlsServer.retain, TlsServer.setShard]
        split
        · simp
        · rfl
      · by_cases hi : i = 0
        · subst hi
          rw [if_pos rfl] at hprofile'
          obtain ⟨_, _, rfl⟩ := map_eq_some_iff.mp hprofile'
          rw [update_self]
          rfl
        · rw [if_neg hi] at hprofile'
          rw [update_of_ne (Ne.symm hi)]
          exact hfollows profile' hprofile'
      · have hpos : 0 < update s.refs profile (s.refs profile + 1)
            (s.shards i).profile := by
          have hle := hrefs (s.shards i).profile
          rw [TlsShard.holds_eq, TlsServer.heldBy_self] at hle
          rw [TlsServer.retain_refs]
          omega
        have hrelease := TlsServer.release_refs hpos profile'
        have hretain := TlsServer.retain_refs s.refs profile profile'
        rw [TlsShard.holds_eq, TlsShard.holds_eq]
        dsimp only [TlsServer.retain, TlsServer.setShard, ShardOp.apply]
        omega

/-! ## Reference counts -/

/-- The phases in which the rotation itself holds the candidate. -/
def RotationPhase.holdsCandidate : RotationPhase → Bool
  | .pausing | .reopenPause | .installing | .uninstalling | .reopenInstall => true
  | _ => false

variable {s s' : TlsServer}

namespace TlsServer

/-- The candidate, while only the rotation knows it. -/
def localCandidate (s : TlsServer) : Option Nat :=
  s.rotation.bind fun r => if r.phase.holdsCandidate then some r.candidate else none

/-- The references that are not of a shard. -/
def ownHolds (s : TlsServer) (profile : Nat) : Nat :=
  heldBy (some s.profile) profile + heldBy s.recovery profile + heldBy s.localCandidate profile +
    s.sessions.count profile

theorem ownHolds_eq {held : Nat} {recovery candidate : Option Nat} (hheld : s.profile = held)
    (hrecovery : s.recovery = recovery) (hcandidate : s.localCandidate = candidate) (profile : Nat)
    : s.ownHolds profile = heldBy (some held) profile + heldBy recovery profile +
      heldBy candidate profile + s.sessions.count profile := by
  unfold ownHolds
  rw [hheld, hrecovery, hcandidate]

theorem localCandidate_finish (s : TlsServer) (status : Status) :
    (s.finish status).localCandidate = none := rfl

theorem localCandidate_eq {r : Rotation} (hr : s.rotation = some r) :
    s.localCandidate = if r.phase.holdsCandidate then some r.candidate else none := by
  unfold localCandidate
  rw [hr]
  rfl

/-- The number of holders of a profile. -/
def holders (s : TlsServer) (profile : Nat) : Nat :=
  s.ownHolds profile + ∑ i ∈ Finset.range s.shardCount, (s.shards i).holds profile

/-- Every reference is counted. -/
def Counted (s : TlsServer) : Prop := ∀ profile, s.refs profile = s.holders profile

theorem holds_le_holders {i : Nat} (hi : i < s.shardCount) (profile : Nat) :
    (s.shards i).holds profile ≤ s.holders profile := by
  have := Finset.single_le_sum (f := fun j => (s.shards j).holds profile)
    (fun j _ => Nat.zero_le _) (Finset.mem_range.mpr hi)
  unfold holders
  omega

/-- One shard changes, and the counts with it. -/
theorem Counted.shard (h : s.Counted) {i : Nat} {shard : TlsShard} (hi : i < s.shardCount)
    (hcount : s'.shardCount = s.shardCount) (hshards : s'.shards = update s.shards i shard)
    (hown : ∀ profile, s'.ownHolds profile = s.ownHolds profile)
    (hrefs : ∀ profile, s'.refs profile + (s.shards i).holds profile =
      s.refs profile + shard.holds profile) : s'.Counted := by
  intro profile
  have hsum := sum_update (Finset.mem_range.mpr hi) s.shards shard (·.holds profile)
  have hold := h profile
  have hnew := hrefs profile
  unfold holders at hold ⊢
  rw [hcount, hshards, hown]
  omega

/-- The references that are not of a shard change, and the counts with them. -/
theorem Counted.own (h : s.Counted) (hcount : s'.shardCount = s.shardCount)
    (hshards : s'.shards = s.shards) (hrefs : ∀ profile, s'.refs profile + s.ownHolds profile =
      s.refs profile + s'.ownHolds profile) : s'.Counted := by
  intro profile
  have hold := h profile
  have hnew := hrefs profile
  unfold holders at hold ⊢
  rw [hcount, hshards]
  omega

/-- The references are where they were. -/
theorem Counted.same (h : s.Counted) (hcount : s'.shardCount = s.shardCount)
    (hshards : s'.shards = s.shards) (hrefs : s'.refs = s.refs) (hprofile : s'.profile = s.profile)
    (hrecovery : s'.recovery = s.recovery) (hsessions : s'.sessions = s.sessions)
    (hlocal : s'.localCandidate = s.localCandidate) : s'.Counted := by
  refine h.own hcount hshards fun profile => ?_
  unfold ownHolds
  rw [hrefs, hprofile, hrecovery, hsessions, hlocal]

theorem ownHolds_le_holders (s : TlsServer) (profile : Nat) :
    s.ownHolds profile ≤ s.holders profile := Nat.le_add_right _ _

/-- Giving a reference back that was not of a shard. -/
theorem Counted.giveBack (h : s.Counted) {profile : Nat} (hcount : s'.shardCount = s.shardCount)
    (hshards : s'.shards = s.shards)
    (hrefs : s'.refs = update s.refs profile (s.refs profile - 1))
    (hown : ∀ other, s.ownHolds other = s'.ownHolds other + heldBy (some profile) other) :
    s'.Counted := by
  refine h.own hcount hshards fun other => ?_
  have hpos : 0 < s.refs profile := by
    have hle := s.ownHolds_le_holders profile
    rw [← h profile, hown profile, heldBy_self] at hle
    omega
  have hrelease := release_refs hpos other
  rw [hrefs, hown other]
  omega

/-- Taking a reference that is not of a shard. -/
theorem Counted.take (h : s.Counted) {profile : Nat} (hcount : s'.shardCount = s.shardCount)
    (hshards : s'.shards = s.shards)
    (hrefs : s'.refs = update s.refs profile (s.refs profile + 1))
    (hown : ∀ other, s'.ownHolds other = s.ownHolds other + heldBy (some profile) other) :
    s'.Counted := by
  refine h.own hcount hshards fun other => ?_
  rw [hrefs, hown other, retain_refs]
  omega

/-! ## Generations -/

/-- A connection that is active. -/
def Live (s : TlsServer) (c : TlsConn) : Prop :=
  ∃ i < s.shardCount, c ∈ (s.shards i).conns

/-- What holds of every server. -/
structure Base (s : TlsServer) : Prop where
  count : 0 < s.shardCount
  follows : s.Follows
  generation : ∀ c, s.Live c → c.generation = s.generation c.profile
  positive : ∀ c, s.Live c → 0 < c.generation
  same : ∀ c c', s.Live c → s.Live c' → c.generation = c'.generation → c.profile = c'.profile
  fresh : ∀ profile, s.fresh ≤ profile → s.refs profile = 0
  known : s.profile < s.fresh

/-- The only profile of this generation that connections have been made from. -/
def Sole (s : TlsServer) (profile : Nat) : Prop :=
  ∀ c, s.Live c → c.generation = s.generation profile → c.profile = profile

/-- A server outside of a rotation. -/
structure Stable (s : TlsServer) : Prop where
  shards : ∀ i < s.shardCount, (s.shards i).profile = s.profile ∧ (s.shards i).paused = false
  recovery : s.recovery = none
  upper : ∀ c, s.Live c → c.generation ≤ s.generation s.profile
  sole : s.Sole s.profile
  positive : 0 < s.generation s.profile

/-- Two profiles side by side: a shard has one or the other, and only the second has
connections above the generation of the first. -/
structure Between (s : TlsServer) (old candidate : Nat) : Prop where
  next : s.generation candidate = s.generation old + 1
  positive : 0 < s.generation old
  upper : ∀ c, s.Live c → c.generation ≤ s.generation old ∨ c.profile = candidate
  sole : s.Sole old
  shards : ∀ i < s.shardCount, (s.shards i).profile = old ∨ (s.shards i).profile = candidate
  known : old < s.fresh ∧ candidate < s.fresh

theorem Between.sole_candidate {old candidate : Nat} (h : s.Between old candidate) :
    s.Sole candidate := by
  intro c hc hgen
  rcases h.upper c hc with hle | heq
  · have := h.next
    omega
  · exact heq

/-- The shards of `s'` have no connection that those of `s` have not, and the profiles are
as old as they were. -/
structure Shrinks (s s' : TlsServer) : Prop where
  count : s'.shardCount = s.shardCount
  generation : s'.generation = s.generation
  live : ∀ c, s'.Live c → s.Live c

theorem Shrinks.sole (hs : Shrinks s s') {profile : Nat} (h : s.Sole profile) :
    s'.Sole profile := by
  intro c hc hgen
  rw [hs.generation] at hgen
  exact h c (hs.live c hc) hgen

theorem Base.shrink (h : s.Base) (hs : Shrinks s s') (hfollows : s'.Follows)
    (hfresh : ∀ profile, s'.fresh ≤ profile → s'.refs profile = 0) (hknown : s'.profile < s'.fresh)
    : s'.Base where
  count := by
    rw [hs.count]
    exact h.count
  follows := hfollows
  generation c hc := by
    rw [hs.generation]
    exact h.generation c (hs.live c hc)
  positive c hc := h.positive c (hs.live c hc)
  same c c' hc hc' := h.same c c' (hs.live c hc) (hs.live c' hc')
  fresh := hfresh
  known := hknown

theorem Between.shrink {old candidate : Nat} (h : s.Between old candidate) (hs : Shrinks s s')
    (hfresh : s'.fresh = s.fresh)
    (hshards : ∀ i < s.shardCount, (s'.shards i).profile = old ∨ (s'.shards i).profile = candidate)
    : s'.Between old candidate where
  next := by
    rw [hs.generation]
    exact h.next
  positive := by
    rw [hs.generation]
    exact h.positive
  upper c hc := by
    rw [hs.generation]
    exact h.upper c (hs.live c hc)
  sole := hs.sole h.sole
  shards i hi := hshards i (hs.count ▸ hi)
  known := by
    rw [hfresh]
    exact h.known

/-! ## Phases -/

end TlsServer

/-- The phases after the candidate has been handed to the server. -/
def RotationPhase.late : RotationPhase → Bool
  | .revoking | .opening | .repausing | .closing | .restoring => true
  | _ => false

/-- The phases in which no shard accepts. -/
def RotationPhase.quiet : RotationPhase → Bool
  | .installing | .uninstalling | .revoking | .closing | .restoring => true
  | _ => false

/-- The phases in which the candidate has no connection. -/
def RotationPhase.clean : RotationPhase → Bool
  | .opening | .repausing | .closing => false
  | _ => true

/-- The phases that undo the rotation, with an error to return. -/
def RotationPhase.undoes : RotationPhase → Bool
  | .pausing | .installing | .revoking | .opening => false
  | _ => true

/-- The profile that all shards have. -/
def Rotation.uniform (r : Rotation) : Option Nat :=
  match r.phase with
  | .pausing | .reopenPause | .reopenInstall | .reopenRestored => some r.old
  | .revoking | .opening | .repausing | .closing => some r.candidate
  | .installing | .uninstalling | .restoring => none

/-- What a call has done to a shard. -/
def ShardOp.Done (shard : TlsShard) : ShardOp → Prop
  | .gate paused => shard.paused = paused
  | .install profile => shard.profile = profile
  | .closeBefore generation => ∀ c ∈ shard.conns, c.generation = 0 ∨ generation ≤ c.generation
  | .closeGeneration generation => ∀ c ∈ shard.conns, c.generation ≠ generation

theorem ShardOp.done_apply (shard : TlsShard) (op : ShardOp) : op.Done (op.apply shard) := by
  cases op with
  | gate paused => rfl
  | install profile => rfl
  | closeBefore generation =>
    intro c hc
    have hkeep := (mem_filter.mp hc).2
    simp only [dropBefore, Bool.not_eq_true', decide_eq_false_iff_not] at hkeep
    omega
  | closeGeneration generation =>
    intro c hc
    have hkeep := (mem_filter.mp hc).2
    simpa [dropGeneration] using hkeep

/-- What a rotation has achieved. -/
structure PhaseFacts (s : TlsServer) (r : Rotation) : Prop where
  next : r.next ≤ s.shardCount
  profile : s.profile = if r.phase.late then r.candidate else r.old
  recovery : s.recovery = if r.phase.late then some r.old else none
  quiet : r.phase.quiet = true → ∀ i < s.shardCount, (s.shards i).paused = true
  clean : r.phase.clean = true → ∀ c, s.Live c → c.profile ≠ r.candidate
  uniform : ∀ profile, r.uniform = some profile → ∀ i < s.shardCount, (s.shards i).profile = profile
  revoked : r.phase = .opening → r.revoke = true →
    ∀ c, s.Live c → s.generation r.candidate ≤ c.generation
  done : r.result = .ok → ∀ k < r.next, (r.op s).Done (s.shards (r.index s k))
  error : r.phase.undoes = true → r.ret ≠ .ok

/-- The state of the rotation, whatever it is. -/
structure TlsServer.Mode (s : TlsServer) : Prop where
  rotating : ∀ r, s.rotation = some r →
    s.rotationFailed = false ∧ s.Between r.old r.candidate ∧ PhaseFacts s r
  stable : s.rotation = none → s.rotationFailed = false → s.Stable
  failed : s.rotation = none → s.rotationFailed = true → ∃ old candidate, s.Between old candidate

theorem TlsServer.Mode.going {r : Rotation} (hfailed : s.rotationFailed = false)
    (hbetween : s.Between r.old r.candidate) (hfacts : PhaseFacts s r) : (s.goOn r).Mode := by
  refine ⟨fun r' hr' => ?_, fun hnone => absurd hnone (some_ne_none _),
    fun hnone => absurd hnone (some_ne_none _)⟩
  cases hr'
  exact ⟨hfailed, { hbetween with }, { hfacts with }⟩

theorem TlsServer.Mode.settled (hfailed : s.rotationFailed = false) (hstable : s.Stable)
    (status : Status) : (s.finish status).Mode :=
  ⟨fun _ hr => absurd hr.symm (some_ne_none _), fun _ _ => { hstable with },
    fun _ hwreck => absurd (hfailed.symm.trans hwreck) Bool.false_ne_true⟩

theorem TlsServer.Mode.wrecked {old candidate : Nat} (hfailed : s.rotationFailed = true)
    (hbetween : s.Between old candidate) (status : Status) : (s.finish status).Mode :=
  ⟨fun _ hr => absurd hr.symm (some_ne_none _),
    fun _ hgood => absurd (hgood.symm.trans hfailed) Bool.false_ne_true,
    fun _ _ => ⟨old, candidate, { hbetween with }⟩⟩

/-- The invariant. -/
structure TlsServer.Ok (s : TlsServer) : Prop where
  base : s.Base
  counted : s.Counted
  mode : s.Mode

theorem Rotation.index_lt {r : Rotation} {k : Nat} (h : k < s.shardCount) :
    r.index s k < s.shardCount := by
  unfold Rotation.index
  split
  · omega
  · omega
  · split_ifs <;> omega
  · exact h

/-- A sweep comes to every shard. -/
theorem Rotation.index_surjective {s : TlsServer} {r : Rotation} {i : Nat}
    (h : i < s.shardCount) : ∃ k < s.shardCount, r.index s k = i := by
  unfold Rotation.index
  split
  · exact ⟨s.shardCount - i - 1, by omega, by omega⟩
  · exact ⟨s.shardCount - i - 1, by omega, by omega⟩
  · by_cases hlast : s.listener.isSome ∧ 1 < s.shardCount
    · simp only [hlast, and_self, if_true]
      by_cases hzero : i = 0
      · exact ⟨s.shardCount - 1, by omega, by rw [if_neg (by omega), hzero]⟩
      · exact ⟨i - 1, by omega, by rw [if_pos (by omega)]; omega⟩
    · simp only [hlast, if_false]
      exact ⟨i, h, rfl⟩
  · exact ⟨i, h, rfl⟩

/-- What the end of a sweep without an error means. -/
theorem PhaseFacts.all_done {r : Rotation} (h : PhaseFacts s r)
    (hend : ¬ (r.next < s.shardCount ∧ ¬ (r.phase.stops ∧ r.result ≠ .ok))) (hok : r.result = .ok) :
    ∀ i < s.shardCount, (r.op s).Done (s.shards i) := by
  intro i hi
  have hnext : s.shardCount ≤ r.next := by
    by_contra hlt
    exact hend ⟨by omega, fun hstop => hstop.2 hok⟩
  obtain ⟨k, hk, rfl⟩ := @Rotation.index_surjective s r i hi
  exact h.done hok k (by omega)

end Trpc
