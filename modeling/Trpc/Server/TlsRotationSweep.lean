import Trpc.Server.TlsRotationInv

/-!
# The sweeps of a rotation

The steps of a rotation keep the invariant: the answer of one call, good or bad, and the
end of each sweep.
-/

namespace Trpc

open Lib TlsServer Function

/-! ## A call of the sweep -/

variable {shard : TlsShard} {op : ShardOp}

theorem ShardOp.mem_of_mem_apply {c : TlsConn}
    (h : c ∈ (op.apply shard).conns) : c ∈ shard.conns := by
  cases op with
  | gate paused | install profile => exact h
  | closeBefore generation | closeGeneration generation => exact (List.mem_filter.mp h).1

theorem ShardOp.holds_apply {profile : Nat}
    (h : shard.holds profile = 0) (hop : op ≠ .install profile) :
    (op.apply shard).holds profile = 0 := by
  unfold TlsShard.holds at h
  obtain ⟨hprofile, hconns⟩ := Nat.add_eq_zero_iff.mp h
  have hnone : ∀ c ∈ shard.conns, ¬ decide (c.profile = profile) = true :=
    List.countP_eq_zero.mp hconns
  have hafter : (op.apply shard).conns.countP (fun c => decide (c.profile = profile)) = 0 :=
    List.countP_eq_zero.mpr fun c hc => hnone c (ShardOp.mem_of_mem_apply hc)
  unfold TlsShard.holds
  rw [hafter]
  cases op with
  | install profile' =>
    have hne : profile' ≠ profile := fun heq => hop (by rw [heq])
    exact if_neg hne
  | gate paused | closeBefore generation | closeGeneration generation => exact hprofile

/-- Only the gate opens or closes a shard. -/
theorem ShardOp.paused_apply (h : ∀ paused, op ≠ .gate paused) :
    (op.apply shard).paused = shard.paused := by
  cases op with
  | gate paused => exact absurd rfl (h paused)
  | install profile | closeBefore generation | closeGeneration generation => rfl

theorem ShardOp.profile_apply
    (h : ∀ profile, op ≠ .install profile) : (op.apply shard).profile = shard.profile := by
  cases op with
  | gate paused => rfl
  | install profile => exact absurd rfl (h profile)
  | closeBefore generation | closeGeneration generation => rfl

variable {s : TlsServer} {r : Rotation}

theorem Rotation.op_quiet (h : r.phase.quiet = true) (paused : Bool) : r.op s ≠ .gate paused := by
  unfold Rotation.op
  cases hphase : r.phase <;> rw [hphase] at h <;> simp [RotationPhase.quiet] at h ⊢

theorem Rotation.op_uniform {profile : Nat} (h : r.uniform = some profile) (profile' : Nat) :
    r.op s ≠ .install profile' := by
  unfold Rotation.uniform at h
  unfold Rotation.op
  cases hphase : r.phase <;> rw [hphase] at h <;> simp at h ⊢

theorem Rotation.op_install {profile : Nat} (h : r.op s = .install profile) :
    profile = r.old ∨ profile = r.candidate := by
  unfold Rotation.op at h
  cases hphase : r.phase <;> rw [hphase] at h <;> simp at h <;> simp [h]

/-- What one step of a rotation leaves as it was. -/
structure TickFrame (s : TlsServer) (r : Rotation) (s' : TlsServer) : Prop where
  shrinks : TlsServer.Shrinks s s'
  shards : ∀ i < s.shardCount, (s'.shards i).profile = (s.shards i).profile ∨
      (s'.shards i).profile = r.old ∨ (s'.shards i).profile = r.candidate
  profile : s'.profile = s.profile ∨ s'.profile = r.old ∨ s'.profile = r.candidate
  rotation : ∀ r', s'.rotation = some r' → r'.old = r.old

/-- The call of a sweep to one shard. -/
theorem Rotation.frame_op {i : Nat} {listener : Option Nat} {refs : Nat → Nat} {n : Nat} :
    TickFrame s r (goOn { s with
      shards := update s.shards i ((r.op s).apply (s.shards i))
      listener := listener
      refs := refs } { r with next := n }) := by
  have hconns : ∀ j, ∀ c ∈ (update s.shards i ((r.op s).apply (s.shards i)) j).conns,
      c ∈ (s.shards j).conns :=
    (forall_update_iff s.shards fun j shard => ∀ c ∈ shard.conns, c ∈ (s.shards j).conns).mpr
      ⟨fun _ => ShardOp.mem_of_mem_apply, fun _ _ _ hc => hc⟩
  have hop : ((r.op s).apply (s.shards i)).profile = (s.shards i).profile ∨
      ((r.op s).apply (s.shards i)).profile = r.old ∨
        ((r.op s).apply (s.shards i)).profile = r.candidate := by
    by_cases hop : ∃ profile, r.op s = .install profile
    · obtain ⟨profile, hop⟩ := hop
      rw [hop]
      exact .inr (Rotation.op_install hop)
    · push Not at hop
      exact .inl (ShardOp.profile_apply hop)
  have hprofile := (forall_update_iff s.shards fun j shard =>
    shard.profile = (s.shards j).profile ∨ shard.profile = r.old ∨ shard.profile = r.candidate).mpr
      ⟨hop, fun _ _ => .inl rfl⟩
  refine ⟨⟨rfl, rfl, ?_⟩, fun j _ => hprofile j, .inl rfl, fun r' hr' => ?_⟩
  · rintro c ⟨j, hj, hc⟩
    exact ⟨j, hj, hconns j c hc⟩
  · cases hr'
    rfl

section

variable (h : s.Ok)

include h

/-- The answer of one call, with the rotation one shard further. -/
theorem TlsServer.Ok.perform (hr : s.rotation = some r) (hnext : r.next < s.shardCount) :
    ((shardPerform s (r.index s r.next) (r.op s)).goOn { r with next := r.next + 1 }).Ok := by
  obtain ⟨hfailed, hbetween, hfacts⟩ := h.mode.rotating r hr
  have hi : r.index s r.next < s.shardCount := Rotation.index_lt hnext
  generalize hindex : r.index s r.next = i at hi
  obtain ⟨listener, refs, heq, hsome, hfollows, hrefs⟩ := shardPerform_spec s i (r.op s)
    h.base.follows (fun profile => h.counted profile ▸ holds_le_holders hi profile)
  rw [heq]
  have hframe := @Rotation.frame_op s r i listener refs (r.next + 1)
  have hbetween' := hbetween.shrink hframe.shrinks rfl fun j hj => by
    rcases hframe.shards j hj with hold | hnew
    · rw [hold]
      exact hbetween.shards j hj
    · exact hnew
  refine ⟨h.base.shrink hframe.shrinks hfollows ?_ h.base.known, ?_,
    Mode.going hfailed { hbetween' with } ?_⟩
  · intro profile (hfresh : s.fresh ≤ profile)
    have hzero := h.base.fresh profile hfresh
    have hholds : (s.shards i).holds profile = 0 := by
      have := holds_le_holders hi profile
      rw [← h.counted profile, hzero] at this
      omega
    have hafter : ((r.op s).apply (s.shards i)).holds profile = 0 := by
      refine ShardOp.holds_apply hholds fun hop => ?_
      have hknown := hbetween.known
      rcases Rotation.op_install hop with rfl | rfl <;> omega
    have := hrefs profile
    show refs profile = 0
    omega
  · refine h.counted.shard hi rfl rfl (ownHolds_eq rfl rfl ?_) hrefs
    rw [localCandidate_eq hr]
    rfl
  · have hidx : ∀ k, Rotation.index { s with
        shards := update s.shards i ((r.op s).apply (s.shards i))
        listener := listener
        refs := refs } { r with next := r.next + 1 } k = r.index s k := by
      intro k
      unfold Rotation.index
      rw [hsome]
    exact
      { next := hnext
        profile := hfacts.profile
        recovery := hfacts.recovery
        quiet := fun (hquiet : r.phase.quiet = true) =>
          (forall_update_iff s.shards fun j shard => j < s.shardCount → shard.paused = true).mpr
            ⟨fun hi => (ShardOp.paused_apply (Rotation.op_quiet hquiet)).trans
              (hfacts.quiet hquiet i hi), fun j _ => hfacts.quiet hquiet j⟩
        clean := fun hclean c hc => hfacts.clean hclean c (hframe.shrinks.live c hc)
        uniform := fun profile (huniform : r.uniform = some profile) =>
          (forall_update_iff s.shards fun j shard => j < s.shardCount → shard.profile = profile).mpr
            ⟨fun hi => (ShardOp.profile_apply (Rotation.op_uniform huniform)).trans
              (hfacts.uniform profile huniform i hi), fun j _ => hfacts.uniform profile huniform j⟩
        revoked := fun hphase hrevoke c hc =>
          hfacts.revoked hphase hrevoke c (hframe.shrinks.live c hc)
        done := fun hok k hk => by
          rw [hidx]
          show (r.op s).Done (update s.shards i _ _)
          by_cases hki : r.index s k = i
          · rw [hki, update_self]
            exact ShardOp.done_apply _ _
          rw [update_of_ne hki]
          refine hfacts.done hok k ?_
          have hne : k ≠ r.next := fun heq => hki (by rw [heq, hindex])
          have : k < r.next + 1 := hk
          omega
        error := hfacts.error }

/-- A call that fails leaves its mark on the sweep alone. -/
theorem TlsServer.Ok.skip (hr : s.rotation = some r) (hnext : r.next < s.shardCount)
    {ret : Status} (hret : ret ≠ .ok) : (s.goOn { r with
      next := r.next + 1
      result := if r.result = .ok then ret else r.result }).Ok := by
  obtain ⟨hfailed, hbetween, hfacts⟩ := h.mode.rotating r hr
  have hresult : (if r.result = .ok then ret else r.result) ≠ .ok := by
    split_ifs with hok
    · exact hret
    · exact hok
  exact ⟨{ h.base with }, h.counted.same rfl rfl rfl rfl rfl rfl (localCandidate_eq hr).symm,
    .going hfailed { hbetween with } { hfacts with
      next := hnext
      done := fun hok => absurd hok hresult }⟩

/-! ## The end of a sweep -/

omit h in
/-- Giving a reference back keeps new profiles unused. -/
theorem TlsServer.Base.fresh_release (h : s.Base) (profile other : Nat) (hother : s.fresh ≤ other) :
    (s.release profile).refs other = 0 := by
  show update s.refs profile (s.refs profile - 1) other = 0
  rw [update_apply]
  grind [h.fresh other hother]

/-- The next phase, when nothing else changes: what it starts from. -/
theorem TlsServer.Ok.enter {r' : Rotation} (hr : s.rotation = some r)
    (hold : r'.old = r.old) (hcandidate : r'.candidate = r.candidate) (hnext : r'.next = 0)
    (hlocal : r'.phase.holdsCandidate = r.phase.holdsCandidate)
    (hlate : r'.phase.late = r.phase.late)
    (hquiet : r'.phase.quiet = true → ∀ i < s.shardCount, (s.shards i).paused = true)
    (hclean : r'.phase.clean = true → ∀ c, s.Live c → c.profile ≠ r.candidate)
    (huniform : ∀ profile, r'.uniform = some profile →
      ∀ i < s.shardCount, (s.shards i).profile = profile)
    (hrevoked : r'.phase = .opening → r'.revoke = true →
      ∀ c, s.Live c → s.generation r.candidate ≤ c.generation)
    (herror : r'.phase.undoes = true → r'.ret ≠ .ok) : (s.goOn r').Ok := by
  obtain ⟨hfailed, hbetween, hfacts⟩ := h.mode.rotating r hr
  refine ⟨{ h.base with }, h.counted.same rfl rfl rfl rfl rfl rfl ?_, .going hfailed ?_ ?_⟩
  · rw [localCandidate_eq hr, localCandidate_eq rfl, hlocal, hcandidate]
  · rw [hold, hcandidate]
    exact hbetween
  · exact
      { next := by
          rw [hnext]
          exact Nat.zero_le _
        profile := by
          rw [hlate, hold, hcandidate]
          exact hfacts.profile
        recovery := by
          rw [hlate, hold]
          exact hfacts.recovery
        quiet := hquiet
        clean := by
          rw [hcandidate]
          exact hclean
        uniform := huniform
        revoked := by
          rw [hcandidate]
          exact hrevoked
        done := fun _ k hk => by
          rw [hnext] at hk
          exact absurd hk (Nat.not_lt_zero k)
        error := herror }

/-- A rotation that returns with the candidate in the hands of the server. -/
theorem TlsServer.Ok.counted_finish (hr : s.rotation = some r)
    (hlocal : r.phase.holdsCandidate = false) (failed : Bool) (status : Status) :
    TlsServer.Counted ({ s with rotationFailed := failed }.finish status) := by
  refine h.counted.same rfl rfl rfl rfl rfl rfl ?_
  rw [localCandidate_eq hr, hlocal]
  rfl

/-- A rotation that fails for good, with the candidate in the hands of the server. -/
theorem TlsServer.Ok.wreck (hr : s.rotation = some r)
    (hlocal : r.phase.holdsCandidate = false) (status : Status) :
    (s.markFailed.finish status).Ok :=
  ⟨{ h.base with }, h.counted_finish hr hlocal true status,
    .wrecked (s := s.markFailed) rfl { (h.mode.rotating r hr).2.1 with } status⟩

/-- The candidate is given back when the rotation returns without having installed it. -/
theorem TlsServer.Ok.counted_drop (hr : s.rotation = some r)
    (hlocal : r.phase.holdsCandidate = true) (failed : Bool) (status : Status) :
    TlsServer.Counted
      (({ s with rotationFailed := failed }.release r.candidate).finish status) := by
  refine h.counted.giveBack rfl rfl rfl fun other => ?_
  have hsome : s.localCandidate = some r.candidate := by
    rw [localCandidate_eq hr, hlocal]
    rfl
  rw [ownHolds_eq rfl rfl hsome, ownHolds_eq rfl rfl (localCandidate_finish _ _), heldBy_none]
  dsimp only [finish, release]
  omega

theorem TlsServer.Ok.wreck_drop (hr : s.rotation = some r)
    (hlocal : r.phase.holdsCandidate = true) (status : Status) :
    ((s.markFailed.release r.candidate).finish status).Ok :=
  ⟨{ h.base with fresh := fun other hother => h.base.fresh_release r.candidate other hother },
    h.counted_drop hr hlocal true status, .wrecked (s := s.markFailed.release r.candidate) rfl
      { (h.mode.rotating r hr).2.1 with } status⟩

omit h in
/-- Every shard has the old profile again and accepts. -/
theorem PhaseFacts.stable_old (h : PhaseFacts s r) (hbetween : s.Between r.old r.candidate)
    (hlate : r.phase.late = false) (hclean : r.phase.clean = true)
    (huniform : r.uniform = some r.old) (hopen : ∀ i < s.shardCount, (s.shards i).paused = false) :
    s.Stable := by
  have hprofile : s.profile = r.old := by
    rw [h.profile, hlate]
    rfl
  refine ⟨fun i hi => ⟨?_, hopen i hi⟩, ?_, fun c hc => ?_, ?_, ?_⟩
  · rw [hprofile]
    exact h.uniform r.old huniform i hi
  · rw [h.recovery, hlate]
    rfl
  · rw [hprofile]
    rcases hbetween.upper c hc with hle | heq
    · exact hle
    · exact absurd heq (h.clean hclean c hc)
  · rw [hprofile]
    exact hbetween.sole
  · rw [hprofile]
    exact hbetween.positive

/-- The rotation is undone: its first reference is given back. -/
theorem TlsServer.Ok.undone (hr : s.rotation = some r)
    (hlocal : r.phase.holdsCandidate = true) (hstable : s.Stable) (status : Status) :
    ((s.release r.candidate).finish status).Ok :=
  ⟨{ h.base with fresh := fun other hother => h.base.fresh_release r.candidate other hother },
    h.counted_drop hr hlocal s.rotationFailed status,
    .settled (s := s.release r.candidate) (h.mode.rotating r hr).1 { hstable with } status⟩

/-- The rotation is undone, and its references have been given back before. -/
theorem TlsServer.Ok.rest (hr : s.rotation = some r)
    (hlocal : r.phase.holdsCandidate = false) (hstable : s.Stable) (status : Status) :
    (s.finish status).Ok :=
  ⟨{ h.base with }, h.counted_finish hr hlocal s.rotationFailed status,
    .settled (h.mode.rotating r hr).1 hstable status⟩

/-- The candidate is installed everywhere: it becomes the profile of the server. -/
theorem TlsServer.Ok.handOver (hr : s.rotation = some r) (hphase : r.phase = .installing)
    (hall : ∀ i < s.shardCount, (s.shards i).profile = r.candidate) :
    ({ s with profile := r.candidate, recovery := some r.old }.goOn
      (r.enter (if r.revoke then .revoking else .opening))).Ok := by
  obtain ⟨hfailed, hbetween, hfacts⟩ := h.mode.rotating r hr
  have hprofile : s.profile = r.old := hfacts.profile.trans (by rw [hphase]; rfl)
  have hrecovery : s.recovery = none := hfacts.recovery.trans (by rw [hphase]; rfl)
  have hquiet := hfacts.quiet (by rw [hphase]; rfl)
  have hclean := hfacts.clean (by rw [hphase]; rfl)
  have hbefore : s.localCandidate = some r.candidate := by
    rw [localCandidate_eq hr, hphase]
    rfl
  generalize hnext : (if r.revoke then .revoking else .opening : RotationPhase) = phase
  have hphases : phase = .revoking ∨ phase = .opening ∧ r.revoke = false := by
    rw [← hnext]
    cases r.revoke <;> simp
  refine ⟨{ h.base with known := hbetween.known.2 }, h.counted.own rfl rfl fun profile => ?_,
    .going hfailed { hbetween with } ?_⟩
  · have hafter : localCandidate ({ s with profile := r.candidate, recovery := some r.old }.goOn
        (r.enter phase)) = none := by
      rw [localCandidate_eq rfl]
      rcases hphases with rfl | ⟨rfl, -⟩ <;> rfl
    rw [ownHolds_eq hprofile hrecovery hbefore, ownHolds_eq rfl rfl hafter]
    dsimp only [goOn]
    omega
  · rcases hphases with rfl | ⟨rfl, hrevoke⟩
    · exact ⟨Nat.zero_le _, rfl, rfl, fun _ => hquiet, fun _ => hclean, fun profile huniform => by
        cases huniform
        exact hall, nofun, fun _ k hk => absurd hk (Nat.not_lt_zero k), nofun⟩
    · exact ⟨Nat.zero_le _, rfl, rfl, nofun, nofun, fun profile huniform => by
        cases huniform
        exact hall, fun _ hyes => absurd (hrevoke.symm.trans hyes) Bool.false_ne_true,
        fun _ k hk => absurd hk (Nat.not_lt_zero k), nofun⟩

/-- Every shard accepts with the candidate: the rotation has succeeded. -/
theorem TlsServer.Ok.succeed (hr : s.rotation = some r) (hphase : r.phase = .opening)
    (hopen : ∀ i < s.shardCount, (s.shards i).paused = false) :
    (({ s with recovery := none }.release r.old).finish .ok).Ok := by
  obtain ⟨hfailed, hbetween, hfacts⟩ := h.mode.rotating r hr
  have hprofile : s.profile = r.candidate := hfacts.profile.trans (by rw [hphase]; rfl)
  have hrecovery : s.recovery = some r.old := hfacts.recovery.trans (by rw [hphase]; rfl)
  have huniform := hfacts.uniform r.candidate (by unfold Rotation.uniform; rw [hphase])
  refine ⟨{ h.base with fresh := fun other hother => h.base.fresh_release r.old other hother },
    h.counted.giveBack rfl rfl rfl fun other => ?_,
    .settled (s := { s with recovery := none }.release r.old) hfailed ?_ .ok⟩
  · have hbefore : s.localCandidate = none := by
      rw [localCandidate_eq hr, hphase]
      rfl
    rw [ownHolds_eq rfl hrecovery hbefore, ownHolds_eq rfl rfl (localCandidate_finish _ _)]
    dsimp only [finish, release]
    rw [heldBy_none]
    omega
  · refine ⟨fun i hi => ⟨(huniform i hi).trans hprofile.symm, hopen i hi⟩, rfl, fun c hc => ?_,
      ?_, ?_⟩
    · show c.generation ≤ s.generation s.profile
      rw [hprofile]
      rcases hbetween.upper c hc with hle | heq
      · have := hbetween.next
        omega
      · rw [h.base.generation c hc, heq]
    · show s.Sole s.profile
      rw [hprofile]
      exact hbetween.sole_candidate
    · show 0 < s.generation s.profile
      rw [hprofile, hbetween.next]
      exact Nat.succ_pos _

/-- Every shard has the old profile again: it becomes the profile of the server. -/
theorem TlsServer.Ok.restore (hr : s.rotation = some r) (hphase : r.phase = .restoring)
    (hall : ∀ i < s.shardCount, (s.shards i).profile = r.old) :
    (({ s with profile := r.old, recovery := none }.release r.candidate).goOn
      (r.enter .reopenRestored)).Ok := by
  obtain ⟨hfailed, hbetween, hfacts⟩ := h.mode.rotating r hr
  have hprofile : s.profile = r.candidate := hfacts.profile.trans (by rw [hphase]; rfl)
  have hrecovery : s.recovery = some r.old := hfacts.recovery.trans (by rw [hphase]; rfl)
  have hclean := hfacts.clean (by rw [hphase]; rfl)
  refine ⟨{ h.base with
      fresh := fun other hother => h.base.fresh_release r.candidate other hother
      known := hbetween.known.1 }, h.counted.giveBack rfl rfl rfl fun other => ?_,
    .going hfailed { hbetween with } ?_⟩
  · have hbefore : s.localCandidate = none := by
      rw [localCandidate_eq hr, hphase]
      rfl
    rw [ownHolds_eq hprofile hrecovery hbefore, ownHolds_eq rfl rfl rfl]
    show heldBy (some r.candidate) other + heldBy (some r.old) other + 0 + s.sessions.count other =
      heldBy (some r.old) other + 0 + 0 + s.sessions.count other + heldBy (some r.candidate) other
    omega
  · exact ⟨Nat.zero_le _, rfl, rfl, nofun, fun _ => hclean, fun profile huniform => by
      cases huniform
      exact hall, nofun, fun _ k hk => absurd hk (Nat.not_lt_zero k),
      fun _ => hfacts.error (by rw [hphase]; rfl)⟩

/-- The end of a sweep keeps the invariant, whichever sweep it was and however it went. -/
theorem TlsServer.Ok.endSweep (hr : s.rotation = some r)
    (hend : ¬ (r.next < s.shardCount ∧ ¬ (r.phase.stops ∧ r.result ≠ .ok))) :
    (rotationFinish s r).Ok := by
  obtain ⟨_, hbetween, hfacts⟩ := h.mode.rotating r hr
  have hop := hfacts.all_done hend
  unfold rotationFinish
  obtain ⟨old, candidate, revoke, phase, next, result, ret⟩ := r
  cases phase with
  | pausing =>
    dsimp only
    split_ifs with hok
    · exact h.enter hr rfl rfl rfl rfl rfl (fun _ => hop hok) (fun _ => hfacts.clean rfl)
        nofun nofun nofun
    · exact h.enter hr rfl rfl rfl rfl rfl nofun (fun _ => hfacts.clean rfl) hfacts.uniform
        nofun (fun _ => hok)
  | reopenPause | reopenInstall =>
    dsimp only
    split_ifs with hok
    · exact h.undone hr rfl (hfacts.stable_old hbetween rfl rfl rfl (hop hok)) ret
    · exact h.wreck_drop hr rfl ret
  | installing =>
    dsimp only
    split_ifs with hok hrevoke
    · have hover := h.handOver hr rfl (hop hok)
      rw [if_pos hrevoke] at hover
      exact hover
    · have hover := h.handOver hr rfl (hop hok)
      rw [if_neg hrevoke] at hover
      exact hover
    · exact h.enter hr rfl rfl rfl rfl rfl (fun _ => hfacts.quiet rfl)
        (fun _ => hfacts.clean rfl) nofun nofun (fun _ => hok)
  | uninstalling =>
    dsimp only
    split_ifs with hok
    · refine h.enter hr rfl rfl rfl rfl rfl nofun (fun _ => hfacts.clean rfl)
        (fun profile huniform => ?_) nofun (fun _ => hfacts.error rfl)
      cases huniform
      exact hop hok
    · exact h.wreck_drop hr rfl ret
  | revoking =>
    dsimp only
    split_ifs with hok
    · refine h.enter hr rfl rfl rfl rfl rfl nofun nofun hfacts.uniform (fun _ _ c hc => ?_) nofun
      have hpositive := h.base.positive c hc
      obtain ⟨i, hi, hmem⟩ := hc
      rcases hop hok i hi c hmem with hzero | hle
      · omega
      · exact hle
    · exact h.wreck hr rfl .errState
  | opening =>
    dsimp only
    split_ifs with hok
    · exact h.succeed hr rfl (hop hok)
    exact h.enter hr rfl rfl rfl rfl rfl nofun nofun hfacts.uniform nofun (fun _ => hok)
  | repausing =>
    dsimp only
    split_ifs with hok
    · exact h.enter hr rfl rfl rfl rfl rfl (fun _ => hop hok) nofun hfacts.uniform nofun
        (fun _ => hfacts.error rfl)
    · exact h.wreck hr rfl .errState
  | closing =>
    dsimp only
    split_ifs with hok
    · refine h.enter hr rfl rfl rfl rfl rfl (fun _ => hfacts.quiet rfl)
        (fun _ c hc hcandidate => ?_) nofun nofun (fun _ => hfacts.error rfl)
      have hgeneration := h.base.generation c hc
      obtain ⟨i, hi, hmem⟩ := hc
      rw [hcandidate] at hgeneration
      exact hop hok i hi c hmem hgeneration
    · exact h.wreck hr rfl .errState
  | restoring =>
    dsimp only
    split_ifs with hok
    · exact h.restore hr rfl (hop hok)
    · exact h.wreck hr rfl .errState
  | reopenRestored =>
    dsimp only
    split_ifs with hok
    · exact h.rest hr rfl (hfacts.stable_old hbetween rfl rfl rfl (hop hok)) ret
    · exact h.wreck hr rfl .errState

end

end Trpc
