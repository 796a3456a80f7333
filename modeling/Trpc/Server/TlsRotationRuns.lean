import Trpc.Server.TlsRotationSweep

/-!
# A rotation of the TLS profile is atomic

Connections that come and go keep the invariant, and so does the beginning of a rotation.
`tls_rotation_atomic` says what follows for every run.
-/

namespace Trpc

open Lib TlsServer Rotation Function List Option Bool

/-! ## Connections come and go -/

variable {s s' : TlsServer} {r : Rotation}

/-- The connections of one shard change, and nothing else. -/
theorem setConns_same (shards : Nat → TlsShard) (i : Nat) (conns : List TlsConn) :
    ∀ j, (Function.update shards i { shards i with conns := conns } j).profile =
        (shards j).profile ∧
      (Function.update shards i { shards i with conns := conns } j).paused = (shards j).paused :=
  (forall_update_iff shards fun j shard =>
    shard.profile = (shards j).profile ∧ shard.paused = (shards j).paused).mpr
    ⟨⟨rfl, rfl⟩, fun _ _ => ⟨rfl, rfl⟩⟩

theorem setConns_mem {shards : Nat → TlsShard} {i j : Nat} {conns : List TlsConn} {c : TlsConn}
    (h : c ∈ (Function.update shards i { shards i with conns := conns } j).conns) :
    j = i ∧ c ∈ conns ∨ c ∈ (shards j).conns := by
  rw [update_apply] at h
  grind

/-- One connection more, or one less. -/
theorem TlsShard.holds_perm {shard : TlsShard} {conns : List TlsConn} {c : TlsConn}
    (h : shard.conns.Perm (c :: conns)) (profile : Nat) : shard.holds profile =
      holds { shard with conns := conns } profile + heldBy (some c.profile) profile := by
  have hcount := h.countP_eq fun d => decide (d.profile = profile)
  have hone : heldBy (some c.profile) profile = if c.profile = profile then 1 else 0 := by
    simp [heldBy]
  rw [countP_cons] at hcount
  simp only [decide_eq_true_eq] at hcount
  unfold holds
  dsimp only
  omega

section

variable (h : s.Ok)

include h

/-- The shard has a profile whose generation is its own, whatever the rotation does. -/
theorem TlsServer.Ok.sole_shard {i : Nat} (hi : i < s.shardCount) :
    s.Sole (s.shards i).profile ∧ 0 < s.generation (s.shards i).profile ∧
      (s.shards i).profile < s.fresh := by
  have hbetween : ∀ old candidate, s.Between old candidate →
      s.Sole (s.shards i).profile ∧ 0 < s.generation (s.shards i).profile ∧
        (s.shards i).profile < s.fresh := by
    intro old candidate hb
    have hnext := hb.next
    rcases hb.shards i hi with heq | heq
    · rw [heq]
      exact ⟨hb.sole, hb.positive, hb.known.1⟩
    · rw [heq]
      exact ⟨hb.sole_candidate, by omega, hb.known.2⟩
  cases hr : s.rotation with
  | some r => exact hbetween _ _ (h.mode.rotating r hr).2.1
  | none =>
    cases hfailed : s.rotationFailed with
    | true =>
      obtain ⟨old, candidate, hb⟩ := h.mode.failed hr hfailed
      exact hbetween old candidate hb
    | false =>
      have hstable := h.mode.stable hr hfailed
      rw [(hstable.shards i hi).1]
      exact ⟨hstable.sole, hstable.positive, h.base.known⟩

/-- A connection more, on a shard that accepts. -/
theorem TlsServer.Ok.adopt {i : Nat} (hi : i < s.shardCount) :
    (tlsAdopt s i (s.shards i).profile).Ok := by
  unfold tlsAdopt
  split_ifs with hpaused
  · exact h
  obtain ⟨hsole, hpositive, hfresh⟩ := h.sole_shard hi
  generalize hp : (s.shards i).profile = profile at hsole hpositive hfresh
  let s' := (s.retain profile).setShard i
    { s.shards i with conns := ⟨profile, s.generation profile⟩ :: (s.shards i).conns }
  have hshards : s'.shards = update s.shards i
      { s.shards i with conns := ⟨profile, s.generation profile⟩ :: (s.shards i).conns } := rfl
  have hsame : ∀ j, (s'.shards j).profile = (s.shards j).profile ∧
      (s'.shards j).paused = (s.shards j).paused := setConns_same s.shards i _
  have hlive : ∀ c, s'.Live c → c = ⟨profile, s.generation profile⟩ ∨ s.Live c := by
    rintro c ⟨j, hj, hmem⟩
    rcases setConns_mem hmem with ⟨rfl, hmem⟩ | hmem
    · rcases mem_cons.mp hmem with heq | hmem
      · exact .inl heq
      · exact .inr ⟨j, hj, hmem⟩
    · exact .inr ⟨j, hj, hmem⟩
  have hsole' : ∀ other, s.Sole other → (s.generation profile = s.generation other →
      profile = other) → s'.Sole other := by
    intro other hother heq c hc (hgen : _ = s.generation other)
    grind [hlive c hc, hother c]
  have hbetween : ∀ old candidate, s.Between old candidate → s'.Between old candidate := by
    intro old candidate hb
    have hnext := hb.next
    have hwhich := hb.shards i hi
    rw [hp] at hwhich
    refine ⟨hb.next, hb.positive, fun c hc => ?_, hsole' old hb.sole fun heq => ?_,
      fun j hj => ?_, hb.known⟩
    · have := hb.upper c
      show c.generation ≤ s.generation old ∨ _
      grind [hlive c hc]
    · grind
    · rw [(hsame j).1]
      exact hb.shards j hj
  show s'.Ok
  refine ⟨?_, ?_, ?_⟩
  · refine
      { h.base with
        follows := fun listener hlistener => by
          rw [(hsame 0).1]
          exact h.base.follows listener hlistener
        generation := fun c hc => (hlive c hc).elim (fun heq => heq ▸ rfl) (h.base.generation c)
        positive := fun c hc => (hlive c hc).elim (fun heq => heq ▸ hpositive) (h.base.positive c)
        same := fun c c' hc hc' hgen => ?_
        fresh := fun other hother => by
          have hne : other ≠ profile := by
            have : s.fresh ≤ other := hother
            omega
          show update s.refs profile _ other = 0
          rw [update_of_ne hne]
          exact h.base.fresh other hother }
    grind [hlive c hc, hlive c' hc', hsole c, hsole c', h.base.same c c']
  · refine h.counted.shard hi rfl hshards (fun other => rfl) fun other => ?_
    have hholds : TlsShard.holds
        { s.shards i with conns := ⟨profile, s.generation profile⟩ :: (s.shards i).conns } other =
          (s.shards i).holds other + heldBy (some profile) other :=
      @TlsShard.holds_perm _ (s.shards i).conns ⟨profile, s.generation profile⟩ (.refl _) other
    rw [hholds]
    show update s.refs profile (s.refs profile + 1) other + _ = _
    rw [retain_refs]
    omega
  · refine ⟨fun r hr => ?_, fun hr hfailed => ?_, fun hr hfailed => ?_⟩
    · obtain ⟨hfailed, hb, hfacts⟩ := h.mode.rotating r hr
      have hquiet : r.phase.quiet = false := by
        by_contra hquiet
        rw [not_eq_false] at hquiet
        exact hpaused (hfacts.quiet hquiet i hi)
      refine ⟨hfailed, hbetween _ _ hb, ?_⟩
      refine
        { hfacts with
          quiet := fun hq => absurd (hquiet.symm.trans hq) false_ne_true
          clean := fun hclean c hc => ?_
          uniform := fun other huniform j hj => by
            rw [(hsame j).1]
            exact hfacts.uniform other huniform j hj
          revoked := fun hopening hrevoke c hc => ?_
          done := fun hok k hk => ?_ }
      · rcases hlive c hc with rfl | hc
        · -- a phase that is clean and accepts has the old profile everywhere
          have huniform : r.uniform = some r.old := by
            unfold uniform
            cases hphase : r.phase <;> rw [hphase] at hquiet hclean <;>
              simp [RotationPhase.quiet, RotationPhase.clean] at hquiet hclean ⊢
          have hold := hfacts.uniform r.old huniform i hi
          rw [hp] at hold
          have hnext := hb.next
          intro heq
          have heq' : profile = r.candidate := heq
          rw [← heq', hold] at hnext
          omega
        · exact hfacts.clean hclean c hc
      · rcases hlive c hc with rfl | hc
        · have hcandidate := hfacts.uniform r.candidate (by unfold uniform; rw [hopening]) i hi
          rw [hp] at hcandidate
          exact (congrArg s.generation hcandidate).ge
        · exact hfacts.revoked hopening hrevoke c hc
      · -- a sweep that closes connections runs while no shard accepts
        have hdone := hfacts.done hok k hk
        unfold op at hdone ⊢
        cases hphase : r.phase <;> rw [hphase] at hdone hquiet <;>
          simp only [RotationPhase.quiet, true_eq_false] at hquiet
        all_goals exact (hsame _).2.trans hdone
    · have hstable := h.mode.stable hr hfailed
      have hcurrent : profile = s.profile := by
        rw [← hp]
        exact (hstable.shards i hi).1
      refine ⟨fun j hj => ?_, hstable.recovery, fun c hc => ?_, ?_, hstable.positive⟩
      · rw [(hsame j).1, (hsame j).2]
        exact hstable.shards j hj
      · rcases hlive c hc with rfl | hc
        · exact (congrArg s.generation hcurrent).le
        · exact hstable.upper c hc
      · exact hsole' s.profile hstable.sole fun _ => hcurrent
    · obtain ⟨old, candidate, hb⟩ := h.mode.failed hr hfailed
      exact ⟨old, candidate, hbetween old candidate hb⟩

omit h in
/-- Fewer connections, and nothing else: the rotation does not notice. -/
theorem TlsServer.Mode.shrink (h : s.Mode) (refs : Nat → Nat) (sessions : List Nat)
    {shards : Nat → TlsShard} (hshards : ∀ j, (shards j).profile = (s.shards j).profile ∧
      (shards j).paused = (s.shards j).paused ∧ ∀ c ∈ (shards j).conns, c ∈ (s.shards j).conns) :
    TlsServer.Mode { s with shards := shards, refs := refs, sessions := sessions } := by
  have hs : TlsServer.Shrinks s { s with shards := shards, refs := refs, sessions := sessions } :=
    ⟨rfl, rfl, fun c ⟨j, hj, hc⟩ => ⟨j, hj, (hshards j).2.2 c hc⟩⟩
  have hbetween : ∀ old candidate, s.Between old candidate →
      TlsServer.Between { s with shards := shards, refs := refs, sessions := sessions } old
        candidate := by
    intro old candidate hb
    refine hb.shrink hs rfl fun j hj => ?_
    dsimp only
    rw [(hshards j).1]
    exact hb.shards j hj
  refine ⟨fun r hr => ?_, fun hr hf => ?_, fun hr hf => ?_⟩
  · obtain ⟨hf, hb, hfacts⟩ := h.rotating r hr
    refine ⟨hf, hbetween _ _ hb, { hfacts with
      quiet := fun hquiet j hj => (hshards j).2.1.trans (hfacts.quiet hquiet j hj)
      clean := fun hclean c hc => hfacts.clean hclean c (hs.live c hc)
      uniform := fun other huniform j hj =>
        (hshards j).1.trans (hfacts.uniform other huniform j hj)
      revoked := fun hopening hrevoke c hc => hfacts.revoked hopening hrevoke c (hs.live c hc)
      done := fun hok k hk => ?_ }⟩
    have hdone := hfacts.done hok k hk
    obtain ⟨hp, hpaused, hconns⟩ := hshards (r.index s k)
    show (r.op s).Done (shards (r.index s k))
    cases hcase : r.op s with
    | gate paused =>
      rw [hcase] at hdone
      exact hpaused.trans hdone
    | install profile =>
      rw [hcase] at hdone
      exact hp.trans hdone
    | closeBefore generation | closeGeneration generation =>
      rw [hcase] at hdone
      exact fun c hc => hdone c (hconns c hc)
  · have hstable := h.stable hr hf
    exact { hstable with
      shards := fun j hj => ⟨(hshards j).1.trans (hstable.shards j hj).1,
        (hshards j).2.1.trans (hstable.shards j hj).2⟩
      upper := fun c hc => hstable.upper c (hs.live c hc)
      sole := hs.sole hstable.sole }
  · obtain ⟨old, candidate, hb⟩ := h.failed hr hf
    exact ⟨old, candidate, hbetween old candidate hb⟩

/-- A connection closes. -/
theorem TlsServer.Ok.closeConn {i : Nat} {c : TlsConn} (hi : i < s.shardCount)
    (hc : c ∈ (s.shards i).conns) : ((s.release c.profile).setShard i
      { s.shards i with conns := (s.shards i).conns.erase c }).Ok := by
  have hmem : ∀ j, ∀ d ∈ (update s.shards i
      { s.shards i with conns := (s.shards i).conns.erase c } j).conns,
      d ∈ (s.shards j).conns := by
    intro j d hd
    rcases setConns_mem hd with ⟨rfl, hd⟩ | hd
    · exact mem_of_mem_erase hd
    · exact hd
  have hshards := setConns_same s.shards i ((s.shards i).conns.erase c)
  have hshrinks : TlsServer.Shrinks s ((s.release c.profile).setShard i
      { s.shards i with conns := (s.shards i).conns.erase c }) :=
    ⟨rfl, rfl, fun d ⟨j, hj, hd⟩ => ⟨j, hj, hmem j d hd⟩⟩
  refine ⟨h.base.shrink hshrinks (fun profile hlistener => ?_)
    (fun other hother => h.base.fresh_release c.profile other hother) h.base.known, ?_,
    h.mode.shrink _ _ fun j => ⟨(hshards j).1, (hshards j).2, hmem j⟩⟩
  · show profile = (update s.shards i _ 0).profile
    rw [(hshards 0).1]
    exact h.base.follows profile hlistener
  · refine h.counted.shard hi rfl rfl (fun _ => rfl) fun other => ?_
    have hone := TlsShard.holds_perm (perm_cons_erase hc)
    have hpos : 0 < s.refs c.profile := by
      have hle := holds_le_holders hi c.profile
      rw [← h.counted c.profile, hone, heldBy_self] at hle
      omega
    have hrelease := release_refs hpos other
    rw [hone other]
    show update s.refs c.profile (s.refs c.profile - 1) other + _ = _
    dsimp only
    omega

/-- The profile of a connection is in use. -/
theorem TlsServer.Ok.live_known {c : TlsConn} (hc : s.Live c) : c.profile < s.fresh := by
  obtain ⟨i, hi, hmem⟩ := hc
  by_contra hge
  have hle := holds_le_holders hi c.profile
  rw [← h.counted c.profile, h.base.fresh c.profile (by omega)] at hle
  have hpos : 0 < (s.shards i).conns.countP fun d => decide (d.profile = c.profile) :=
    countP_pos_iff.mpr ⟨c, hmem, by simp⟩
  unfold TlsShard.holds at hle
  omega

theorem TlsServer.Ok.openSession {c : TlsConn} (hc : c ∈ (s.shards 0).conns) :
    TlsServer.Ok { s.retain c.profile with sessions := c.profile :: s.sessions } := by
  have hknown := h.live_known ⟨0, h.base.count, hc⟩
  refine ⟨{ h.base with fresh := fun other hother => ?_ }, ?_, ?_⟩
  · have hge : s.fresh ≤ other := hother
    show update s.refs c.profile _ other = 0
    rw [update_of_ne (by omega)]
    exact h.base.fresh other hge
  · refine h.counted.take rfl rfl rfl fun other => ?_
    rw [ownHolds_eq rfl rfl rfl]
    show _ + (c.profile :: s.sessions).count other = _
    rw [count_cons]
    unfold ownHolds heldBy
    simp only [beq_iff_eq, some.injEq]
    exact (Nat.add_assoc _ _ _).symm
  · exact h.mode.shrink _ _ fun _ => ⟨rfl, rfl, fun _ hd => hd⟩

theorem TlsServer.Ok.closeSession {profile : Nat} (hmem : profile ∈ s.sessions) :
    TlsServer.Ok { s.release profile with sessions := s.sessions.erase profile } := by
  refine ⟨{ h.base with
      fresh := fun other hother => h.base.fresh_release profile other hother }, ?_, ?_⟩
  · refine h.counted.giveBack rfl rfl rfl fun other => ?_
    have hperm := (perm_cons_erase hmem).count_eq other
    rw [count_cons] at hperm
    rw [ownHolds_eq rfl rfl rfl, ownHolds_eq rfl rfl rfl, hperm]
    unfold heldBy
    simp only [beq_iff_eq, some.injEq]
    exact (Nat.add_assoc _ _ _).symm
  · exact h.mode.shrink _ _ fun _ => ⟨rfl, rfl, fun _ hd => hd⟩

/-- A rotation begins with a candidate that nobody knows. -/
theorem TlsServer.Ok.begin (hr : s.rotation = none) (hfailed : s.rotationFailed = false)
    (revoke : Bool) : TlsServer.Ok
      { s with
        generation := Function.update s.generation s.fresh (s.generation s.profile + 1)
        refs := Function.update s.refs s.fresh 1
        fresh := s.fresh + 1
        rotation := some { old := s.profile, candidate := s.fresh, revoke := revoke } } := by
  have hstable := h.mode.stable hr hfailed
  have hknown : s.profile ≠ s.fresh := by
    have := h.base.known
    omega
  have hgeneration : ∀ profile, profile ≠ s.fresh →
      update s.generation s.fresh (s.generation s.profile + 1) profile =
        s.generation profile := fun profile hne => update_of_ne hne _ _
  have hlive : ∀ c, s.Live c → c.profile ≠ s.fresh := fun c hc => by
    have := h.live_known hc
    omega
  refine ⟨?_, ?_, ?_⟩
  · exact
      { count := h.base.count
        follows := h.base.follows
        generation := fun c hc => by
          show c.generation = update s.generation s.fresh _ c.profile
          rw [hgeneration _ (hlive c hc)]
          exact h.base.generation c hc
        positive := h.base.positive
        same := h.base.same
        fresh := fun other hother => by
          have hge : s.fresh + 1 ≤ other := hother
          show update s.refs s.fresh 1 other = 0
          rw [update_of_ne (by omega)]
          exact h.base.fresh other (by omega)
        known := Nat.lt_succ_of_lt h.base.known }
  · have hbefore : s.localCandidate = none := by
      unfold localCandidate
      rw [hr]
      rfl
    refine h.counted.take rfl rfl (by rw [h.base.fresh s.fresh le_rfl]) fun other => ?_
    rw [ownHolds_eq rfl rfl hbefore, ownHolds_eq rfl rfl rfl]
    show heldBy (some s.profile) other + heldBy s.recovery other + heldBy (some s.fresh) other +
        s.sessions.count other = _
    rw [heldBy_none]
    omega
  · refine ⟨fun r hr' => ?_, fun hnone => absurd hnone (some_ne_none _),
      fun hnone => absurd hnone (some_ne_none _)⟩
    cases hr'
    refine ⟨hfailed, ?_, ?_⟩
    · refine ⟨?_, ?_, fun c hc => ?_, fun c hc hgen => ?_, fun i hi => .inl (hstable.shards i hi).1,
        ?_⟩
      · show update s.generation s.fresh _ s.fresh =
          update s.generation s.fresh _ s.profile + 1
        rw [update_self, hgeneration _ hknown]
      · show 0 < update s.generation s.fresh _ s.profile
        rw [hgeneration _ hknown]
        exact hstable.positive
      · show c.generation ≤ update s.generation s.fresh _ s.profile ∨ _
        rw [hgeneration _ hknown]
        exact .inl (hstable.upper c hc)
      · have hgen' : c.generation = update s.generation s.fresh _ s.profile := hgen
        rw [hgeneration _ hknown] at hgen'
        exact hstable.sole c hc hgen'
      · exact ⟨Nat.lt_succ_of_lt h.base.known, Nat.lt_succ_self _⟩
    · exact
        { next := Nat.zero_le _
          profile := rfl
          recovery := hstable.recovery
          quiet := nofun
          clean := fun _ c hc => hlive c hc
          uniform := fun other huniform i hi => by
            cases huniform
            exact (hstable.shards i hi).1
          revoked := nofun
          done := fun _ k hk => absurd hk (Nat.not_lt_zero k)
          error := nofun }

/-! ## Steps and runs -/

theorem TlsServer.Ok.tick (hr : s.rotation = some r) (ret : Status) :
    (rotationTick s r ret).Ok := by
  unfold rotationTick
  split
  next hsweep =>
    split
    · exact h.perform hr hsweep.1
    next hret =>
      exact h.skip hr hsweep.1 hret
  next hend =>
    exact h.endSweep hr hend

theorem TlsServer.Ok.update (created : Status) (revoke : Bool) :
    (rotationBegin s created revoke).2.Ok := by
  unfold rotationBegin
  split_ifs with hactive hfailed
  iterate 4 · exact h
  · refine h.begin ?_ ?_ revoke
    · simpa using hactive
    · simpa using hfailed

end

theorem TlsServer.Created.ok (h : s.Created) : s.Ok := by
  have hlive : ∀ c, ¬ s.Live c := by
    rintro c ⟨i, hi, hmem⟩
    rw [h.shards i hi] at hmem
    simp at hmem
  refine ⟨?_, fun profile => ?_, ?_⟩
  · exact
      { count := h.count
        follows := fun profile hprofile => by
          rw [h.shards 0 h.count]
          exact h.listener profile hprofile
        generation := fun c hc => absurd hc (hlive c)
        positive := fun c hc => absurd hc (hlive c)
        same := fun c _ hc => absurd hc (hlive c)
        fresh := fun profile hprofile => by
          have hne : profile ≠ s.profile := by
            have := h.fresh
            omega
          rw [h.refs profile, if_neg hne]
        known := h.fresh }
  · have hnone : s.localCandidate = none := by
      unfold localCandidate
      rw [h.rotation]
      rfl
    have hsum : ∑ i ∈ Finset.range s.shardCount, (s.shards i).holds profile =
        if s.profile = profile then s.shardCount else 0 := by
      rw [Finset.sum_congr rfl fun i hi => by rw [h.shards i (Finset.mem_range.mp hi)]]
      unfold TlsShard.holds
      simp
    unfold holders
    rw [hsum, ownHolds_eq rfl h.recovery hnone, h.sessions, h.refs profile, heldBy_none]
    unfold heldBy
    by_cases heq : s.profile = profile
    · simp [heq]
    · simp [heq, Ne.symm heq]
  · refine ⟨fun r hr => ?_, fun _ _ => ?_, fun _ hfailed => ?_⟩
    · rw [h.rotation] at hr
      cases hr
    · refine ⟨fun i hi => ?_, h.recovery, fun c hc => absurd hc (hlive c),
        fun c hc => absurd hc (hlive c), h.positive⟩
      rw [h.shards i hi]
      exact ⟨rfl, rfl⟩
    · rw [h.failed] at hfailed
      cases hfailed

/-! ## A generation that has been left behind -/

/-- Nothing on the server is older than this generation. -/
structure TlsServer.Above (floor : Nat) (s : TlsServer) : Prop where
  live : ∀ c, s.Live c → floor ≤ c.generation
  shards : ∀ i < s.shardCount, floor ≤ s.generation (s.shards i).profile
  profile : floor ≤ s.generation s.profile
  rotation : ∀ r, s.rotation = some r → floor ≤ s.generation r.old

theorem rotationFinish_frame (s : TlsServer) (r : Rotation) :
    TickFrame s r (rotationFinish s r) := by
  have hsame : ∀ s' : TlsServer, s'.shardCount = s.shardCount → s'.generation = s.generation →
      s'.shards = s.shards →
      (s'.profile = s.profile ∨ s'.profile = r.old ∨ s'.profile = r.candidate) →
      (∀ r', s'.rotation = some r' → r'.old = r.old) → TickFrame s r s' := by
    intro s' hcount hgeneration hshards hprofile hrotation
    refine ⟨⟨hcount, hgeneration, fun c ⟨i, hi, hmem⟩ => ⟨i, hcount ▸ hi, hshards ▸ hmem⟩⟩,
      fun i _ => .inl (by rw [hshards]), hprofile, hrotation⟩
  unfold rotationFinish
  split <;> split_ifs
  all_goals
    refine hsame _ rfl rfl rfl (by simp [goOn, finish, release, markFailed]) fun r' hr' => ?_
    cases hr' <;> rfl

theorem rotationTick_frame {s : TlsServer} (h : s.Ok) {r : Rotation} (ret : Status) :
    TickFrame s r (rotationTick s r ret) := by
  unfold rotationTick
  split
  next hsweep =>
    have hi : r.index s r.next < s.shardCount := index_lt hsweep.1
    generalize r.index s r.next = i at hi
    split
    · obtain ⟨listener, refs, heq, _, _, _⟩ := shardPerform_spec s i (r.op s) h.base.follows
        (fun profile => h.counted profile ▸ holds_le_holders hi profile)
      rw [heq]
      exact frame_op
    · refine ⟨⟨rfl, rfl, fun c hc => hc⟩, fun _ _ => .inl rfl, .inl rfl, fun r' hr' => ?_⟩
      cases hr'
      rfl
  · exact rotationFinish_frame s r

theorem TlsServer.Above.adopt {floor : Nat} (h : s.Above floor) {i : Nat} (hi : i < s.shardCount) :
    (tlsAdopt s i (s.shards i).profile).Above floor := by
  unfold tlsAdopt
  split_ifs
  · exact h
  refine ⟨fun c ⟨j, hj, hmem⟩ => ?_, fun j hj => ?_, h.profile, h.rotation⟩
  · rcases setConns_mem hmem with ⟨rfl, hmem⟩ | hmem
    · rcases mem_cons.mp hmem with rfl | hmem
      · exact h.shards j hi
      · exact h.live c ⟨j, hj, hmem⟩
    · exact h.live c ⟨j, hj, hmem⟩
  · show floor ≤ s.generation (update s.shards i _ j).profile
    rw [(setConns_same s.shards i _ j).1]
    exact h.shards j hj

theorem TlsServer.Above.update {floor : Nat} (h : s.Above floor) (hok : s.Ok) (created : Status)
    (revoke : Bool) : (rotationBegin s created revoke).2.Above floor := by
  unfold rotationBegin
  split_ifs
  iterate 4 · exact h
  · have hgeneration : ∀ profile, profile < s.fresh →
        Function.update s.generation s.fresh (s.generation s.profile + 1) profile =
          s.generation profile := fun profile hlt => Function.update_of_ne hlt.ne _ _
    refine ⟨h.live, fun i hi => ?_, ?_, fun r hr => ?_⟩
    · show floor ≤ Function.update s.generation s.fresh _ (s.shards i).profile
      rw [hgeneration _ (hok.sole_shard hi).2.2]
      exact h.shards i hi
    · show floor ≤ Function.update s.generation s.fresh _ s.profile
      rw [hgeneration _ hok.base.known]
      exact h.profile
    · cases hr
      show floor ≤ Function.update s.generation s.fresh _ s.profile
      rw [hgeneration _ hok.base.known]
      exact h.profile

theorem TlsServer.Above.tick {floor : Nat} (h : s.Above floor) (hok : s.Ok)
    (hr : s.rotation = some r) (ret : Status) : (rotationTick s r ret).Above floor := by
  have hframe := @rotationTick_frame s hok r ret
  have hold := h.rotation r hr
  have hnext := (hok.mode.rotating r hr).2.1.next
  refine ⟨fun c hc => h.live c (hframe.shrinks.live c hc), fun i hi => ?_, ?_, fun r' hr' => ?_⟩
  · rw [hframe.shrinks.count] at hi
    rw [hframe.shrinks.generation]
    have := h.shards i hi
    rcases hframe.shards i hi with heq | heq | heq <;> rw [heq] <;> omega
  · rw [hframe.shrinks.generation]
    have := h.profile
    rcases hframe.profile with heq | heq | heq <;> rw [heq] <;> omega
  · rw [hframe.shrinks.generation, hframe.rotation r' hr']
    exact hold

theorem TlsServer.Above.closeConn {floor i : Nat} (h : s.Above floor) (c : TlsConn) :
    ((s.release c.profile).setShard i
      { s.shards i with conns := (s.shards i).conns.erase c }).Above floor := by
  refine ⟨fun d ⟨j, hj, hmem⟩ => ?_, fun j hj => ?_, h.profile, h.rotation⟩
  · rcases setConns_mem hmem with ⟨rfl, hmem⟩ | hmem
    · exact h.live d ⟨j, hj, mem_of_mem_erase hmem⟩
    · exact h.live d ⟨j, hj, hmem⟩
  · show floor ≤ s.generation (Function.update s.shards i _ j).profile
    rw [(setConns_same s.shards i _ j).1]
    exact h.shards j hj

/-! ## Any step -/

theorem TlsServer.Ok.step {action : TlsAction} (h : s.Ok) (hstep : tlsStep s action = some s') :
    s'.Ok ∧ ∀ floor, s.Above floor → s'.Above floor := by
  cases action with
  | update created revoke =>
    cases hstep
    exact ⟨h.update created revoke, fun _ ha => ha.update h created revoke⟩
  | tick ret =>
    obtain ⟨r, hr, rfl⟩ := map_eq_some_iff.mp hstep
    exact ⟨h.tick hr ret, fun _ ha => ha.tick h hr ret⟩
  | accept i =>
    obtain ⟨hi, hs⟩ := ite_none_right_eq_some.mp hstep
    cases hs
    exact ⟨h.adopt hi, fun _ ha => ha.adopt hi⟩
  | acceptGroup =>
    obtain ⟨profile, hprofile, rfl⟩ := map_eq_some_iff.mp hstep
    rw [h.base.follows profile hprofile]
    exact ⟨h.adopt h.base.count, fun _ ha => ha.adopt h.base.count⟩
  | closeConn i c =>
    obtain ⟨⟨hi, hc⟩, hs⟩ := ite_none_right_eq_some.mp hstep
    cases hs
    exact ⟨h.closeConn hi hc, fun _ ha => ha.closeConn c⟩
  | openSession c =>
    obtain ⟨hc, hs⟩ := ite_none_right_eq_some.mp hstep
    cases hs
    exact ⟨h.openSession hc, fun _ ha => { ha with }⟩
  | closeSession profile =>
    obtain ⟨hmem, hs⟩ := ite_none_right_eq_some.mp hstep
    cases hs
    exact ⟨h.closeSession hmem, fun _ ha => { ha with }⟩

theorem tlsRun_ok {start : TlsServer} {actions : List TlsAction} (hstart : start.Ok)
    (hrun : runSteps tlsStep start actions = some s) : s.Ok :=
  runSteps_invariant (fun _ _ _ h hstep => (h.step hstep).1) hstart hrun

theorem TlsServer.Above.run {floor : Nat} {actions : List TlsAction} (h : s.Above floor)
    (hok : s.Ok) (hrun : runSteps tlsStep s actions = some s') : s'.Above floor :=
  (@runSteps_invariant _ _ tlsStep (fun s => s.Above floor ∧ s.Ok)
    (fun _ _ _ hs hstep => ⟨(hs.2.step hstep).2 floor hs.1, (hs.2.step hstep).1⟩) s s' actions
    ⟨h, hok⟩ hrun).1

/-! ## A rotation ends -/

/-- How far a phase is from the end. -/
def RotationPhase.rank : RotationPhase → Nat
  | .pausing => 10
  | .installing => 9
  | .revoking => 8
  | .opening => 7
  | .repausing => 6
  | .closing => 5
  | .restoring => 4
  | .reopenRestored => 3
  | .uninstalling => 2
  | .reopenInstall => 1
  | .reopenPause => 0

/-- The steps that a rotation has at most ahead of it. -/
def Rotation.rank (r : Rotation) (shardCount : Nat) : Nat :=
  r.phase.rank * (shardCount + 2) + (shardCount + 1 - r.next)

theorem rotationFinish_rank {r' : Rotation} (hnext : r.next ≤ s.shardCount)
    (h : (rotationFinish s r).rotation = some r') : r'.rank s.shardCount < r.rank s.shardCount := by
  have hless : ∀ phase ret, phase.rank < r.phase.rank →
      rank { r with phase := phase, next := 0, result := .ok, ret := ret } s.shardCount <
        r.rank s.shardCount := by
    intro phase ret hrank
    unfold rank
    dsimp only
    have := Nat.mul_le_mul_right (s.shardCount + 2) hrank
    rw [Nat.succ_mul] at this
    omega
  unfold rotationFinish at h
  cases hphase : r.phase <;> rw [hphase] at h hless <;> dsimp only at h <;>
    split_ifs at h <;>
    simp only [goOn, finish, reduceCtorEq, some.injEq] at h <;>
    subst h <;> exact hless _ _ (by decide)

theorem rotationTick_rank {r' : Rotation} {ret : Status} (hnext : r.next ≤ s.shardCount)
    (h : (rotationTick s r ret).rotation = some r') :
    r'.rank s.shardCount < r.rank s.shardCount := by
  unfold rotationTick at h
  split at h
  next hsweep =>
    have hone : r'.phase = r.phase ∧ r'.next = r.next + 1 := by
      split at h <;> cases h <;> exact ⟨rfl, rfl⟩
    unfold rank
    rw [hone.1, hone.2]
    omega
  · exact rotationFinish_rank hnext h

/-- A rotation that ends with every shard as it should be. -/
theorem rotationFinish_end (hend : (rotationFinish s r).rotation = none)
    (hgood : (rotationFinish s r).rotationFailed = false) :
    (rotationFinish s r).profile = s.profile ∧
      ((r.phase = .opening ∧ (rotationFinish s r).lastResult = some .ok) ∨
        (r.phase.undoes = true ∧ r.phase.late = false ∧
          (rotationFinish s r).lastResult = some r.ret)) := by
  unfold rotationFinish at hend hgood ⊢
  cases hphase : r.phase <;> rw [hphase] at hend hgood <;> dsimp only at hend hgood ⊢ <;>
    split_ifs at hend hgood ⊢ <;>
    simp only [goOn, finish, markFailed, release,
      reduceCtorEq, true_eq_false] at hend hgood ⊢ <;>
    simp [RotationPhase.undoes, RotationPhase.late]

/-- The rotation has succeeded, and under `TR_TLS_ROTATE_REVOKE_OLD` nothing older comes
back. -/
structure RotationSucceeded (r : Rotation) (s : TlsServer) : Prop where
  result : s.lastResult = some .ok
  failed : s.rotationFailed = false
  shards : ∀ i < s.shardCount, (s.shards i).profile = r.candidate ∧ (s.shards i).paused = false
  listener : ∀ profile, s.listener = some profile → profile = r.candidate
  generation : s.generation r.candidate = s.generation r.old + 1
  revoked : r.revoke = true → ∀ actions s', runSteps tlsStep s actions = some s' →
    ∀ c, s'.Live c → s.generation r.candidate ≤ c.generation

/-- The rotation has been undone. -/
structure RotationUndone (r : Rotation) (s : TlsServer) : Prop where
  result : ∃ status, status ≠ .ok ∧ s.lastResult = some status
  failed : s.rotationFailed = false
  shards : ∀ i < s.shardCount, (s.shards i).profile = r.old ∧ (s.shards i).paused = false
  listener : ∀ profile, s.listener = some profile → profile = r.old
  clean : ∀ c, s.Live c → c.generation ≠ s.generation r.candidate

theorem TlsServer.Ok.succeeded (h : s.Ok) (hr : s.rotation = some r) (hphase : r.phase = .opening)
    (hframe : TickFrame s r s') (hok : s'.Ok) (hend : s'.rotation = none)
    (hgood : s'.rotationFailed = false) (hprofile : s'.profile = s.profile)
    (hresult : s'.lastResult = some .ok) : RotationSucceeded r s' := by
  obtain ⟨_, hbetween, hfacts⟩ := h.mode.rotating r hr
  have hstable := hok.mode.stable hend hgood
  have hcandidate : s'.profile = r.candidate := by
    rw [hprofile, hfacts.profile, hphase]
    rfl
  have hgeneration := hframe.shrinks.generation
  refine ⟨hresult, hgood, fun i hi => ?_, fun profile hlistener => ?_, ?_,
    fun hrevoke actions s'' hrun => ?_⟩
  · rw [← hcandidate]
    exact hstable.shards i hi
  · rw [hok.base.follows profile hlistener, (hstable.shards 0 hok.base.count).1, hcandidate]
  · rw [hgeneration]
    exact hbetween.next
  · have habove : s'.Above (s'.generation r.candidate) := by
      refine ⟨fun c hc => ?_, fun i hi => ?_, ?_, fun r' hr' => ?_⟩
      · rw [hgeneration]
        exact hfacts.revoked hphase hrevoke c (hframe.shrinks.live c hc)
      · rw [(hstable.shards i hi).1, hcandidate]
      · rw [hcandidate]
      · rw [hend] at hr'
        cases hr'
    exact (habove.run hok hrun).live

theorem TlsServer.Ok.undone_facts (h : s.Ok) (hr : s.rotation = some r)
    (hundoes : r.phase.undoes = true) (hlate : r.phase.late = false) (hframe : TickFrame s r s')
    (hok : s'.Ok) (hend : s'.rotation = none) (hgood : s'.rotationFailed = false)
    (hprofile : s'.profile = s.profile) (hresult : s'.lastResult = some r.ret) :
    RotationUndone r s' := by
  obtain ⟨_, hbetween, hfacts⟩ := h.mode.rotating r hr
  have hstable := hok.mode.stable hend hgood
  have hold : s'.profile = r.old := by
    rw [hprofile, hfacts.profile, hlate]
    rfl
  refine ⟨⟨r.ret, hfacts.error hundoes, hresult⟩, hgood, fun i hi => ?_,
    fun profile hlistener => ?_, fun c hc => ?_⟩
  · rw [← hold]
    exact hstable.shards i hi
  · rw [hok.base.follows profile hlistener, (hstable.shards 0 hok.base.count).1, hold]
  · have hle := hstable.upper c hc
    have hnext := hbetween.next
    rw [hold] at hle
    rw [hframe.shrinks.generation] at hle ⊢
    omega

theorem rotationTick_end (h : s.Ok) (hr : s.rotation = some r) (ret : Status)
    (hend : (rotationTick s r ret).rotation = none) :
    RotationSucceeded r (rotationTick s r ret) ∨ RotationUndone r (rotationTick s r ret) ∨
      (rotationTick s r ret).rotationFailed = true := by
  have hok := h.tick hr ret
  have hframe := @rotationTick_frame s h r ret
  cases hgood : (rotationTick s r ret).rotationFailed with
  | true => exact .inr (.inr rfl)
  | false =>
    have hfinish : rotationTick s r ret = rotationFinish s r := by
      unfold rotationTick at hend ⊢
      split at hend
      · split at hend <;> cases hend
      next hsweep =>
        rw [if_neg hsweep]
    rw [hfinish] at hok hframe hend hgood ⊢
    obtain ⟨hprofile, ⟨hphase, hresult⟩ | ⟨hundoes, hlate, hresult⟩⟩ :=
      rotationFinish_end hend hgood
    · exact .inl (h.succeeded hr hphase hframe hok hend hgood hprofile hresult)
    · exact .inr (.inl (h.undone_facts hr hundoes hlate hframe hok hend hgood hprofile hresult))

/-- Only its own steps change a rotation under way. -/
theorem tlsStep_rotation {action : TlsAction} (hstep : tlsStep s action = some s')
    (htick : ∀ ret, action ≠ .tick ret) (hr : s.rotation ≠ none) : s'.rotation = s.rotation := by
  cases action with
  | update created revoke =>
    cases hstep
    unfold rotationBegin
    rw [if_pos (isSome_iff_ne_none.mpr hr)]
  | tick ret => exact absurd rfl (htick ret)
  | accept i =>
    obtain ⟨_, hs⟩ := ite_none_right_eq_some.mp hstep
    cases hs
    grind [tlsAdopt, retain, setShard]
  | acceptGroup =>
    obtain ⟨_, _, rfl⟩ := map_eq_some_iff.mp hstep
    grind [tlsAdopt, retain, setShard]
  | closeConn i c | openSession c | closeSession profile =>
    obtain ⟨_, hs⟩ := ite_none_right_eq_some.mp hstep
    cases hs
    rfl

/-- In every run, whatever the calls to the shards answer and whatever they accept in
between: a rotation comes closer to its end with every step of its own, and ends with the
new profile everywhere, with the old profile everywhere, or with the latch set; a call that
does not begin a rotation changes nothing, and outside of a rotation every shard has the
profile of the server and accepts; connections of one generation have one profile; and the
reference count of a profile is the number of its holders. -/
theorem tls_rotation_atomic {start s : TlsServer} {actions : List TlsAction}
    (hstart : start.Created) (hrun : runSteps tlsStep start actions = some s) :
    (∀ r ret s', s.rotation = some r → tlsStep s (.tick ret) = some s' →
      (∀ r', s'.rotation = some r' → r'.rank s.shardCount < r.rank s.shardCount) ∧
        (s'.rotation = none →
          RotationSucceeded r s' ∨ RotationUndone r s' ∨ s'.rotationFailed = true)) ∧
      (∀ action s', tlsStep s action = some s' → (∀ ret, action ≠ .tick ret) →
        s.rotation ≠ none → s'.rotation = s.rotation) ∧
      (∀ created revoke, (rotationBegin s created revoke).1 ≠ .inProgress →
        (rotationBegin s created revoke).2 = s) ∧
      (s.rotation = none → s.rotationFailed = false → ∀ i < s.shardCount,
        (s.shards i).profile = s.profile ∧ (s.shards i).paused = false) ∧
      (∀ c c', s.Live c → s.Live c' → c.generation = c'.generation → c.profile = c'.profile) ∧
      ∀ profile, s.refs profile = s.holders profile := by
  have hok := tlsRun_ok hstart.ok hrun
  refine ⟨fun r ret s' hr hstep => ?_, fun _ _ => tlsStep_rotation, fun created revoke hret => ?_,
    fun hnone hgood => (hok.mode.stable hnone hgood).shards, hok.base.same, hok.counted⟩
  · obtain ⟨r', hr', rfl⟩ := Option.map_eq_some_iff.mp hstep
    rw [hr] at hr'
    cases hr'
    exact ⟨fun _ => rotationTick_rank (hok.mode.rotating r hr).2.2.next,
      rotationTick_end hok hr ret⟩
  · unfold rotationBegin at hret ⊢
    split_ifs at hret ⊢
    iterate 4 · rfl
    exact absurd rfl hret

/-- A server of two shards with a group listener. -/
def exampleTlsServer : TlsServer where
  shardCount := 2
  shards _ := { profile := 0 }
  listener := some 0
  profile := 0
  generation _ := 1
  refs profile := if profile = 0 then 3 else 0
  fresh := 1

theorem exampleTlsServer_created : exampleTlsServer.Created where
  count := Nat.two_pos
  shards _ _ := rfl
  listener _ h := (Option.some.inj h).symm
  recovery := rfl
  positive := Nat.zero_lt_one
  fresh := Nat.zero_lt_one
  sessions := rfl
  rotation := rfl
  failed := rfl
  refs _ := rfl

/-- Connections and a session come and go; the second install of the rotation fails, and the
rollback is one step from its end. -/
def exampleRollback : List TlsAction :=
  [.acceptGroup, .accept 1, .openSession ⟨0, 1⟩, .closeSession 0, .closeConn 1 ⟨0, 1⟩,
    .update .ok false, .tick .ok, .tick .ok, .tick .ok, .tick .ok, .tick .errNomem] ++
    List.replicate 6 (.tick .ok)

/-- The next rotation revokes the connection that is left, and is one step from its end. -/
def exampleRevoke : List TlsAction :=
  exampleRollback ++ [.tick .ok, .update .ok true] ++ List.replicate 11 (.tick .ok)

/-- The last step of a rotation after some actions. -/
def exampleLastTick (actions : List TlsAction) : Option (Option Status × Bool × List TlsConn) :=
  (runSteps tlsStep exampleTlsServer actions).bind fun s => s.rotation.bind fun _ =>
    (tlsStep s (.tick .ok)).bind fun s' =>
      if s'.rotation = none then
        some (s'.lastResult, s'.rotationFailed, (s'.shards 0).conns) else none

theorem exampleLastTick_eq_some {actions : List TlsAction}
    {facts : Option Status × Bool × List TlsConn} (h : exampleLastTick actions = some facts) :
    ∃ s r s', runSteps tlsStep exampleTlsServer actions = some s ∧ s.rotation = some r ∧
      tlsStep s (.tick .ok) = some s' ∧ s'.rotation = none ∧
      (s'.lastResult, s'.rotationFailed, (s'.shards 0).conns) = facts := by
  obtain ⟨s, hs, h⟩ := Option.bind_eq_some_iff.mp h
  obtain ⟨r, hr, h⟩ := Option.bind_eq_some_iff.mp h
  obtain ⟨s', hs', h⟩ := Option.bind_eq_some_iff.mp h
  obtain ⟨hend, h⟩ := Option.ite_none_right_eq_some.mp h
  exact ⟨s, r, s', hs, hr, hs', hend, Option.some.inj h⟩

theorem tls_rotation_atomic_revoke :
    (∃ s r s', runSteps tlsStep exampleTlsServer exampleRollback = some s ∧
      s.rotation = some r ∧ tlsStep s (.tick .ok) = some s' ∧ RotationUndone r s' ∧
      (s'.shards 0).conns = [⟨0, 1⟩]) ∧
    ∃ s r s', runSteps tlsStep exampleTlsServer exampleRevoke = some s ∧
      s.rotation = some r ∧ tlsStep s (.tick .ok) = some s' ∧ RotationSucceeded r s' ∧
      (s'.shards 0).conns = [] := by
  obtain ⟨s, r, s', hs, hr, hs', hend, hfacts⟩ := exampleLastTick_eq_some
    (show exampleLastTick exampleRollback = some (some .errNomem, false, [⟨0, 1⟩]) by
      decide +kernel)
  obtain ⟨t, q, t', ht, hq, ht', hend', hfacts'⟩ := exampleLastTick_eq_some
    (show exampleLastTick exampleRevoke = some (some .ok, false, []) by decide +kernel)
  simp only [Prod.mk.injEq] at hfacts hfacts'
  have hrollback := ((tls_rotation_atomic exampleTlsServer_created hs).1 r .ok s' hr hs').2 hend
  have hrevoke := ((tls_rotation_atomic exampleTlsServer_created ht).1 q .ok t' hq ht').2 hend'
  refine ⟨⟨s, r, s', hs, hr, hs', ?_, hfacts.2.2⟩, t, q, t', ht, hq, ht', ?_, hfacts'.2.2⟩
  · rcases hrollback with h | h | h
    · cases hfacts.1.symm.trans h.result
    · exact h
    · cases hfacts.2.1.symm.trans h
  · rcases hrevoke with h | h | h
    · exact h
    · obtain ⟨status, hne, hstatus⟩ := h.result
      cases hfacts'.1.symm.trans hstatus
      exact absurd rfl hne
    · cases hfacts'.2.1.symm.trans h

end Trpc
