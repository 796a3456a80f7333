import Trpc.Channel.Notices

/-!
# The drain

A drain is a barrier that is passed once.  `HostOk` is what holds of a channel
in every run, and `Barred` is what a step cannot do once the channel is draining:
begin a stream, admit one of the peer, start a reconnect, or take back the end of
the drain.
-/

namespace Trpc

open List Option Function

/-- What holds of a channel in every run. -/
structure HostOk (role : Role) (cfg : ChannelConfig) (s : Host) : Prop where
  held : HeldOk cfg s.chan
  next : s.chan.NextLocal role
  fine : ∀ id slot, s.chan.slot id = some slot → SlotFine role id slot
  disabled : s.chan.localDraining = true → s.reconnectEnabled = false

/-- What a step of a draining channel keeps. -/
structure Barred (role : Role) (cfg : ChannelConfig) (s s' : Host) : Prop where
  draining : s'.chan.localDraining = true
  active : s'.chan.activeStreams ≤ s.chan.activeStreams
  opened : ∃ new, s'.chan.events = s.chan.events ++ new ∧
    ∀ event ∈ new, event.kind = .opened → streamIdIsLocal role event.streamId = true
  attempts : s'.attempts = s.attempts
  drained : s.drained cfg = true → s'.drained cfg = true

section Host

variable {role : Role} {cfg : ChannelConfig} {s s' s'' : Host}

theorem Barred.refl (hdraining : s.chan.localDraining = true) : Barred role cfg s s :=
  ⟨hdraining, Nat.le_refl _, ⟨[], (append_nil _).symm, nofun⟩, rfl, id⟩

theorem Barred.trans (h : Barred role cfg s s') (h' : Barred role cfg s' s'') :
    Barred role cfg s s'' := by
  obtain ⟨new, hnew, hopened⟩ := h.opened
  obtain ⟨new', hnew', hopened'⟩ := h'.opened
  refine ⟨h'.draining, Nat.le_trans h'.active h.active,
    ⟨new ++ new', by rw [hnew', hnew, append_assoc], fun event hevent => ?_⟩,
    h'.attempts.trans h.attempts, h'.drained ∘ h.drained⟩
  rcases mem_append.mp hevent with hmem | hmem
  · exact hopened event hmem
  · exact hopened' event hmem

/-! ## The number of streams -/

theorem Channel.slot_isSome_iff (ch : Channel) (id : Nat) :
    (ch.slot id).isSome = true ↔ id ∈ ch.streams.keys := by
  rw [Channel.slot, AList.lookup_isSome, AList.mem_keys]

theorem Channel.activeStreams_le {ch ch' : Channel}
    (h : ∀ id, ch.slot id = none → ch'.slot id = none) :
    ch'.activeStreams ≤ ch.activeStreams := by
  have hsub : ch'.streams.keys ⊆ ch.streams.keys := by
    intro id hid
    rw [← ch'.slot_isSome_iff] at hid
    rw [← ch.slot_isSome_iff]
    by_contra hnone
    rw [h id (not_isSome_iff_eq_none.mp hnone)] at hid
    cases hid
  have hle := (ch'.streams.keys_nodup.subperm hsub).length_le
  simpa [Channel.activeStreams, AList.keys, keys] using hle

/-! ## The end of a drain -/

theorem Host.drained_iff : s.drained cfg = true ↔
    s.chan.localDraining = true ∧ s.chan.activeStreams = 0 ∧
      ∀ conn ∈ Channel.connections cfg.mode, s.connectionAlive cfg conn = true →
        (s.chan.conn conn).localStarted = true ∧ (s.chan.conn conn).peerStarted = true ∧
          (s.chan.conn conn).goawayAccepted = true ∧ s.txDrained conn = true := by
  simp only [Host.drained, Bool.and_eq_true, decide_eq_true_eq, List.all_eq_true,
    Bool.or_eq_true, Bool.not_eq_true', and_assoc, ← Bool.not_eq_true, ← imp_iff_not_or]

/-- The end of a drain stays when no stream begins, no flag is taken back and no
connection comes back. -/
theorem Host.drained_kept (hkept : Kept s.chan s'.chan)
    (hactive : s'.chan.activeStreams ≤ s.chan.activeStreams)
    (halive : ∀ lane, s'.alive lane = true → s.alive lane = true)
    (htx : ∀ conn, s.txDrained conn = true → s'.txDrained conn = true)
    (h : s.drained cfg = true) : s'.drained cfg = true := by
  obtain ⟨hdraining, hzero, hconns⟩ := Host.drained_iff.mp h
  refine Host.drained_iff.mpr ⟨hkept.draining.trans hdraining, by omega, fun conn hconn hup => ?_⟩
  have hup' : s.connectionAlive cfg conn = true := by
    obtain ⟨lane, hlane, hal⟩ := any_eq_true.mp hup
    exact any_eq_true.mpr ⟨lane, hlane, halive lane hal⟩
  obtain ⟨hlocal, hpeer, hgoaway, hsent⟩ := hconns conn hconn hup'
  have hc := hkept.conn conn
  exact ⟨hc.localStarted hlocal, hc.peerStarted hpeer, hc.goawayAccepted hgoaway, htx conn hsent⟩

/-! ## Steps of the channel -/

variable {input : Option ChannelFrame} {ch : Channel}

/-- A step of the channel in the host. -/
theorem HostOk.advance (h : HostOk role cfg s) (hchanges : Changes role cfg input s.chan ch)
    (hheld : HeldOk cfg ch) : HostOk role cfg (s.advance ch) := by
  obtain ⟨new, -, hstreams⟩ := hchanges.streams
  exact ⟨hheld, hchanges.kept.next role h.next,
    fun id slot hslot => (hstreams id).fine (h.fine id) slot hslot,
    fun hdraining => h.disabled (hchanges.kept.draining.symm.trans hdraining)⟩

theorem Barred.advance (h : HostOk role cfg s) (hdraining : s.chan.localDraining = true)
    (hchanges : Changes role cfg input s.chan ch) :
    Barred role cfg s (s.advance ch) := by
  obtain ⟨new, hnew, hstreams⟩ := hchanges.streams
  rw [hdraining] at hstreams
  have hactive : ch.activeStreams ≤ s.chan.activeStreams := by
    refine Channel.activeStreams_le fun id hnone => ?_
    have hchange := hstreams id
    rw [hnone] at hchange
    exact hchange.none_of_none
  refine ⟨hchanges.kept.draining.trans hdraining, hactive,
    ⟨new, hnew, fun event hevent hkind => ?_⟩, rfl,
    Host.drained_kept hchanges.kept hactive (fun _ => id) fun _ => id⟩
  refine (hstreams event.streamId).opened_local (h.fine event.streamId) ?_
  unfold kindsOf
  rw [← hkind]
  exact mem_map_of_mem (mem_filter.mpr ⟨hevent, decide_eq_true rfl⟩)

/-- Losing a connection touches no stream yet. -/
theorem dropConnection_changes (ch : Channel) (conn : Lane) :
    Changes role cfg input ch (Host.dropConnection cfg ch conn) :=
  .quiet (Kept.of_update rfl rfl rfl ⟨fun h => h, fun h => h, fun h => h⟩) rfl fun _ => rfl

theorem HeldOk.dropConnection (h : HeldOk cfg ch) (conn : Lane) :
    HeldOk cfg (Host.dropConnection cfg ch conn) := by
  have hconn : ∀ c, (Host.dropConnection cfg ch conn).conn c = if c = conn then { ch.conn conn with
        pendingHello := none
        refusing := none
        pendingRefused := none
        refusedLast := false
        out := [] } else ch.conn c := by
    intro c
    rcases eq_or_ne c conn with rfl | hne
    · simp [Host.dropConnection]
    · simp [Host.dropConnection, hne]
  refine ⟨fun id slot hs hstate => ?_, fun c id hopen => ?_, fun c id href => ?_⟩
  · have hpending := h.accepting id slot hs hstate
    rw [hconn]
    split
    next heq =>
      rwa [heq] at hpending
    · exact hpending
  · rw [hconn] at hopen ⊢
    split at hopen
    next heq =>
      subst heq
      rw [if_pos rfl]
      obtain ⟨hheld, -, -, hslot⟩ := h.pending c id hopen
      exact ⟨hheld, rfl, rfl, hslot⟩
    next hne =>
      rw [if_neg hne]
      exact h.pending c id hopen
  · rw [hconn] at href ⊢
    split at href
    · cases href
    rename_i hne
    rw [if_neg hne]
    exact h.refused c id href

/-- What the failure of a stream does. -/
theorem Host.failStream_eq_some {id : Nat} {status : Int}
    (hstep : s.failStream cfg id status = some s') :
    ∃ slot, s.chan.slot id = some slot ∧
      s' = s.advance ((s.chan.free (channelConnection cfg.mode slot.lane) id).notify id
        [.error status]) := by
  unfold Host.failStream at hstep
  split at hstep
  · cases hstep
  rename_i slot hslot
  split at hstep
  · cases hstep
  · cases hstep
    exact ⟨slot, hslot, rfl⟩

theorem HostOk.failStream {id : Nat} {status : Int} {slot : StreamSlot} (h : HostOk role cfg s)
    (hslot : s.chan.slot id = some slot) :
    HostOk role cfg (s.advance ((s.chan.free (channelConnection cfg.mode slot.lane) id).notify id
      [.error status])) := by
  refine ⟨(h.held.free hslot).notify id _, h.next, fun other slot' hslot' => ?_, h.disabled⟩
  rcases eq_or_ne other id with rfl | hne
  · cases hslot'.symm.trans (s.chan.slot_free (channelConnection cfg.mode slot.lane) other)
  · have hkept := s.chan.slot_free_of_ne (channelConnection cfg.mode slot.lane) hne
    exact h.fine other slot' (hkept.symm.trans hslot')

theorem Barred.failStream (id : Nat) (status : Int) (conn : Lane)
    (hdraining : s.chan.localDraining = true) :
    Barred role cfg s (s.advance ((s.chan.free conn id).notify id [.error status])) := by
  have hkept : Kept s.chan ((s.chan.free conn id).notify id [.error status]) :=
    (Kept.free _ _ _).trans (.notify _ _ _)
  have hactive : ((s.chan.free conn id).notify id [.error status]).activeStreams ≤
      s.chan.activeStreams := by
    refine Channel.activeStreams_le fun other hnone => ?_
    rcases eq_or_ne other id with rfl | hne
    · exact s.chan.slot_free conn other
    · rw [← s.chan.slot_free_of_ne conn hne] at hnone
      exact hnone
  refine ⟨hkept.draining.trans hdraining, hactive, ⟨_, rfl, fun event hevent hkind => ?_⟩, rfl,
    Host.drained_kept hkept hactive (fun _ h => h) fun _ h => h⟩
  rw [mem_singleton.mp hevent] at hkind
  cases hkind

/-! ## Steps around the channel -/

/-- A step around the channel brings no connection back, and while the channel drains it
turns no reconnect on and tries none. -/
structure Around (s s' : Host) : Prop where
  chan : s'.chan = s.chan
  births : s'.births = s.births
  log : s'.log = s.log
  alive : ∀ lane, s'.alive lane = true → s.alive lane = true
  txDrained : ∀ conn, s.txDrained conn = true → s'.txDrained conn = true
  disabled : s.chan.localDraining = true → s.reconnectEnabled = false →
    s'.reconnectEnabled = false ∧ s'.attempts = s.attempts

theorem Around.refl (s : Host) : Around s s :=
  ⟨rfl, rfl, rfl, fun _ => id, fun _ => id, fun _ hoff => ⟨hoff, rfl⟩⟩

theorem Around.trans (h : Around s s') (h' : Around s' s'') : Around s s'' where
  chan := h'.chan.trans h.chan
  births := h'.births.trans h.births
  log := h'.log.trans h.log
  alive lane := h.alive lane ∘ h'.alive lane
  txDrained conn := h'.txDrained conn ∘ h.txDrained conn
  disabled hdraining hoff := by
    obtain ⟨hoff', hattempts⟩ := h.disabled hdraining hoff
    obtain ⟨hoff'', hattempts'⟩ := h'.disabled (h.chan ▸ hdraining) hoff'
    exact ⟨hoff'', hattempts'.trans hattempts⟩

theorem HostOk.around (h : HostOk role cfg s) (haround : Around s s') : HostOk role cfg s' := by
  refine ⟨haround.chan ▸ h.held, haround.chan ▸ h.next, haround.chan ▸ h.fine, fun hd => ?_⟩
  rw [haround.chan] at hd
  exact (haround.disabled hd (h.disabled hd)).1

theorem Barred.around (h : HostOk role cfg s) (hdraining : s.chan.localDraining = true)
    (haround : Around s s') : Barred role cfg s s' := by
  obtain ⟨-, hattempts⟩ := haround.disabled hdraining (h.disabled hdraining)
  refine ⟨haround.chan ▸ hdraining, by rw [haround.chan],
    ⟨[], by rw [haround.chan, append_nil], nofun⟩, hattempts, ?_⟩
  exact Host.drained_kept (by rw [haround.chan]; exact .refl _) (by rw [haround.chan])
    haround.alive haround.txDrained

theorem Host.reconnectPick_draining (hdraining : s.chan.localDraining = true) :
    s.reconnectPick cfg = none := by
  unfold Host.reconnectPick
  exact if_pos (.inr hdraining)

theorem Around.reconnectSchedule (s : Host) (armed : Bool) :
    Around s (s.reconnectSchedule cfg armed) := by
  unfold Host.reconnectSchedule
  split
  · exact .refl s
  rename_i lane hpick
  have hrunning : ¬ s.chan.localDraining = true := by
    intro hdraining
    cases (Host.reconnectPick_draining hdraining).symm.trans hpick
  dsimp only
  split <;> exact ⟨rfl, rfl, rfl, fun _ => id, fun _ => id, fun hd => absurd hd hrunning⟩

/-- An attempt that is over is followed by the next. -/
theorem Around.finishAttempt (s : Host) (lane : Lane) (success armed : Bool) :
    Around s ((s.finishAttempt cfg lane success).reconnectSchedule cfg armed) := by
  refine .trans ?_ (.reconnectSchedule _ armed)
  exact ⟨rfl, rfl, rfl, fun _ => id, fun _ => id, fun _ hoff => ⟨hoff, rfl⟩⟩

theorem Around.clearAttempt (s : Host) (lane : Lane) (armed : Bool) :
    Around s ((s.clearAttempt cfg lane).reconnectSchedule cfg armed) := by
  refine .trans ?_ (.reconnectSchedule _ armed)
  exact ⟨rfl, rfl, rfl, fun _ => id, fun _ => id, fun _ hoff => ⟨hoff, rfl⟩⟩

/-- A timer that is left over from before the drain tries nothing. -/
theorem Around.reconnectTimer (s : Host) (started armed : Bool) :
    Around s (s.reconnectTimer cfg started armed) := by
  unfold Host.reconnectTimer
  dsimp only
  split
  next hactive =>
    have htrying : Around s { s with attempts := s.attempts ++ [.started s.reconnectLane] } :=
      ⟨rfl, rfl, rfl, fun _ => id, fun _ => id, fun _ hoff => absurd hactive.1 (by simp [hoff])⟩
    split
    · exact htrying
    · exact htrying.trans (.finishAttempt _ _ _ armed)
  · exact .clearAttempt _ _ armed

theorem Around.enableReconnect (s : Host) (armed : Bool) :
    Around s (s.enableReconnect cfg armed) := by
  unfold Host.enableReconnect
  split
  · exact .refl s
  rename_i hrunning
  refine .trans ?_ (.reconnectSchedule _ armed)
  exact ⟨rfl, rfl, rfl, fun _ => id, fun _ => id, fun hd => absurd (.inl hd) hrunning⟩

theorem Around.disableReconnect (s : Host) (torn : Bool) : Around s (s.disableReconnect torn) :=
  ⟨rfl, rfl, rfl, fun _ => id, fun _ => id, fun _ _ => ⟨rfl, rfl⟩⟩

theorem Around.requestTxDrained (s : Host) (conn : Lane) :
    Around s (s.requestTxDrained cfg conn) := by
  unfold Host.requestTxDrained
  split
  · exact ⟨rfl, rfl, rfl, fun _ => id, fun _ => id, fun _ hoff => ⟨hoff, rfl⟩⟩
  · exact .refl s

theorem Around.onTxDrained (s : Host) (conn : Lane) : Around s (s.onTxDrained cfg conn) := by
  unfold Host.onTxDrained
  split
  · refine ⟨rfl, rfl, rfl, fun _ => id, fun c hc => ?_, fun _ hoff => ⟨hoff, rfl⟩⟩
    dsimp only
    rcases eq_or_ne c conn with rfl | hne
    · exact update_self ..
    · rwa [update_of_ne hne]
  · exact .refl s

/-! ## New connections -/

/-- The lanes that a reconnect replaces are those of its connection. -/
theorem Host.mem_replacedLanes {mode : ChannelMode} {lane other : Lane}
    (h : channelConnection mode other = channelConnection mode lane) :
    other ∈ Host.replacedLanes mode lane := by
  cases mode with
  | sharedConnection => cases other <;> simp [Host.replacedLanes]
  | splitConnections => exact mem_singleton.mpr h

/-- A connection on which no stream is left starts afresh. -/
theorem HeldOk.renew {ch ch' : Channel} {conn : Lane} {state : ConnState}
    (h : HeldOk cfg ch) (hconn : ch'.conn = update ch.conn conn state)
    (hslot : ∀ id, ch'.slot id = ch.slot id) (hopen : state.pendingOpen = none)
    (hrefused : state.pendingRefused = none)
    (hempty : ∀ id slot, ch.slot id = some slot →
      channelConnection cfg.mode slot.lane ≠ conn) : HeldOk cfg ch' := by
  have hbefore : (ch.conn conn).pendingOpen = none := by
    cases hpending : (ch.conn conn).pendingOpen with
    | none => rfl
    | some id =>
      obtain ⟨-, -, -, slot, hs, -, hlane⟩ := h.pending conn id hpending
      exact absurd hlane (hempty id slot hs)
  have hset := @HeldOk.setIdle cfg ch h conn state hbefore hopen fun id href => by
    rw [hrefused] at href
    cases href
  refine hset.quiet (fun c => ?_) fun id => ?_
  · rw [hconn]
    rfl
  · exact hslot id

section

variable (h : HostOk role cfg s)

include h

theorem HostOk.replace {lane : Lane} {accept : Bool}
    (hcleared : s.cleared = true) (hok : s.replace cfg lane accept = .ok s') :
    HostOk role cfg s' := by
  unfold Host.replace at hok
  dsimp only at hok
  obtain ⟨hrunning, hok⟩ := Lib.check_eq_ok.mp hok
  obtain ⟨hdown, hok⟩ := Lib.check_eq_ok.mp hok
  have hempty : ∀ id slot, s.chan.slot id = some slot →
      channelConnection cfg.mode slot.lane ≠ channelConnection cfg.mode lane := by
    intro id slot hslot hsame
    have hmem : (⟨id, slot⟩ : Sigma fun _ : Nat => StreamSlot) ∈ s.chan.streams.entries :=
      AList.mem_lookup_iff.mp hslot
    have halive := all_eq_true.mp hcleared _ hmem
    exact hdown (any_eq_true.mpr ⟨_, Host.mem_replacedLanes hsame, halive⟩)
  have hdraining : s.chan.localDraining = true → s.reconnectEnabled = false :=
    fun hd => absurd (.inl hd) hrunning
  have hrenew := fun ch hconn hslot =>
    @HeldOk.renew cfg s.chan ch (channelConnection cfg.mode lane)
      { ConnState.init with log := (s.chan.conn (channelConnection cfg.mode lane)).log }
      h.held hconn hslot rfl rfl hempty
  cases hok
  cases accept with
  | false => exact ⟨hrenew _ rfl fun _ => rfl, h.next, h.fine, hdraining⟩
  | true =>
    refine ⟨HeldOk.send (hrenew _ ?_ ?_) _ _, h.next, h.fine, hdraining⟩
    · rfl
    · exact fun _ => rfl

/-! ## Any step -/

/-- What a step does, apart from what is around the channel. -/
inductive HostMove (role : Role) (cfg : ChannelConfig) (s : Host) : HostAction → Host → Prop
  | stay {action : HostAction} : HostMove role cfg s action s
  | act {action : HostAction} {ch : Channel} (hchanges : Changes role cfg none s.chan ch)
      (hheld : HeldOk cfg ch) : HostMove role cfg s action (s.advance ch)
  | receive {conn : Lane} {frame : ChannelFrame} {accept : Bool} {acquire : Status} {ch : Channel}
      (hchanges : Changes role cfg (some frame) s.chan ch) (hheld : HeldOk cfg ch)
      (htaken : (Host.onFrame role cfg s.chan conn frame accept acquire).isOk = true) :
      HostMove role cfg s (.receive conn frame accept acquire) (s.advance ch)
  | drain {action : HostAction} (torn : Bool) :
      HostMove role cfg s action ((s.advance s.chan.beginDrain).disableReconnect torn)
  | fail {id : Nat} {status : Int} {slot : StreamSlot} (hslot : s.chan.slot id = some slot) :
      HostMove role cfg s (.failStream id status)
        (s.advance ((s.chan.free (channelConnection cfg.mode slot.lane) id).notify id
          [.error status]))
  | replace {action : HostAction} {lane : Lane} {accept : Bool} {s' : Host}
      (hcleared : s.cleared = true) (hok : s.replace cfg lane accept = .ok s') :
      HostMove role cfg s action s'

theorem HostOk.lose_move (action : HostAction) (conn : Lane) :
    ∃ mid, HostMove role cfg s action mid ∧ Around mid (s.lose cfg conn) :=
  ⟨_, .act (dropConnection_changes s.chan conn) (h.held.dropConnection conn), rfl, rfl, rfl,
    fun _ halive => (Bool.and_eq_true_iff.mp halive).2, fun _ => id, fun _ hoff => ⟨hoff, rfl⟩⟩

omit h in
/-- A connector that is left over from before the drain is turned away. -/
theorem Host.reconnectComplete_move {connected accept armed : Bool} (hcleared : s.cleared = true)
    (action : HostAction) : ∃ mid, HostMove role cfg s action mid ∧
      Around mid (s.reconnectComplete cfg connected accept armed) := by
  unfold Host.reconnectComplete
  dsimp only
  split
  · exact ⟨s, .stay, .clearAttempt _ _ armed⟩
  split
  · split
    next after hok =>
      exact ⟨after, .replace hcleared hok, .finishAttempt _ _ _ armed⟩
    · exact ⟨s, .stay, .finishAttempt _ _ _ armed⟩
  · exact ⟨s, .stay, .finishAttempt _ _ _ armed⟩

variable {action : HostAction}

theorem hostStep_move (hstep : hostStep role cfg s action = some s') :
    ∃ mid, HostMove role cfg s action mid ∧ Around mid s' := by
  unfold hostStep at hstep
  split at hstep
  · cases hstep
  next action hdrain =>
    split at hstep
    next ch hok =>
      cases hstep
      obtain ⟨hchanges, hheld⟩ := act_changes h.held h.next hdrain hok
      exact ⟨_, .act hchanges hheld, .refl _⟩
    · cases hstep
      exact h.lose_move _ _
  next conn frame accept acquire =>
    split at hstep
    · cases hstep
    rename_i hup
    split at hstep
    next ch hok =>
      cases hstep
      obtain ⟨hchanges, hheld⟩ := onFrame_changes h.held (fun hb => hup (.inr hb)) hok
      exact ⟨_, .receive hchanges hheld (by rw [hok]; rfl), .refl _⟩
    · cases hstep
      exact h.lose_move _ conn
  · cases hstep
    unfold Host.beginDrain
    split
    · exact ⟨s, .stay, .refl s⟩
    · exact ⟨_, .drain _, .refl _⟩
  · cases hstep
    exact ⟨s, .stay, .requestTxDrained s _⟩
  · cases hstep
    exact ⟨s, .stay, .onTxDrained s _⟩
  · cases hstep
    exact h.lose_move _ _
  · obtain ⟨slot, hslot, rfl⟩ := Host.failStream_eq_some hstep
    exact ⟨_, .fail hslot, .refl _⟩
  · split at hstep
    next hcleared =>
      split at hstep
      next after hok =>
        cases hstep
        exact ⟨_, .replace hcleared hok, .refl _⟩
      · cases hstep
        exact ⟨s, .stay, .refl s⟩
    · cases hstep
  · cases hstep
    exact ⟨s, .stay, .enableReconnect s _⟩
  · cases hstep
    exact ⟨s, .stay, .disableReconnect s _⟩
  · cases hstep
    exact ⟨s, .stay, .reconnectSchedule s _⟩
  · cases hstep
    exact ⟨s, .stay, .reconnectTimer s _ _⟩
  · split at hstep
    next hcleared =>
      cases hstep
      exact Host.reconnectComplete_move hcleared _
    · cases hstep

/-- Every step keeps the invariant. -/
theorem HostOk.move (hmove : HostMove role cfg s action s') : HostOk role cfg s' := by
  cases hmove with
  | stay => exact h
  | act hchanges hheld | receive hchanges hheld => exact h.advance hchanges hheld
  | drain => exact ⟨h.held.beginDrain, h.next, h.fine, fun _ => rfl⟩
  | fail hslot => exact h.failStream hslot
  | replace hcleared hok => exact h.replace hcleared hok

theorem HostOk.step (hstep : hostStep role cfg s action = some s') : HostOk role cfg s' := by
  obtain ⟨mid, hmove, haround⟩ := hostStep_move h hstep
  exact (h.move hmove).around haround

/-- No step passes the barrier. -/
theorem Barred.move
    (hdraining : s.chan.localDraining = true) (hmove : HostMove role cfg s action s') :
    Barred role cfg s s' := by
  cases hmove with
  | stay => exact .refl hdraining
  | act hchanges | receive hchanges => exact .advance h hdraining hchanges
  | drain torn =>
    have hquiet := @beginDrain_quiet role cfg none s.chan hdraining
    have hbarred := Barred.advance h hdraining hquiet
    exact hbarred.trans
      (.around (h.advance hquiet h.held.beginDrain) hbarred.draining (.disableReconnect _ torn))
  | fail => exact .failStream _ _ _ hdraining
  | replace _ hok => cases (if_pos (.inl hdraining)).symm.trans hok

theorem Barred.step (hdraining : s.chan.localDraining = true)
    (hstep : hostStep role cfg s action = some s') : Barred role cfg s s' := by
  obtain ⟨mid, hmove, haround⟩ := hostStep_move h hstep
  have hbarred := Barred.move h hdraining hmove
  exact hbarred.trans (.around (h.move hmove) hbarred.draining haround)

end

theorem HostOk.init (role : Role) (cfg : ChannelConfig) : HostOk role cfg (.init role) where
  held := .init role
  next := by
    intro _
    cases role <;> rfl
  fine _ _ h := nomatch h
  disabled h := nomatch h

theorem HostOk.run {history : List HostAction}
    (hrun : Lib.runSteps (hostStep role cfg) (.init role) history = some s) :
    HostOk role cfg s :=
  Lib.runSteps_invariant (fun _ _ _ h hstep => h.step hstep) (.init role cfg) hrun

/-- Once a channel is draining, its streams only become fewer, no stream of the
peer is opened, no reconnect is scheduled or started, and a channel that is
reported DRAINED stays so, whatever the peer, the application and the network
do. -/
theorem drain_barrier (role : Role) (cfg : ChannelConfig) (history later : List HostAction)
    (s s' : Host) (hrun : Lib.runSteps (hostStep role cfg) (.init role) history = some s)
    (hdraining : s.chan.localDraining = true)
    (hlater : Lib.runSteps (hostStep role cfg) s later = some s') :
    s'.chan.activeStreams ≤ s.chan.activeStreams ∧ (∃ new, s'.chan.events = s.chan.events ++ new ∧
        ∀ event ∈ new, event.kind = .opened → streamIdIsLocal role event.streamId = true) ∧
      s'.attempts = s.attempts ∧
      (s.getState cfg = .drained → s'.getState cfg = .drained) := by
  have hok : HostOk role cfg s := .run hrun
  have hbarred : Barred role cfg s s' := by
    clear hrun
    induction later generalizing s with
    | nil =>
      obtain rfl : s = s' := by simpa using hlater
      exact .refl hdraining
    | cons action rest ih =>
      obtain ⟨mid, hmid, hrest⟩ := Lib.runSteps_cons_eq_some.mp hlater
      have hfirst := Barred.step hok hdraining hmid
      exact hfirst.trans (ih mid hfirst.draining hrest (hok.step hmid))
  refine ⟨hbarred.active, hbarred.opened, hbarred.attempts, fun hstate => ?_⟩
  have hdrained : s.drained cfg = true := by
    unfold Host.getState at hstate
    rw [if_neg (not_not.mpr hdraining)] at hstate
    by_contra hnot
    rw [if_neg hnot] at hstate
    cases hstate
  unfold Host.getState
  rw [if_neg (not_not.mpr hbarred.draining), if_pos (hbarred.drained hdrained)]

end Host

/-- A server admits a stream of its client and is asked to drain. -/
def drainBefore : List HostAction :=
  [.act .start, .act (.startNext true),
    .receive .control (Channel.helloFrame .hello (plainConfig.handshake .control).hello) true .ok,
    .receive .control (Channel.openFrame .control 1 100) true .ok,
    .beginDrain true true]

/-- The client opens another stream, which is not admitted, closes the first and
says GOAWAY, and the server closes its half. -/
def drainAfter : List HostAction :=
  [.receive .control (Channel.openFrame .control 3 100) true .ok, .act (.drainProgress .control),
    .receive .control (controlFrame .streamClose 1 0) true .ok,
    .act (.stream 1 (.close true)), .act (.stream 1 .finishClose),
    .receive .control (controlFrame .goaway 0 0) true .ok,
    .requestTxDrained .control, .txDrained .control]

theorem drain_barrier_closing :
    ∃ s s', Lib.runSteps (hostStep .server plainConfig) (.init .server) drainBefore = some s ∧
      Lib.runSteps (hostStep .server plainConfig) s drainAfter = some s' ∧
      s'.getState plainConfig = .drained ∧
      s'.chan.activeStreams ≤ s.chan.activeStreams := by
  have hbefore : (Lib.runSteps (hostStep .server plainConfig) (.init .server)
      drainBefore).map (fun s => s.chan.localDraining) = some true := by
    decide
  have hafter : (Lib.runSteps (hostStep .server plainConfig) (.init .server)
      (drainBefore ++ drainAfter)).map (fun s => s.getState plainConfig) =
      some .drained := by
    decide
  obtain ⟨s', hrun, hstate⟩ := Option.map_eq_some_iff.mp hafter
  obtain ⟨s, hfirst, hlater⟩ := Lib.runSteps_append.mp hrun
  rw [hfirst] at hbefore
  have hdraining := Option.some.inj hbefore
  exact ⟨s, s', hfirst, hlater, hstate,
    (drain_barrier .server plainConfig drainBefore drainAfter s s' hfirst hdraining hlater).1⟩

end Trpc
