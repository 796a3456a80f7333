import Mathlib
import Trpc.Lib.Runs

/-!
# What a server counts about its peers

The peers of a shard live in a table of slots.  A slot whose connection has
ended keeps its peer until the endpoint and the channel let go of it, however
many passes that takes, and then the counters of the channel move to the
archive of the shard.

`count` is what a channel has counted; its `uint64_t` fields show the last 64
bits of it.  `published`, `archived` and `removed` are observations: how many
channels have been in a slot, the channels that were retired, and the peers
that left the table.
-/

namespace Trpc

open List Option

/-- The counters that `tr_server_merge_channel_stats` adds up. -/
inductive ChannelCounter
  | streamsOpened | streamsClosed | streamErrors
  | messagesTx | messagesRx | bytesTx | bytesRx
  | windowUpdatesTx | windowUpdatesRx
  | reconnectAttempts | reconnectSuccesses
  | keepalivePingsSent | keepalivePongsReceived | keepaliveTimeouts
  deriving DecidableEq, Repr

/-- A channel, with its number in the order of publication. -/
structure PeerChannel where
  id : Nat
  count : ChannelCounter → Nat

/-- `tr_channel_get_stats`. -/
def PeerChannel.stats (channel : PeerChannel) (counter : ChannelCounter) : UInt64 :=
  .ofNat (channel.count counter)

/-- `struct tr_server_peer`, of a slot in use. -/
structure ServerPeer where
  channel : Option PeerChannel
  /-- The endpoint exists. -/
  recordRpc : Bool
  recordClosing : Bool
  /-- `tr_server_peer_disconnected`. -/
  disconnected : Bool

structure PeerShard where
  slots : List (Option ServerPeer)
  /-- `retired_channel_stats`. -/
  retired : ChannelCounter → UInt64
  peerCount : Nat
  peerCountPeak : Nat
  peerReapingCount : Nat
  peersReapedTotal : UInt64
  peerCapacityRejections : Nat
  published : Nat
  archived : List PeerChannel
  removed : Nat

/-- What happens while a connection is adopted: the lease is armed, the reactor
takes the descriptor, the channel is created and has counted `channel` before it
is published, the endpoint exists, everything is started.  `closed` is the
result of the close of a rollback. -/
structure AdoptEnv where
  armed : Bool
  connected : Bool
  channel : Option (ChannelCounter → Nat)
  endpoint : Bool
  started : Bool
  closed : Bool

/-- What happens to one slot in a pass of the cleanup. -/
structure DetachEnv where
  closed : Bool
  quiet : Bool
  detached : Bool

namespace PeerShard

def init (capacity : Nat) : PeerShard :=
  ⟨.replicate capacity none, fun _ => 0, 0, 0, 0, 0, 0, 0, [], 0⟩

/-- A slot becomes used: `tr_runtime_shard_peer_note_added`. -/
def publish (s : PeerShard) (slot : Nat) (peer : ServerPeer) : PeerShard :=
  { s with
    slots := s.slots.set slot (some peer)
    peerCount := s.peerCount + 1
    peerCountPeak := max s.peerCountPeak (s.peerCount + 1)
    published := s.published + peer.channel.toList.length }

/-- `tr_runtime_shard_peer_note_capacity_rejection`. -/
def noteCapacityRejection (s : PeerShard) : PeerShard :=
  { s with peerCapacityRejections := s.peerCapacityRejections + 1 }

/-- `tr_server_adopt_peer` with `tr_server_adopt_peer_rollback`.  `rpc` is
`TR_SERVER_MODE_RPC_V2`. -/
def adoptPeer (rpc : Bool) (s : PeerShard) (env : AdoptEnv) : PeerShard :=
  if s.slots.length ≤ s.peerCount then s.noteCapacityRejection
  else
    match s.slots.findIdx? (·.isNone) with
    | none => s.noteCapacityRejection
    | some slot =>
      if ¬ env.armed ∨ ¬ env.connected then s
      else
        match env.channel with
        | none =>
          -- nothing holds the connection but a close that failed
          if rpc ∧ ¬ env.closed then s.publish slot ⟨none, false, true, false⟩ else s
        | some count =>
          let channel := some ⟨s.published, count⟩
          if env.started then s.publish slot ⟨channel, rpc, false, false⟩
          else s.publish slot ⟨channel, rpc && env.endpoint, rpc, false⟩

/-- `tr_runtime_shard_peer_note_removed_for_reap`. -/
def noteRemovedForReap (s : PeerShard) : PeerShard :=
  { s with
    peerCount := s.peerCount - 1
    peerReapingCount := s.peerReapingCount + 1
    removed := s.removed + 1 }

/-- `tr_runtime_shard_peer_note_reaped`. -/
def noteReaped (s : PeerShard) : PeerShard :=
  if s.peerReapingCount = 0 then s
  else
    { s with
      peerReapingCount := s.peerReapingCount - 1
      peersReapedTotal := s.peersReapedTotal + 1 }

/-- The end of `tr_server_record_detach_peers_on_owner` for a slot. -/
def retire (s : PeerShard) (slot : Nat) (peer : ServerPeer) : PeerShard :=
  let s := { s with
    slots := s.slots.set slot none
    retired := fun counter =>
      match peer.channel with
      | some channel => s.retired counter + channel.stats counter
      | none => s.retired counter
    archived := s.archived ++ peer.channel.toList }
  s.noteRemovedForReap.noteReaped

/-- `tr_server_record_detach_peers_on_owner` for one slot. -/
def detachPeer (s : PeerShard) (slot : Nat) (env : DetachEnv) : PeerShard :=
  match s.slots[slot]? with
  | some (some peer) =>
    if ¬ cond peer.recordClosing env.closed peer.disconnected then s
    else if peer.recordRpc ∧ ¬ env.quiet then s
    else if peer.channel.isSome ∧ ¬ env.detached then
      { s with slots := s.slots.set slot (some { peer with recordRpc := false }) }
    else s.retire slot peer
  | _ => s

/-- The channel of a slot. -/
def slotChannels (slot : Option ServerPeer) : List PeerChannel :=
  (slot.bind (·.channel)).toList

/-- The channels in the slots. -/
def live (s : PeerShard) : List PeerChannel := s.slots.flatMap slotChannels

/-- `tr_server_collect_peer_stats_on_owner`, for the cumulative counters. -/
def collect (s : PeerShard) (counter : ChannelCounter) : UInt64 :=
  s.live.foldl (fun sum channel => sum + channel.stats counter) (s.retired counter)

end PeerShard

inductive PeerAction
  | adopt (env : AdoptEnv)
  | activity (slot : Nat) (counter : ChannelCounter) (amount : Nat)
  | disconnect (slot : Nat)
  | cleanup (env : Nat → DetachEnv)

def peerStep (rpc : Bool) (s : PeerShard) : PeerAction → Option PeerShard
  | .adopt env => some (s.adoptPeer rpc env)
  | .activity slot counter amount =>
    match s.slots[slot]? with
    | some (some ⟨some channel, recordRpc, closing, down⟩) =>
      let count := Function.update channel.count counter (channel.count counter + amount)
      some { s with
        slots := s.slots.set slot (some ⟨some ⟨channel.id, count⟩, recordRpc, closing, down⟩) }
    | _ => none
  | .disconnect slot =>
    match s.slots[slot]? with
    | some (some peer) =>
      some { s with slots := s.slots.set slot (some { peer with disconnected := true }) }
    | _ => none
  | .cleanup env =>
    some ((List.range s.slots.length).foldl (fun s slot => s.detachPeer slot (env slot)) s)

/-! ## The ledger -/

namespace PeerShard

/-- Every channel that has been in a slot, the retired ones first. -/
def channels (s : PeerShard) : List PeerChannel := s.archived ++ s.live

/-- What all of them have counted. -/
def total (s : PeerShard) (counter : ChannelCounter) : Nat :=
  (s.channels.map (·.count counter)).sum

structure Ok (s : PeerShard) : Prop where
  used : s.peerCount = s.slots.countP (·.isSome)
  once : ∀ id, (s.channels.map (·.id)).count id = if id < s.published then 1 else 0
  archive : ∀ counter, s.retired counter = .ofNat ((s.archived.map (·.count counter)).sum)
  idle : s.peerReapingCount = 0
  reaped : s.peersReapedTotal = .ofNat s.removed

/-- `s'` comes after `s`. -/
def Later (s s' : PeerShard) : Prop :=
  s'.slots.length = s.slots.length ∧ ∀ counter, s.total counter ≤ s'.total counter

section
variable {s s' : PeerShard} {slot : Nat} {rpc : Bool}

theorem collect_eq (hok : s.Ok) (counter : ChannelCounter) :
    s.collect counter = .ofNat (s.total counter) := by
  have hfold : ∀ (l : List PeerChannel) (n : Nat),
      l.foldl (fun sum channel => sum + channel.stats counter) (.ofNat n) =
        UInt64.ofNat (n + (l.map (·.count counter)).sum) := by
    intro l
    induction l with
    | nil => intro n; rfl
    | cons channel rest ih =>
      intro n
      rw [foldl_cons, PeerChannel.stats, ← UInt64.ofNat_add, ih, map_cons,
        sum_cons, Nat.add_assoc]
  rw [collect, hok.archive, hfold, total, channels, map_append, sum_append]

/-- One slot changes and channels move from it to the archive. -/
theorem Ok.change {x y : Option ServerPeer} {g : List PeerChannel} (hok : s.Ok)
    (hx : s.slots[slot]? = some x) (hslots : s'.slots = s.slots.set slot y)
    (hgone : s'.archived = s.archived ++ g)
    (hids : ∀ id, ((g ++ slotChannels y).map (·.id)).count id +
        (if id < s.published then 1 else 0) =
      ((slotChannels x).map (·.id)).count id + if id < s'.published then 1 else 0)
    (hcount : ∀ counter, ((slotChannels x).map (·.count counter)).sum ≤
      ((g ++ slotChannels y).map (·.count counter)).sum)
    (hused : s'.peerCount + x.isSome.toNat = s.peerCount + y.isSome.toNat)
    (harchive : ∀ counter, s'.retired counter =
      s.retired counter + .ofNat ((g.map (·.count counter)).sum))
    (hidle : s'.peerReapingCount = 0) (hreaped : s'.peersReapedTotal = .ofNat s'.removed) :
    s'.Ok ∧ s.Later s' := by
  obtain ⟨hlt, hx⟩ := List.getElem?_eq_some_iff.1 hx
  -- the slots before, at and after the one that changes
  have hold : s.slots = s.slots.take slot ++ x :: s.slots.drop (slot + 1) := by
    rw [← hx]
    simp
  rw [set_eq_take_append_cons_drop, if_pos hlt] at hslots
  generalize s.slots.take slot = before at hold hslots
  generalize s.slots.drop (slot + 1) = after at hold hslots
  refine ⟨⟨?_, fun id => ?_, fun counter => ?_, hidle, hreaped⟩, ?_, fun counter => ?_⟩
  · have hcard := hok.used
    rw [hold] at hcard
    rw [hslots]
    simp only [countP_append, countP_cons] at hcard ⊢
    cases x <;> cases y <;> simp at hused hcard ⊢ <;> omega
  · have honce := hok.once id
    specialize hids id
    simp only [channels, live, hold, hslots, hgone, flatMap_append, flatMap_cons,
      map_append, count_append] at honce hids ⊢
    omega
  · rw [harchive, hok.archive, hgone, map_append, sum_append, UInt64.ofNat_add]
  · rw [hslots, hold]
    simp
  · specialize hcount counter
    simp only [total, channels, live, hold, hslots, hgone, flatMap_append,
      flatMap_cons, map_append, sum_append] at hcount ⊢
    omega

theorem Later.refl (s : PeerShard) : s.Later s := ⟨rfl, fun _ => le_rfl⟩

theorem Later.trans {t : PeerShard} (hst : s.Later s') (htu : s'.Later t) : s.Later t :=
  ⟨htu.1.trans hst.1, fun counter => (hst.2 counter).trans (htu.2 counter)⟩

theorem Ok.publish {peer : ServerPeer} (hok : s.Ok) (hfree : s.slots[slot]? = some none)
    (hid : ∀ channel, peer.channel = some channel → channel.id = s.published) :
    (s.publish slot peer).Ok ∧ s.Later (s.publish slot peer) := by
  refine hok.change (g := []) hfree rfl (append_nil _).symm (fun id => ?_)
    (fun _ => Nat.zero_le _) rfl (fun _ => (add_zero _).symm) hok.idle hok.reaped
  cases hchannel : peer.channel with
  | none => simp [slotChannels, PeerShard.publish, hchannel]
  | some channel =>
    have hid := hid channel hchannel
    simp only [slotChannels, PeerShard.publish, hchannel]
    simp
    grind

theorem Ok.adoptPeer (hok : s.Ok) (env : AdoptEnv) :
    (s.adoptPeer rpc env).Ok ∧ s.Later (s.adoptPeer rpc env) := by
  have hkeep : s.Ok ∧ s.Later s := ⟨hok, .refl s⟩
  unfold PeerShard.adoptPeer
  split
  · exact ⟨{ hok with }, .refl s⟩
  split
  case h_1 => exact ⟨{ hok with }, .refl s⟩
  case h_2 slot hslot =>
    have hfree : s.slots[slot]? = some none := by
      obtain ⟨hlt, hnone, -⟩ := findIdx?_eq_some_iff_getElem.1 hslot
      rw [getElem?_eq_getElem hlt, isNone_iff_eq_none.1 hnone]
    split
    · exact hkeep
    split
    case h_1 =>
      split_ifs
      · exact hok.publish hfree nofun
      · exact hkeep
    case h_2 =>
      dsimp only
      split_ifs
      all_goals exact hok.publish hfree fun channel hchannel => by cases hchannel; rfl

theorem Ok.retire {peer : ServerPeer} (hok : s.Ok) (hpeer : s.slots[slot]? = some (some peer)) :
    (s.retire slot peer).Ok ∧ s.Later (s.retire slot peer) := by
  have hpos : 0 < s.peerCount := by
    rw [hok.used, countP_pos_iff]
    exact ⟨_, mem_of_getElem? hpeer, rfl⟩
  refine hok.change (y := none) (g := peer.channel.toList) hpeer rfl rfl (fun id => ?_)
    (fun counter => ?_) (Nat.sub_add_cancel hpos) (fun counter => ?_) hok.idle ?_
  · rw [slotChannels, slotChannels, bind_none, toList_none, append_nil]
    rfl
  · rw [slotChannels, slotChannels, bind_none, toList_none, append_nil]
    rfl
  · show (match peer.channel with | some channel => _ | none => _) = _
    cases peer.channel with
    | none => exact (add_zero _).symm
    | some channel => simp [PeerChannel.stats]
  · show s.peersReapedTotal + 1 = _
    rw [hok.reaped]
    exact (UInt64.ofNat_add s.removed 1).symm

/-- A peer stays in its slot with its channel. -/
theorem Ok.edit {old new : ServerPeer} (hok : s.Ok) (hold : s.slots[slot]? = some (some old))
    (hids : (slotChannels (some new)).map (·.id) = (slotChannels (some old)).map (·.id))
    (hcount : ∀ counter, ((slotChannels (some old)).map (·.count counter)).sum ≤
      ((slotChannels (some new)).map (·.count counter)).sum) :
    Ok { s with slots := s.slots.set slot (some new) } ∧
      s.Later { s with slots := s.slots.set slot (some new) } :=
  hok.change (g := []) hold rfl (append_nil _).symm (fun _ => by rw [← hids]; rfl)
    hcount rfl (fun _ => (add_zero _).symm) hok.idle hok.reaped

theorem Ok.detachPeer (hok : s.Ok) (slot : Nat) (env : DetachEnv) :
    (s.detachPeer slot env).Ok ∧ s.Later (s.detachPeer slot env) := by
  have hkeep : s.Ok ∧ s.Later s := ⟨hok, .refl s⟩
  unfold PeerShard.detachPeer
  split
  case h_2 => exact hkeep
  case h_1 peer hpeer =>
    split_ifs
    · exact hkeep
    · exact hok.edit hpeer rfl fun _ => le_rfl
    · exact hok.retire hpeer
    · exact hkeep

theorem Ok.step {a : PeerAction} (hok : s.Ok) (hstep : peerStep rpc s a = some s') :
    s'.Ok ∧ s.Later s' := by
  cases a with
  | adopt env =>
    cases hstep
    exact hok.adoptPeer env
  | activity slot counter amount =>
    simp only [peerStep] at hstep
    split at hstep <;> cases hstep
    case h_1 channel _ _ _ hpeer =>
    refine hok.edit hpeer rfl fun other => ?_
    by_cases hother : other = counter
    · subst hother
      simp [slotChannels]
    · simp [slotChannels, hother]
  | disconnect slot =>
    simp only [peerStep] at hstep
    split at hstep <;> cases hstep
    case h_1 peer hpeer =>
    exact hok.edit hpeer rfl fun _ => le_rfl
  | cleanup env =>
    cases hstep
    -- one slot after the other
    refine foldlRecOn (motive := fun t => t.Ok ∧ s.Later t) _ _ ⟨hok, .refl s⟩
      fun t ht slot _ => ?_
    obtain ⟨hnext, hlater⟩ := ht.1.detachPeer slot (env slot)
    exact ⟨hnext, ht.2.trans hlater⟩

theorem init_ok (capacity : Nat) : (init capacity).Ok where
  used := by simp [init, countP_replicate]
  once id := by simp [channels, live, init, flatMap_replicate, slotChannels]
  archive _ := rfl
  idle := rfl
  reaped := rfl

end

end PeerShard

/-- A peer that is up and has sent `sent` messages. -/
def chattyShard (sent : Nat) : PeerShard :=
  (PeerShard.init 1).publish 0
    ⟨some ⟨0, Function.update (fun _ => 0) .messagesTx sent⟩, true, false, false⟩

theorem chattyShard_step (sent : Nat) :
    peerStep true (chattyShard sent) (.activity 0 .messagesTx 1) =
      some (chattyShard (sent + 1)) := by
  simp [peerStep, chattyShard, PeerShard.publish, PeerShard.init]

theorem chattyShard_run (sent : Nat) :
    Lib.runSteps (peerStep true) (.init 1)
      (.adopt ⟨true, true, some fun _ => 0, true, true, true⟩ ::
        .replicate sent (.activity 0 .messagesTx 1)) = some (chattyShard sent) := by
  induction sent with
  | zero => simp [Lib.runSteps, peerStep, PeerShard.adoptPeer, chattyShard, PeerShard.init]
  | succ n ih =>
    rw [replicate_succ', ← cons_append]
    exact Lib.runSteps_append.2 ⟨_, ih, Lib.runSteps_singleton.2 (chattyShard_step n)⟩

theorem chattyShard_collect (sent : Nat) :
    (chattyShard sent).collect .messagesTx = .ofNat sent := by
  simp [PeerShard.collect, PeerShard.live, PeerShard.slotChannels, chattyShard,
    PeerShard.publish, PeerShard.init, PeerChannel.stats]

/-- Every channel that was ever published is in the report of a shard once, from
its slot or from the archive, and the report is right to 64 bits. -/
theorem server_peer_ledger {rpc : Bool} {capacity : Nat} {acts : List PeerAction} {s : PeerShard}
    (hrun : Lib.runSteps (peerStep rpc) (.init capacity) acts = some s) :
    s.peerCount = s.slots.countP (·.isSome) ∧ s.peerCount ≤ capacity ∧
    (∀ id, (s.channels.map (·.id)).count id = if id < s.published then 1 else 0) ∧
    (∀ counter, s.collect counter = .ofNat (s.total counter)) ∧
    UInt64.ofNat s.removed = s.peersReapedTotal + .ofNat s.peerReapingCount ∧
    ∀ later s', Lib.runSteps (peerStep rpc) s later = some s' → ∀ counter,
      s.total counter ≤ s'.total counter ∧
      (s'.total counter < 2 ^ 64 → s.collect counter ≤ s'.collect counter) := by
  have hrel : ∀ {s s' : PeerShard} {acts : List PeerAction}, s.Ok →
      Lib.runSteps (peerStep rpc) s acts = some s' → s'.Ok ∧ s.Later s' := by
    intro s s' acts hok hrun
    refine ⟨Lib.runSteps_invariant (fun _ _ _ hok hstep => (hok.step hstep).1) hok hrun, ?_⟩
    exact Lib.runSteps_rel .refl (fun _ _ _ => .trans) (fun _ _ _ hok hstep => (hok.step hstep).1)
      (fun _ _ _ hok hstep => (hok.step hstep).2) hok hrun
  obtain ⟨hok, hlength, -⟩ := hrel (PeerShard.init_ok capacity) hrun
  have hcapacity : s.slots.length = capacity := hlength.trans List.length_replicate
  refine ⟨hok.used, ?_, hok.once, PeerShard.collect_eq hok, ?_, fun later s' hlater counter => ?_⟩
  · rw [hok.used, ← hcapacity]
    exact List.countP_le_length
  · rw [hok.reaped, hok.idle]
    exact (add_zero _).symm
  · obtain ⟨hok', -, htotal⟩ := hrel hok hlater
    refine ⟨htotal counter, fun hfits => ?_⟩
    rw [PeerShard.collect_eq hok, PeerShard.collect_eq hok', UInt64.le_iff_toNat_le,
      UInt64.toNat_ofNat', UInt64.toNat_ofNat', Nat.mod_eq_of_lt hfits]
    exact (Nat.mod_le _ _).trans (htotal counter)

/-- One connection is disconnected and one was rolled back; the cleanup reaps both, and a third
counts on from what the first has counted. -/
def reapedActions : List PeerAction :=
  [.adopt ⟨true, true, some fun _ => 0, true, true, false⟩,
    .adopt ⟨true, true, some fun _ => 0, true, false, false⟩, .activity 0 .messagesTx 3,
    .disconnect 0, .cleanup fun _ => ⟨true, true, true⟩,
    .adopt ⟨true, true, some fun _ => 0, true, true, false⟩, .activity 0 .messagesTx 4]

theorem server_peer_ledger_reaped :
    ∃ s, Lib.runSteps (peerStep true) (.init 2) reapedActions = some s ∧ s.removed = 2 ∧
      s.collect .messagesTx = 7 ∧ s.peerCount ≤ 2 ∧
      UInt64.ofNat s.removed = s.peersReapedTotal + .ofNat s.peerReapingCount := by
  obtain ⟨s, hrun, hfacts⟩ := Option.map_eq_some_iff.mp (show
    (Lib.runSteps (peerStep true) (.init 2) reapedActions).map
      (fun s => (s.removed, s.collect .messagesTx)) = some (2, 7) by decide +kernel)
  obtain ⟨hremoved, hcollect⟩ := Prod.mk.inj hfacts
  obtain ⟨_, hcapacity, _, _, hreaped, _⟩ := server_peer_ledger hrun
  exact ⟨s, hrun, hremoved, hcollect, hcapacity, hreaped⟩

/-- A `uint64_t` that has counted 2^64 messages shows none of them. -/
theorem server_peer_report_wraps :
    ∃ acts s s', Lib.runSteps (peerStep true) (.init 1) acts = some s ∧
      peerStep true s (.activity 0 .messagesTx 1) = some s' ∧
      s'.collect .messagesTx < s.collect .messagesTx := by
  refine ⟨_, _, _, chattyShard_run (2 ^ 64 - 1), chattyShard_step _, ?_⟩
  rw [chattyShard_collect, chattyShard_collect]
  decide

end Trpc
