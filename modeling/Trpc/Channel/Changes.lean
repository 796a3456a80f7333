import Trpc.Channel.SlotTidy
import Trpc.Channel.Host

/-!
# What a step of a channel can do

`Changes` says once what a step of a channel can do to its streams, whoever the
peer is: for every stream, what happens to its slot and what the application is
told (`SlotChange`).  All that holds of every run is derived from it.

`HeldOk` is what makes it true.  A stream that waits for its initial credit has
its connection to itself: nothing is read from there until the wait is over, so
no frame can reach the stream.
-/

namespace Trpc

open Lib Channel Function List

/-- What the application is told about one stream. -/
def kindsOf (events : List StreamEvent) (id : Nat) : List EventKind :=
  (events.filter fun event => event.streamId = id).map StreamEvent.kind

@[simp] theorem kindsOf_nil (id : Nat) : kindsOf [] id = [] := rfl

theorem kindsOf_append (events events' : List StreamEvent) (id : Nat) :
    kindsOf (events ++ events') id = kindsOf events id ++ kindsOf events' id := by
  simp [kindsOf]

@[simp] theorem kindsOf_self (kinds : List EventKind) (id : Nat) :
    kindsOf (kinds.map fun kind => ⟨id, kind⟩) id = kinds := by
  unfold kindsOf
  induction kinds with
  | nil => rfl
  | cons kind rest ih => simpa using ih

variable {accept : Bool} {id : Nat} {conn : Lane} {slot : StreamSlot} {input : Option ChannelFrame}

theorem kindsOf_of_ne {other : Nat} (hne : other ≠ id) (kinds : List EventKind) :
    kindsOf (kinds.map fun kind => ⟨id, kind⟩) other = [] := by
  unfold kindsOf
  induction kinds with
  | nil => rfl
  | cons kind rest ih =>
    have hne' : ¬ id = other := fun h => hne h.symm
    simp [hne']

/-- What can happen to a slot in one step, and the notifications. -/
inductive SlotChange (role : Role) (cfg : ChannelConfig) (draining : Bool)
    (input : Option ChannelFrame) (id : Nat) :
    Option StreamSlot → List EventKind → Option StreamSlot → Prop
  /-- Nothing. -/
  | same (slot : Option StreamSlot) : SlotChange role cfg draining input id slot [] slot
  /-- The application has opened the stream. -/
  | offered (lane : Lane) (hdraining : draining = false)
      (hid : streamIdIsLocal role id = true) :
      SlotChange role cfg draining input id none [] (some (streamSlotInit cfg id lane .opening))
  /-- The peer has opened the stream, and its initial credit is waiting. -/
  | arrived (lane : Lane) (window : Nat) (hdraining : draining = false)
      (hid : streamIdIsLocal role id = false) :
      SlotChange role cfg draining input id none []
        (some { streamSlotInit cfg id lane .accepting with
          txSendLimit := window
          txWindowBytes := window })
  /-- The peer has opened the stream and it was admitted at once. -/
  | admitted (lane : Lane) (window : Nat) (hdraining : draining = false)
      (hid : streamIdIsLocal role id = false) :
      SlotChange role cfg draining input id none [.opened]
        (some { streamSlotInit cfg id lane .accepting with
          txSendLimit := window
          txWindowBytes := window
          state := .opened
          openedNotified := true })
  /-- The initial credit of the peer's stream was accepted. -/
  | granted (slot : StreamSlot) (hdraining : draining = false)
      (hstate : slot.state = .accepting) :
      SlotChange role cfg draining input id (some slot) [.opened]
        (some { slot with state := .opened, openedNotified := true })
  /-- The drain takes back a stream that is still waiting. -/
  | withdrawn (slot : StreamSlot) (hstate : slot.state = .accepting) :
      SlotChange role cfg draining input id (some slot) [] none
  /-- The peer refuses the stream. -/
  | refused (slot : StreamSlot) (hstate : slot.state = .opening) :
      SlotChange role cfg draining input id (some slot) [.refused] none
  /-- The stream is beyond the cutoff of the peer's GOAWAY. -/
  | cutOff (slot : StreamSlot) (hstate : slot.state = .opening) :
      SlotChange role cfg draining input id (some slot) [.error Status.errClosed.code] none
  /-- The endpoint has worked on the stream. -/
  | operated (slot : StreamSlot) (lane : LaneState) (op : SlotOp)
      (hstate : slot.state ≠ .accepting) :
      SlotChange role cfg draining input id (some slot)
        (slotStep cfg lane slot op).events (slotStep cfg lane slot op).slot
  /-- A frame of the stream has arrived. -/
  | handled (slot : StreamSlot) (lane : LaneState) (frame : ChannelFrame)
      (acquire : Status) (out : SlotOut) (hstate : slot.state ≠ .accepting)
      (hinput : input = some frame)
      (hclose : frame.type = .streamClose → slot.state = .resetting)
      (hout : slotReceive cfg lane slot frame acquire = .ok out) :
      SlotChange role cfg draining input id (some slot) out.events out.slot
  /-- A CLOSE of the stream has arrived. -/
  | closed (slot after : StreamSlot) (frame : ChannelFrame) (out : SlotOut)
      (hstate : slot.state = .opened) (hinput : input = some frame)
      (htype : frame.type = .streamClose) (hid : frame.streamId = id)
      (hout : handleStreamClose slot = .ok out) (hafter : out.slot = some after) :
      SlotChange role cfg draining input id (some slot) out.events (finishClose after).slot

/-- What the drain of a connection does not take back. -/
structure ConnKept (state state' : ConnState) : Prop where
  localStarted : state.localStarted = true → state'.localStarted = true
  peerStarted : state.peerStarted = true → state'.peerStarted = true
  goawayAccepted : state.goawayAccepted = true → state'.goawayAccepted = true

theorem ConnKept.refl (state : ConnState) : ConnKept state state :=
  ⟨id, id, id⟩

theorem ConnKept.trans {s s' s'' : ConnState} (h : ConnKept s s')
    (h' : ConnKept s' s'') : ConnKept s s'' :=
  ⟨h'.1 ∘ h.1, h'.2 ∘ h.2, h'.3 ∘ h.3⟩

/-- The next number for a stream is one of the endpoint's own. -/
def Channel.NextLocal (role : Role) (ch : Channel) : Prop :=
  ch.nextLocalStreamId ≠ 0 → streamIdIsLocal role ch.nextLocalStreamId = true

/-- What no step of a channel takes back. -/
structure Kept (ch ch' : Channel) : Prop where
  draining : ch'.localDraining = ch.localDraining
  conn : ∀ c, ConnKept (ch.conn c) (ch'.conn c)
  next : ∀ role, ch.NextLocal role → ch'.NextLocal role

/-- What a step does to the streams. -/
structure Changes (role : Role) (cfg : ChannelConfig) (input : Option ChannelFrame)
    (ch ch' : Channel) : Prop where
  kept : Kept ch ch'
  streams : ∃ new, ch'.events = ch.events ++ new ∧
    ∀ id, SlotChange role cfg ch.localDraining input id (ch.slot id) (kindsOf new id) (ch'.slot id)

namespace Kept

variable {ch ch' ch'' : Channel} {conn : Lane}

theorem refl (ch : Channel) : Kept ch ch :=
  ⟨rfl, fun _ => .refl _, fun _ => id⟩

theorem trans (h : Kept ch ch') (h' : Kept ch' ch'') : Kept ch ch'' :=
  ⟨h'.draining.trans h.draining, fun c => (h.conn c).trans (h'.conn c),
    fun role => h'.next role ∘ h.next role⟩

/-- Only one connection changes. -/
theorem of_update {state : ConnState} (hdraining : ch'.localDraining = ch.localDraining)
    (hnext : ch'.nextLocalStreamId = ch.nextLocalStreamId)
    (hconn : ch'.conn = update ch.conn conn state)
    (hkept : ConnKept (ch.conn conn) state) : Kept ch ch' := by
  refine ⟨hdraining, fun c => ?_, fun role h => ?_⟩
  rotate_left
  · unfold NextLocal
    rwa [hnext]
  rw [hconn]
  exact (forall_update_iff ch.conn fun c => ConnKept (ch.conn c)).2 ⟨hkept, fun _ _ => .refl _⟩ c

theorem send (ch : Channel) (conn : Lane) (frames : List ChannelFrame) :
    Kept ch (ch.send conn frames) :=
  of_update rfl rfl rfl ⟨id, id, id⟩

theorem setConn {state : ConnState} (h : ConnKept (ch.conn conn) state) :
    Kept ch (ch.setConn conn state) :=
  of_update rfl rfl rfl h

theorem free (ch : Channel) (conn : Lane) (id : Nat) : Kept ch (ch.free conn id) :=
  of_update rfl rfl rfl ⟨fun h => h, fun h => h, fun h => h⟩

theorem put (ch : Channel) (id : Nat) (slot : StreamSlot) : Kept ch (ch.put id slot) :=
  ⟨rfl, fun _ => .refl _, fun _ h => h⟩

theorem notify (ch : Channel) (id : Nat) (kinds : List EventKind) : Kept ch (ch.notify id kinds) :=
  ⟨rfl, fun _ => .refl _, fun _ h => h⟩

theorem setCaps (cfg : ChannelConfig) (ch : Channel) (conn : Lane)
    (caps : Capabilities) : Kept ch (ch.setCaps cfg conn caps) :=
  ⟨rfl, fun _ => .refl _, fun _ h => h⟩

theorem apply (ch : Channel) (conn : Lane) (id : Nat) (out : SlotOut) :
    Kept ch (ch.apply conn id out) := by
  unfold Channel.apply
  refine (?_ : Kept ch _).trans ((send _ _ _).trans (notify _ _ _))
  split
  · exact put _ _ _
  · exact free _ _ _

theorem admitStream (ch : Channel) (conn : Lane) (id : Nat) (slot : StreamSlot) :
    Kept ch (ch.admitStream conn id slot) := by
  refine ⟨rfl, fun c => ?_, fun _ h => h⟩
  rcases eq_or_ne c conn with rfl | hne
  · constructor <;> simp [Channel.admitStream]
  have hsame : (ch.admitStream conn id slot).conn c = ch.conn c := by
    simp [Channel.admitStream, hne]
  rw [hsame]
  exact .refl _

end Kept

/-- What a connection knows of the streams that wait on it. -/
def ConnState.hold (state : ConnState) : Option Nat × Option Nat × Option Nat × Bool :=
  (state.pendingOpen, state.refusing, state.pendingRefused, state.rxHeld)

/-- A change that touches no stream and ends no wait. -/
structure Calm (ch ch' : Channel) : Prop where
  kept : Kept ch ch'
  events : ch'.events = ch.events
  slot : ∀ id, ch'.slot id = ch.slot id
  hold : ∀ c, (ch'.conn c).hold = (ch.conn c).hold

namespace Calm

variable {cfg : ChannelConfig} {ch ch' ch'' : Channel} {frame : ChannelFrame}

theorem refl (ch : Channel) : Calm ch ch := ⟨.refl ch, rfl, fun _ => rfl, fun _ => rfl⟩

theorem trans (h : Calm ch ch') (h' : Calm ch' ch'') : Calm ch ch'' :=
  ⟨h.kept.trans h'.kept, h'.events.trans h.events, fun id => (h'.slot id).trans (h.slot id),
    fun c => (h'.hold c).trans (h.hold c)⟩

theorem hold_update {state : ConnState} (hstate : state.hold = (ch.conn conn).hold) (c : Lane) :
    (update ch.conn conn state c).hold = (ch.conn c).hold := by
  rw [update_apply]
  grind

/-- A connection changes in what has nothing to do with waiting. -/
theorem setConn {state : ConnState} (hkept : ConnKept (ch.conn conn) state)
    (hstate : state.hold = (ch.conn conn).hold) : Calm ch (ch.setConn conn state) :=
  ⟨.setConn hkept, rfl, fun _ => rfl, hold_update hstate⟩

theorem send (ch : Channel) (conn : Lane) (frames : List ChannelFrame) :
    Calm ch (ch.send conn frames) := by
  refine ⟨.send ch conn frames, rfl, fun _ => rfl, fun c => ?_⟩
  rw [send_conn]
  refine hold_update ?_ c
  rfl

theorem setCaps (ch : Channel) (conn : Lane) (caps : Capabilities) :
    Calm ch (ch.setCaps cfg conn caps) :=
  ⟨.setCaps _ _ _ _, rfl, fun _ => rfl, fun _ => rfl⟩

theorem takeWork (ch : Channel) (work : List StartTask) : Calm ch { ch with startWork := work } :=
  ⟨⟨rfl, fun _ => .refl _, fun _ h => h⟩, rfl, fun _ => rfl, fun _ => rfl⟩

theorem handleHello (h : Channel.handleHello cfg ch conn frame accept = .ok ch') : Calm ch ch' := by
  unfold Channel.handleHello at h
  obtain ⟨-, h⟩ := check_eq_ok.mp h
  split at h
  · cases h
  obtain ⟨-, h⟩ := check_eq_ok.mp h
  obtain ⟨-, h⟩ := check_eq_ok.mp h
  cases h
  exact (send _ _ _).trans (setCaps _ _ _)

theorem handleHelloAck (h : Channel.handleHelloAck cfg ch conn frame = .ok ch') : Calm ch ch' := by
  unfold Channel.handleHelloAck at h
  obtain ⟨-, h⟩ := check_eq_ok.mp h
  split at h
  · cases h
  cases h
  exact setCaps _ _ _

theorem deferHello (h : Channel.deferHello ch conn frame = .ok ch') : Calm ch ch' := by
  unfold Channel.deferHello at h
  obtain ⟨-, h⟩ := check_eq_ok.mp h
  cases h
  exact setConn ⟨id, id, id⟩ rfl

theorem handlePing (h : Channel.handlePing cfg ch conn frame accept = .ok ch') : Calm ch ch' := by
  unfold Channel.handlePing at h
  obtain ⟨-, h⟩ := check_eq_ok.mp h
  split at h
  · cases h
    exact send _ _ _
  · cases h
    exact refl ch

theorem start (ch : Channel) : Calm ch (ch.start cfg) := by
  unfold Channel.start
  split
  · exact refl ch
  · exact ⟨⟨rfl, fun _ => ⟨id, id, id⟩, fun _ h => h⟩, rfl, fun _ => rfl, fun _ => rfl⟩

theorem startNext (h : ch.startNext cfg accept = .ok ch') : Calm ch ch' := by
  unfold Channel.startNext at h
  split at h
  · cases h
    exact refl ch
  next rest _ =>
    split at h
    · cases h
    rename_i hhello
    cases h
    exact (takeWork ch rest).trans (handleHello hhello)
  next rest _ =>
    split at h
    · cases h
      exact (takeWork ch rest).trans (send _ _ _)
    · cases h
      exact ⟨⟨rfl, fun _ => .refl _, fun _ h => h⟩, rfl, fun _ => rfl, fun _ => rfl⟩

theorem drainProgress (ch : Channel) : Calm ch (ch.drainProgress cfg conn) := by
  unfold Channel.drainProgress
  split
  · exact (send _ _ _).trans (setConn ⟨fun h => h, fun h => h, fun _ => rfl⟩ rfl)
  · exact refl ch

theorem ping (ch : Channel) : Calm ch (ch.ping cfg conn id accept) := by
  unfold Channel.ping
  split
  · exact send _ _ _
  · exact refl ch

theorem noteReset (ch : Channel) (out : SlotOut) :
    Calm ch (Channel.noteReset cfg ch conn id slot out) := by
  have hbase : Calm ch (if out.frames = [] then ch
      else ch.setConn conn { ch.conn conn with refusedLast := false }) := by
    split
    · exact refl ch
    · exact setConn ⟨fun h => h, fun h => h, fun h => h⟩ rfl
  unfold Channel.noteReset
  dsimp only
  split
  · exact hbase
  · exact hbase.trans ⟨⟨rfl, fun _ => .refl _, fun _ h => h⟩, rfl, fun _ => rfl, fun _ => rfl⟩

theorem noteAccepted {role : Role} (ch : Channel) : Calm ch (ch.noteAccepted role conn frame) := by
  unfold Channel.noteAccepted
  split
  · exact setConn ⟨id, id, id⟩ rfl
  · exact refl ch

end Calm

theorem Channel.apply_events (ch : Channel) (conn : Lane) (id : Nat) (out : SlotOut) :
    (ch.apply conn id out).events = ch.events ++ out.events.map fun kind => ⟨id, kind⟩ := by
  unfold Channel.apply
  split <;> rfl

theorem Channel.apply_slot (ch : Channel) (conn : Lane) (id : Nat) (out : SlotOut) :
    (ch.apply conn id out).slot id = out.slot := by
  unfold Channel.apply
  split
  next after hafter =>
    rw [hafter]
    exact ch.slot_put id after
  rename_i hnone
  rw [hnone]
  exact ch.slot_free conn id

theorem Channel.apply_slot_of_ne (ch : Channel) (conn : Lane) {other : Nat} (hne : other ≠ id)
    (out : SlotOut) : (ch.apply conn id out).slot other = ch.slot other := by
  unfold Channel.apply
  split
  · exact ch.slot_put_of_ne hne _
  · exact ch.slot_free_of_ne conn hne

namespace Changes

variable {role : Role} {cfg : ChannelConfig} {input : Option ChannelFrame}
  {ch ch' : Channel}

/-- No stream is touched. -/
theorem quiet (hkept : Kept ch ch') (hevents : ch'.events = ch.events)
    (hslot : ∀ id, ch'.slot id = ch.slot id) : Changes role cfg input ch ch' := by
  refine ⟨hkept, [], by rw [hevents, append_nil], fun id => ?_⟩
  rw [hslot]
  exact .same _

theorem refl (role : Role) (cfg : ChannelConfig) (input : Option ChannelFrame)
    (ch : Channel) : Changes role cfg input ch ch :=
  quiet (.refl ch) rfl fun _ => rfl

theorem of_calm (h : Calm ch ch') : Changes role cfg input ch ch' :=
  quiet h.kept h.events h.slot

theorem calm {ch'' : Channel} (h : Changes role cfg input ch ch') (h' : Calm ch' ch'') :
    Changes role cfg input ch ch'' := by
  obtain ⟨hkept, new, hevents, hstreams⟩ := h
  refine ⟨hkept.trans h'.kept, new, h'.events.trans hevents, fun id => ?_⟩
  rw [h'.slot]
  exact hstreams id

/-- One stream is touched. -/
theorem one {id : Nat} {kinds : List EventKind} (hkept : Kept ch ch')
    (hevents : ch'.events = ch.events ++ kinds.map fun kind => ⟨id, kind⟩)
    (hother : ∀ other, other ≠ id → ch'.slot other = ch.slot other)
    (hchange : SlotChange role cfg ch.localDraining input id (ch.slot id) kinds
      (ch'.slot id)) : Changes role cfg input ch ch' := by
  refine ⟨hkept, _, hevents, fun other => ?_⟩
  rcases eq_or_ne other id with rfl | hne
  · rwa [kindsOf_self]
  · rw [kindsOf_of_ne hne, hother other hne]
    exact .same _

end Changes

/-! ## Local actions -/

section Acts

variable {role : Role} {cfg : ChannelConfig} {input : Option ChannelFrame}
  {ch ch' : Channel}

/-- A drain that is asked for again. -/
theorem beginDrain_quiet (hdraining : ch.localDraining = true) :
    Changes role cfg input ch ch.beginDrain := by
  refine .quiet ⟨hdraining.symm, fun c => ?_, fun _ h => h⟩ rfl fun _ => rfl
  dsimp only [Channel.beginDrain, startLocal]
  split
  · exact .refl _
  · exact ⟨fun _ => rfl, fun h => h, fun h => h⟩

/-- The numbers of an endpoint go up by two. -/
theorem nextLocal_next (role : Role) (h : ch.NextLocal role) (hid : ch.nextLocalStreamId ≠ 0)
    (hnext : (if uint32Max - 2 < ch.nextLocalStreamId then 0
      else ch.nextLocalStreamId + 2) ≠ 0) :
    streamIdIsLocal role (if uint32Max - 2 < ch.nextLocalStreamId then 0
      else ch.nextLocalStreamId + 2) = true := by
  have hbefore := h hid
  split
  next hlast =>
    rw [if_pos hlast] at hnext
    exact absurd rfl hnext
  · unfold streamIdIsLocal at hbefore ⊢
    cases role <;> simp at hbefore ⊢ <;> omega

/-- What a locked section on a slot does to the channel. -/
theorem apply_changes {conn : Lane} {id : Nat} {out : SlotOut}
    (hchange : SlotChange role cfg ch.localDraining input id (ch.slot id) out.events
      out.slot) : Changes role cfg input ch (ch.apply conn id out) := by
  refine .one (.apply _ _ _ _) (ch.apply_events conn id out)
    (fun other hne => ch.apply_slot_of_ne conn hne out) ?_
  rwa [ch.apply_slot conn id out]

end Acts

section Admit

variable {ch : Channel} {conn : Lane}

theorem admit_events (id : Nat) (slot : StreamSlot) :
    (ch.admitStream conn id slot).events = ch.events ++ [⟨id, .opened⟩] := rfl

theorem admit_slot (id : Nat) (slot : StreamSlot) : (ch.admitStream conn id slot).slot id =
      some { slot with state := .opened, openedNotified := true } :=
  ch.slot_put id _

theorem admit_slot_of_ne {id other : Nat} (hne : other ≠ id) (slot : StreamSlot) :
    (ch.admitStream conn id slot).slot other = ch.slot other :=
  ch.slot_put_of_ne hne _

end Admit

/-! ## Streams that wait for their credit -/

/-- A stream that waits for its credit has its connection to itself. -/
structure HeldOk (cfg : ChannelConfig) (ch : Channel) : Prop where
  accepting : ∀ id slot, ch.slot id = some slot → slot.state = .accepting →
    (ch.conn (channelConnection cfg.mode slot.lane)).pendingOpen = some id
  pending : ∀ conn id, (ch.conn conn).pendingOpen = some id →
    (ch.conn conn).rxHeld = true ∧ (ch.conn conn).refusing = none ∧
      (ch.conn conn).pendingRefused = none ∧
      ∃ slot, ch.slot id = some slot ∧ slot.state = .accepting ∧
        channelConnection cfg.mode slot.lane = conn
  refused : ∀ conn id, (ch.conn conn).pendingRefused = some id → (ch.conn conn).rxHeld = true

namespace HeldOk

variable {role : Role} {cfg : ChannelConfig} {input : Option ChannelFrame} {ch ch' : Channel}

theorem init (role : Role) : HeldOk cfg (.init role) where
  accepting _ _ h := nomatch h
  pending _ _ h := nomatch h
  refused _ _ h := nomatch h

section

variable (h : HeldOk cfg ch)

include h

/-- The streams that wait stay the same. -/
theorem congr (hhold : ∀ c, (ch'.conn c).hold = (ch.conn c).hold)
    (hslot : ∀ id slot, slot.state = .accepting →
      (ch'.slot id = some slot ↔ ch.slot id = some slot)) : HeldOk cfg ch' := by
  have hfields : ∀ c, (ch'.conn c).pendingOpen = (ch.conn c).pendingOpen ∧
      (ch'.conn c).refusing = (ch.conn c).refusing ∧
      (ch'.conn c).pendingRefused = (ch.conn c).pendingRefused ∧
      (ch'.conn c).rxHeld = (ch.conn c).rxHeld := by
    intro c
    simpa [ConnState.hold] using hhold c
  refine ⟨fun id slot hs hstate => ?_, fun conn id hopen => ?_, fun conn id href => ?_⟩
  · rw [(hfields _).1]
    exact h.accepting id slot ((hslot id slot hstate).mp hs) hstate
  · obtain ⟨hpending, hrefusing, hrefused, hheld⟩ := hfields conn
    rw [hpending] at hopen
    rw [hrefusing, hrefused, hheld]
    obtain ⟨h1, h2, h3, slot, hs, hstate, hlane⟩ := h.pending conn id hopen
    exact ⟨h1, h2, h3, slot, (hslot id slot hstate).mpr hs, hstate, hlane⟩
  · obtain ⟨-, -, hrefused, hheld⟩ := hfields conn
    rw [hheld]
    rw [hrefused] at href
    exact h.refused conn id href

/-- No stream changes, and every connection keeps its hold. -/
theorem quiet (hhold : ∀ c, (ch'.conn c).hold = (ch.conn c).hold)
    (hslot : ∀ id, ch'.slot id = ch.slot id) : HeldOk cfg ch' :=
  h.congr hhold fun id _ _ => by rw [hslot id]

theorem calm (hcalm : Calm ch ch') : HeldOk cfg ch' :=
  h.quiet hcalm.hold hcalm.slot

theorem send (conn : Lane) (frames : List ChannelFrame) :
    HeldOk cfg (ch.send conn frames) :=
  h.calm (.send ch conn frames)

theorem notify (id : Nat) (kinds : List EventKind) :
    HeldOk cfg (ch.notify id kinds) :=
  h.quiet (fun _ => rfl) fun _ => rfl

/-- A stream that does not wait is written. -/
theorem put {after : StreamSlot}
    (hbefore : ∀ slot, ch.slot id = some slot → slot.state ≠ .accepting)
    (hafter : after.state ≠ .accepting) : HeldOk cfg (ch.put id after) := by
  refine h.congr (fun _ => rfl) fun other slot hstate => ?_
  rcases eq_or_ne other id with rfl | hne
  · rw [slot_put]
    constructor
    · intro heq
      cases heq
      exact absurd hstate hafter
    · intro heq
      exact absurd hstate (hbefore slot heq)
  · rw [slot_put_of_ne _ hne]

/-- A stream is freed, whether it waits or not. -/
theorem free (hslot : ch.slot id = some slot) :
    HeldOk cfg (ch.free (channelConnection cfg.mode slot.lane) id) := by
  have hconn : ∀ c, ((ch.free (channelConnection cfg.mode slot.lane) id).conn c).refusing =
        (ch.conn c).refusing ∧
      ((ch.free (channelConnection cfg.mode slot.lane) id).conn c).pendingRefused =
        (ch.conn c).pendingRefused ∧
      ((ch.free (channelConnection cfg.mode slot.lane) id).conn c).rxHeld = (ch.conn c).rxHeld := by
    intro c
    rcases eq_or_ne c (channelConnection cfg.mode slot.lane) with rfl | hne
    · simp
    · simp [hne]
  -- the wait of another stream is not touched, that of this one ends
  have hopen : ∀ c other, ((ch.free (channelConnection cfg.mode slot.lane) id).conn c).pendingOpen =
      some other ↔ (ch.conn c).pendingOpen = some other ∧ other ≠ id := by
    intro c other
    rcases eq_or_ne c (channelConnection cfg.mode slot.lane) with rfl | hne
    · simp only [free_conn, update_self]
      grind
    · simp only [free_conn, update_of_ne hne]
      constructor
      · intro hsome
        refine ⟨hsome, ?_⟩
        rintro rfl
        obtain ⟨-, -, -, slot', hslot', -, hlane⟩ := h.pending c other hsome
        cases hslot.symm.trans hslot'
        exact hne hlane.symm
      · exact And.left
  refine ⟨fun other s hs hstate => ?_, fun c other hsome => ?_, fun c other href => ?_⟩
  · rcases eq_or_ne other id with rfl | hne
    · rw [slot_free] at hs
      cases hs
    · rw [slot_free_of_ne _ _ hne] at hs
      exact (hopen _ _).mpr ⟨h.accepting other s hs hstate, hne⟩
  · obtain ⟨hsome, hne⟩ := (hopen c other).mp hsome
    obtain ⟨h1, h2, h3⟩ := hconn c
    rw [h1, h2, h3]
    obtain ⟨h1, h2, h3, s, hs, hstate, hlane⟩ := h.pending c other hsome
    refine ⟨h1, h2, h3, s, ?_, hstate, hlane⟩
    rw [slot_free_of_ne _ _ hne]
    exact hs
  · obtain ⟨-, h2, h3⟩ := hconn c
    rw [h3]
    rw [h2] at href
    exact h.refused c other href

/-- A locked section on a stream that does not wait. -/
theorem apply {id : Nat} {slot : StreamSlot} {out : SlotOut}
    (hslot : ch.slot id = some slot) (hstate : slot.state ≠ .accepting)
    (hafter : ∀ after, out.slot = some after → after.state ≠ .accepting) :
    HeldOk cfg (ch.apply (channelConnection cfg.mode slot.lane) id out) := by
  unfold Channel.apply
  split
  next after heq =>
    refine ((h.put ?_ (hafter after heq)).send _ _).notify _ _
    intro slot' hslot'
    cases hslot.symm.trans hslot'
    exact hstate
  · exact ((h.free hslot).send _ _).notify _ _

/-- A connection changes on which no stream waits. -/
theorem setIdle {conn : Lane} {state : ConnState}
    (hbefore : (ch.conn conn).pendingOpen = none) (hafter : state.pendingOpen = none)
    (hheld : ∀ id, state.pendingRefused = some id → state.rxHeld = true) :
    HeldOk cfg (ch.setConn conn state) := by
  refine ⟨fun id slot hs hstate => ?_, fun c id hopen => ?_, fun c id href => ?_⟩
  · have hpending := h.accepting id slot hs hstate
    have hne : channelConnection cfg.mode slot.lane ≠ conn := by
      rintro rfl
      rw [hbefore] at hpending
      cases hpending
    rw [setConn_conn, update_of_ne hne]
    exact hpending
  · rw [setConn_conn, update_apply] at hopen ⊢
    split
    · simp_all
    next hne => exact h.pending c id (by rwa [if_neg hne] at hopen)
  · have hold := h.refused c id
    rw [setConn_conn, update_apply] at href ⊢
    grind

theorem pendingOpen_eq_none (hheld : (ch.conn conn).rxHeld = false) :
    (ch.conn conn).pendingOpen = none :=
  Option.eq_none_iff_forall_ne_some.2 fun id hopen => by
    rw [(h.pending conn id hopen).1] at hheld
    cases hheld

/-- Nothing is read from the connection of a stream that waits. -/
theorem ne_accepting (hblocked : ¬ (ch.conn conn).blocked = true)
    (hslot : ch.slot id = some slot) (hlane : channelConnection cfg.mode slot.lane = conn) :
    slot.state ≠ .accepting := by
  intro hstate
  have hpending := h.accepting id slot hslot hstate
  rw [hlane] at hpending
  have hheld := (h.pending conn id hpending).1
  exact hblocked (by simp [ConnState.blocked, hheld])

/-! ### Local actions -/

theorem beginDrain : HeldOk cfg ch.beginDrain := by
  refine h.quiet (fun c => ?_) fun _ => rfl
  dsimp only [Channel.beginDrain, startLocal]
  split <;> rfl

theorem refuse : Changes role cfg input ch (ch.refuse conn accept) ∧
    HeldOk cfg (ch.refuse conn accept) := by
  unfold Channel.refuse
  split
  · exact ⟨.refl .., h⟩
  rename_i hrefusing
  -- the connection that refuses a stream has none that waits
  have hopen : (ch.conn conn).pendingOpen = none :=
    Option.eq_none_iff_forall_ne_some.2 fun other hopen => by
      rw [(h.pending conn other hopen).2.1] at hrefusing
      cases hrefusing
  split
  · refine ⟨.quiet ((Kept.send _ _ _).trans (.setConn ⟨id, id, id⟩)) rfl
      fun _ => rfl, (h.send conn _).setIdle ?_ ?_ fun other href => ?_⟩
    · simpa using hopen
    · simpa using hopen
    · have href' : (ch.conn conn).pendingRefused = some other := by simpa using href
      simpa using h.refused conn other href'
  · exact ⟨.quiet (.setConn ⟨id, id, id⟩) rfl fun _ => rfl,
      h.setIdle hopen hopen fun _ _ => rfl⟩

theorem refusalProgress :
    Changes role cfg input ch (ch.refusalProgress cfg conn accept) ∧
      HeldOk cfg (ch.refusalProgress cfg conn accept) := by
  unfold Channel.refusalProgress
  split
  · exact ⟨.refl .., h⟩
  rename_i hpending
  have hopen : (ch.conn conn).pendingOpen = none :=
    Option.eq_none_iff_forall_ne_some.2 fun other hopen => by
      rw [(h.pending conn other hopen).2.2.1] at hpending
      cases hpending
  split
  · exact ⟨.quiet (.setConn ⟨id, id, id⟩) rfl fun _ => rfl,
      h.setIdle hopen hopen nofun⟩
  split
  · exact ⟨.refl .., h⟩
  split
  · exact ⟨.refl .., h⟩
  refine ⟨.quiet ((Kept.send _ _ _).trans (.setConn ⟨id, id, id⟩)) rfl
    fun _ => rfl, (h.send conn _).setIdle ?_ ?_ nofun⟩
  · simpa using hopen
  · simpa using hopen

/-- `tr_stream_open` leaves a new stream or none. -/
theorem openStream {lane : Lane} (hlocal : ch.NextLocal role) :
    Changes role cfg input ch (ch.openStream cfg lane accept).2 ∧
      HeldOk cfg (ch.openStream cfg lane accept).2 := by
  unfold Channel.openStream
  dsimp only
  have hstays := @nextLocal_next ch
  generalize (if uint32Max - 2 < ch.nextLocalStreamId then 0
    else ch.nextLocalStreamId + 2) = next at hstays ⊢
  split
  · exact ⟨.refl .., h⟩
  rename_i hopen
  split
  · exact ⟨.refl .., h⟩
  split
  · exact ⟨.refl .., h⟩
  rename_i hid
  have hnext : Kept ch { ch with nextLocalStreamId := next } :=
    ⟨rfl, fun _ => .refl _, fun role h => hstays role h hid⟩
  have hheld : HeldOk cfg { ch with nextLocalStreamId := next } :=
    h.quiet (fun _ => rfl) fun _ => rfl
  split
  · exact ⟨.quiet hnext rfl fun _ => rfl, hheld⟩
  rename_i hnone
  split
  · exact ⟨.quiet hnext rfl fun _ => rfl, hheld⟩
  split
  · exact ⟨.quiet hnext rfl fun _ => rfl, hheld⟩
  have hbefore : ch.slot ch.nextLocalStreamId = none := Option.not_isSome_iff_eq_none.mp hnone
  refine ⟨@Changes.one _ _ _ _ _ ch.nextLocalStreamId []
    (hnext.trans ((Kept.put _ _ _).trans (.send _ _ _)))
    (append_nil _).symm (fun other hne => ?_) ?_,
    (hheld.put (fun slot hs => ?_) (by simp [streamSlotInit])).send _ _⟩
  · exact slot_put_of_ne _ hne _
  · rw [slot_send, slot_put, hbefore]
    exact .offered lane (Bool.eq_false_iff.mpr fun h => hopen (.inl h)) (hlocal hid)
  · cases hbefore.symm.trans hs

theorem streamStep {op : SlotOp} :
    Changes role cfg input ch (ch.streamStep cfg id op) ∧
      HeldOk cfg (ch.streamStep cfg id op) := by
  unfold Channel.streamStep
  split
  · exact ⟨.refl .., h⟩
  rename_i slot hslot
  split
  · exact ⟨.refl .., h⟩
  rename_i hstate
  have hchange : Changes role cfg input ch (ch.apply (channelConnection cfg.mode slot.lane) id
        (slotStep cfg (ch.lane slot.lane) slot op)) := by
    refine apply_changes ?_
    rw [hslot]
    exact .operated slot _ op hstate
  have happly := @apply cfg ch h id slot
    (slotStep cfg (ch.lane slot.lane) slot op) hslot hstate (slotStep_awake hstate op)
  split
  · exact ⟨hchange.calm (.noteReset _ _), happly.calm (.noteReset _ _)⟩
  · exact ⟨hchange, happly⟩

/-- A new stream is admitted at once. -/
theorem admitStream (hnone : ch.slot id = none) :
    HeldOk cfg (ch.admitStream conn id slot) := by
  have hput : HeldOk cfg (ch.put id
      { slot with state := .opened, openedNotified := true }) := by
    refine h.put (fun s hs => ?_) nofun
    rw [hnone] at hs
    cases hs
  refine hput.quiet (fun c => ?_) fun _ => rfl
  rcases eq_or_ne c conn with rfl | hne
  · simp [ConnState.hold, Channel.admitStream]
  · simp [ConnState.hold, Channel.admitStream, hne]

/-- The initial credit of the stream that waits is accepted. -/
theorem granted (hopen : (ch.conn conn).pendingOpen = some id)
    (hslot : ch.slot id = some slot) : HeldOk cfg ((ch.admitStream conn id slot).setConn conn
      { (ch.admitStream conn id slot).conn conn with pendingOpen := none, rxHeld := false }) := by
  obtain ⟨-, -, hrefused, slot', hslot', hstate, hlane⟩ := h.pending conn id hopen
  cases hslot.symm.trans hslot'
  have hfree := h.free hslot
  rw [hlane] at hfree
  have hput : HeldOk cfg ((ch.free conn id).put id
      { slot with state := .opened, openedNotified := true }) := by
    refine hfree.put (fun s hs => ?_) nofun
    rw [slot_free] at hs
    cases hs
  have hidle := @setIdle cfg _ hput conn
    { ch.conn conn with pendingOpen := none, rxHeld := false }
    (by simp [hopen]) rfl (fun other href => by rw [show
      (ch.conn conn).pendingRefused = some other from href] at hrefused; cases hrefused)
  refine hidle.quiet (fun c => ?_) fun other => ?_
  · rcases eq_or_ne c conn with rfl | hne
    · simp [ConnState.hold, Channel.admitStream]
    · simp [ConnState.hold, Channel.admitStream, hne]
  · rcases eq_or_ne other id with rfl | hne
    · simp [Channel.admitStream]
    · simp [Channel.admitStream, slot_put_of_ne _ hne, slot_free_of_ne _ _ hne]

theorem openProgress : Changes role cfg input ch (ch.openProgress conn accept) ∧
    HeldOk cfg (ch.openProgress conn accept) := by
  unfold Channel.openProgress
  split
  · exact ⟨.refl .., h⟩
  rename_i id hopen
  split
  · exact ⟨.refl .., h⟩
  rename_i slot hslot
  obtain ⟨-, -, hrefused, slot', hslot', hstate, hlane⟩ := h.pending conn id hopen
  cases hslot.symm.trans hslot'
  split
  · have hfree := h.free hslot
    rw [hlane] at hfree
    refine ⟨@Changes.one _ _ _ _ _ id [] ((Kept.free _ _ _).trans
        (.setConn ⟨fun h => h, fun h => h, fun h => h⟩))
      (append_nil _).symm (fun other hne => ch.slot_free_of_ne conn hne) ?_,
      hfree.setIdle (by simp [hopen]) (by simp [hopen]) fun other href => ?_⟩
    · rw [slot_setConn, slot_free, hslot]
      exact .withdrawn slot hstate
    · simp [hrefused] at href
  rename_i hrunning
  split
  · exact ⟨.refl .., h⟩
  refine ⟨@Changes.one _ _ _ _ _ id [.opened] ((Kept.admitStream _ _ _ _).trans
      (.setConn ⟨fun h => h, fun h => h, fun h => h⟩))
    (admit_events _ _) (fun other hne => ?_) ?_, h.granted hopen hslot⟩
  · exact @admit_slot_of_ne ch conn id other hne slot
  · rw [slot_setConn, admit_slot, hslot]
    exact .granted slot (Bool.eq_false_iff.mpr fun h => hrunning (.inl h)) hstate

/-! ### Frames -/

/-- The peer's stream starts to wait. -/
theorem arrived {lane : Lane} {window : Nat}
    (hblocked : ¬ (ch.conn conn).blocked = true) (hlane : channelConnection cfg.mode lane = conn)
    (hnone : ch.slot id = none) :
    HeldOk cfg ((ch.put id { streamSlotInit cfg id lane .accepting with
        txSendLimit := window
        txWindowBytes := window }).setConn conn { ch.conn conn with
      pendingOpen := some id
      rxHeld := true }) := by
  simp only [ConnState.blocked, Bool.or_eq_true, not_or, Bool.not_eq_true,
    Option.isSome_eq_false_iff, Option.isNone_iff_eq_none] at hblocked
  obtain ⟨hheld, hrefusing⟩ := hblocked
  have hopen := h.pendingOpen_eq_none hheld
  have hrefused : (ch.conn conn).pendingRefused = none :=
    Option.eq_none_iff_forall_ne_some.2 fun other href => by
      rw [h.refused conn other href] at hheld
      cases hheld
  have hother : ∀ other, other ≠ id → ∀ s, (ch.put id s).slot other = ch.slot other :=
    fun other hne s => ch.slot_put_of_ne hne s
  refine ⟨fun other slot hs hstate => ?_, fun c other hsome => ?_, fun c other href => ?_⟩
  · rw [slot_setConn] at hs
    rw [setConn_conn]
    rcases eq_or_ne other id with rfl | hne
    · rw [slot_put] at hs
      cases hs
      rw [show channelConnection cfg.mode (streamSlotInit cfg other lane .accepting).lane =
        conn from hlane, update_self]
    · rw [hother other hne] at hs
      have hpending := h.accepting other slot hs hstate
      have hne' : channelConnection cfg.mode slot.lane ≠ conn := by
        rintro rfl
        rw [hopen] at hpending
        cases hpending
      rw [update_of_ne hne']
      exact hpending
  · rw [setConn_conn] at hsome ⊢
    rcases eq_or_ne c conn with rfl | hne
    · rw [update_self] at hsome ⊢
      cases hsome
      exact ⟨rfl, hrefusing, hrefused, _, ch.slot_put _ _, rfl, hlane⟩
    rw [update_of_ne hne] at hsome ⊢
    obtain ⟨h1, h2, h3, s, hs, hstate, hslane⟩ := h.pending c other hsome
    refine ⟨h1, h2, h3, s, ?_, hstate, hslane⟩
    rw [slot_setConn, hother other ?_]
    · exact hs
    · rintro rfl
      rw [hnone] at hs
      cases hs
  · rw [setConn_conn, update_apply] at href ⊢
    split
    · rfl
    next hne => exact h.refused c other (by rwa [if_neg hne] at href)

end

end HeldOk

/-! ## The cutoff of a GOAWAY -/

/-- The streams that a GOAWAY takes back, one after the other. -/
def withdrawAll (ch : Channel) (conn : Lane) (ids : List Nat) : Channel :=
  ids.foldl (fun ch id => (ch.free conn id).notify id [.error Status.errClosed.code]) ch

section Withdraw

variable {cfg : ChannelConfig} {conn : Lane}

theorem withdrawAll_kept (ids : List Nat) (ch : Channel) : Kept ch (withdrawAll ch conn ids) := by
  induction ids generalizing ch with
  | nil => exact .refl ch
  | cons id rest ih =>
    exact ((Kept.free ch conn id).trans (.notify _ _ _)).trans (ih _)

theorem withdrawAll_events (ids : List Nat) (ch : Channel) : (withdrawAll ch conn ids).events =
      ch.events ++ ids.map fun id => ⟨id, .error Status.errClosed.code⟩ := by
  induction ids generalizing ch with
  | nil => exact (append_nil _).symm
  | cons id rest ih =>
    refine (ih _).trans ?_
    simp

theorem withdrawAll_slot (ids : List Nat) (ch : Channel) (id : Nat) :
    (withdrawAll ch conn ids).slot id = if id ∈ ids then none else ch.slot id := by
  induction ids generalizing ch with
  | nil => rfl
  | cons first rest ih =>
    refine (ih _).trans ?_
    rcases eq_or_ne id first with rfl | hne
    · simp
    · simp [hne, slot_free_of_ne _ _ hne]

theorem HeldOk.withdrawAll {ids : List Nat} {ch : Channel} (h : HeldOk cfg ch)
    (hnodup : ids.Nodup) (hids : ∀ id ∈ ids, ∃ slot, ch.slot id = some slot ∧
      channelConnection cfg.mode slot.lane = conn) :
    HeldOk cfg (withdrawAll ch conn ids) := by
  induction ids generalizing ch with
  | nil => exact h
  | cons id rest ih =>
    obtain ⟨hfirst, hrest⟩ := nodup_cons.mp hnodup
    obtain ⟨slot, hslot, hlane⟩ := hids id mem_cons_self
    have hfree := h.free hslot
    rw [hlane] at hfree
    refine ih (hfree.notify id _) hrest fun other hmem => ?_
    obtain ⟨s, hs, hl⟩ := hids other (mem_cons_of_mem _ hmem)
    refine ⟨s, ?_, hl⟩
    rw [slot_notify, slot_free_of_ne _ _ ?_]
    · exact hs
    · rintro rfl
      exact hfirst hmem

/-- A list without repetitions tells every stream once. -/
theorem kindsOf_each {ids : List Nat} (hnodup : ids.Nodup) (kind : EventKind) (id : Nat) :
    kindsOf (ids.map fun id => ⟨id, kind⟩) id = if id ∈ ids then [kind] else [] := by
  induction ids with
  | nil => rfl
  | cons first rest ih =>
    obtain ⟨hfirst, hrest⟩ := nodup_cons.mp hnodup
    rw [map_cons, ← singleton_append, kindsOf_append, ih hrest]
    rcases eq_or_ne id first with rfl | hne
    · simp [kindsOf, hfirst]
    · simp [kindsOf, hne, hne.symm]

end Withdraw

section Frames

variable {role : Role} {cfg : ChannelConfig} {ch ch' : Channel} {conn : Lane}
  {frame : ChannelFrame}

theorem mem_localOn : (id, slot) ∈ localOn role cfg ch conn ↔
      ch.slot id = some slot ∧ streamIdIsLocal role id = true ∧
        channelConnection cfg.mode slot.lane = conn := by
  simp only [localOn, mem_filter, mem_map, Prod.mk.injEq,
    decide_eq_true_eq, Channel.slot]
  constructor
  · rintro ⟨⟨entry, hentry, rfl, rfl⟩, hlocal, hlane⟩
    exact ⟨AList.mem_lookup_iff.mpr hentry, hlocal, hlane⟩
  · rintro ⟨hslot, hlocal, hlane⟩
    exact ⟨⟨⟨id, slot⟩, AList.mem_lookup_iff.mp hslot, rfl, rfl⟩, hlocal, hlane⟩

theorem localOn_nodup (p : Nat × StreamSlot → Bool) :
    (((localOn role cfg ch conn).filter p).map Prod.fst).Nodup := by
  have hsub : List.Sublist (((localOn role cfg ch conn).filter p).map Prod.fst)
      ((ch.streams.entries.map fun entry => (entry.1, entry.2)).map Prod.fst) :=
    (filter_sublist.trans filter_sublist).map Prod.fst
  refine hsub.nodup ?_
  rw [map_map]
  exact ch.streams.nodupKeys

theorem handleGoaway_changes (hok : Channel.handleGoaway role cfg ch conn frame = .ok ch') :
    Changes role cfg input ch ch' ∧ (HeldOk cfg ch → HeldOk cfg ch') := by
  unfold Channel.handleGoaway at hok
  dsimp only at hok
  obtain ⟨-, hok⟩ := check_eq_ok.mp hok
  obtain ⟨-, hok⟩ := check_eq_ok.mp hok
  split at hok
  · cases hok
    exact ⟨.refl .., id⟩
  obtain ⟨-, hok⟩ := check_eq_ok.mp hok
  generalize hids : ((localOn role cfg ch conn).filter fun entry =>
    entry.2.state = .opening ∧ frame.messageId < entry.1).map Prod.fst = ids at hok
  have hnodup : ids.Nodup := hids ▸ localOn_nodup _
  have hmem : ∀ id ∈ ids, ∃ slot, ch.slot id = some slot ∧
      slot.state = .opening ∧ channelConnection cfg.mode slot.lane = conn := by
    intro id hid
    rw [← hids] at hid
    obtain ⟨⟨id', slot⟩, hentry, rfl⟩ := mem_map.mp hid
    obtain ⟨hentry, hstate⟩ := mem_filter.mp hentry
    obtain ⟨hslot, -, hlane⟩ := mem_localOn.mp hentry
    exact ⟨slot, hslot, (of_decide_eq_true hstate).1, hlane⟩
  -- the channel before the streams are taken back
  generalize hbase : ({ ch.setConn conn (startLocal { ch.conn conn with
      peerStarted := true
      peerCutoff := frame.messageId }) with
    peerDraining := fun lane => decide (lane ∈ Channel.lanesOn cfg.mode conn) ||
      (ch.setConn conn (startLocal { ch.conn conn with
        peerStarted := true
        peerCutoff := frame.messageId })).peerDraining lane } : Channel) = base at hok
  have hkept : Kept ch base := by
    subst hbase
    refine Kept.of_update rfl rfl rfl ?_
    unfold startLocal
    split
    · exact ⟨fun h => h, fun _ => rfl, fun h => h⟩
    · exact ⟨fun _ => rfl, fun _ => rfl, fun h => h⟩
  have hslots : ∀ id, base.slot id = ch.slot id := by
    subst hbase
    exact fun _ => rfl
  have hevents : base.events = ch.events := by
    subst hbase
    rfl
  have hheld : HeldOk cfg ch → HeldOk cfg base := by
    subst hbase
    intro h
    refine h.quiet (fun c => Calm.hold_update ?_ c) fun _ => rfl
    unfold startLocal
    split <;> rfl
  cases hok
  change Changes role cfg input ch (withdrawAll base conn ids) ∧
    (HeldOk cfg ch → HeldOk cfg (withdrawAll base conn ids))
  refine ⟨⟨hkept.trans (withdrawAll_kept ids base), _,
    (withdrawAll_events ids base).trans (by rw [hevents]), fun id => ?_⟩, fun h => ?_⟩
  · rw [withdrawAll_slot, kindsOf_each hnodup, hslots]
    split
    next hid =>
      obtain ⟨slot, hslot, hstate, -⟩ := hmem id hid
      rw [hslot]
      exact .cutOff slot hstate
    · exact .same _
  · refine (hheld h).withdrawAll hnodup fun id hid => ?_
    obtain ⟨slot, hslot, -, hlane⟩ := hmem id hid
    exact ⟨slot, (hslots id).trans hslot, hlane⟩

theorem handleStreamOpen_changes (h : HeldOk cfg ch) (hblocked : ¬ (ch.conn conn).blocked = true)
    (hok : Channel.handleStreamOpen role cfg ch conn frame accept = .ok ch') :
    Changes role cfg input ch ch' ∧ HeldOk cfg ch' := by
  unfold Channel.handleStreamOpen at hok
  dsimp only at hok
  generalize (if frame.flags.laneBulk = true then Lane.bulk else Lane.control) = lane at hok
  obtain ⟨-, hok⟩ := check_eq_ok.mp hok
  obtain ⟨hid, hok⟩ := check_eq_ok.mp hok
  obtain ⟨-, hok⟩ := check_eq_ok.mp hok
  obtain ⟨hnone, hok⟩ := check_eq_ok.mp hok
  simp only [not_or, not_not, Bool.not_eq_true] at hid
  obtain ⟨-, hlane, hpeer⟩ := hid
  have hnone : ch.slot frame.streamId = none := Option.not_isSome_iff_eq_none.mp hnone
  generalize hbase : ch.setConn conn { ch.conn conn with
    peerStreamFrontier := frame.streamId } = base at hok
  have hcalm : Calm ch base := hbase ▸ .setConn ⟨id, id, id⟩ rfl
  obtain ⟨hkept, hevents, hslots, -⟩ := id hcalm
  have hheld := h.calm hcalm
  have hblocked' : ¬ (base.conn conn).blocked = true := by
    subst hbase
    simpa [ConnState.blocked] using hblocked
  split at hok
  · cases hok
    exact ⟨.of_calm hcalm, hheld⟩
  rename_i hrunning
  have hrunning : ch.localDraining = false := by
    rw [← hkept.draining]
    exact Bool.eq_false_iff.mpr fun h => hrunning (.inl h)
  split at hok
  · -- the stream is to be refused
    cases hok
    simp only [ConnState.blocked, Bool.or_eq_true, not_or, Bool.not_eq_true] at hblocked'
    have hopen := hheld.pendingOpen_eq_none hblocked'.1
    have hset := @HeldOk.setIdle cfg base hheld conn
      { base.conn conn with refusing := some frame.streamId } hopen hopen
      fun id href => hheld.refused conn id href
    refine ⟨.quiet (hkept.trans ?_) hevents hslots, hset.quiet (fun _ => rfl) fun _ => rfl⟩
    exact Kept.of_update rfl rfl rfl ⟨id, id, id⟩
  · split at hok
    · -- the stream is admitted at once
      cases hok
      refine ⟨@Changes.one _ _ _ _ _ frame.streamId [.opened] (hkept.trans (.admitStream _ _ _ _))
        ((admit_events _ _).trans (by rw [hevents]; rfl))
        (fun other hne => (admit_slot_of_ne hne _).trans (hslots other)) ?_, ?_⟩
      · rw [admit_slot, hnone]
        exact .admitted lane frame.messageId hrunning hpeer
      · exact hheld.admitStream ((hslots _).trans hnone)
    · -- the stream waits for its credit
      cases hok
      refine ⟨@Changes.one _ _ _ _ _ frame.streamId [] (hkept.trans
          ((Kept.put _ _ _).trans (.setConn ⟨id, id, id⟩)))
        (by rw [map_nil, append_nil]; exact hevents)
        (fun other hne => (slot_put_of_ne _ hne _).trans (hslots other)) ?_, ?_⟩
      · rw [slot_setConn, slot_put, hnone]
        exact .arrived lane frame.messageId hrunning hpeer
      · exact hheld.arrived hblocked' hlane ((hslots _).trans hnone)

theorem handleStreamRefused_changes (h : HeldOk cfg ch)
    (hok : Channel.handleStreamRefused role cfg ch conn frame = .ok ch') :
    Changes role cfg input ch ch' ∧ HeldOk cfg ch' := by
  unfold Channel.handleStreamRefused at hok
  obtain ⟨-, hok⟩ := check_eq_ok.mp hok
  split at hok
  · cases hok
  rename_i slot hslot
  obtain ⟨hstate, hok⟩ := check_eq_ok.mp hok
  simp only [not_or, not_not] at hstate
  obtain ⟨hopening, -, hlane⟩ := hstate
  cases hok
  have hfree := h.free hslot
  rw [hlane] at hfree
  refine ⟨.one ((Kept.free _ _ _).trans (.notify _ _ _)) rfl
    (fun other hne => ch.slot_free_of_ne conn hne) ?_, hfree.notify _ _⟩
  rw [slot_notify, slot_free, hslot]
  exact .refused slot hopening

variable {acquire : Status}

/-- What a frame of a stream does: nothing to any slot, or what the handler of
the slot says. -/
theorem handleStreamFrame_eq_ok (h : HeldOk cfg ch) (hblocked : ¬ (ch.conn conn).blocked = true)
    (hok : Channel.handleStreamFrame role cfg ch conn frame acquire = .ok ch') :
    ch' = ch ∧ ch.slot frame.streamId = none ∨
      ∃ slot out, ch.slot frame.streamId = some slot ∧ slot.state ≠ .accepting ∧
        channelConnection cfg.mode slot.lane = conn ∧
        slotReceive cfg (ch.lane slot.lane) slot frame acquire = .ok out ∧
        ch' = (ch.noteAccepted role conn frame).apply conn frame.streamId out := by
  unfold Channel.handleStreamFrame at hok
  split at hok
  · cases hok
  split at hok
  next hnone =>
    split at hok
    · cases hok
      exact .inl ⟨rfl, hnone⟩
    · cases hok
  next slot hslot =>
    obtain ⟨hlane, hok⟩ := check_eq_ok.mp hok
    split at hok
    · cases hok
    rename_i out hout
    cases hok
    have hlane := not_not.mp hlane
    exact .inr ⟨slot, out, hslot, h.ne_accepting hblocked hslot hlane, hlane, hout, rfl⟩

/-- A stream has been handled on its connection. -/
theorem noteAccepted_apply {out : SlotOut}
    (hchange : SlotChange role cfg ch.localDraining input id (ch.slot id) out.events out.slot) :
    Changes role cfg input ch ((ch.noteAccepted role conn frame).apply conn id out) := by
  have hcalm := @Calm.noteAccepted conn frame role ch
  obtain ⟨hkept', new, hevents', hstreams⟩ :=
    @apply_changes role cfg input (ch.noteAccepted role conn frame) conn id out
      (by rw [hcalm.kept.draining, hcalm.slot]; exact hchange)
  refine ⟨hcalm.kept.trans hkept', new, by rw [hevents', hcalm.events], fun other => ?_⟩
  rw [← hcalm.kept.draining, ← hcalm.slot]
  exact hstreams other

/-- A frame that is not a CLOSE. -/
theorem receive_changes (h : HeldOk cfg ch) (hblocked : ¬ (ch.conn conn).blocked = true)
    (hclose : ∀ slot, ch.slot frame.streamId = some slot →
      frame.type = .streamClose → slot.state = .resetting)
    (hok : ch.receive role cfg conn frame accept acquire = .ok ch') :
    Changes role cfg (some frame) ch ch' ∧ HeldOk cfg ch' := by
  have hstream : Channel.handleStreamFrame role cfg ch conn frame acquire = .ok ch' →
      Changes role cfg (some frame) ch ch' ∧ HeldOk cfg ch' := by
    intro hok
    rcases handleStreamFrame_eq_ok h hblocked hok with
      ⟨rfl, -⟩ | ⟨slot, out, hslot, hstate, hlane, hout, rfl⟩
    · exact ⟨.refl .., h⟩
    refine ⟨noteAccepted_apply ?_, ?_⟩
    · rw [hslot]
      exact .handled slot _ frame acquire out hstate rfl (hclose slot hslot) hout
    · rw [← hlane]
      exact (h.calm (.noteAccepted ch)).apply (((Calm.noteAccepted ch).slot _).trans hslot) hstate
        (slotReceive_awake hstate hout)
  have hquiet : Calm ch ch' → Changes role cfg (some frame) ch ch' ∧ HeldOk cfg ch' :=
    fun hcalm => ⟨.of_calm hcalm, h.calm hcalm⟩
  unfold Channel.receive at hok
  split at hok
  · split at hok
    · exact hquiet (.handleHello hok)
    · exact hquiet (.deferHello hok)
  · exact hquiet (.handleHelloAck hok)
  · obtain ⟨-, hok⟩ := check_eq_ok.mp hok
    split at hok
    · obtain ⟨hchanges, hheld⟩ := handleGoaway_changes hok
      exact ⟨hchanges, hheld h⟩
    · exact handleStreamOpen_changes h hblocked hok
    · exact handleStreamRefused_changes h hok
    · exact hquiet (.handlePing hok)
    · cases hok
      exact ⟨.refl .., h⟩
    iterate 4 · exact hstream hok
    · cases hok

theorem receive_streamClose (htype : frame.type = .streamClose)
    (hok : ch.receive role cfg conn frame accept acquire = .ok ch') :
    Channel.handleStreamFrame role cfg ch conn frame acquire = .ok ch' := by
  unfold Channel.receive at hok
  rw [htype] at hok
  exact (check_eq_ok.mp hok).2

theorem finishClose_events (slot : StreamSlot) : (finishClose slot).events = [] := by
  unfold finishClose
  split
  · rfl
  · split <;> rfl

/-- A CLOSE that reaches an OPEN stream. -/
theorem handleStreamClose_opened {out : SlotOut} (hstate : slot.state ≠ .accepting)
    (hcalm : slot.state ≠ .resetting) (hout : handleStreamClose slot = .ok out) :
    slot.state = .opened ∧ ∃ after, out.slot = some after ∧ after.state = .opened := by
  unfold handleStreamClose at hout
  cases hs : slot.state with
  | opening =>
    rw [hs] at hout
    cases hout
  | accepting => exact absurd hs hstate
  | resetting => exact absurd hs hcalm
  | opened =>
    rw [hs] at hout
    dsimp only at hout
    split at hout
    · cases hout
      exact ⟨rfl, _, rfl, rfl⟩
    · cases hout
      exact ⟨rfl, _, rfl, rfl⟩

/-- Any frame. -/
theorem onFrame_changes (h : HeldOk cfg ch) (hblocked : ¬ (ch.conn conn).blocked = true)
    (hok : Host.onFrame role cfg ch conn frame accept acquire = .ok ch') :
    Changes role cfg (some frame) ch ch' ∧ HeldOk cfg ch' := by
  unfold Host.onFrame at hok
  split at hok
  · cases hok
  rename_i mid hmid
  split at hok
  · -- the second locked section of the close follows
    rename_i hfinish
    obtain ⟨htype, hany⟩ := hfinish
    cases hok
    rcases handleStreamFrame_eq_ok h hblocked (receive_streamClose htype hmid) with
      ⟨-, hnone⟩ | ⟨slot, out, hslot, hstate, hlane, hout, rfl⟩
    · rw [hnone] at hany
      cases hany
    rw [hslot] at hany
    have hreceive := hout
    have hout : handleStreamClose slot = .ok out := by
      unfold slotReceive at hout
      rw [htype] at hout
      exact hout
    obtain ⟨hopened, after, hafter, hstate'⟩ :=
      handleStreamClose_opened hstate (of_decide_eq_true hany) hout
    have hcalm := @Calm.noteAccepted conn frame role ch
    have hheld : HeldOk cfg ((ch.noteAccepted role conn frame).apply conn frame.streamId out) := by
      subst hlane
      exact (h.calm hcalm).apply ((hcalm.slot _).trans hslot) hstate
        (slotReceive_awake hstate hreceive)
    have hmidSlot : ((ch.noteAccepted role conn frame).apply conn frame.streamId
        out).slot frame.streamId = some after :=
      (apply_slot _ _ _ _).trans hafter
    have hstep : Channel.streamStep cfg ((ch.noteAccepted role conn frame).apply conn
        frame.streamId out) frame.streamId .finishClose =
        ((ch.noteAccepted role conn frame).apply conn frame.streamId out).apply
          (channelConnection cfg.mode after.lane) frame.streamId (finishClose after) := by
      unfold Channel.streamStep
      rw [hmidSlot]
      dsimp only
      rw [if_neg (by rw [hstate']; decide)]
      rfl
    refine ⟨?_, (hheld.streamStep : Changes role cfg none _ _ ∧ _).2⟩
    rw [hstep]
    refine @Changes.one _ _ _ _ _ frame.streamId out.events
      (hcalm.kept.trans ((Kept.apply _ _ _ _).trans (.apply _ _ _ _))) ?_
      (fun other hne => ?_) ?_
    · rw [apply_events, apply_events, finishClose_events, hcalm.events,
        map_nil, append_nil]
    · rw [apply_slot_of_ne _ _ hne, apply_slot_of_ne _ _ hne, hcalm.slot]
    · rw [apply_slot, hslot]
      exact .closed slot after frame out hopened rfl htype rfl hout hafter
  next hfinish =>
    cases hok
    refine receive_changes h hblocked (fun slot hslot htype => ?_) hmid
    by_contra hstate
    exact hfinish ⟨htype, by rw [hslot]; exact decide_eq_true hstate⟩

end Frames

section Acts

variable {role : Role} {cfg : ChannelConfig} {input : Option ChannelFrame}
  {ch ch' : Channel}

/-- Any action of the channel, but for the start of the drain. -/
theorem act_changes {action : LocalAction} (h : HeldOk cfg ch)
    (hlocal : ch.NextLocal role) (hdrain : action ≠ .beginDrain)
    (hok : ch.act cfg action = .ok ch') :
    Changes role cfg input ch ch' ∧ HeldOk cfg ch' := by
  have hquiet : Calm ch ch' → Changes role cfg input ch ch' ∧ HeldOk cfg ch' :=
    fun hcalm => ⟨.of_calm hcalm, h.calm hcalm⟩
  cases action with
  | start =>
    cases hok
    exact hquiet (.start ch)
  | startNext accept => exact hquiet (.startNext hok)
  | beginDrain => exact absurd rfl hdrain
  | drainProgress conn =>
    cases hok
    exact hquiet (.drainProgress ch)
  | openStream lane accept =>
    cases hok
    exact h.openStream hlocal
  | openProgress conn accept =>
    cases hok
    exact h.openProgress
  | refuse conn accept =>
    cases hok
    exact h.refuse
  | refusalProgress conn accept =>
    cases hok
    exact h.refusalProgress
  | stream id op =>
    cases hok
    exact h.streamStep
  | ping conn id accept =>
    cases hok
    exact hquiet (.ping ch)

end Acts

end Trpc
