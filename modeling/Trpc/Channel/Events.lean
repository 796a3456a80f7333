import Trpc.Channel.Drain

/-!
# The notifications of a stream

What the application hears about one stream handle, whoever the peer is.
`Disciplined` is the order that it relies on: a stream is opened once and first,
each half ends once, and nothing comes after the last notification.

The order does not hold of every run.  `tr_channel_handle_stream_close` does not
look whether the remote half is closed already, and
`tr_channel_fail_lane_streams` tells the application about a stream that was
never admitted.  `Orderly` are the steps without these two, and `Heard` is what
they keep: what a slot has told so far.
-/

namespace Trpc

open List Option

/-- The notifications of one stream handle. -/
def Host.eventsOf (s : Host) (ref : StreamRef) : List EventKind :=
  (s.log.filter fun entry => entry.1 = ref).map Prod.snd

/-- The order of the notifications of a stream.  `peer` says that the peer has
opened it. -/
structure Disciplined (peer : Bool) (events : List EventKind) : Prop where
  opened : events.count .opened ≤ 1
  first : peer = true → ∀ kind rest, events = kind :: rest → kind = .opened
  remoteClosed : events.count .remoteClosed ≤ 1
  reset : events.countP EventKind.isReset ≤ 1
  terminal : events.countP EventKind.isTerminal ≤ 1
  last : ∀ before kind after, events = before ++ kind :: after → kind.isTerminal = true → after = []

/-- What a stream that is still there has told. -/
structure Heard (peer : Bool) (slot : StreamSlot) (events : List EventKind) : Prop where
  plain : ∀ kind ∈ events, kind.isTerminal = false
  opened : events.count .opened ≤ 1
  unopened : slot.state = .opening → .opened ∉ events
  waiting : slot.state = .accepting → events = []
  first : peer = true → slot.state ≠ .accepting → events.head? = some .opened
  remote : events.count .remoteClosed ≤ 1
  remoteOpen : slot.remoteOpen = true → .remoteClosed ∉ events
  reset : events.countP EventKind.isReset ≤ 1
  notified : slot.resetNotified = false → ∀ kind ∈ events, kind.isReset = false

section Lists

variable {peer : Bool} {slot after : StreamSlot} {events new : List EventKind}

theorem head_append (hfirst : events.head? = some .opened) :
    ∀ kind rest, events ++ new = kind :: rest → kind = .opened := by
  intro kind rest heq
  cases events with
  | nil => cases hfirst
  | cons head tail =>
    cases hfirst
    cases heq
    rfl

section

variable (h : Heard peer slot events)

include h

/-- A stream that has not ended is in order. -/
theorem Heard.disciplined : Disciplined peer events where
  opened := h.opened
  first hpeer kind rest heq := by
    by_cases hstate : slot.state = .accepting
    · rw [h.waiting hstate] at heq
      cases heq
    · exact @head_append events [] (h.first hpeer hstate) kind rest (by rw [append_nil, heq])
  remoteClosed := h.remote
  reset := h.reset
  terminal := by
    have hzero : events.countP EventKind.isTerminal = 0 :=
      countP_eq_zero.mpr fun kind hkind => by simp [h.plain kind hkind]
    omega
  last before kind after heq hkind := by
    have hmem : kind ∈ events := heq ▸ mem_append_right _ mem_cons_self
    rw [h.plain kind hmem] at hkind
    cases hkind

/-- The last notification comes once and at the end. -/
theorem Heard.finish {last : EventKind}
    (hstate : slot.state ≠ .accepting) (hlast : last.isTerminal = true) :
    Disciplined peer (events ++ [last]) where
  opened := by
    have hne : last ≠ .opened := by
      rintro rfl
      cases hlast
    rw [count_append, count_singleton]
    simp [hne, h.opened]
  first hpeer kind rest heq := head_append (h.first hpeer hstate) kind rest heq
  remoteClosed := by
    have hne : last ≠ .remoteClosed := by
      rintro rfl
      cases hlast
    rw [count_append, count_singleton]
    simp [hne, h.remote]
  reset := by
    have hne : last.isReset = false := by
      cases last <;> first | rfl | cases hlast
    rw [countP_append, countP_singleton]
    simp [hne, h.reset]
  terminal := by
    have hzero : events.countP EventKind.isTerminal = 0 :=
      countP_eq_zero.mpr fun kind hkind => by simp [h.plain kind hkind]
    rw [countP_append, countP_singleton]
    simp [hzero, hlast]
  last before kind after heq hkind := by
    -- a terminal notification before the end would be one of `events`
    rcases append_eq_append_iff.mp heq with ⟨mid, hbefore, hmid⟩ | ⟨mid, hbefore, hmid⟩
    · cases mid with
      | nil =>
        have hcons : [last] = kind :: after := by simpa using hmid
        cases hcons
        rfl
      | cons head tail =>
        obtain ⟨-, hnil⟩ := cons.inj hmid
        cases tail <;> cases hnil
    · cases mid with
      | nil =>
        have hcons : kind :: after = [last] := by simpa using hmid
        cases hcons
        rfl
      | cons head tail =>
        obtain ⟨rfl, -⟩ := cons.inj hmid
        have hmem : kind ∈ events := hbefore ▸ mem_append_right _ mem_cons_self
        rw [h.plain kind hmem] at hkind
        cases hkind

/-- A section that keeps the slot. -/
theorem Heard.tells (hstate : slot.state ≠ .accepting)
    (htells : Tells slot after new) : Heard peer after (events ++ new) where
  plain kind hkind := by
    rcases mem_append.mp hkind with hold | hnew
    · exact h.plain kind hold
    · exact (htells.plain kind hnew).1
  opened := by
    rw [count_append]
    by_cases hopened : .opened ∈ new
    · have hzero := count_eq_zero.mpr (h.unopened (htells.opened hopened).1)
      have hle := count_le_length (a := EventKind.opened) (l := new)
      have hsingle := htells.single
      omega
    · rw [count_eq_zero.mpr hopened]
      exact h.opened
  unopened hopening hmem := by
    rcases mem_append.mp hmem with hold | hnew
    · exact h.unopened (htells.opening hopening) hold
    have hstate' := (htells.opened hnew).2
    rw [hopening] at hstate'
    cases hstate'
  waiting hwait := absurd hwait htells.accepting
  first hpeer _ := by
    have hhead := h.first hpeer hstate
    cases events with
    | nil => cases hhead
    | cons head tail => exact hhead
  remote := by
    have hnone : EventKind.remoteClosed ∉ new := fun hmem => (htells.plain _ hmem).2 rfl
    rw [count_append, count_eq_zero.mpr hnone]
    exact h.remote
  remoteOpen hopen hmem := by
    rcases mem_append.mp hmem with hold | hnew
    · exact h.remoteOpen (htells.remote hopen) hold
    · exact (htells.plain _ hnew).2 rfl
  reset := by
    rw [countP_append]
    by_cases hreset : ∃ kind ∈ new, kind.isReset = true
    · obtain ⟨kind, hkind, hisReset⟩ := hreset
      have hbefore := h.notified (htells.reset kind hkind hisReset).1
      have hzero : events.countP EventKind.isReset = 0 :=
        countP_eq_zero.mpr fun k hk => by simp [hbefore k hk]
      have hle := countP_le_length (p := EventKind.isReset) (l := new)
      have hsingle := htells.single
      omega
    · have hzero : new.countP EventKind.isReset = 0 :=
        countP_eq_zero.mpr fun k hk hr => hreset ⟨k, hk, hr⟩
      rw [hzero]
      exact h.reset
  notified hnot kind hkind := by
    rcases mem_append.mp hkind with hold | hnew
    · refine h.notified (Bool.eq_false_iff.mpr fun hn => ?_) kind hold
      rw [htells.notified hn] at hnot
      cases hnot
    refine Bool.eq_false_iff.mpr fun hr => ?_
    rw [(htells.reset kind hnew hr).2] at hnot
    cases hnot

/-- A section that keeps the slot or frees it. -/
theorem Heard.tellsOut {out : SlotOut}
    (hstate : slot.state ≠ .accepting) (htells : TellsOut slot out) :
    (∀ after, out.slot = some after → Heard peer after (events ++ out.events)) ∧
      (out.slot = none → Disciplined peer (events ++ out.events)) := by
  unfold TellsOut at htells
  cases hslot : out.slot with
  | some after =>
    rw [hslot] at htells
    refine ⟨fun a ha => ?_, fun hnone => nomatch hnone⟩
    cases ha
    exact h.tells hstate htells
  | none =>
    rw [hslot] at htells
    refine ⟨(fun _ ha => nomatch ha), fun _ => ?_⟩
    rcases htells with hnil | hclosed
    · rw [hnil, append_nil]
      exact h.disciplined
    · rw [hclosed]
      exact h.finish hstate rfl

/-- The remote half closes. -/
theorem Heard.remoteClosed (hopened : slot.state = .opened)
    (hremote : slot.remoteOpen = true) (hstate : after.state = slot.state)
    (hclosed : after.remoteOpen = false)
    (hreset : after.resetNotified = slot.resetNotified) :
    Heard peer after (events ++ [.remoteClosed]) where
  plain kind hkind := by
    rcases Lib.mem_concat.1 hkind with hold | rfl
    · exact h.plain kind hold
    · rfl
  opened := by
    rw [count_append, count_singleton]
    simpa using h.opened
  unopened hopening := by
    rw [hstate, hopened] at hopening
    cases hopening
  waiting hwait := by
    rw [hstate, hopened] at hwait
    cases hwait
  first hpeer _ := by
    have hhead := h.first hpeer (by rw [hopened]; decide)
    cases events with
    | nil => cases hhead
    | cons head tail => exact hhead
  remote := by
    rw [count_append, count_eq_zero.mpr (h.remoteOpen hremote)]
    decide
  remoteOpen hopen := by
    rw [hclosed] at hopen
    cases hopen
  reset := by
    rw [countP_append]
    simpa [EventKind.isReset] using h.reset
  notified hnot kind hkind := by
    rcases Lib.mem_concat.1 hkind with hold | rfl
    · exact h.notified (hreset.symm.trans hnot) kind hold
    · rfl

end

end Lists

/-! ## One stream -/

/-- What a step must do with the notifications of a stream. -/
structure HeardStep (peer : Bool) (before : Option StreamSlot) (kinds : List EventKind)
    (after : Option StreamSlot) : Prop where
  kept : ∀ slot kept events, before = some slot → after = some kept →
    Heard peer slot events → Heard peer kept (events ++ kinds)
  freed : ∀ slot events, before = some slot → after = none → Heard peer slot events →
    Disciplined peer (events ++ kinds)
  born : ∀ new, before = none → after = some new → Heard peer new kinds
  never : before = none → after = none → kinds = []

theorem heardStep_same (peer : Bool) (slot : Option StreamSlot) : HeardStep peer slot [] slot where
  kept old kept events hold hkept h := by
    cases hold.symm.trans hkept
    rwa [append_nil]
  freed old events hold hnone h := by
    cases hold.symm.trans hnone
  born new hnone hnew := by
    cases hnone.symm.trans hnew
  never _ _ := rfl

variable {slot : StreamSlot} {peer : Bool}

theorem heardStep_out {out : SlotOut}
    (hstate : slot.state ≠ .accepting) (htells : TellsOut slot out) :
    HeardStep peer (some slot) out.events out.slot where
  kept old kept events hold hkept h := by
    cases hold
    exact (h.tellsOut hstate htells).1 kept hkept
  freed old events hold hnone h := by
    cases hold
    exact (h.tellsOut hstate htells).2 hnone
  born _ h := nomatch h
  never h := nomatch h

/-- A stream ends with its last notification. -/
theorem heardStep_last {kind : EventKind}
    (hstate : slot.state ≠ .accepting) (hkind : kind.isTerminal = true) :
    HeardStep peer (some slot) [kind] none where
  kept _ _ _ _ h := nomatch h
  freed old events hold _ h := by
    cases hold
    exact h.finish hstate hkind
  born _ h := nomatch h
  never h := nomatch h

/-- A stream begins, and the application has been told or not. -/
theorem heardStep_born {new : StreamSlot} {kinds : List EventKind}
    (h : Heard peer new kinds) : HeardStep peer none kinds (some new) where
  kept _ _ _ h := nomatch h
  freed _ _ h := nomatch h
  born fresh _ hnew := by
    cases hnew
    exact h
  never _ h := nomatch h

theorem heard_nil (hpeer : peer = true → slot.state = .accepting) : Heard peer slot [] where
  plain := nofun
  opened := Nat.zero_le _
  unopened _ := nofun
  waiting _ := rfl
  first hp hne := absurd (hpeer hp) hne
  remote := Nat.zero_le _
  remoteOpen _ := nofun
  reset := Nat.zero_le _
  notified _ := nofun

theorem heard_opened (hstate : slot.state = .opened) :
    Heard peer slot [.opened] where
  plain kind hkind := by
    cases mem_singleton.mp hkind
    rfl
  opened := by decide
  unopened h := by
    rw [hstate] at h
    cases h
  waiting h := by
    rw [hstate] at h
    cases h
  first _ _ := rfl
  remote := by decide
  remoteOpen _ hmem := nomatch mem_singleton.mp hmem
  reset := by decide
  notified _ kind hkind := by
    cases mem_singleton.mp hkind
    rfl

/-- The remote half of an OPEN stream is closed once, while the local half is
open. -/
def ClosesOnce (input : Option ChannelFrame) (id : Nat) (slot : StreamSlot) : Prop :=
  ∀ frame, input = some frame → frame.type = .streamClose → frame.streamId = id →
    slot.state = .opened → slot.localOpen = true → slot.remoteOpen = true

theorem SlotChange.heardStep {role : Role} {cfg : ChannelConfig} {draining : Bool}
    {input : Option ChannelFrame} {id : Nat} {before after : Option StreamSlot}
    {kinds : List EventKind}
    (h : SlotChange role cfg draining input id before kinds after)
    (hfine : ∀ slot, before = some slot → SlotFine role id slot)
    (hcloses : ∀ slot, before = some slot → ClosesOnce input id slot) :
    HeardStep (!streamIdIsLocal role id) before kinds after := by
  cases h with
  | same => exact heardStep_same _ _
  | offered lane hdraining hid =>
    refine heardStep_born (heard_nil fun hpeer => ?_)
    rw [hid] at hpeer
    cases hpeer
  | arrived lane window hdraining hid => exact heardStep_born (heard_nil fun _ => rfl)
  | admitted lane window hdraining hid => exact heardStep_born (heard_opened rfl)
  | granted old hdraining hstate =>
    refine ⟨fun slot kept events hslot hkept hheard => ?_, (fun _ _ _ h => nomatch h),
      (fun _ h => nomatch h), fun h => nomatch h⟩
    cases hslot
    cases hkept
    rw [hheard.waiting hstate]
    exact heard_opened rfl
  | withdrawn old hstate =>
    refine ⟨(fun _ _ _ _ h => nomatch h), fun slot events hslot _ hheard => ?_,
      (fun _ h => nomatch h), fun h => nomatch h⟩
    cases hslot
    rw [append_nil]
    exact hheard.disciplined
  | refused old hstate | cutOff old hstate => exact heardStep_last (by rw [hstate]; decide) rfl
  | operated old lane op hstate =>
    exact heardStep_out hstate (slotStep_tells (hfine old rfl).calm hstate op)
  | handled old lane frame acquire out hstate hinput hclose hout =>
    exact heardStep_out hstate (slotReceive_tells (hfine old rfl).calm hstate hclose hout)
  | closed old mid frame out hstate hinput htype hid hout hmid =>
    rcases handleStreamClose_finish hstate hout hmid with
      ⟨-, hevents, hfreed⟩ | ⟨hlocal, hevents, kept, hkept, hkeptState, hreset, hremote⟩
    · rw [hevents, hfreed]
      exact heardStep_last (by rw [hstate]; decide) rfl
    rw [hevents, hkept]
    have hopen := hcloses old rfl frame hinput htype hid hstate hlocal
    refine ⟨fun slot kept' events hslot hkept' hheard => ?_, (fun _ _ _ h => nomatch h),
      (fun _ h => nomatch h), fun h => nomatch h⟩
    cases hslot
    cases hkept'
    exact hheard.remoteClosed hstate hopen hkeptState hremote hreset

/-! ## The log -/

section Log

variable {role : Role} {cfg : ChannelConfig} {s s' : Host} {ch : Channel}

/-- What has been told when a step has told `new`. -/
theorem Host.eventsOf_advance {new : List StreamEvent}
    (hnew : ch.events = s.chan.events ++ new) (ref : StreamRef) :
    (s.advance ch).eventsOf ref = s.eventsOf ref ++
      if ref.birth = s.birthsAfter ch ref.streamId then kindsOf new ref.streamId else [] := by
  have hdrop : ch.events.drop s.chan.events.length = new := by
    rw [hnew, drop_left]
  unfold Host.eventsOf Host.advance
  dsimp only
  rw [hdrop, filter_append, map_append]
  congr 1
  clear hnew hdrop
  induction new with
  | nil => simp
  | cons event rest ih =>
    obtain ⟨id, birth⟩ := ref
    rw [← singleton_append, kindsOf_append, map_append, filter_append,
      map_append, ih]
    rcases eq_or_ne event.streamId id with rfl | hne
    · by_cases hbirth : birth = s.birthsAfter ch event.streamId
      · simp [hbirth, kindsOf]
      · simp [hbirth, Ne.symm hbirth]
    · simp [hne, kindsOf]

/-- What holds of the notifications of all streams. -/
structure EventsOk (role : Role) (s : Host) : Prop where
  live : ∀ id slot, s.chan.slot id = some slot →
    Heard (!streamIdIsLocal role id) slot (s.eventsOf ⟨id, s.births id⟩)
  all : ∀ ref, Disciplined (!streamIdIsLocal role ref.streamId) (s.eventsOf ref)
  fresh : ∀ id birth, s.births id < birth → s.eventsOf ⟨id, birth⟩ = []

/-- A step that does with every stream what it must. -/
theorem EventsOk.advance {new : List StreamEvent} (h : EventsOk role s)
    (hnew : ch.events = s.chan.events ++ new)
    (hsteps : ∀ id, HeardStep (!streamIdIsLocal role id) (s.chan.slot id)
      (kindsOf new id) (ch.slot id)) : EventsOk role (s.advance ch) := by
  have hborn : ∀ id slot, s.chan.slot id = some slot →
      s.birthsAfter ch id = s.births id := fun id slot hslot => by
    unfold Host.birthsAfter
    rw [hslot, if_neg (by simp)]
  have hlive : ∀ id slot, ch.slot id = some slot → Heard (!streamIdIsLocal role id) slot
        ((s.advance ch).eventsOf ⟨id, s.birthsAfter ch id⟩) := by
    intro id slot hslot
    rw [Host.eventsOf_advance hnew, if_pos rfl]
    cases hbefore : s.chan.slot id with
    | some old =>
      rw [hborn id old hbefore]
      exact (hsteps id).kept old slot _ hbefore hslot (h.live id old hbefore)
    | none =>
      -- the number is given again, and the handle is a new one
      have hnext : s.births id < s.birthsAfter ch id := by
        unfold Host.birthsAfter
        rw [hbefore, hslot, if_pos (by simp)]
        exact Nat.lt_succ_self _
      rw [h.fresh id _ hnext]
      exact (hsteps id).born slot hbefore hslot
  refine ⟨hlive, fun ref => ?_, fun id birth hlt => ?_⟩
  · by_cases hbirth : ref.birth = s.birthsAfter ch ref.streamId
    · obtain ⟨id, birth⟩ := ref
      obtain rfl : birth = s.birthsAfter ch id := hbirth
      cases hafter : ch.slot id with
      | some slot => exact (hlive id slot hafter).disciplined
      | none =>
        rw [Host.eventsOf_advance hnew, if_pos rfl]
        cases hbefore : s.chan.slot id with
        | some old =>
          rw [hborn id old hbefore]
          exact (hsteps id).freed old _ hbefore hafter (h.live id old hbefore)
        | none =>
          rw [(hsteps id).never hbefore hafter, append_nil]
          exact h.all _
    · rw [Host.eventsOf_advance hnew, if_neg hbirth, append_nil]
      exact h.all ref
  · have hle : s.births id ≤ s.birthsAfter ch id := by
      unfold Host.birthsAfter
      split
      · exact Nat.le_succ _
      · exact Nat.le_refl _
    have hlt' : s.birthsAfter ch id < birth := hlt
    rw [Host.eventsOf_advance hnew, if_neg (by dsimp only; omega), append_nil]
    exact h.fresh id birth (by omega)

/-- A step of the channel that touches no stream. -/
theorem EventsOk.quiet (h : EventsOk role s) (hevents : ch.events = s.chan.events)
    (hslot : ∀ id, ch.slot id = s.chan.slot id) : EventsOk role (s.advance ch) := by
  refine @EventsOk.advance role s ch [] h (by rw [hevents, append_nil]) fun id => ?_
  rw [hslot]
  exact heardStep_same _ _

/-- A step around the channel. -/
theorem EventsOk.around (h : EventsOk role s) (hchan : s'.chan = s.chan)
    (hbirths : s'.births = s.births) (hlog : s'.log = s.log) : EventsOk role s' := by
  have hevents : ∀ ref, s'.eventsOf ref = s.eventsOf ref := fun ref => by
    unfold Host.eventsOf
    rw [hlog]
  refine ⟨fun id slot hslot => ?_, fun ref => ?_, fun id birth hlt => ?_⟩
  · rw [hevents, hbirths]
    exact h.live id slot (hchan ▸ hslot)
  · rw [hevents]
    exact h.all ref
  · rw [hevents]
    exact h.fresh id birth (hbirths ▸ hlt)

theorem EventsOk.failStream {id : Nat} {status : Int} {slot : StreamSlot} (conn : Lane)
    (h : EventsOk role s) (hslot : s.chan.slot id = some slot) (hwait : slot.state ≠ .accepting) :
    EventsOk role (s.advance ((s.chan.free conn id).notify id [.error status])) := by
  refine @EventsOk.advance role s _ [⟨id, .error status⟩] h rfl fun other => ?_
  rcases eq_or_ne other id with rfl | hne
  · have hkinds : kindsOf [⟨other, .error status⟩] other = [.error status] := by
      simp [kindsOf]
    rw [hkinds, hslot, Channel.slot_notify, Channel.slot_free]
    exact heardStep_last hwait rfl
  · have hkinds : kindsOf [⟨id, .error status⟩] other = [] := by
      simp [kindsOf, hne.symm]
    rw [hkinds, Channel.slot_notify, Channel.slot_free_of_ne _ _ hne]
    exact heardStep_same _ _

theorem EventsOk.changes {input : Option ChannelFrame} (h : EventsOk role s)
    (hok : HostOk role cfg s) (hchanges : Changes role cfg input s.chan ch)
    (hcloses : ∀ id slot, s.chan.slot id = some slot → ClosesOnce input id slot) :
    EventsOk role (s.advance ch) := by
  obtain ⟨new, hnew, hstreams⟩ := hchanges.streams
  exact h.advance hnew fun id => (hstreams id).heardStep (hok.fine id) (hcloses id)

theorem EventsOk.replace {lane : Lane} {accept : Bool} (h : EventsOk role s)
    (hok : s.replace cfg lane accept = .ok s') : EventsOk role s' := by
  unfold Host.replace at hok
  dsimp only at hok
  obtain ⟨-, hok⟩ := Lib.check_eq_ok.mp hok
  obtain ⟨-, hok⟩ := Lib.check_eq_ok.mp hok
  cases hok
  refine EventsOk.around (h.quiet ?_ ?_) rfl rfl rfl
  · split <;> rfl
  · intro id
    split <;> rfl

end Log

/-! ## Runs -/

/-- The steps that keep the order of the notifications: no CLOSE is taken for an
OPEN stream whose remote half alone is closed, and no stream fails while it waits
for its initial credit. -/
def Orderly (role : Role) (cfg : ChannelConfig) (s : Host) : HostAction → Prop
  | .receive conn frame accept acquire => ∀ slot ∈ s.chan.slot frame.streamId,
      frame.type = .streamClose →
      (Host.onFrame role cfg s.chan conn frame accept acquire).isOk = true →
      slot.state = .opened → slot.localOpen = true → slot.remoteOpen = true
  | .failStream id _ => ∀ slot ∈ s.chan.slot id, slot.state ≠ .accepting
  | _ => True

instance decidableOrderly (role : Role) (cfg : ChannelConfig) (s : Host) (action : HostAction) :
    Decidable (Orderly role cfg s action) := by
  cases action <;> unfold Orderly <;> infer_instance

theorem EventsOk.step {role : Role} {cfg : ChannelConfig} {s s' : Host}
    {action : HostAction} (hok : HostOk role cfg s) (h : EventsOk role s)
    (horderly : Orderly role cfg s action) (hstep : hostStep role cfg s action = some s') :
    EventsOk role s' := by
  obtain ⟨mid, hmove, haround⟩ := hostStep_move hok hstep
  refine EventsOk.around ?_ haround.chan haround.births haround.log
  cases hmove with
  | stay => exact h
  | act hchanges => exact h.changes hok hchanges fun _ _ _ frame hinput => nomatch hinput
  | receive hchanges _ htaken =>
    refine h.changes hok hchanges fun id slot hslot other hinput htype hid => ?_
    cases hinput
    subst hid
    exact horderly slot hslot htype htaken
  | drain =>
    have hquiet : EventsOk role (s.advance s.chan.beginDrain) := h.quiet rfl fun _ => rfl
    exact hquiet.around rfl rfl rfl
  | fail hslot => exact h.failStream _ hslot (horderly _ hslot)
  | replace _ hok => exact h.replace hok

theorem EventsOk.init (role : Role) : EventsOk role (.init role) where
  live _ _ h := nomatch h
  all _ := ⟨Nat.zero_le _, (fun _ _ _ h => nomatch h), Nat.zero_le _, Nat.zero_le _,
    Nat.zero_le _, fun before _ _ h => by cases before <;> cases h⟩
  fresh _ _ _ := rfl

/-- In every run of orderly steps, whatever the peer sends and whenever the
connections are lost, the notifications of every stream handle are in order. -/
theorem stream_events_disciplined (role : Role) (cfg : ChannelConfig)
    (history : List HostAction) (s : Host)
    (hmeet : Lib.StepsMeet (hostStep role cfg) (Orderly role cfg) (.init role) history)
    (hrun : Lib.runSteps (hostStep role cfg) (.init role) history = some s)
    (ref : StreamRef) :
    Disciplined (!streamIdIsLocal role ref.streamId) (s.eventsOf ref) := by
  have hinv : HostOk role cfg s ∧ EventsOk role s :=
    @Lib.runSteps_invariant_of _ _ (hostStep role cfg) (Orderly role cfg)
      (fun t => HostOk role cfg t ∧ EventsOk role t)
      (fun _ _ _ h horderly hstep => ⟨h.1.step hstep, .step h.1 h.2 horderly hstep⟩)
      _ _ _ ⟨.init role cfg, .init role⟩ hmeet hrun
  exact hinv.2.all ref

/-- A client opens a stream, and the server accepts it and closes its half. -/
def closeOnce : List HostAction :=
  [.act .start, .act (.startNext true),
    .receive .control (Channel.helloFrame .hello (plainConfig.handshake .control).hello) true .ok,
    .act (.openStream .control true),
    .receive .control (controlFrame .windowUpdate 1 100) true .ok,
    .receive .control (controlFrame .streamClose 1 0) true .ok]

theorem stream_events_disciplined_closing :
    ∃ s, Lib.StepsMeet (hostStep .client plainConfig) (Orderly .client plainConfig)
        (.init .client) closeOnce ∧
      Lib.runSteps (hostStep .client plainConfig) (.init .client) closeOnce = some s ∧
      s.eventsOf ⟨1, 1⟩ = [.opened, .remoteClosed] ∧
      Disciplined false (s.eventsOf ⟨1, 1⟩) := by
  have hmeet : Lib.StepsMeet (hostStep .client plainConfig) (Orderly .client plainConfig)
      (.init .client) closeOnce := by
    decide
  have hevents : (Lib.runSteps (hostStep .client plainConfig) (.init .client)
      closeOnce).map (fun s => s.eventsOf ⟨1, 1⟩) = some [.opened, .remoteClosed] := by
    decide
  obtain ⟨s, hrun, hlog⟩ := Option.map_eq_some_iff.mp hevents
  exact ⟨s, hmeet, hrun, hlog,
    stream_events_disciplined .client plainConfig closeOnce s hmeet hrun ⟨1, 1⟩⟩

/-- The server closes its half twice. -/
def closeTwice : List HostAction :=
  closeOnce ++ [.receive .control (controlFrame .streamClose 1 0) true .ok]

/-- A client opens a stream, the server has no room for its initial credit, and
the connection is lost. -/
def loseWaiting : List HostAction :=
  [.act .start, .act (.startNext true),
    .receive .control (Channel.helloFrame .hello (plainConfig.handshake .control).hello) true .ok,
    .receive .control (Channel.openFrame .control 1 100) false .ok,
    .lose .control, .failStream 1 Status.errClosed.code]

/-- A second CLOSE is told as REMOTE_CLOSED again, and a stream that was never
opened fails. -/
theorem stream_events_undisciplined :
    (∃ s, Lib.runSteps (hostStep .client plainConfig) (.init .client) closeTwice = some s ∧
      s.eventsOf ⟨1, 1⟩ = [.opened, .remoteClosed, .remoteClosed] ∧
      ¬ Disciplined false (s.eventsOf ⟨1, 1⟩)) ∧
    (∃ s, Lib.runSteps (hostStep .server plainConfig) (.init .server) loseWaiting = some s ∧
      s.eventsOf ⟨1, 1⟩ = [.error Status.errClosed.code] ∧
      ¬ Disciplined true (s.eventsOf ⟨1, 1⟩)) := by
  have htwice : (Lib.runSteps (hostStep .client plainConfig) (.init .client)
      closeTwice).map (fun s => s.eventsOf ⟨1, 1⟩) =
      some [.opened, .remoteClosed, .remoteClosed] := by
    decide
  have hwaiting : (Lib.runSteps (hostStep .server plainConfig) (.init .server)
      loseWaiting).map (fun s => s.eventsOf ⟨1, 1⟩) =
      some [.error Status.errClosed.code] := by
    decide
  obtain ⟨s, hrun, hlog⟩ := Option.map_eq_some_iff.mp htwice
  obtain ⟨t, hrun', hlog'⟩ := Option.map_eq_some_iff.mp hwaiting
  refine ⟨⟨s, hrun, hlog, fun h => ?_⟩, ⟨t, hrun', hlog', fun h => ?_⟩⟩
  · have hcount := h.remoteClosed
    rw [hlog] at hcount
    exact absurd hcount (by decide)
  · have hfirst := h.first rfl _ _ hlog'
    cases hfirst

end Trpc
