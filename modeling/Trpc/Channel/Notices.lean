import Trpc.Channel.Changes

/-!
# What a stream tells

For one slot: what the notifications of a locked section have to do with the
slot before and after it.  `Tells` is the summary for a section that keeps the
slot, and a section that frees it says CLOSED or nothing.  A CLOSE of the peer
is left out, since what it tells depends on the peer.
-/

namespace Trpc

open Lib

/-- The last notification of a stream. -/
def EventKind.isTerminal : EventKind → Bool
  | .closed => true
  | .error _ => true
  | .refused => true
  | _ => false

/-- What the notifications of a section say about the slot. -/
structure Tells (slot after : StreamSlot) (events : List EventKind) : Prop where
  single : events.length ≤ 1
  plain : ∀ kind ∈ events, kind.isTerminal = false ∧ kind ≠ .remoteClosed
  opened : .opened ∈ events → slot.state = .opening ∧ after.state = .opened
  opening : after.state = .opening → slot.state = .opening
  accepting : after.state ≠ .accepting
  remote : after.remoteOpen = true → slot.remoteOpen = true
  reset : ∀ kind ∈ events, kind.isReset = true →
    slot.resetNotified = false ∧ after.resetNotified = true
  notified : slot.resetNotified = true → after.resetNotified = true
  calm : after.state ≠ .resetting → after.resetNotified = false

/-- A section that keeps the slot, or frees it. -/
def TellsOut (slot : StreamSlot) (out : SlotOut) : Prop :=
  match out.slot with
  | some after => Tells slot after out.events
  | none => out.events = [] ∨ out.events = [.closed]

/-- A RESET is told when the slot turns to RESETTING. -/
def StreamSlot.Calm (slot : StreamSlot) : Prop :=
  slot.state ≠ .resetting → slot.resetNotified = false

section Tells

variable {cfg : ChannelConfig} {lane : LaneState} {slot after : StreamSlot}
  {frame : ChannelFrame} {out : SlotOut}

/-- Nothing is told, and the slot changes in its counters. -/
theorem tells_nil (hcalm : slot.Calm) (hwait : slot.state ≠ .accepting)
    (hstate : after.state = slot.state) (hremote : after.remoteOpen = true →
      slot.remoteOpen = true) (hreset : after.resetNotified = slot.resetNotified) :
    Tells slot after [] where
  single := Nat.zero_le _
  plain := nofun
  opened := nofun
  opening h := hstate ▸ h
  accepting := hstate ▸ hwait
  remote := hremote
  reset := nofun
  notified h := hreset ▸ h
  calm h := hreset ▸ hcalm (hstate ▸ h)

/-- Something is told that has nothing to do with the life of the stream. -/
theorem tells_plain {kind : EventKind} (hcalm : slot.Calm)
    (hwait : slot.state ≠ .accepting) (hstate : after.state = slot.state)
    (hremote : after.remoteOpen = slot.remoteOpen)
    (hreset : after.resetNotified = slot.resetNotified)
    (hkind : kind.isTerminal = false ∧ kind ≠ .remoteClosed ∧ kind ≠ .opened ∧
      kind.isReset = false) : Tells slot after [kind] := by
  obtain ⟨hterminal, hclosed, hopened, hisReset⟩ := hkind
  exact { tells_nil hcalm hwait hstate (fun h => hremote ▸ h) hreset with
    single := Nat.le_refl _
    plain := fun k hk => List.mem_singleton.mp hk ▸ ⟨hterminal, hclosed⟩
    opened := fun hk => absurd (List.mem_singleton.mp hk).symm hopened
    reset := fun k hk h => by
      rw [List.mem_singleton.mp hk, hisReset] at h
      cases h }

/-- The slot turns to RESETTING and the application is told. -/
theorem tells_reset {status : Int} (hnotified : slot.resetNotified = false)
    (hstate : after.state = .resetting)
    (hremote : after.remoteOpen = true → slot.remoteOpen = true)
    (hreset : after.resetNotified = true) : Tells slot after [.reset status] where
  single := Nat.le_refl _
  plain k hk := List.mem_singleton.mp hk ▸ ⟨rfl, nofun⟩
  opened hk := nomatch List.mem_singleton.mp hk
  opening h := by rw [hstate] at h; cases h
  accepting := by rw [hstate]; decide
  remote := hremote
  reset _ _ _ := ⟨hnotified, hreset⟩
  notified _ := hreset
  calm h := absurd hstate h

/-! ## Operations -/

section Operations

variable (hcalm : slot.Calm) (hwait : slot.state ≠ .accepting)

include hcalm hwait

variable {accept : Bool}

theorem sendWindowUpdateLocked_tells {base : StreamSlot}
    (hstate : base.state = slot.state) (hremote : base.remoteOpen = slot.remoteOpen)
    (hreset : base.resetNotified = slot.resetNotified) :
    TellsOut slot (sendWindowUpdateLocked cfg lane base accept) := by
  have hkeep : ∀ (a : StreamSlot) (frames : List ChannelFrame), a.state = base.state →
      a.remoteOpen = base.remoteOpen → a.resetNotified = base.resetNotified →
      TellsOut slot ⟨some a, frames, []⟩ := fun a _ hs hr hn =>
    tells_nil hcalm hwait (hs.trans hstate) (fun h => by rw [← hremote, ← hr, h]) (hn.trans hreset)
  unfold sendWindowUpdateLocked
  dsimp only
  split
  · exact hkeep _ _ rfl rfl rfl
  split
  · exact hkeep _ _ rfl rfl rfl
  · split <;> exact hkeep _ _ rfl rfl rfl

theorem tellsOut_keep : TellsOut slot (.keep slot) :=
  tells_nil hcalm hwait rfl id rfl

theorem streamSendv_tells {payloads : List (List UInt8)} :
    TellsOut slot (streamSendv lane slot payloads accept).2 := by
  have hkeep := tellsOut_keep hcalm hwait
  unfold streamSendv
  dsimp only
  repeat' split
  all_goals first
    | exact hkeep
    | exact tells_nil hcalm hwait rfl id rfl

theorem streamReleasePayload_tells {index : Nat} :
    TellsOut slot (streamReleasePayload cfg lane slot index accept).2 := by
  unfold streamReleasePayload
  split
  · exact tellsOut_keep hcalm hwait
  · exact sendWindowUpdateLocked_tells hcalm hwait rfl rfl rfl

theorem flushWindowUpdate_tells :
    TellsOut slot (flushWindowUpdate cfg lane slot accept) := by
  unfold flushWindowUpdate
  split
  · exact tellsOut_keep hcalm hwait
  · exact sendWindowUpdateLocked_tells hcalm hwait rfl rfl rfl

theorem streamResetOnOwner_tells {status : Int} :
    TellsOut slot (streamResetOnOwner lane slot status).2 := by
  have hkeep := tellsOut_keep hcalm hwait
  unfold streamResetOnOwner
  split
  · exact hkeep
  split
  · exact hkeep
  rename_i hstate
  iterate 3
    split
    · exact hkeep
  · exact tells_reset (hcalm hstate) rfl id rfl

theorem streamClose_tells : TellsOut slot (streamClose slot accept).2 := by
  have hkeep := tellsOut_keep hcalm hwait
  unfold streamClose
  repeat' split
  all_goals first
    | exact hkeep
    | exact tells_nil hcalm hwait rfl id rfl

theorem finishClose_tells : TellsOut slot (finishClose slot) := by
  unfold finishClose
  split
  · exact tellsOut_keep hcalm hwait
  split
  · exact .inl rfl
  · exact tells_nil hcalm hwait rfl id rfl

theorem resetProgress_tells : TellsOut slot (resetProgress slot accept) := by
  unfold resetProgress
  split
  · exact tellsOut_keep hcalm hwait
  dsimp only
  generalize hsent : (if (¬ slot.resetSent = true ∧ accept = true) then
    { slot with resetSent := true } else slot) = sent
  have htells : Tells slot sent [] := by
    subst hsent
    split <;> exact tells_nil hcalm hwait rfl id rfl
  split
  · exact .inr rfl
  · exact htells

/-- What every operation tells. -/
theorem slotStep_tells (op : SlotOp) : TellsOut slot (slotStep cfg lane slot op) := by
  cases op with
  | sendv payloads accept => exact streamSendv_tells hcalm hwait
  | release index accept => exact streamReleasePayload_tells hcalm hwait
  | flush accept => exact flushWindowUpdate_tells hcalm hwait
  | stopCredit => exact tells_nil hcalm hwait rfl id rfl
  | reset status => exact streamResetOnOwner_tells hcalm hwait
  | close accept => exact streamClose_tells hcalm hwait
  | finishClose => exact finishClose_tells hcalm hwait
  | resetProgress accept => exact resetProgress_tells hcalm hwait

/-! ## Frames -/

omit hwait in
theorem failStreamReceive_tells {status : Status} {unordered : Bool}
    (h : failStreamReceive cfg lane slot frame status unordered = .ok out) :
    TellsOut slot out := by
  unfold failStreamReceive at h
  obtain ⟨hstate, h⟩ := check_eq_ok.mp h
  split at h
  · cases h
  rename_i after hdiscard
  cases h
  obtain ⟨hafter, hremote, -⟩ := streamResetDiscardLocked_keeps hdiscard
  have hopened : slot.state = .opened := by
    by_contra hne
    exact hstate (.inl hne)
  refine tells_reset (hcalm (by rw [hopened]; decide)) hafter (fun hopen => ?_) rfl
  have hopen' : after.remoteOpen = true := hopen
  rw [hremote] at hopen'
  exact hopen'

theorem handleData_tells {acquire : Status}
    (h : handleData cfg lane slot frame acquire = .ok out) : TellsOut slot out := by
  unfold handleData at h
  split at h
  · obtain ⟨-, h⟩ := check_eq_ok.mp h
    split at h
    · cases h
    rename_i after hdiscard
    cases h
    obtain ⟨hstate, hremote, hreset⟩ := streamResetDiscardLocked_keeps hdiscard
    exact tells_nil hcalm hwait hstate (fun h => hremote ▸ h) hreset
  · obtain ⟨-, h⟩ := check_eq_ok.mp h
    split at h
    · cases h
    · exact failStreamReceive_tells hcalm h
    next after hdata =>
      cases h
      obtain ⟨hstate, hremote, hreset⟩ := dataLocked_keeps hdata
      exact tells_nil hcalm hwait hstate (fun h => hremote ▸ h) hreset
    next after message hdata =>
      cases h
      obtain ⟨hstate, hremote, hreset⟩ := dataLocked_keeps hdata
      exact tells_plain hcalm hwait hstate hremote hreset ⟨rfl, nofun, nofun, rfl⟩

theorem handleWindowUpdate_tells (h : handleWindowUpdate slot frame = .ok out) :
    TellsOut slot out := by
  unfold handleWindowUpdate at h
  obtain ⟨-, h⟩ := check_eq_ok.mp h
  dsimp only at h
  split at h
  · obtain ⟨-, h⟩ := check_eq_ok.mp h
    cases h
    exact tells_nil hcalm hwait rfl id rfl
  next hstate =>
    change slot.state = .opening at hstate
    have hreset := hcalm (by rw [hstate]; decide)
    cases h
    have hevents : ∀ kind ∈ (if slot.openedNotified = true then []
        else [EventKind.opened]), kind = .opened := by
      intro kind hkind
      split at hkind
      · cases hkind
      · exact List.mem_singleton.mp hkind
    exact {
      single := by dsimp only; split <;> decide
      plain := fun kind hkind => hevents kind hkind ▸ ⟨rfl, nofun⟩
      opened := fun _ => ⟨hstate, rfl⟩
      opening := nofun
      accepting := nofun
      remote := id
      reset := fun kind hkind hisReset => by
        rw [hevents kind hkind] at hisReset
        cases hisReset
      notified := id
      calm := fun _ => hreset }
  · cases h
    unfold TellsOut
    dsimp only
    split
    · exact tells_plain hcalm hwait rfl rfl rfl ⟨rfl, nofun, nofun, rfl⟩
    · exact tells_nil hcalm hwait rfl id rfl

theorem handleStreamReset_tells (h : handleStreamReset lane slot frame = .ok out) :
    TellsOut slot out := by
  unfold handleStreamReset at h
  dsimp only at h
  obtain ⟨-, h⟩ := check_eq_ok.mp h
  cases h
  by_cases hstate : slot.state = .resetting
  · simp only [if_pos hstate, TellsOut]
    split
    next hnotified =>
      exact tells_nil hcalm hwait rfl (by simp) hnotified.symm
    next hnotified =>
      exact tells_reset (Bool.eq_false_iff.mpr hnotified) hstate (by simp) rfl
  · have hnotified := hcalm hstate
    simp only [if_neg hstate, TellsOut]
    rw [if_neg (by simp [streamResetBeginLocked, hnotified])]
    exact tells_reset hnotified rfl (by simp) rfl

/-- What every frame of a stream tells, but for a CLOSE. -/
theorem slotReceive_tells {acquire : Status}
    (hclose : frame.type = .streamClose → slot.state = .resetting)
    (h : slotReceive cfg lane slot frame acquire = .ok out) : TellsOut slot out := by
  unfold slotReceive at h
  split at h
  · exact handleData_tells hcalm hwait h
  · exact handleWindowUpdate_tells hcalm hwait h
  next htype =>
    unfold handleStreamClose at h
    rw [hclose htype] at h
    obtain ⟨-, h⟩ := check_eq_ok.mp h
    cases h
    exact tells_nil hcalm hwait (hclose htype).symm nofun rfl
  · exact handleStreamReset_tells hcalm hwait h
  · cases h

end Operations

/-- A CLOSE for an OPEN stream, to the end: it frees the slot, or it closes the
remote half. -/
theorem handleStreamClose_finish (hopened : slot.state = .opened)
    (hout : handleStreamClose slot = .ok out) (hafter : out.slot = some after) :
    slot.localOpen = false ∧ out.events = [.closed] ∧ (finishClose after).slot = none ∨
      slot.localOpen = true ∧ out.events = [.remoteClosed] ∧
        ∃ kept, (finishClose after).slot = some kept ∧ kept.state = slot.state ∧
          kept.resetNotified = slot.resetNotified ∧ kept.remoteOpen = false := by
  unfold handleStreamClose at hout
  rw [hopened] at hout
  dsimp only at hout
  split at hout
  next hlocal =>
    cases hout
    cases hafter
    refine .inr ⟨hlocal, rfl, ?_⟩
    unfold finishClose
    split
    · exact ⟨_, rfl, hopened.symm, rfl, rfl⟩
    · rw [if_neg (by simp [hlocal])]
      exact ⟨_, rfl, hopened.symm, rfl, rfl⟩
  next hlocal =>
    cases hout
    cases hafter
    refine .inl ⟨Bool.eq_false_iff.mpr hlocal, rfl, ?_⟩
    simp [finishClose, hlocal]

end Tells

/-! ## Any change -/

/-- What holds of every slot: a RESET has been told only if the stream is
RESETTING, and only the endpoint's own streams are OPENING. -/
structure SlotFine (role : Role) (id : Nat) (slot : StreamSlot) : Prop where
  calm : slot.Calm
  opening : slot.state = .opening → streamIdIsLocal role id = true

section Change

variable {role : Role} {cfg : ChannelConfig} {draining : Bool}
  {input : Option ChannelFrame} {id : Nat} {before after : Option StreamSlot}
  {kinds : List EventKind}

theorem TellsOut.fine {slot kept : StreamSlot} {out : SlotOut} (h : TellsOut slot out)
    (hfine : SlotFine role id slot) (hkept : out.slot = some kept) :
    SlotFine role id kept := by
  unfold TellsOut at h
  rw [hkept] at h
  exact ⟨h.calm, fun hopening => hfine.opening (h.opening hopening)⟩

theorem TellsOut.opening_of_opened {slot : StreamSlot} {out : SlotOut}
    (h : TellsOut slot out) (hopened : .opened ∈ out.events) : slot.state = .opening := by
  unfold TellsOut at h
  split at h
  · exact (h.opened hopened).1
  rcases h with hnil | hclosed
  · rw [hnil] at hopened
    cases hopened
  · rw [hclosed] at hopened
    nomatch List.mem_singleton.mp hopened

theorem SlotChange.fine (h : SlotChange role cfg draining input id before kinds after)
    (hbefore : ∀ slot, before = some slot → SlotFine role id slot) (slot : StreamSlot)
    (hslot : after = some slot) : SlotFine role id slot := by
  cases h with
  | same => exact hbefore slot hslot
  | offered lane hdraining hid =>
    cases hslot
    exact ⟨fun _ => rfl, fun _ => hid⟩
  | arrived lane window hdraining hid | admitted lane window hdraining hid =>
    cases hslot
    exact ⟨fun _ => rfl, nofun⟩
  | granted old hdraining hstate =>
    cases hslot
    have hcalm := (hbefore old rfl).calm (by rw [hstate]; decide)
    exact ⟨fun _ => hcalm, nofun⟩
  | withdrawn | refused | cutOff => cases hslot
  | operated old lane op hstate =>
    have hfine := hbefore old rfl
    exact (slotStep_tells hfine.calm hstate op).fine hfine hslot
  | handled old lane frame acquire out hstate hinput hclose hout =>
    have hfine := hbefore old rfl
    exact (slotReceive_tells hfine.calm hstate hclose hout).fine hfine hslot
  | closed old mid frame out hstate hinput htype hid hout hmid =>
    have hcalm := (hbefore old rfl).calm (by rw [hstate]; decide)
    rcases handleStreamClose_finish hstate hout hmid with
      ⟨-, -, hfreed⟩ | ⟨-, -, kept, hkept, hkeptState, hreset, -⟩
    · rw [hfreed] at hslot
      cases hslot
    cases hkept.symm.trans hslot
    rw [hstate] at hkeptState
    refine ⟨fun _ => hreset.trans hcalm, fun hopening => ?_⟩
    rw [hkeptState] at hopening
    cases hopening

/-- A drain lets no stream begin. -/
theorem SlotChange.none_of_none
    (h : SlotChange role cfg true input id none kinds after) : after = none := by
  cases h with
  | same => rfl
  | offered lane hdraining | arrived lane window hdraining | admitted lane window hdraining =>
    cases hdraining

/-- During a drain only the endpoint's own streams are opened. -/
theorem SlotChange.opened_local (h : SlotChange role cfg true input id before kinds after)
    (hbefore : ∀ slot, before = some slot → SlotFine role id slot)
    (hopened : .opened ∈ kinds) : streamIdIsLocal role id = true := by
  cases h with
  | same | offered lane hdraining hid | arrived lane window hdraining hid => cases hopened
  | admitted lane window hdraining hid | granted old hdraining hstate => cases hdraining
  | withdrawn => cases hopened
  | refused | cutOff => nomatch List.mem_singleton.mp hopened
  | operated old lane op hstate =>
    have hfine := hbefore old rfl
    exact hfine.opening ((slotStep_tells hfine.calm hstate op).opening_of_opened hopened)
  | handled old lane frame acquire out hstate hinput hclose hout =>
    have hfine := hbefore old rfl
    exact hfine.opening
      ((slotReceive_tells hfine.calm hstate hclose hout).opening_of_opened hopened)
  | closed old mid frame out hstate hinput htype hid hout hmid =>
    rcases handleStreamClose_finish hstate hout hmid with
      ⟨-, hevents, -⟩ | ⟨-, hevents, -⟩ <;>
    · rw [hevents] at hopened
      nomatch List.mem_singleton.mp hopened

end Change

end Trpc
