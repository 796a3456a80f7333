import Trpc.Channel.Slot

/-!
# What a locked section cannot do

No section of `slotStep` or `slotReceive` makes a stream ACCEPTING, whatever
else it does.
-/

namespace Trpc

open Lib

/-- The notification of a RESET. -/
def EventKind.isReset : EventKind → Bool
  | .reset _ => true
  | _ => false

/-- The slot that is left does not wait for its initial credit. -/
def SlotOut.Awake (out : SlotOut) : Prop :=
  ∀ after, out.slot = some after → after.state ≠ .accepting

section Awake

variable {cfg : ChannelConfig} {lane : LaneState} {slot : StreamSlot}
  {frame : ChannelFrame} {out : SlotOut}

variable {after : StreamSlot} {acquire : Status} {frames : List ChannelFrame}
  {events : List EventKind}

theorem awake_some (h : after.state ≠ .accepting) :
    SlotOut.Awake ⟨some after, frames, events⟩ := by
  intro _ heq
  exact Option.some.inj heq ▸ h

theorem awake_none :
    SlotOut.Awake ⟨none, frames, events⟩ := by
  intro _ heq
  cases heq

theorem sendWindowUpdateLocked_awake (h : slot.state ≠ .accepting) (accept : Bool) :
    (sendWindowUpdateLocked cfg lane slot accept).Awake := by
  unfold sendWindowUpdateLocked
  dsimp only
  repeat' split
  all_goals exact awake_some h

theorem slotStep_awake (h : slot.state ≠ .accepting) (op : SlotOp) :
    (slotStep cfg lane slot op).Awake := by
  have hkeep : (SlotOut.keep slot).Awake := awake_some h
  cases op with
  | sendv payloads accept =>
    show (streamSendv lane slot payloads accept).2.Awake
    unfold streamSendv
    dsimp only
    repeat' split
    all_goals exact awake_some h
  | release index accept =>
    show (streamReleasePayload cfg lane slot index accept).2.Awake
    unfold streamReleasePayload
    split
    · exact hkeep
    · refine sendWindowUpdateLocked_awake ?_ accept
      exact h
  | flush accept =>
    show (flushWindowUpdate cfg lane slot accept).Awake
    unfold flushWindowUpdate
    split
    · exact hkeep
    · exact sendWindowUpdateLocked_awake h accept
  | stopCredit => exact awake_some h
  | reset status =>
    show (streamResetOnOwner lane slot status).2.Awake
    unfold streamResetOnOwner
    repeat' split
    all_goals first
      | exact hkeep
      | exact awake_some nofun
  | close accept =>
    show (streamClose slot accept).2.Awake
    unfold streamClose
    repeat' split
    all_goals exact awake_some h
  | finishClose =>
    show (finishClose slot).Awake
    unfold finishClose
    repeat' split
    all_goals first
      | exact awake_some h
      | exact awake_none
  | resetProgress accept =>
    show (resetProgress slot accept).Awake
    unfold resetProgress
    dsimp only
    repeat' split
    all_goals first
      | exact awake_some h
      | exact awake_none

/-! ## Arriving frames -/

theorem streamResetDiscardLocked_keeps (h : streamResetDiscardLocked cfg slot frame = .ok after) :
    after.state = slot.state ∧ after.remoteOpen = slot.remoteOpen ∧
      after.resetNotified = slot.resetNotified := by
  unfold streamResetDiscardLocked at h
  dsimp only at h
  obtain ⟨-, h⟩ := check_eq_ok.mp h
  iterate 3 obtain ⟨-, h⟩ := check_eq_ok.mp h
  split at h <;> cases h <;> exact ⟨rfl, rfl, rfl⟩

theorem dataLocked_keeps {deliver : Option (List UInt8)}
    (h : dataLocked cfg slot frame acquire = .taken after deliver) :
    after.state = slot.state ∧ after.remoteOpen = slot.remoteOpen ∧
      after.resetNotified = slot.resetNotified := by
  unfold dataLocked at h
  iterate 4 replace h := ((ite_eq_iff.mp h).resolve_left (by simp)).2
  grind -linarith [StreamSlot.finishMessage, StreamSlot.keepFront]

theorem handleData_awake (hwait : slot.state ≠ .accepting)
    (h : handleData cfg lane slot frame acquire = .ok out) : out.Awake := by
  unfold handleData at h
  split at h
  · obtain ⟨-, h⟩ := check_eq_ok.mp h
    split at h
    · cases h
    rename_i after hdiscard
    cases h
    exact awake_some ((streamResetDiscardLocked_keeps hdiscard).1 ▸ hwait)
  · obtain ⟨-, h⟩ := check_eq_ok.mp h
    split at h
    · cases h
    · unfold failStreamReceive at h
      obtain ⟨-, h⟩ := check_eq_ok.mp h
      split at h
      · cases h
      rename_i after hdiscard
      cases h
      have hstate : after.state = .resetting := (streamResetDiscardLocked_keeps hdiscard).1
      exact awake_some (by simp [hstate])
    next after hdata =>
      cases h
      exact awake_some ((dataLocked_keeps hdata).1 ▸ hwait)
    next after message hdata =>
      cases h
      exact awake_some ((dataLocked_keeps hdata).1 ▸ hwait)

/-- A frame does not make its stream wait. -/
theorem slotReceive_awake (hwait : slot.state ≠ .accepting)
    (h : slotReceive cfg lane slot frame acquire = .ok out) : out.Awake := by
  unfold slotReceive at h
  split at h
  · exact handleData_awake hwait h
  · unfold handleWindowUpdate at h
    obtain ⟨-, h⟩ := check_eq_ok.mp h
    dsimp only at h
    split at h
    · obtain ⟨-, h⟩ := check_eq_ok.mp h
      cases h
      exact awake_some hwait
    · cases h
      exact awake_some nofun
    · cases h
      exact awake_some hwait
  · unfold handleStreamClose at h
    split at h
    · cases h
    · obtain ⟨-, h⟩ := check_eq_ok.mp h
      cases h
      exact awake_some hwait
    · split at h <;> cases h <;> exact awake_some hwait
  · unfold handleStreamReset at h
    dsimp only at h
    obtain ⟨-, h⟩ := check_eq_ok.mp h
    cases h
    by_cases hstate : slot.state = .resetting
    · simp only [if_pos hstate]
      exact awake_some hwait
    · simp only [if_neg hstate]
      exact awake_some nofun
  · cases h

end Awake

end Trpc
