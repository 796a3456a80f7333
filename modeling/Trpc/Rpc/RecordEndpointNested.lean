import Trpc.Rpc.RecordEndpointInv

/-!
# Nested events of the endpoint

What the Channel and the dispatcher call while the endpoint is in a call of its
own keeps `RecordEndpoint.Ok`, and takes no slot away whose outcome is not
reported (`RecordEndpoint.Held`).

The capacity bound is in `Ok.crowded_of_full`.  If the loop over the slots finds
none, every slot holds a call of the dispatcher or a stream other than the one
that is due.  There are not enough calls and streams for that unless some slot
lingers: it has no call, its stream has left the Channel, and it cannot be
taken back yet.
-/

namespace Trpc

open List Option

namespace RecordEndpoint

variable {w w' : RecordEndpoint} {c nested : Bool} {due : Option Nat} {i j s : Nat}

/-! ## Calls that change flags -/

theorem Ok.endpointNow (h : w.Ok c due) : (endpointNow w).2.Ok c due :=
  h.answer

theorem endpointNow_slots (w : RecordEndpoint) : (Trpc.endpointNow w).2.slots = w.slots :=
  w.answer_slots

theorem Ok.endpointTerminal (h : w.Ok c due) (i : Nat) (result : EndpointResult)
    (immediateReset : Bool) : (endpointTerminal w i result immediateReset).Ok c due := by
  unfold Trpc.endpointTerminal
  split
  · exact h
  split
  · exact h.put ⟨rfl, rfl, rfl, rfl, id, id, id⟩ ⟨Iff.rfl, rfl⟩
  have hnow := h.endpointNow
  generalize Trpc.endpointNow w = out at hnow ⊢
  obtain ⟨_ | now, w₁⟩ := out
  · exact hnow.put ⟨rfl, rfl, rfl, rfl, id, id, id⟩ ⟨Iff.rfl, rfl⟩
  · exact hnow.put ⟨rfl, rfl, rfl, rfl, id, id, id⟩ ⟨Iff.rfl, rfl⟩

/-- The end of a call changes no slot's stream. -/
theorem endpointTerminal_keeps (w : RecordEndpoint) (i : Nat) (result : EndpointResult)
    (immediateReset : Bool) (j : Nat) :
    (w.slots j).Keeps ((endpointTerminal w i result immediateReset).slots j) := by
  unfold Trpc.endpointTerminal
  split
  · exact .refl _
  split
  · refine put_keeps _ _ ?_ j
    exact ⟨rfl, rfl, rfl, rfl, id, id, id⟩
  have hslots := endpointNow_slots w
  generalize Trpc.endpointNow w = out at hslots ⊢
  obtain ⟨_ | now, w₁⟩ := out
  · rw [← hslots]
    refine put_keeps _ _ ?_ j
    exact ⟨rfl, rfl, rfl, rfl, id, id, id⟩
  rw [← hslots]
  refine put_keeps _ _ ?_ j
  exact ⟨rfl, rfl, rfl, rfl, id, id, id⟩

theorem Ok.endpointDispatchTerminal (h : w.Ok c due) (call stream : Nat)
    (result : EndpointResult) (failed : Bool) :
    (endpointDispatchTerminal w call stream result failed).Ok c due := by
  unfold Trpc.endpointDispatchTerminal
  split
  · exact h
  split
  · exact h.endpointTerminal _ _ _
  · exact h

theorem endpointDispatchTerminal_keeps (w : RecordEndpoint) (call stream : Nat)
    (result : EndpointResult) (failed : Bool) (j : Nat) :
    (w.slots j).Keeps ((endpointDispatchTerminal w call stream result failed).slots j) := by
  unfold Trpc.endpointDispatchTerminal
  split
  · exact .refl _
  split
  · exact endpointTerminal_keeps _ _ _ _ _
  · exact .refl _

theorem dispatchAdmit_cases (w : RecordEndpoint) : dispatchAdmit w = (none, w.answer.2) ∨
      w.answer.2.calls.length < w.answer.2.config.dispatchCapacity ∧
        dispatchAdmit w = (some w.answer.2.admitted, { w.answer.2 with
          calls := w.answer.2.calls ++ [w.answer.2.admitted]
          admitted := w.answer.2.admitted + 1 }) := by
  unfold dispatchAdmit
  dsimp only
  split
  next hroom => exact .inr ⟨hroom.2, rfl⟩
  next => exact .inl rfl

theorem Ok.endpointAdmit (h : w.Ok c due) (i : Nat) : (endpointAdmit w i).Ok c due := by
  unfold Trpc.endpointAdmit
  split
  · exact h
  split
  · exact h.endpointTerminal _ _ _
  rcases dispatchAdmit_cases w with hout | ⟨hroom, hout⟩
  · rw [hout]
    exact h.answer.endpointTerminal _ _ _
  · rw [hout]
    exact h.answer.assign hroom 0

/-! ## Release -/

theorem endpointReport_of_ne (hne : j ≠ i) : (endpointReport w i).slots j = w.slots j := by
  unfold Trpc.endpointReport
  split
  · rfl
  · exact put_of_ne w hne _

/-- A report sets one flag. -/
theorem endpointReport_self (w : RecordEndpoint) (i : Nat) :
    (endpointReport w i).slots i = { w.slots i with reported := true } := by
  unfold Trpc.endpointReport
  split
  next hr =>
    rw [← hr]
  next => exact put_self w i _

theorem dispatchRetire_cases (w : RecordEndpoint) (call : Nat) :
    (∃ ret, ret ≠ .ok ∧ dispatchRetire w call = (ret, w.answer.2)) ∨ dispatchRetire w call =
        (.ok, { w.answer.2 with calls := w.answer.2.calls.erase call }) := by
  unfold dispatchRetire
  dsimp only
  split
  next hret => exact .inl ⟨_, hret, rfl⟩
  next =>
    split
    · exact .inr rfl
    · exact .inl ⟨_, by decide, rfl⟩

/-- A release reports, and then may clear the slot, with its call if it has
one. -/
theorem endpointRelease_cases (w : RecordEndpoint) (i : Nat) :
    (endpointRelease w i).2 = endpointReport w i ∨
      (w.slots i).pendingEvent = none ∧ (w.slots i).call = none ∧
        (endpointRelease w i).2 = (endpointReport w i).put i {} ∨
      (∃ call, (w.slots i).call = some call ∧
        (endpointRelease w i).2 = (endpointReport w i).answer.2) ∨
      ∃ call, (w.slots i).pendingEvent = none ∧ (w.slots i).call = some call ∧
        (endpointRelease w i).2 = { (endpointReport w i).answer.2 with
          calls := (endpointReport w i).answer.2.calls.erase call }.put i {} := by
  have hself := endpointReport_self w i
  have hcall : ((endpointReport w i).slots i).call = (w.slots i).call := by rw [hself]
  have hevent : ((endpointReport w i).slots i).pendingEvent = (w.slots i).pendingEvent := by
    rw [hself]
  unfold Trpc.endpointRelease
  dsimp only
  split
  next hover =>
    have hidle : (w.slots i).pendingEvent = none := by
      rw [← hevent]
      exact isNone_iff_eq_none.1 (Bool.and_eq_true_iff.1 hover).2
    split
    next hnone => exact .inr (.inl ⟨hidle, hcall ▸ hnone, rfl⟩)
    next call hsome =>
      rw [hcall] at hsome
      rcases dispatchRetire_cases (endpointReport w i) call with ⟨ret, hret, hout⟩ | hout
      · rw [hout]
        refine .inr (.inr (.inl ⟨call, hsome, ?_⟩))
        split
        next heq => exact absurd (congrArg Prod.fst heq) hret
        next heq => exact (congrArg Prod.snd heq).symm
      · rw [hout]
        exact .inr (.inr (.inr ⟨call, hidle, hsome, rfl⟩))
  next => exact .inl rfl

theorem Ok.endpointRelease (h : w.Ok c due) (hactive : (w.slots i).active = true)
    (hflag : (w.slots i).Flagged ∨ c = true) : (endpointRelease w i).2.Ok c due := by
  have hreport := h.endpointReport hactive hflag
  have hself := endpointReport_self w i
  have hact : ((Trpc.endpointReport w i).slots i).active = true := by rw [hself, hactive]
  have hrep : ((Trpc.endpointReport w i).slots i).reported = true := by rw [hself]
  have hslots := (Trpc.endpointReport w i).answer_slots
  rcases endpointRelease_cases w i with hout | ⟨hidle, _, hout⟩ | ⟨_, _, hout⟩ |
    ⟨call, hidle, hcall, hout⟩
  · exact hout ▸ hreport
  · rw [hout]
    exact hreport.clear hact hrep (by rw [hself]; exact hidle)
  · exact hout ▸ hreport.answer
  · rw [hout]
    exact hreport.answer.retire (by rw [hslots]; exact hact) (by rw [hslots]; exact hrep)
      (by rw [hslots, hself]; exact hidle) (by rw [hslots, hself]; exact hcall)

theorem endpointRelease_of_ne (hne : j ≠ i) : (endpointRelease w i).2.slots j = w.slots j := by
  rcases endpointRelease_cases w i with hout | ⟨_, _, hout⟩ | ⟨_, _, hout⟩ | ⟨_, _, _, hout⟩
  · rw [hout, endpointReport_of_ne hne]
  · rw [hout, put_of_ne _ hne, endpointReport_of_ne hne]
  · rw [hout, answer_slots, endpointReport_of_ne hne]
  · rw [hout, put_of_ne _ hne]
    show (Trpc.endpointReport w i).answer.2.slots j = w.slots j
    rw [answer_slots, endpointReport_of_ne hne]

/-! ## The loop over the slots -/

/-- The fields that the loop over the slots leaves alone. -/
def env (w : RecordEndpoint) : EndpointConfig × Bool × List Nat × Nat × List Nat × List Nat :=
  (w.config, w.stopping, w.live, w.opened, w.lost, w.late)

theorem answer_env (w : RecordEndpoint) : w.answer.2.env = w.env := by
  unfold RecordEndpoint.answer
  split <;> rfl

theorem endpointReport_env (w : RecordEndpoint) (i : Nat) : (endpointReport w i).env = w.env := by
  unfold Trpc.endpointReport
  split <;> rfl

theorem endpointRelease_env (w : RecordEndpoint) (i : Nat) :
    (endpointRelease w i).2.env = w.env := by
  have hreport := endpointReport_env w i
  have hanswer := ((Trpc.endpointReport w i).answer_env).trans hreport
  rcases endpointRelease_cases w i with hout | ⟨_, _, hout⟩ | ⟨_, _, hout⟩ | ⟨_, _, _, hout⟩
  · rw [hout, hreport]
  · rw [hout]
    exact hreport
  · rw [hout, hanswer]
  · rw [hout]
    exact hanswer

theorem endpointReclaim_env (w : RecordEndpoint) (nested : Bool) (i : Nat) :
    (endpointReclaim w nested i).env = w.env := by
  unfold Trpc.endpointReclaim
  split
  · split
    · exact endpointRelease_env w i
    · split
      · exact endpointReport_env w i
      · rfl
  · rfl

theorem endpointScan_env (nested : Bool) (w : RecordEndpoint) (l : List Nat) :
    (endpointScan nested w l).2.env = w.env := by
  induction l generalizing w with
  | nil => rfl
  | cons i rest ih =>
    rw [Trpc.endpointScan]
    split
    · rw [ih, endpointReclaim_env]
    · exact endpointReclaim_env w nested i

theorem reclaimable_iff {slot : EndpointSlot} :
    slot.reclaimable nested = true ↔ slot.active = true ∧ slot.dead = true ∧
      slot.terminal = true ∧ slot.pendingEvent = none ∧
      (nested = false ∨ slot.reported = true) := by
  unfold EndpointSlot.reclaimable
  simp only [Bool.and_eq_true, Bool.or_eq_true, Bool.not_eq_true', isNone_iff_eq_none,
    and_assoc]

theorem Ok.endpointReclaim (h : w.Ok c due) (nested : Bool) (i : Nat) :
    (endpointReclaim w nested i).Ok c due := by
  unfold Trpc.endpointReclaim
  split
  next hr =>
    obtain ⟨hactive, hdead, _, hidle, _⟩ := reclaimable_iff.1 hr
    have hself := endpointReport_self w i
    split
    · exact h.endpointRelease hactive (.inl (.inl hdead))
    split
    · exact (h.endpointReport hactive (.inl (.inl hdead))).clear
        (by rw [hself, hactive]) (by rw [hself]) (by rw [hself]; exact hidle)
    · exact h
  next => exact h

theorem endpointReclaim_of_ne (hne : j ≠ i) : (endpointReclaim w nested i).slots j = w.slots j := by
  unfold Trpc.endpointReclaim
  split
  · split
    · exact endpointRelease_of_ne hne
    · split
      · rw [put_of_ne _ hne, endpointReport_of_ne hne]
      · rfl
  · rfl

/-- A slot without a call is taken back if it can be. -/
theorem endpointReclaim_uncalled (hr : (w.slots i).reclaimable nested = true)
    (hcall : (w.slots i).call = none) :
    ((endpointReclaim w nested i).slots i).active = false := by
  obtain ⟨_, hdead, _, hidle, _⟩ := reclaimable_iff.1 hr
  have hself := endpointReport_self w i
  have hstop : (endpointReport w i).stopping = w.stopping :=
    congrArg (·.2.1) (endpointReport_env w i)
  unfold Trpc.endpointReclaim
  rw [if_pos hr]
  split
  next hrun =>
    have hover : ((Trpc.endpointReport w i).slots i).over = true := by
      rw [hself]
      simp [EndpointSlot.over, hdead]
    unfold Trpc.endpointRelease
    dsimp only
    rw [if_pos (by rw [hover, hstop, hrun, hself]; simp [hidle])]
    have hnone : ((Trpc.endpointReport w i).slots i).call = none := by rw [hself]; exact hcall
    rw [hnone]
    show (((Trpc.endpointReport w i).put i {}).slots i).active = false
    rw [put_self]
  next => rw [if_pos (.inl hcall), put_self]

theorem Ok.endpointScan (h : w.Ok c due) (nested : Bool) (l : List Nat) :
    (endpointScan nested w l).2.Ok c due := by
  induction l generalizing w with
  | nil => exact h
  | cons i rest ih =>
    rw [Trpc.endpointScan]
    split
    · exact ih (h.endpointReclaim nested i)
    · exact h.endpointReclaim nested i

theorem endpointScan_some {l : List Nat} (hscan : (endpointScan nested w l).1 = some i) :
    ((endpointScan nested w l).2.slots i).active = false ∧ i ∈ l := by
  induction l generalizing w with
  | nil => exact absurd hscan (by simp [Trpc.endpointScan])
  | cons k rest ih =>
    rw [Trpc.endpointScan] at hscan ⊢
    split at hscan
    next hbusy =>
      rw [if_pos hbusy]
      obtain ⟨hfree, hmem⟩ := ih hscan
      exact ⟨hfree, mem_cons_of_mem _ hmem⟩
    next hfree =>
      rw [if_neg hfree]
      obtain rfl : k = i := some.inj hscan
      exact ⟨Bool.eq_false_iff.2 hfree, mem_cons_self⟩

/-- The loop that finds no slot has seen only slots in use, and none without a
call that it could take back. -/
theorem endpointScan_none {l : List Nat} (hnodup : l.Nodup)
    (hscan : (endpointScan nested w l).1 = none) :
    ∀ i ∈ l, (w.slots i).active = true ∧
      ((w.slots i).call = none → (w.slots i).reclaimable nested = false) := by
  induction l generalizing w with
  | nil => exact fun i hi => absurd hi not_mem_nil
  | cons k rest ih =>
    rw [Trpc.endpointScan] at hscan
    obtain ⟨hk, hrest⟩ := nodup_cons.1 hnodup
    split at hscan
    next hbusy =>
      intro i hi
      rcases mem_cons.1 hi with rfl | hi
      · refine ⟨?_, fun hcall => ?_⟩
        · by_contra hfree
          have hr : ¬ (w.slots i).reclaimable nested = true :=
            fun hr => hfree (reclaimable_iff.1 hr).1
          unfold Trpc.endpointReclaim at hbusy
          rw [if_neg hr] at hbusy
          exact hfree hbusy
        · by_contra hr
          rw [endpointReclaim_uncalled (Bool.not_eq_false _ ▸ hr) hcall] at hbusy
          cases hbusy
      · have hne : i ≠ k := fun heq => hk (heq ▸ hi)
        have hi' := ih hrest hscan i hi
        rw [endpointReclaim_of_ne hne] at hi'
        exact hi'
    next => exact absurd hscan (by simp)

/-- The capacity bound.  Calls and other streams do not fill the slots. -/
theorem Ok.crowded_of_full (h : w.Ok c (some s))
    (hfull : ∀ i, i < w.capacity → (w.slots i).active = true ∧
      ((w.slots i).call = none → (w.slots i).reclaimable nested = false)) :
    w.crowded nested = true := by
  obtain ⟨_, hlive, _, hother⟩ := h.fresh s rfl
  by_contra hcrowded
  have hstays : ∀ i, i < w.capacity → (w.slots i).call = none →
      (w.slots i).stream ∈ w.live.erase s := by
    intro i hi hcall
    obtain ⟨hactive, hr⟩ := hfull i hi
    have hlingers : (w.slots i).lingers w.live nested = false := by
      by_contra hl
      refine hcrowded (any_eq_true.2 ⟨i, mem_range.2 hi, ?_⟩)
      exact Bool.not_eq_false _ ▸ hl
    have hmem : (w.slots i).stream ∈ w.live := by
      simpa [EndpointSlot.lingers, hactive, hcall, hr hcall] using hlingers
    exact (mem_erase_of_ne (hother i hactive)).2 hmem
  have hcalled : Lib.slotCount w.capacity (fun i => (w.slots i).call.isSome) ≤
      w.calls.length := by
    refine Lib.slotCount_le_length (f := fun i => ((w.slots i).call).getD 0) ?_ ?_
    · intro i hi hsome
      obtain ⟨call, hcall⟩ := isSome_iff_exists.1 hsome
      rw [hcall]
      exact h.called i call (hfull i hi).1 hcall
    · intro i k hi hk hsi hsk heq
      obtain ⟨a, ha⟩ := isSome_iff_exists.1 hsi
      obtain ⟨b, hb⟩ := isSome_iff_exists.1 hsk
      obtain rfl : a = b := by simpa [ha, hb] using heq
      exact h.callsDistinct i k a (hfull i hi).1 (hfull k hk).1 ha hb
  have hstreams : Lib.slotCount w.capacity (fun i => !(w.slots i).call.isSome) ≤
      (w.live.erase s).length := by
    refine Lib.slotCount_le_length (f := fun i => (w.slots i).stream) ?_ ?_
    · intro i hi hnone
      exact hstays i hi (by simpa using hnone)
    · intro i k hi hk _ _ heq
      exact h.distinct i k (hfull i hi).1 (hfull k hk).1 heq
  have hsplit := @Lib.slotCount_split w.capacity (fun _ => true) fun i => (w.slots i).call.isSome
  have herase := length_erase_of_mem hlive
  have hpos := length_pos_of_mem hlive
  have hcalls := h.callsRoom
  have hroom := h.liveRoom
  have hcap : w.capacity = w.config.maxStreams + w.config.dispatchCapacity := rfl
  have hall : Lib.slotCount w.capacity (fun _ => true) = w.capacity := by simp [Lib.slotCount]
  simp only [Bool.true_and] at hsplit
  omega

/-! ## Opening -/

theorem Ok.note (h : w.Ok c due) (s : Nat) : Ok c due { w with late := w.late ++ [s] } :=
  { h with
    queue := h.queue.imp fun _ hq => ⟨hq.fifo, hq.pending, hq.log⟩
    prompt := fun t ht => mem_append_left _ (h.prompt t ht) }

/-- The slot that an OPENED gets, and the flag that there was none. -/
theorem Ok.endpointOpenSlot (h : w.Ok c (some s)) (nested : Bool) :
    (endpointOpenSlot w s nested).Ok c none := by
  unfold Trpc.endpointOpenSlot
  split
  rename_i clock w₁ hout
  have hclock : w₁.Ok c (some s) := by
    split at hout
    · rw [← (Prod.mk.inj hout).2]
      exact h
    have hnow := h.endpointNow
    generalize Trpc.endpointNow w = out at hnow hout
    obtain ⟨_ | now, w₂⟩ := out <;> exact (Prod.mk.inj hout).2 ▸ hnow
  dsimp only
  generalize hw₂ : (if w₁.crowded nested then { w₁ with late := w₁.late ++ [s] } else w₁) = w₂
  have hok : w₂.Ok c (some s) := by
    rw [← hw₂]
    split
    · exact hclock.note s
    · exact hclock
  have hlate : w₂.crowded nested = true → s ∈ w₂.late := by
    rw [← hw₂]
    split
    next => exact fun _ => mem_append_right _ (mem_singleton.2 rfl)
    next hnot => exact fun hyes => absurd hyes hnot
  have hscan := hok.endpointScan nested (range w₂.capacity)
  have henv := endpointScan_env nested w₂ (range w₂.capacity)
  cases hfound : (Trpc.endpointScan nested w₂ (range w₂.capacity)).1 with
  | none =>
    have hfull := endpointScan_none nodup_range hfound
    have hmem := hlate (hok.crowded_of_full fun i hi => hfull i (mem_range.2 hi))
    have heq : Trpc.endpointScan nested w₂ (range w₂.capacity) =
        (none, (Trpc.endpointScan nested w₂ (range w₂.capacity)).2) :=
      Prod.ext hfound rfl
    rw [heq]
    have hlates : (Trpc.endpointScan nested w₂ (range w₂.capacity)).2.late = w₂.late :=
      congrArg (·.2.2.2.2.2) henv
    exact hscan.lose (hlates ▸ hmem)
  | some k =>
    obtain ⟨hfree, hmem⟩ := endpointScan_some hfound
    have heq : Trpc.endpointScan nested w₂ (range w₂.capacity) =
        (some k, (Trpc.endpointScan nested w₂ (range w₂.capacity)).2) :=
      Prod.ext hfound rfl
    rw [heq]
    have hcap : (Trpc.endpointScan nested w₂ (range w₂.capacity)).2.capacity = w₂.capacity :=
      congrArg (fun e => e.1.maxStreams + e.1.dispatchCapacity) henv
    have hk : k < (Trpc.endpointScan nested w₂ (range w₂.capacity)).2.capacity := by
      rw [hcap]
      exact mem_range.1 hmem
    generalize (Trpc.endpointScan nested w₂ (range w₂.capacity)).2 = w₃ at *
    cases clock with
    | none => exact (hscan.place hfree hk 0).endpointTerminal _ _ _
    | some now =>
      dsimp only
      split
      · exact (hscan.place hfree hk _).endpointDefer (by rw [put_self]) _
      · exact (hscan.place hfree hk _).endpointAdmit _

/-! ## Events from below -/

theorem endpointFind_some (hfind : endpointFind w s = some i) :
    (w.slots i).active = true ∧ (w.slots i).stream = s := by
  have hi := find?_some hfind
  simpa using hi

/-- A stream that is due has no slot. -/
theorem Ok.endpointFind_due (h : w.Ok c (some s)) : endpointFind w s = none := by
  cases hfind : Trpc.endpointFind w s with
  | none => rfl
  | some i =>
    obtain ⟨hactive, hstream⟩ := endpointFind_some hfind
    exact absurd hstream ((h.fresh s rfl).2.2.2 i hactive)

section

variable (h : w.Ok c none)

include h

/-- A stream leaves the Channel. -/
theorem Ok.depart (s : Nat) : Ok c none { w with live := w.live.erase s } :=
  { h with
    queue := h.queue.imp fun _ hq => ⟨hq.fifo, hq.pending, hq.log⟩
    fresh := nofun
    liveRoom := le_trans length_erase_le h.liveRoom }

/-- A stream enters the Channel, and has no slot yet. -/
theorem Ok.arrive (hroom : w.live.length < w.config.maxStreams) :
    Ok c (some w.opened) { w with
      live := w.live ++ [w.opened]
      opened := w.opened + 1 } :=
  { h with
    queue := h.queue.imp fun _ hq => ⟨hq.fifo, hq.pending, hq.log⟩
    known := fun i hi => Nat.lt_succ_of_lt (h.known i hi)
    reportsKnown := fun t ht => Nat.lt_succ_of_lt (h.reportsKnown t ht)
    covered := fun t ht hdue => by
      have hne : t ≠ w.opened := fun heq => hdue (heq ▸ rfl)
      exact h.covered t (lt_of_le_of_ne (Nat.lt_succ_iff.1 ht) hne) (by simp)
    fresh := fun t ht => by
      obtain rfl : w.opened = t := some.inj ht
      refine ⟨Nat.lt_succ_self _, mem_append_right _ (mem_singleton.2 rfl), ?_, ?_⟩
      · exact fun hmem => absurd (h.reportsKnown _ hmem) (lt_irrefl _)
      · exact fun i hi heq => absurd (h.known i hi) (heq ▸ lt_irrefl _)
    liveRoom := by
      show (w.live ++ [w.opened]).length ≤ w.config.maxStreams
      rw [length_append, length_singleton]
      exact hroom }

/-- After the Channel's side of an event, the stream of an OPENED is due. -/
theorem Ok.channelAnnounce {kind : EventKind} (hout : channelAnnounce w s kind = some w') :
    w'.Ok c (if kind = .opened then some s else none) := by
  cases kind
  case opened =>
    obtain ⟨⟨rfl, hroom⟩, hw⟩ := ite_none_right_eq_some.1 hout
    cases hw
    rw [if_pos rfl]
    exact h.arrive hroom
  case closed =>
    obtain ⟨_, ⟨⟩⟩ := ite_none_right_eq_some.1 hout
    exact h.depart s
  case error =>
    obtain ⟨_, ⟨⟩⟩ := ite_none_right_eq_some.1 hout
    exact h.depart s
  case refused =>
    obtain ⟨_, ⟨⟩⟩ := ite_none_right_eq_some.1 hout
    exact h.depart s
  all_goals
    obtain ⟨_, ⟨⟩⟩ := ite_none_right_eq_some.1 hout
    exact h

omit h in
theorem Ok.mark (h : w.Ok c due) (i : Nat) (kind : EventKind) :
    (w.put i ((w.slots i).mark kind)).Ok c due :=
  h.put ((w.slots i).mark_keeps kind) ((w.slots i).mark_waits kind)

omit h in
theorem mark_active (hactive : (w.slots i).active = true) (kind : EventKind) :
    ((w.put i ((w.slots i).mark kind)).slots i).active = true := by
  rw [put_self, ((w.slots i).mark_keeps kind).active, hactive]

/-- A nested event that finds its slot marks it and may queue it. -/
theorem Ok.endpointNested {kind : EventKind} (hkind : kind ≠ .opened) :
    (endpointNested w s kind).Ok c none := by
  unfold Trpc.endpointNested
  split
  next => rw [if_neg hkind]; exact h
  next i hfind =>
    obtain ⟨hactive, _⟩ := endpointFind_some hfind
    split
    · split
      · exact h
      · exact h.endpointDefer hactive _
    dsimp only
    split
    · exact (h.mark i kind).endpointDefer (mark_active hactive kind) kind
    · exact h.mark i kind

omit h in
theorem Ok.endpointNested_opened (h : w.Ok c (some s)) :
    (Trpc.endpointNested w s .opened).Ok c none := by
  unfold Trpc.endpointNested
  rw [h.endpointFind_due]
  exact h.endpointOpenSlot true

theorem Ok.endpointUpcall (up : Upcall) : (endpointUpcall w up).Ok c none := by
  cases up with
  | terminal call stream result failed => exact h.endpointDispatchTerminal _ _ _ _
  | event stream kind =>
    unfold Trpc.endpointUpcall
    dsimp only
    split
    next => exact h
    next w₁ hout =>
      have hok := h.channelAnnounce hout
      by_cases hkind : kind = .opened
      · subst hkind
        rw [if_pos rfl] at hok
        exact hok.endpointNested_opened
      · rw [if_neg hkind] at hok
        exact hok.endpointNested hkind

theorem Ok.upcalls (ups : List Upcall) :
    (ups.foldl Trpc.endpointUpcall w).Ok c none := by
  induction ups generalizing w with
  | nil => exact h
  | cons up rest ih => exact ih (h.endpointUpcall up)

theorem Ok.callOut : w.callOut.2.Ok c none :=
  h.answer.upcalls _

theorem Ok.dispatchEvent (s : Nat) (kind : EventKind) :
    (dispatchEvent w s kind).2.Ok c none :=
  Ok.callOut { h with queue := h.queue.imp fun _ hq => ⟨hq.fifo, hq.pending, hq.log⟩ }

end

/-! ## A slot that is in progress is not taken away -/

/-- The slot holds a stream whose outcome is not reported. -/
def Held (w : RecordEndpoint) (i : Nat) : Prop :=
  (w.slots i).active = true ∧ (w.slots i).reported = false

theorem Held.of_keeps (h : w.Held i) (hk : (w.slots i).Keeps (w'.slots i)) : w'.Held i :=
  ⟨hk.active.trans h.1, hk.reported.trans h.2⟩

theorem endpointDefer_keeps (w : RecordEndpoint) (i : Nat) (kind : EventKind) (j : Nat) :
    (w.slots j).Keeps ((endpointDefer w i kind).slots j) := by
  unfold Trpc.endpointDefer
  split
  · split
    · refine put_keeps _ _ ?_ j
      exact ⟨rfl, rfl, rfl, rfl, id, id, id⟩
    · exact .refl _
  · have hfirst : (w.slots j).Keeps ((w.put i { w.slots i with
        pendingEvent := some kind, pendingNext := none }).slots j) := by
      refine put_keeps _ _ ?_ j
      exact ⟨rfl, rfl, rfl, rfl, id, id, id⟩
    dsimp only [endpointLink]
    split
    next t _ =>
      by_cases hjt : j = t
      · subst hjt
        show (w.slots j).Keeps (((w.put i _).put j _).slots j)
        rw [put_self]
        exact ⟨hfirst.stream, hfirst.call, hfirst.active, hfirst.reported, hfirst.dead,
          hfirst.resetAccepted, hfirst.closeAccepted⟩
      · show (w.slots j).Keeps (((w.put i _).put t _).slots j)
        rw [put_of_ne _ hjt]
        exact hfirst
    next => exact hfirst

section

variable (h : w.Held j)

include h

/-- A nested OPENED takes back only slots that are reported. -/
theorem Held.endpointReclaim (i : Nat) : (endpointReclaim w true i).Held j := by
  by_cases hr : (w.slots i).reclaimable true = true
  · have hne : j ≠ i := by
      rintro rfl
      have hrep := (reclaimable_iff.1 hr).2.2.2.2.resolve_left (by decide)
      cases h.2.symm.trans hrep
    unfold Held
    rw [endpointReclaim_of_ne hne]
    exact h
  · unfold Trpc.endpointReclaim
    rw [if_neg hr]
    exact h

theorem Held.endpointScan (l : List Nat) : (endpointScan true w l).2.Held j := by
  induction l generalizing w with
  | nil => exact h
  | cons i rest ih =>
    rw [Trpc.endpointScan]
    split
    · exact ih (h.endpointReclaim i)
    · exact h.endpointReclaim i

theorem Held.of_slots (hslots : w'.slots = w.slots) : w'.Held j := by
  unfold Held
  rw [hslots]
  exact h

theorem Held.endpointOpenSlot (s : Nat) : (endpointOpenSlot w s true).Held j := by
  unfold Trpc.endpointOpenSlot
  split
  rename_i clock w₁ hout
  have hclock : w₁.Held j := by
    split at hout
    · rw [← (Prod.mk.inj hout).2]
      exact h
    have hnow := h.of_slots (endpointNow_slots w)
    generalize Trpc.endpointNow w = out at hnow hout
    obtain ⟨_ | now, w₂⟩ := out <;> exact (Prod.mk.inj hout).2 ▸ hnow
  dsimp only
  generalize hw₂ : (if w₁.crowded true then { w₁ with late := w₁.late ++ [s] } else w₁) = w₂
  have hheld : w₂.Held j := by
    rw [← hw₂]
    split <;> exact hclock
  have hscan := hheld.endpointScan (range w₂.capacity)
  have hsome : ∀ k, (Trpc.endpointScan true w₂ (range w₂.capacity)).1 = some k →
      ((Trpc.endpointScan true w₂ (range w₂.capacity)).2.slots k).active = false :=
    fun k hk => (endpointScan_some hk).1
  generalize Trpc.endpointScan true w₂ (range w₂.capacity) = out at hscan hsome ⊢
  obtain ⟨_ | k, w₃⟩ := out
  · exact hscan
  have hne : j ≠ k := by
    rintro rfl
    exact absurd (hscan.1.symm.trans (hsome j rfl)) Bool.noConfusion
  have hput : ∀ slot, (w₃.put k slot).Held j := fun slot => by
    unfold Held
    rw [put_of_ne w₃ hne]
    exact hscan
  cases clock with
  | none => exact (hput _).of_keeps (endpointTerminal_keeps _ _ _ _ _)
  | some now => exact (hput _).of_keeps (endpointDefer_keeps _ _ _ _)

theorem Held.endpointNested (s : Nat) (kind : EventKind) :
    (endpointNested w s kind).Held j := by
  unfold Trpc.endpointNested
  split
  · split
    · exact h.endpointOpenSlot s
    · exact h
  next i _ =>
    split
    · split
      · exact h
      · exact h.of_keeps (endpointDefer_keeps _ _ _ _)
    have hmark := h.of_keeps (w.put_keeps _ ((w.slots i).mark_keeps kind) j)
    dsimp only
    split
    · exact hmark.of_keeps (endpointDefer_keeps _ _ _ _)
    · exact hmark

omit h in
theorem channelAnnounce_slots {kind : EventKind}
    (hout : channelAnnounce w s kind = some w') : w'.slots = w.slots := by
  cases kind <;>
  · obtain ⟨_, ⟨⟩⟩ := ite_none_right_eq_some.1 hout
    rfl

theorem Held.endpointUpcall (up : Upcall) : (endpointUpcall w up).Held j := by
  cases up with
  | terminal call stream result failed =>
    exact h.of_keeps (endpointDispatchTerminal_keeps _ _ _ _ _ _)
  | event stream kind =>
    unfold Trpc.endpointUpcall
    dsimp only
    split
    next => exact h
    next w₁ hout => exact (h.of_slots (channelAnnounce_slots hout)).endpointNested stream kind

theorem Held.upcalls (ups : List Upcall) :
    (ups.foldl Trpc.endpointUpcall w).Held j := by
  induction ups generalizing w with
  | nil => exact h
  | cons up rest ih => exact ih (h.endpointUpcall up)

theorem Held.callOut : w.callOut.2.Held j :=
  (h.of_slots w.answer_slots).upcalls _

end

end RecordEndpoint

end Trpc
