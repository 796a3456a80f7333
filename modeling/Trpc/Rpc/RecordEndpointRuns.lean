import Trpc.Rpc.RecordEndpointNested

/-!
# Runs of the endpoint

Every step keeps `RecordEndpoint.Ok` or frees the endpoint when every outcome
is reported, so what the endpoint owes its streams holds over every run.
-/

namespace Trpc

open List

namespace RecordEndpoint

variable {v w w' : RecordEndpoint} {c : Bool} {i j s : Nat}

/-! ## Deferred events -/

theorem Ok.endpointApply {kind : EventKind}
    (h : Ok c none { w with applied := w.applied ++ [((w.slots i).stream, kind)] }) :
    (endpointApply w i kind).Ok c none := by
  unfold Trpc.endpointApply
  dsimp only
  split
  · exact h.endpointAdmit i
  split
  · exact h.dispatchEvent _ _
  split
  · exact h.endpointTerminal _ _ _
  · exact h

theorem Ok.endpointApplyDeferred (h : w.Ok c none) (budget : Nat) :
    (endpointApplyDeferred w budget).2.Ok c none := by
  induction budget generalizing w with
  | zero => exact h
  | succ budget ih =>
    rw [Trpc.endpointApplyDeferred]
    split
    next => exact h
    next i hhead =>
      split
      next hnone => exact absurd hnone (h.pending_of_head hhead)
      next kind _ => exact ih (h.endpointTake hhead kind).endpointApply

/-- What becomes of an event that was deferred.  A stream that has its outcome needs none; OPENED
is admitted or refused; a stream with a call has its dispatcher told of the event, as long as
there is one; any other gets the outcome of the event. -/
def Applies (w : RecordEndpoint) (i : Nat) (kind : EventKind) : Prop :=
  let noted := { w with applied := w.applied ++ [((w.slots i).stream, kind)] }
  let w' := endpointApply w i kind
  (w.slots i).terminal = true ∨
  (kind = .opened ∧ ((w'.slots i).call.isSome ∨ (w'.slots i).terminal)) ∨
  (kind ≠ .opened ∧ (w.slots i).call.isSome ∧
    (w.dispatch → w' = (dispatchEvent noted (w.slots i).stream kind).2)) ∨
  ((w'.slots i).terminal ∧ (w'.slots i).result.status = endpointDeferredStatus kind)

theorem endpointTerminal_self (w : RecordEndpoint) (i : Nat) (result : EndpointResult)
    (immediate : Bool) :
    ((endpointTerminal w i result immediate).slots i).terminal = true ∧
      ((w.slots i).terminal = false →
        ((endpointTerminal w i result immediate).slots i).result = result) := by
  unfold endpointTerminal
  split
  next hended => exact ⟨hended, fun hlive => nomatch hended.symm.trans hlive⟩
  split
  · simp
  split <;> simp

theorem endpointAdmit_self (w : RecordEndpoint) (i : Nat) :
    ((endpointAdmit w i).slots i).call.isSome ∨ ((endpointAdmit w i).slots i).terminal := by
  unfold endpointAdmit
  split
  next hdone => exact hdone.symm
  split
  · exact .inr (endpointTerminal_self _ _ _ _).1
  split
  · exact .inl (by rw [put_self]; rfl)
  · exact .inr (endpointTerminal_self _ _ _ _).1

theorem applies (w : RecordEndpoint) (i : Nat) (kind : EventKind) : w.Applies i kind := by
  unfold Applies endpointApply
  dsimp only
  cases hlive : (w.slots i).terminal with
  | true => exact .inl rfl
  | false =>
    refine .inr ?_
    by_cases hopened : kind = .opened
    · rw [if_pos hopened]
      exact .inl ⟨hopened, endpointAdmit_self _ i⟩
    rw [if_neg hopened]
    refine .inr ?_
    by_cases hcall : (w.slots i).call.isSome
    · exact .inl ⟨hopened, hcall, fun hdispatch => if_pos ⟨hdispatch, hcall, rfl⟩⟩
    refine .inr ?_
    rw [if_neg fun hif => hcall hif.2.1, if_pos ⟨rfl, Option.not_isSome_iff_eq_none.1 hcall⟩]
    obtain ⟨hended, hresult⟩ := endpointTerminal_self { w with
      applied := w.applied ++ [((w.slots i).stream, kind)] } i
      { status := endpointDeferredStatus kind } true
    exact ⟨hended, congrArg EndpointResult.status (hresult hlive)⟩

/-! ## Progress -/

/-- The calls that led from `v` to `w` left slot `i` where it was. -/
def Stays (v : RecordEndpoint) (c : Bool) (i : Nat) (w : RecordEndpoint) : Prop :=
  w.Ok c none ∧ (v.Held i → w.Held i)

section

variable (h : Stays v c i w)

include h

theorem Stays.callOut : Stays v c i w.callOut.2 :=
  ⟨h.1.callOut, fun hheld => (h.2 hheld).callOut⟩

theorem Stays.put {r : EndpointSlot} (hk : (w.slots i).Keeps r)
    (hw : (w.slots i).Waits r) : Stays v c i (w.put i r) :=
  ⟨h.1.put hk hw, fun hheld => (h.2 hheld).of_keeps (w.put_keeps r hk i)⟩

/-- A reset that is accepted flags the slot. -/
theorem Stays.endpointReset : Stays v c i (endpointReset w i).2 ∧
    ((endpointReset w i).1 = .ok → ((endpointReset w i).2.slots i).Flagged) := by
  unfold Trpc.endpointReset
  have hout := h.callOut
  generalize w.callOut = out at hout ⊢
  obtain ⟨a, w₁⟩ := out
  dsimp only at hout ⊢
  split
  · exact ⟨hout.put ⟨rfl, rfl, rfl, rfl, id, fun _ => rfl, id⟩ ⟨Iff.rfl, rfl⟩,
      fun _ => by rw [put_self]; exact .inr (.inl rfl)⟩
  iterate 2
    exact ⟨hout.put ⟨rfl, rfl, rfl, rfl, fun _ => rfl, id, id⟩ ⟨Iff.rfl, rfl⟩,
      fun _ => by rw [put_self]; exact .inl rfl⟩
  next hne _ _ => exact ⟨hout, fun hok => absurd hok hne⟩

theorem Stays.endpointSendError :
    Stays v c i (endpointSendError w i).2 := by
  unfold Trpc.endpointSendError
  dsimp only
  split
  · exact h.callOut.put ⟨rfl, rfl, rfl, rfl, id, id, id⟩ ⟨Iff.rfl, rfl⟩
  · exact h.callOut

theorem Stays.endpointFinal (now : Nat) :
    Stays v c i (endpointFinal w i now).2 := by
  unfold Trpc.endpointFinal
  dsimp only
  split
  · have hout := h.endpointSendError
    generalize Trpc.endpointSendError w i = out at hout ⊢
    obtain ⟨ret, w₁⟩ := out
    cases ret
    case ok | again | errClosed | errStale => exact hout
    all_goals exact hout.put ⟨rfl, rfl, rfl, rfl, id, id, id⟩ ⟨Iff.rfl, rfl⟩
  · exact h

theorem Stays.endpointStreamClose :
    Stays v c i (endpointStreamClose w i).2 := by
  unfold Trpc.endpointStreamClose
  dsimp only
  split
  · exact ⟨h.callOut.1.depart _, h.callOut.2⟩
  · exact h.callOut

/-- The close of the stream, after its credit was stopped, flags its slot. -/
theorem Stays.endpointEnd : Stays v c i (endpointEnd w i).2 ∧
    ((endpointEnd w i).1 = .ok → ((endpointEnd w i).2.slots i).Flagged) := by
  unfold Trpc.endpointEnd
  dsimp only
  split
  next hflag => exact ⟨h, fun _ => hflag.imp id .inl⟩
  split
  · exact h.endpointReset
  have hclose : Stays v c i (if w.callOut.1.status = .ok then
      Trpc.endpointStreamClose w.callOut.2 i
      else (w.callOut.1.status, w.callOut.2)).2 := by
    split
    · exact h.callOut.endpointStreamClose
    · exact h.callOut
  generalize (if w.callOut.1.status = .ok then
      Trpc.endpointStreamClose w.callOut.2 i
      else (w.callOut.1.status, w.callOut.2)) = out at hclose ⊢
  obtain ⟨ret, w₁⟩ := out
  cases ret
  case ok =>
    exact ⟨hclose.put ⟨rfl, rfl, rfl, rfl, id, id, fun _ => rfl⟩ ⟨Iff.rfl, rfl⟩,
      fun _ => by rw [put_self]; exact .inr (.inr rfl)⟩
  case errClosed | errStale =>
    exact ⟨hclose.put ⟨rfl, rfl, rfl, rfl, fun _ => rfl, id, id⟩ ⟨Iff.rfl, rfl⟩,
      fun _ => by rw [put_self]; exact .inl rfl⟩
  all_goals exact ⟨hclose, fun hok => Status.noConfusion hok⟩

end

/-- The progress of one slot.  Before the stream is ended its outcome is not
reported, so nothing that the sends call takes the slot away. -/
theorem Ok.endpointProgress (h : w.Ok false none) (i now : Nat) :
    (endpointProgress w i now).2.Ok false none := by
  unfold Trpc.endpointProgress
  dsimp only
  split
  · exact h
  next hactive =>
    have hactive : (w.slots i).active = true := Bool.not_eq_false _ ▸ hactive
    split
    · split
      · split
        · exact h.answer
        · split
          · exact (Stays.endpointReset ⟨h.answer, id⟩).1.1
          · exact h.answer
      · exact h
    · split
      next hplain =>
        have hheld : w.Held i := by
          refine ⟨hactive, Bool.eq_false_iff.2 fun hrep => ?_⟩
          rcases h.flagged i hactive hrep with (hd | hr | hc) | hfalse
          · cases hplain.1.symm.trans hd
          · cases hplain.2.2.symm.trans hr
          · cases hplain.2.1.symm.trans hc
          · cases hfalse
        have hfinal := Stays.endpointFinal (i := i) ⟨h, id⟩ now
        generalize Trpc.endpointFinal w i now = out at hfinal ⊢
        obtain ⟨_ | _, w₁⟩ := out
        · dsimp only at hfinal ⊢
          obtain ⟨hend, hflag⟩ := hfinal.endpointEnd
          generalize Trpc.endpointEnd w₁ i = out at hend hflag ⊢
          obtain ⟨ret, w₂⟩ := out
          cases ret
          case ok => exact hend.1.endpointRelease (hend.2 hheld).1 (.inl (hflag rfl))
          all_goals exact hend.1
        · exact hfinal.1
      next hflags =>
        refine h.endpointRelease hactive (.inl ?_)
        unfold EndpointSlot.Flagged
        by_contra hnone
        simp only [not_or, Bool.not_eq_true] at hnone
        exact hflags ⟨hnone.1, hnone.2.2, hnone.2.1⟩

theorem Ok.endpointDispatchLoop (h : w.Ok c none) (budget n : Nat) :
    (endpointDispatchLoop w budget n).2.2.2.Ok c none := by
  induction n generalizing w budget with
  | zero => exact h
  | succ n ih =>
    rw [Trpc.endpointDispatchLoop]
    have hnext := h.callOut.endpointApplyDeferred budget
    dsimp only
    split
    · exact hnext
    · exact ih hnext _

theorem Ok.turn (h : w.Ok c none) (cursor : Nat) : Ok c none { w with cursor := cursor } :=
  { h with queue := h.queue.imp fun _ hq => ⟨hq.fifo, hq.pending, hq.log⟩ }

theorem Ok.endpointProgressLoop (h : w.Ok false none) (now budget : Nat) (ret : Status)
    (n : Nat) : (endpointProgressLoop now w budget ret n).2.Ok false none := by
  induction n generalizing w budget ret with
  | zero => exact h
  | succ n ih =>
    rw [Trpc.endpointProgressLoop]
    have hnext := ((h.turn ((w.cursor + 1) % w.capacity)).endpointProgress
      w.cursor now).endpointApplyDeferred budget
    dsimp only
    split
    · exact hnext
    · exact ih hnext _ _

theorem Ok.endpointProgressAll (h : w.Ok false none) (budget : Nat) :
    (endpointProgressAll w budget).2.Ok false none :=
  h.endpointNow.endpointProgressLoop _ _ _ _

theorem Ok.endpointPump (h : w.Ok false none) : (endpointPump w).2.Ok false none := by
  unfold Trpc.endpointPump
  have hfirst := h.endpointApplyDeferred w.config.progressLimit
  dsimp only
  split
  · exact hfirst
  split
  · have hrun := hfirst.callOut.endpointApplyDeferred
      (Trpc.endpointApplyDeferred w w.config.progressLimit).1
    split
    · exact hrun
    have hloop := hrun.endpointDispatchLoop (Trpc.endpointApplyDeferred
        (Trpc.endpointApplyDeferred w w.config.progressLimit).2.callOut.2
        (Trpc.endpointApplyDeferred w w.config.progressLimit).1).1
      (min (Trpc.endpointApplyDeferred
        (Trpc.endpointApplyDeferred w w.config.progressLimit).2.callOut.2
        (Trpc.endpointApplyDeferred w w.config.progressLimit).1).2.config.progressLimit
        (Trpc.endpointApplyDeferred
          (Trpc.endpointApplyDeferred w w.config.progressLimit).2.callOut.2
          (Trpc.endpointApplyDeferred w w.config.progressLimit).1).2.config.dispatchCapacity)
    generalize Trpc.endpointDispatchLoop _ _ _ = out at hloop ⊢
    obtain ⟨_ | _, ret, budget, w₁⟩ := out
    · exact hloop.endpointProgressAll budget
    · exact hloop
  · exact hfirst.endpointProgressAll _

/-! ## Steps -/

theorem Ok.endpointEvent_opened (h : w.Ok c (some s)) :
    (Trpc.endpointEvent w s .opened).Ok c none := by
  unfold Trpc.endpointEvent
  rw [h.endpointFind_due]
  exact h.endpointOpenSlot false

section

variable (h : w.Ok c none)

include h

theorem Ok.endpointEvent {kind : EventKind} (hkind : kind ≠ .opened) :
    (endpointEvent w s kind).Ok c none := by
  unfold Trpc.endpointEvent
  split
  next => rw [if_neg hkind]; exact h
  next i hfind =>
    obtain ⟨hactive, _⟩ := endpointFind_some hfind
    dsimp only
    split
    · exact (h.mark i kind).dispatchEvent s kind
    split
    · exact (h.mark i kind).endpointDefer (mark_active hactive kind) kind
    · exact h.mark i kind

theorem Ok.endpointData (s : Nat) : (endpointData w s).Ok c none := by
  unfold Trpc.endpointData
  split
  · exact h
  next i _ =>
    dsimp only
    split
    · split
      · exact (h.endpointAdmit i).callOut
      · exact h.endpointAdmit i
    · exact h

/-- An event at depth zero, with its pump. -/
theorem Ok.endpointDeliver {kind : EventKind}
    (hannounce : Trpc.channelAnnounce w s kind = some w') (notifying : Bool) :
    (endpointDeliver w' s notifying kind).Ok c none := by
  have hok := h.channelAnnounce hannounce
  have hpump : ∀ {v : RecordEndpoint}, v.Ok c none →
      (if notifying ∨ v.cleanup then v else (Trpc.endpointPump v).2).Ok c none := by
    intro v hv
    split
    · exact hv
    next hrun =>
      cases c with
      | false => exact hv.endpointPump
      | true => exact absurd (.inr hv.phase) hrun
  by_cases hkind : kind = .opened
  · subst hkind
    rw [if_pos rfl] at hok
    exact hpump hok.endpointEvent_opened
  rw [if_neg hkind] at hok
  cases kind
  case opened => exact absurd rfl hkind
  case data => exact hok.endpointData s
  all_goals exact hpump (hok.endpointEvent hkind)

theorem Ok.endpointAbortAll (l : List Nat) :
    (endpointAbortAll w l).Ok c none := by
  induction l generalizing w with
  | nil => exact h
  | cons i rest ih =>
    rw [Trpc.endpointAbortAll]
    split
    · exact ih h.callOut
    · exact ih h

/-! ## The end of the endpoint -/

/-- Every slot in use has been reported. -/
def AllReported (w : RecordEndpoint) : Prop :=
  ∀ i, (w.slots i).active = true → (w.slots i).reported = true

omit h in
theorem AllReported.of_keeps (h : w.AllReported)
    (hk : ∀ j, (w.slots j).Keeps (w'.slots j)) : w'.AllReported :=
  fun j hj => (hk j).reported.trans (h j ((hk j).active.symm.trans hj))

/-- The endpoint serves, or is gone with every outcome reported. -/
def Settled (w : RecordEndpoint) : Prop :=
  (∃ c, w.Ok c none) ∨
    ∃ c, ∃ v : RecordEndpoint, v.Ok c none ∧ v.AllReported ∧ w = { v with freed := true }

theorem Ok.endpointFree (hall : w.AllReported) : (endpointFree w).Settled := by
  unfold Trpc.endpointFree
  dsimp only
  split
  · refine .inr ⟨c, _, h.answer, ?_, rfl⟩
    unfold AllReported
    rw [answer_slots]
    exact hall
  · exact .inl ⟨c, h.answer⟩

theorem Ok.undispatch : Ok c none { w with dispatch := false } :=
  { h with queue := h.queue.imp fun _ hq => ⟨hq.fifo, hq.pending, hq.log⟩ }

omit h in
/-- The calls that a dispatcher gives back while it stops change no slot's
stream. -/
theorem upcalls_keeps (w : RecordEndpoint) (ups : List Upcall)
    (hterminal : ∀ up ∈ ups, up.isTerminal = true) (j : Nat) :
    (w.slots j).Keeps ((ups.foldl endpointUpcall w).slots j) := by
  induction ups generalizing w with
  | nil => exact .refl _
  | cons up rest ih =>
    have hrest := ih (Trpc.endpointUpcall w up) fun u hu => hterminal u (mem_cons_of_mem _ hu)
    cases up with
    | event stream kind => exact absurd (hterminal _ mem_cons_self) (by simp [Upcall.isTerminal])
    | terminal call stream result failed =>
      have hone := endpointDispatchTerminal_keeps w call stream result failed j
      exact ⟨hrest.stream.trans hone.stream, hrest.call.trans hone.call,
        hrest.active.trans hone.active, hrest.reported.trans hone.reported,
        hrest.dead ∘ hone.dead, hrest.resetAccepted ∘ hone.resetAccepted,
        hrest.closeAccepted ∘ hone.closeAccepted⟩

theorem Ok.teardown : w.teardown.2.Ok c none := by
  unfold RecordEndpoint.teardown
  dsimp only
  split
  · exact (h.answer.upcalls _).undispatch
  · exact h.answer.upcalls _

omit h in
theorem teardown_keeps (w : RecordEndpoint) (j : Nat) :
    (w.slots j).Keeps (w.teardown.2.slots j) := by
  have hups := upcalls_keeps w.answer.2 (w.answer.1.upcalls.filter Upcall.isTerminal)
    (fun up hup => (mem_filter.1 hup).2) j
  rw [answer_slots] at hups
  unfold RecordEndpoint.teardown
  dsimp only
  split <;> exact hups

theorem Ok.endpointCloseTail : (endpointCloseTail w).Settled := by
  unfold Trpc.endpointCloseTail
  split
  · exact .inl ⟨c, h⟩
  next hidle =>
    have hall : w.AllReported := by
      intro i hactive
      by_contra hrep
      refine hidle (any_eq_true.2 ⟨i, mem_range.2 (h.bounded i hactive), ?_⟩)
      simp [EndpointSlot.busy, hactive, Bool.eq_false_iff.2 hrep]
    split
    · have hok := h.teardown
      have hkeeps := hall.of_keeps w.teardown_keeps
      generalize w.teardown = out at hok hkeeps ⊢
      obtain ⟨ret, w₁⟩ := out
      cases ret
      case ok => exact hok.endpointFree hkeeps
      all_goals exact .inl ⟨c, hok⟩
    · exact h.endpointFree hall

theorem Ok.stop : Ok c none { w with stopping := true } :=
  { h with queue := h.queue.imp fun _ hq => ⟨hq.fifo, hq.pending, hq.log⟩ }

omit h in
theorem Ok.endpointClose (h : w.Ok false none) : (endpointClose w).Settled := by
  unfold Trpc.endpointClose
  dsimp only
  have hbefore : (if w.dispatch then
      Trpc.endpointAbortAll { w with stopping := true }
        (range { w with stopping := true }.capacity)
      else { w with stopping := true }).Ok false none := by
    split
    · exact h.stop.endpointAbortAll _
    · exact h.stop
  have hpump := hbefore.endpointPump
  generalize Trpc.endpointPump _ = out at hpump ⊢
  obtain ⟨ret, w₁⟩ := out
  cases ret
  case ok => exact hpump.endpointCloseTail
  all_goals exact .inl ⟨false, hpump⟩

omit h in
/-- The slots that the last loop reports. -/
theorem Ok.endpointReapLoop (h : w.Ok true none) (l : List Nat) :
    (endpointReapLoop w l).Ok true none ∧
      ∀ j, ((endpointReapLoop w l).slots j).active = (w.slots j).active ∧
        ((w.slots j).reported = true ∨ j ∈ l → (w.slots j).active = true →
          ((endpointReapLoop w l).slots j).reported = true) := by
  induction l generalizing w with
  | nil => exact ⟨h, fun j => ⟨rfl, fun hj _ => hj.resolve_right not_mem_nil⟩⟩
  | cons i rest ih =>
    rw [Trpc.endpointReapLoop]
    split
    next hopen =>
      have hput := h.put (i := i) (r := { w.slots i with
        result := ⟨rpcStatusCancelled, .ownerStopped, false⟩ })
        ⟨rfl, rfl, rfl, rfl, id, id, id⟩ ⟨Iff.rfl, rfl⟩
      have hreport := hput.endpointReport (i := i) (by rw [put_self]; exact hopen.1) (.inr rfl)
      obtain ⟨hok, hslots⟩ := ih hreport
      refine ⟨hok, fun j => ?_⟩
      obtain ⟨hact, hrep⟩ := hslots j
      by_cases hji : j = i
      · subst hji
        rw [endpointReport_self, put_self] at hact hrep
        exact ⟨hact, fun _ hj => hrep (.inl rfl) hj⟩
      rw [endpointReport_of_ne hji, put_of_ne w hji] at hact hrep
      refine ⟨hact, fun hor hj => hrep (hor.imp_right fun hmem => ?_) hj⟩
      exact (mem_cons.1 hmem).resolve_left hji
    next hdone =>
      obtain ⟨hok, hslots⟩ := ih h
      refine ⟨hok, fun j => ⟨(hslots j).1, fun hor hj => (hslots j).2 ?_ hj⟩⟩
      rcases hor with hrep | hmem
      · exact .inl hrep
      rcases mem_cons.1 hmem with rfl | hmem
      · left
        by_contra hrep
        exact hdone ⟨hj, Bool.eq_false_iff.2 hrep⟩
      · exact .inr hmem

omit h in
theorem Ok.endpointReapTail (h : w.Ok true none) : (endpointReapTail w).Settled := by
  unfold Trpc.endpointReapTail
  dsimp only
  split
  · exact .inl ⟨true, h.answer⟩
  obtain ⟨hok, hslots⟩ := h.answer.endpointReapLoop (range w.answer.2.capacity)
  have hall : (Trpc.endpointReapLoop w.answer.2 (range w.answer.2.capacity)).AllReported := by
    intro j hj
    rw [(hslots j).1] at hj
    exact (hslots j).2 (.inr (mem_range.2 (h.answer.bounded j hj))) hj
  split
  · refine hok.answer.endpointFree ?_
    unfold AllReported
    rw [answer_slots]
    exact hall
  · exact .inl ⟨true, hok.answer⟩

/-- From here on only the reaper touches the endpoint. -/
theorem Ok.reaping : Ok true none { w with cleanup := true, stopping := true } :=
  { h with
    phase := rfl
    queue := h.queue.imp fun _ hq => ⟨hq.fifo, hq.pending, hq.log⟩
    flagged := fun _ _ _ => .inr rfl }

theorem Ok.endpointReapStopped : (endpointReapStopped w).Settled := by
  unfold Trpc.endpointReapStopped
  dsimp only
  split
  · exact .inl ⟨c, h.answer⟩
  have hok := h.answer.reaping.answer
  generalize { w.answer.2 with cleanup := true, stopping := true }.answer = out at hok ⊢
  obtain ⟨a, w₁⟩ := out
  dsimp only at hok ⊢
  split
  · exact .inl ⟨true, hok⟩
  split
  · have hdown := hok.teardown
    generalize w₁.teardown = out at hdown ⊢
    obtain ⟨ret, w₂⟩ := out
    cases ret
    case ok => exact hdown.endpointReapTail
    all_goals exact .inl ⟨true, hdown⟩
  · exact hok.endpointReapTail

/-! ## Runs -/

theorem Ok.load (script : List Answer) : Ok c none { w with script := script } :=
  { h with queue := h.queue.imp fun _ hq => ⟨hq.fifo, hq.pending, hq.log⟩ }

end

theorem Settled.step (h : w.Settled) {step : EndpointStep}
    (hstep : endpointStep w step = some w') : w'.Settled := by
  unfold endpointStep at hstep
  obtain ⟨hopen, hstep⟩ := Option.ite_none_left_eq_some.1 hstep
  rcases h with ⟨c, h⟩ | ⟨c, v, _, _, rfl⟩
  · cases step with
    | event stream kind notifying script =>
      obtain ⟨w₁, hannounce, rfl⟩ := Option.map_eq_some_iff.1 hstep
      exact .inl ⟨c, (h.load script).endpointDeliver hannounce notifying⟩
    | pump script =>
      obtain ⟨hphase, ⟨⟩⟩ := Option.ite_none_left_eq_some.1 hstep
      obtain rfl : false = c := (Bool.eq_false_iff.2 hphase).symm.trans h.phase
      exact .inl ⟨false, (h.load script).endpointPump⟩
    | close script =>
      obtain ⟨hphase, ⟨⟩⟩ := Option.ite_none_left_eq_some.1 hstep
      obtain rfl : false = c := (Bool.eq_false_iff.2 hphase).symm.trans h.phase
      exact (h.load script).endpointClose
    | reap script =>
      cases hstep
      exact (h.load script).endpointReapStopped
  · exact absurd rfl hopen

theorem create_ok (config : EndpointConfig) : (endpointCreate config).Ok false none where
  running := rfl
  phase := rfl
  queue := ⟨[], Lib.Fifo.empty, fun i => by simp [endpointCreate], rfl⟩
  pending := fun i hi => absurd rfl hi
  bounded := fun i hi => absurd hi Bool.false_ne_true
  known := fun i hi => absurd hi Bool.false_ne_true
  distinct := fun i j hi => absurd hi Bool.false_ne_true
  reported := fun i hi => absurd hi Bool.false_ne_true
  flagged := fun i hi => absurd hi Bool.false_ne_true
  once := nodup_nil
  reportsKnown := fun t ht => absurd ht not_mem_nil
  covered := fun t ht => absurd ht (Nat.not_lt_zero t)
  fresh := nofun
  called := fun i call hi => absurd hi Bool.false_ne_true
  callsDistinct := fun i j call hi => absurd hi Bool.false_ne_true
  callsKnown := fun call hcall => absurd hcall not_mem_nil
  callsRoom := Nat.zero_le _
  liveRoom := Nat.zero_le _
  prompt := fun t ht => absurd ht not_mem_nil

theorem settled_run {config : EndpointConfig} {steps : List EndpointStep}
    (hrun : endpointRun (endpointCreate config) steps = some w) : w.Settled :=
  Lib.runSteps_invariant (fun _ _ _ hok hstep => hok.step hstep)
    (.inl ⟨false, create_ok config⟩) hrun

/-! ## What the endpoint owes its streams -/

/-- The slots in the queue of deferred events are those with an event, each
once.  The events are applied in the order in which they were deferred, each to
the stream it was deferred for, and the slot is not cleared before. -/
structure QueueSafe (w : RecordEndpoint) : Prop where
  queue : ∃ q, w.Queue q
  kept : ∀ i, (w.slots i).pendingEvent ≠ none → (w.slots i).active = true

/-- A stream has at most one report.  A stream that got a slot keeps it until
its report, and has its report when the endpoint is freed. -/
structure ReportsSafe (w : RecordEndpoint) : Prop where
  once : w.reports.Nodup
  owed : ∀ s, s < w.opened → s ∉ w.lost → s ∉ w.reports →
    ∃ i, i < w.capacity ∧ (w.slots i).active = true ∧ (w.slots i).stream = s
  freed : w.freed = true → ∀ s, s < w.opened → s ∉ w.lost → s ∈ w.reports

theorem Settled.queueSafe (h : w.Settled) : w.QueueSafe := by
  rcases h with ⟨c, h⟩ | ⟨c, v, h, _, rfl⟩
  · exact ⟨h.queue, h.pending⟩
  · exact ⟨h.queue.imp fun _ hq => ⟨hq.fifo, hq.pending, hq.log⟩, h.pending⟩

theorem Ok.owed (h : w.Ok c none) (hs : s < w.opened) (hlost : s ∉ w.lost) (hrep : s ∉ w.reports) :
    ∃ i, i < w.capacity ∧ (w.slots i).active = true ∧ (w.slots i).stream = s := by
  obtain ⟨i, hi, hstream⟩ := ((h.covered s hs (by simp)).resolve_left hrep).resolve_left hlost
  exact ⟨i, h.bounded i hi, hi, hstream⟩

theorem Settled.reportsSafe (h : w.Settled) : w.ReportsSafe := by
  rcases h with ⟨c, h⟩ | ⟨c, v, h, hall, rfl⟩
  · exact ⟨h.once, fun s hs hlost hrep => h.owed hs hlost hrep,
      fun hfreed => nomatch h.running.symm.trans hfreed⟩
  refine ⟨h.once, fun s hs hlost hrep => h.owed hs hlost hrep, fun _ s hs hlost => ?_⟩
  by_contra hrep
  obtain ⟨i, _, hactive, rfl⟩ := h.owed hs hlost hrep
  exact hrep ((h.reported i hactive).1 (hall i hactive))

theorem Settled.prompt (h : w.Settled) : ∀ s ∈ w.lost, s ∈ w.late := by
  rcases h with ⟨c, h⟩ | ⟨c, v, h, _, rfl⟩
  · exact h.prompt
  · exact h.prompt

end RecordEndpoint

/-- Deferred events and reports are safe in every run, lost streams or not. -/
theorem endpointRun_safe {config : EndpointConfig} {steps : List EndpointStep}
    {w : RecordEndpoint} (hrun : endpointRun (endpointCreate config) steps = some w) :
    w.QueueSafe ∧ w.ReportsSafe :=
  ⟨(RecordEndpoint.settled_run hrun).queueSafe, (RecordEndpoint.settled_run hrun).reportsSafe⟩

/-- No OPENED of the step comes while a slot lingers. -/
def EndpointStep.Prompt (w : RecordEndpoint) (step : EndpointStep) : Prop :=
  ∀ w' ∈ endpointStep w step, w'.late = w.late

instance : DecidablePred (EndpointStep.Prompt w) := fun step =>
  inferInstanceAs (Decidable (∀ w' ∈ endpointStep w step, w'.late = w.late))

/-- One stream and one call, so two slots. -/
def narrowEndpoint : EndpointConfig := ⟨1, 1, 2, 10, 10⟩

/-- A stream is served and reset by the peer while its worker runs; its end comes while the
dispatcher is told, and is deferred.  The second is refused, half-closed by the peer and answered,
and the third finds a slot. -/
def servedSteps : List EndpointStep := [ .event 0 .opened false [],
  .event 0 (.reset Status.errClosed.code) false [{ upcalls := [.event 0 .closed] }],
  .event 1 .opened false [{}, {}, {}, {}, {}, {}, { status := .again }],
  .event 1 .remoteClosed false [],
  .event 2 .opened false []]

/-- The same, but the endpoint is asked to close while the worker runs.  The
second stream leaves the Channel without an event when the endpoint closes its
half, its slot is kept for the close, and the third stream is lost. -/
def closingSteps : List EndpointStep := [ .event 0 .opened false [],
  .event 0 (.reset Status.errClosed.code) false [{ upcalls := [.event 0 .closed] }],
  .close [],
  .event 1 .opened false [{}, {}, {}, {}, { status := .again }],
  .event 1 .remoteClosed false [],
  .event 2 .opened false []]

/-- Also that run keeps its deferred events and its reports in order. -/
theorem endpointRun_safe_closing : ∃ w,
    endpointRun (endpointCreate narrowEndpoint) closingSteps = some w ∧
      (w.lost, w.deferred) = ([2], [0]) ∧ w.QueueSafe ∧ w.ReportsSafe :=
  Lib.exists_of_map (f := fun w => (w.lost, w.deferred)) (by decide) fun _ hw hfacts =>
    ⟨hfacts, endpointRun_safe hw⟩

end Trpc
