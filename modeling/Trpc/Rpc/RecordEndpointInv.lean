import Trpc.Rpc.RecordEndpoint

/-!
# The invariant of the endpoint

`RecordEndpoint.Ok` relates the slots to what happened: which streams were
opened, reported and lost, which events were deferred and applied, and which
calls the dispatcher holds.

Between the Channel's OPENED and the slot for the stream the invariant holds
for every other stream; the parameter `due` names the one that has no slot yet.
-/

namespace Trpc

open List Option

/-- The new slot holds the same stream and call, and forgets no flag. -/
structure EndpointSlot.Keeps (old new : EndpointSlot) : Prop where
  stream : new.stream = old.stream
  call : new.call = old.call
  active : new.active = old.active
  reported : new.reported = old.reported
  dead : old.dead = true → new.dead = true
  resetAccepted : old.resetAccepted = true → new.resetAccepted = true
  closeAccepted : old.closeAccepted = true → new.closeAccepted = true

theorem EndpointSlot.Keeps.refl (slot : EndpointSlot) : slot.Keeps slot :=
  ⟨rfl, rfl, rfl, rfl, id, id, id⟩

/-- The new slot is queued as the old one is. -/
structure EndpointSlot.Waits (old new : EndpointSlot) : Prop where
  event : new.pendingEvent = none ↔ old.pendingEvent = none
  next : new.pendingNext = old.pendingNext

theorem EndpointSlot.Waits.refl (slot : EndpointSlot) : slot.Waits slot :=
  ⟨Iff.rfl, rfl⟩

/-- The stream of the slot is over, or the endpoint has ended its half. -/
def EndpointSlot.Flagged (slot : EndpointSlot) : Prop :=
  slot.dead = true ∨ slot.resetAccepted = true ∨ slot.closeAccepted = true

theorem EndpointSlot.Keeps.flagged {old new : EndpointSlot} (h : old.Keeps new)
    (hflag : old.Flagged) : new.Flagged :=
  hflag.imp h.dead (Or.imp h.resetAccepted h.closeAccepted)

theorem EndpointSlot.mark_keeps (slot : EndpointSlot) (kind : EventKind) :
    slot.Keeps (slot.mark kind) := by
  cases kind <;> exact ⟨rfl, rfl, rfl, rfl, fun h => by simp [mark, h],
    fun h => by simp [mark, h], fun h => by simp [mark, h]⟩

theorem EndpointSlot.mark_waits (slot : EndpointSlot) (kind : EventKind) :
    slot.Waits (slot.mark kind) := by
  cases kind <;> exact ⟨Iff.rfl, rfl⟩

namespace RecordEndpoint

variable {w w' : RecordEndpoint} {c : Bool} {due : Option Nat} {i s : Nat}

theorem put_slots (w : RecordEndpoint) (i j : Nat) (slot : EndpointSlot) :
    (w.put i slot).slots j = if j = i then slot else w.slots j :=
  Function.update_apply ..

/-- The queue of deferred events, oldest first. -/
structure Queue (w : RecordEndpoint) (q : List Nat) : Prop where
  fifo : Lib.Fifo (fun i => (w.slots i).pendingNext) w.pendingHead w.pendingTail q
  pending : ∀ i, i ∈ q ↔ (w.slots i).pendingEvent ≠ none
  log : w.deferred = w.applied.map Prod.fst ++ q.map fun i => (w.slots i).stream

/-- The invariant. -/
structure Ok (c : Bool) (due : Option Nat) (w : RecordEndpoint) : Prop where
  running : w.freed = false
  phase : w.cleanup = c
  queue : ∃ q, w.Queue q
  pending : ∀ i, (w.slots i).pendingEvent ≠ none → (w.slots i).active = true
  bounded : ∀ i, (w.slots i).active = true → i < w.capacity
  known : ∀ i, (w.slots i).active = true → (w.slots i).stream < w.opened
  distinct : ∀ i j, (w.slots i).active = true → (w.slots j).active = true →
    (w.slots i).stream = (w.slots j).stream → i = j
  reported : ∀ i, (w.slots i).active = true →
    ((w.slots i).reported = true ↔ (w.slots i).stream ∈ w.reports)
  flagged : ∀ i, (w.slots i).active = true → (w.slots i).reported = true →
    (w.slots i).Flagged ∨ c = true
  once : w.reports.Nodup
  reportsKnown : ∀ s ∈ w.reports, s < w.opened
  covered : ∀ s, s < w.opened → due ≠ some s →
    s ∈ w.reports ∨ s ∈ w.lost ∨ ∃ i, (w.slots i).active = true ∧ (w.slots i).stream = s
  fresh : ∀ s, due = some s → s < w.opened ∧ s ∈ w.live ∧ s ∉ w.reports ∧
    ∀ i, (w.slots i).active = true → (w.slots i).stream ≠ s
  called : ∀ i call, (w.slots i).active = true → (w.slots i).call = some call → call ∈ w.calls
  callsDistinct : ∀ i j call, (w.slots i).active = true → (w.slots j).active = true →
    (w.slots i).call = some call → (w.slots j).call = some call → i = j
  callsKnown : ∀ call ∈ w.calls, call < w.admitted
  callsRoom : w.calls.length ≤ w.config.dispatchCapacity
  liveRoom : w.live.length ≤ w.config.maxStreams
  prompt : ∀ s ∈ w.lost, s ∈ w.late

/-! ## Slots that keep their stream -/

/-- The queue is as it was if the slots keep their streams and wait as they did. -/
theorem Queue.waits {q : List Nat} (h : w.Queue q) (hhead : w'.pendingHead = w.pendingHead)
    (htail : w'.pendingTail = w.pendingTail) (hdeferred : w'.deferred = w.deferred)
    (happlied : w'.applied = w.applied)
    (hstream : ∀ j, (w'.slots j).stream = (w.slots j).stream)
    (hw : ∀ j, (w.slots j).Waits (w'.slots j)) : w'.Queue q := by
  refine ⟨?_, fun j => ?_, ?_⟩
  · rw [hhead, htail]
    exact h.fifo.congr fun j _ => (hw j).next
  · rw [h.pending j]
    exact not_congr (hw j).event.symm
  · rw [hdeferred, happlied, h.log]
    exact congrArg _ (map_congr_left fun j _ => (hstream j).symm)

/-- A slot outside of the queue changes, and stays outside. -/
theorem Queue.put {q : List Nat} (h : w.Queue q) (hidle : (w.slots i).pendingEvent = none)
    {r : EndpointSlot} (hr : r.pendingEvent = none) : (w.put i r).Queue q := by
  have hnotin : i ∉ q := fun hmem => (h.pending i).1 hmem hidle
  have hqueued : ∀ j ∈ q, (w.put i r).slots j = w.slots j := fun j hj =>
    put_of_ne w (fun hji : j = i => hnotin (hji ▸ hj)) _
  refine ⟨h.fifo.congr fun j hj => by rw [hqueued j hj], fun j => ?_, ?_⟩
  · have hold := h.pending j
    rw [put_slots]
    grind
  · refine h.log.trans (congrArg _ (map_congr_left fun j hj => ?_))
    rw [hqueued j hj]

section

variable (h : w.Ok c due)

include h

/-- The slots keep their streams: what is left to say is what the change is about. -/
theorem Ok.kept {slots : Nat → EndpointSlot} {head tail : Option Nat}
    {deferred reports calls : List Nat} {applied : List (Nat × EventKind)} {admitted : Nat}
    (hstream : ∀ j, (slots j).stream = (w.slots j).stream)
    (hactive : ∀ j, (slots j).active = (w.slots j).active)
    (hqueue : ∃ q, Queue { w with
      slots := slots
      pendingHead := head
      pendingTail := tail
      deferred := deferred
      applied := applied } q)
    (hpending : ∀ j, (slots j).pendingEvent ≠ none → (w.slots j).active = true)
    (hreported : ∀ j, (w.slots j).active = true →
      ((slots j).reported = true ↔ (w.slots j).stream ∈ reports))
    (hflagged : ∀ j, (w.slots j).active = true → (slots j).reported = true →
      (slots j).Flagged ∨ c = true)
    (hreports : ∀ s ∈ w.reports, s ∈ reports) (honce : reports.Nodup)
    (hknown : ∀ s ∈ reports, s < w.opened) (hfresh : ∀ s, due = some s → s ∉ reports)
    (hcalled : ∀ j call, (w.slots j).active = true → (slots j).call = some call → call ∈ calls)
    (hdistinct : ∀ j k call, (w.slots j).active = true → (w.slots k).active = true →
      (slots j).call = some call → (slots k).call = some call → j = k)
    (hcallsKnown : ∀ call ∈ calls, call < admitted)
    (hroom : calls.length ≤ w.config.dispatchCapacity) :
    Ok c due { w with
      slots := slots
      pendingHead := head
      pendingTail := tail
      deferred := deferred
      applied := applied
      reports := reports
      calls := calls
      admitted := admitted } where
  running := h.running
  phase := h.phase
  queue := hqueue.imp fun _ hq => ⟨hq.fifo, hq.pending, hq.log⟩
  pending := fun j hj => (hactive j).trans (hpending j hj)
  bounded := fun j hj => h.bounded j (hactive j ▸ hj)
  known := fun j hj => (hstream j).trans_lt (h.known j (hactive j ▸ hj))
  distinct := fun j k hj hk heq =>
    h.distinct j k (hactive j ▸ hj) (hactive k ▸ hk) (hstream j ▸ hstream k ▸ heq)
  reported := fun j hj => by
    show (slots j).reported = true ↔ (slots j).stream ∈ reports
    rw [hstream j]
    exact hreported j (hactive j ▸ hj)
  flagged := fun j hj => hflagged j (hactive j ▸ hj)
  once := honce
  reportsKnown := hknown
  covered := fun s hs hdue => by
    rcases h.covered s hs hdue with hr | hl | ⟨j, hj, hjs⟩
    · exact .inl (hreports s hr)
    · exact .inr (.inl hl)
    · exact .inr (.inr ⟨j, (hactive j).trans hj, (hstream j).trans hjs⟩)
  fresh := fun s hs => by
    obtain ⟨hlt, hlive, -, hslots⟩ := h.fresh s hs
    exact ⟨hlt, hlive, hfresh s hs, fun j hj heq =>
      hslots j (hactive j ▸ hj) ((hstream j).symm.trans heq)⟩
  called := fun j call hj => hcalled j call (hactive j ▸ hj)
  callsDistinct := fun j k call hj hk => hdistinct j k call (hactive j ▸ hj) (hactive k ▸ hk)
  callsKnown := hcallsKnown
  callsRoom := hroom
  liveRoom := h.liveRoom
  prompt := h.prompt

/-- The slots change in flags and links, and the queue is still a queue. -/
theorem Ok.requeue {slots : Nat → EndpointSlot}
    {head tail : Option Nat} {deferred q : List Nat} {applied : List (Nat × EventKind)}
    (hk : ∀ j, (w.slots j).Keeps (slots j))
    (hp : ∀ j, (slots j).pendingEvent ≠ none → (w.slots j).active = true)
    (hq : Queue { w with
      slots := slots
      pendingHead := head
      pendingTail := tail
      deferred := deferred
      applied := applied } q) :
    Ok c due { w with
      slots := slots
      pendingHead := head
      pendingTail := tail
      deferred := deferred
      applied := applied } := by
  refine h.kept (fun j => (hk j).stream) (fun j => (hk j).active) ⟨q, hq⟩ hp (fun j hj => ?_)
    (fun j hj hr => ?_) (fun _ hs => hs) h.once h.reportsKnown (fun s hs => (h.fresh s hs).2.2.1)
    (fun j call hj hcall => ?_) (fun j k call hj hk' hcj hck => ?_) h.callsKnown h.callsRoom
  · rw [(hk j).reported]
    exact h.reported j hj
  · exact (h.flagged j hj ((hk j).reported ▸ hr)).imp_left (hk j).flagged
  · exact h.called j call hj ((hk j).call ▸ hcall)
  · exact h.callsDistinct j k call hj hk' ((hk j).call ▸ hcj) ((hk k).call ▸ hck)

/-- The slots change in their flags only. -/
theorem Ok.slots {slots : Nat → EndpointSlot}
    (hk : ∀ j, (w.slots j).Keeps (slots j)) (hw : ∀ j, (w.slots j).Waits (slots j)) :
    Ok c due { w with slots := slots } := by
  obtain ⟨q, hq⟩ := h.queue
  exact h.requeue hk (q := q) (fun j hj => h.pending j fun hnone => hj ((hw j).event.2 hnone))
    (hq.waits rfl rfl rfl rfl (fun j => (hk j).stream) hw)

omit h in
/-- A property of one slot is a property of all, if the slot alone changes. -/
theorem forall_put {P : EndpointSlot → EndpointSlot → Prop} (hrefl : ∀ slot, P slot slot)
    {r : EndpointSlot} (hr : P (w.slots i) r) (j : Nat) :
    P (w.slots j) ((w.put i r).slots j) := by
  rw [put_slots]
  grind

omit h in
theorem put_keeps (w : RecordEndpoint) (slot : EndpointSlot) (hk : (w.slots i).Keeps slot)
    (j : Nat) : (w.slots j).Keeps ((w.put i slot).slots j) :=
  forall_put EndpointSlot.Keeps.refl hk j

theorem Ok.put {r : EndpointSlot} (hk : (w.slots i).Keeps r)
    (hw : (w.slots i).Waits r) : (w.put i r).Ok c due :=
  h.slots (w.put_keeps r hk) (forall_put EndpointSlot.Waits.refl hw)

theorem Ok.answer : w.answer.2.Ok c due := by
  unfold RecordEndpoint.answer
  split
  · exact h
  · exact { h with queue := h.queue.imp fun _ hq => ⟨hq.fifo, hq.pending, hq.log⟩ }

omit h in
theorem answer_slots (w : RecordEndpoint) : w.answer.2.slots = w.slots := by
  unfold RecordEndpoint.answer
  split <;> rfl

/-! ## The queue -/

/-- The two writes of an append: the slot itself, and the link of the last
one. -/
theorem Ok.push (hactive : (w.slots i).active = true)
    (hidle : (w.slots i).pendingEvent = none) {f : Nat → EndpointSlot}
    (hk : ∀ j, (w.slots j).Keeps (f j)) (hevent : (f i).pendingEvent ≠ none)
    (hend : (f i).pendingNext = none)
    (htail : ∀ t, w.pendingTail = some t → (f t).pendingNext = some i)
    (hevents : ∀ j, j ≠ i → (f j).pendingEvent = (w.slots j).pendingEvent)
    (hnexts : ∀ j, j ≠ i → w.pendingTail ≠ some j → (f j).pendingNext = (w.slots j).pendingNext) :
    Ok c due { w with
      slots := f
      pendingHead := if w.pendingTail = none then some i else w.pendingHead
      pendingTail := some i
      deferred := w.deferred ++ [(w.slots i).stream] } := by
  obtain ⟨q, hq⟩ := h.queue
  have hnew : i ∉ q := fun hmem => (hq.pending i).1 hmem hidle
  refine h.requeue hk (q := q ++ [i]) (fun j hj => ?_) ⟨?_, fun j => ?_, ?_⟩
  · grind [h.pending j]
  · exact hq.fifo.push hnew hend htail hnexts
  · have hold := hq.pending j
    simp only [mem_append, mem_singleton]
    grind
  · have hstreams : ∀ j, (f j).stream = (w.slots j).stream := fun j => (hk j).stream
    simp only [hq.log, hstreams, map_append, map_cons, map_nil, append_assoc]

theorem Ok.endpointDefer (hactive : (w.slots i).active = true)
    (kind : EventKind) : (endpointDefer w i kind).Ok c due := by
  unfold Trpc.endpointDefer
  split
  next pending hpending =>
    split
    · exact h.put (r := { w.slots i with pendingEvent := some kind })
        ⟨rfl, rfl, rfl, rfl, id, id, id⟩ ⟨by simp [hpending], rfl⟩
    · exact h
  next hpending =>
    have hkeeps := forall_put (w := w) (i := i) EndpointSlot.Keeps.refl
      (r := { w.slots i with pendingEvent := some kind, pendingNext := none })
      ⟨rfl, rfl, rfl, rfl, id, id, id⟩
    have hcell := fun j =>
      put_slots w i j { w.slots i with pendingEvent := some kind, pendingNext := none }
    dsimp only [endpointLink]
    split
    next t htail =>
      change w.pendingTail = some t at htail
      obtain ⟨q, hq⟩ := h.queue
      have hti : t ≠ i := by
        rintro rfl
        have hlast := hq.fifo.last
        rw [htail] at hlast
        exact (hq.pending t).1 (mem_of_getLast? hlast.symm) hpending
      have hlink := fun j => put_slots (w.put i { w.slots i with
          pendingEvent := some kind, pendingNext := none }) t j
        { (w.put i { w.slots i with
            pendingEvent := some kind, pendingNext := none }).slots t with
          pendingNext := some i }
      have hout := h.push hactive hpending (f := ((w.put i { w.slots i with
          pendingEvent := some kind, pendingNext := none }).put t
            { (w.put i { w.slots i with
                pendingEvent := some kind, pendingNext := none }).slots t with
              pendingNext := some i }).slots)
        (fun j => by
          rw [hlink]
          split
          next hjt =>
            subst hjt
            exact { hkeeps j with }
          · exact hkeeps j)
        (by grind) (by grind) (by grind) (by grind) (by grind)
      rw [if_neg (by rw [htail]; exact some_ne_none t)] at hout
      exact hout
    next htail =>
      change w.pendingTail = none at htail
      have hout := h.push hactive hpending hkeeps (by grind) (by grind)
        (fun t ht => by simp [htail] at ht) (by grind) (by grind)
      rw [if_pos htail] at hout
      exact hout

/-- The slot at the head of the queue has an event. -/
theorem Ok.pending_of_head (hhead : w.pendingHead = some i) :
    (w.slots i).pendingEvent ≠ none := by
  obtain ⟨q, hq⟩ := h.queue
  have hfifo := hq.fifo
  rw [hhead] at hfifo
  obtain ⟨rest, hcons, -⟩ := hfifo.pop fun j _ => rfl
  exact (hq.pending i).1 (hcons ▸ mem_cons_self)

/-- The first slot leaves the queue, and its event is noted as applied. -/
theorem Ok.endpointTake (hhead : w.pendingHead = some i) (kind : EventKind) :
    Ok c due { endpointTake w i with
      applied := w.applied ++ [(((endpointTake w i).slots i).stream, kind)] } := by
  obtain ⟨q, hq⟩ := h.queue
  have hfifo := hq.fifo
  rw [hhead] at hfifo
  obtain ⟨rest, hcons, hrest⟩ := hfifo.pop (n := fun j => ((w.put i { w.slots i with
      pendingEvent := none, pendingNext := none }).slots j).pendingNext)
    fun j hj => by rw [put_of_ne w hj]
  have hkeeps := forall_put (w := w) (i := i) EndpointSlot.Keeps.refl
    (r := { w.slots i with pendingEvent := none, pendingNext := none })
    ⟨rfl, rfl, rfl, rfl, id, id, id⟩
  have hnotin : i ∉ rest := (nodup_cons.1 (hcons ▸ hq.fifo.nodup)).1
  refine h.requeue hkeeps (q := rest) (fun j hj => ?_) ⟨hrest, fun j => ?_, ?_⟩
  · have hold := h.pending j
    dsimp only [Trpc.endpointTake] at hj
    rw [put_slots] at hj
    grind
  · have hold := hq.pending j
    dsimp only [Trpc.endpointTake]
    rw [put_slots]
    grind
  · have hstreams : ∀ j, ((Trpc.endpointTake w i).slots j).stream = (w.slots j).stream :=
      fun j => (hkeeps j).stream
    show w.deferred = map Prod.fst (w.applied ++ [(((Trpc.endpointTake w i).slots i).stream,
      kind)]) ++ rest.map fun j => ((Trpc.endpointTake w i).slots j).stream
    simp only [hstreams, hq.log, hcons, map_cons, map_append, map_nil, append_assoc,
      singleton_append]

/-! ## Reports -/

theorem Ok.report (hactive : (w.slots i).active = true)
    (hflag : (w.slots i).Flagged ∨ c = true) (hnew : (w.slots i).reported = false) :
    Ok c due { w.put i { w.slots i with reported := true } with
      reports := w.reports ++ [(w.slots i).stream] } := by
  have hcell := fun j => put_slots w i j { w.slots i with reported := true }
  have hwaits := forall_put (w := w) (i := i) EndpointSlot.Waits.refl
    (r := { w.slots i with reported := true }) ⟨Iff.rfl, rfl⟩
  have hunreported : (w.slots i).stream ∉ w.reports := fun hmem =>
    absurd ((h.reported i hactive).2 hmem) (by simp [hnew])
  have hstream : ∀ j, ((w.put i { w.slots i with reported := true }).slots j).stream =
      (w.slots j).stream := by grind
  have hcall : ∀ j, ((w.put i { w.slots i with reported := true }).slots j).call =
      (w.slots j).call := by grind
  obtain ⟨q, hq⟩ := h.queue
  refine h.kept hstream (by grind) ⟨q, hq.waits rfl rfl rfl rfl hstream hwaits⟩
    (fun j hj => h.pending j fun hnone => hj ((hwaits j).event.2 hnone)) (fun j hj => ?_)
    (fun j hj hr => ?_) (fun _ hs => mem_append_left _ hs)
    (nodup_append.2 ⟨h.once, nodup_singleton _, fun a ha b hb hab => ?_⟩)
    (Lib.forall_mem_concat.2 ⟨h.reportsKnown, h.known i hactive⟩) (fun s hs hmem => ?_)
    (fun j call hj hc => h.called j call hj (hcall j ▸ hc))
    (fun j k call hj hk hcj hck => h.callsDistinct j k call hj hk (hcall j ▸ hcj) (hcall k ▸ hck))
    h.callsKnown h.callsRoom
  · have hold := h.reported j hj
    have hsame := h.distinct j i hj hactive
    rw [hcell, mem_append, mem_singleton]
    grind
  · have hold := h.flagged j hj
    rw [hcell] at hr ⊢
    grind [EndpointSlot.Flagged]
  · rw [mem_singleton] at hb
    exact hunreported (hb ▸ hab ▸ ha)
  · obtain ⟨-, -, hnews, hslots⟩ := h.fresh s hs
    rcases Lib.mem_concat.1 hmem with hmem | rfl
    · exact hnews hmem
    · exact hslots i hactive rfl

theorem Ok.endpointReport (hactive : (w.slots i).active = true)
    (hflag : (w.slots i).Flagged ∨ c = true) : (endpointReport w i).Ok c due := by
  unfold Trpc.endpointReport
  split
  · exact h
  · exact h.report hactive hflag (Bool.eq_false_iff.2 ‹_›)

/-! ## Clearing -/

/-- A slot that is cleared was reported and waits for nothing. -/
theorem Ok.clear (hactive : (w.slots i).active = true)
    (hreported : (w.slots i).reported = true) (hidle : (w.slots i).pendingEvent = none) :
    (w.put i {}).Ok c due := by
  refine { h with
    queue := h.queue.imp fun _ hq => hq.put hidle rfl
    pending := ?_
    bounded := ?_
    known := ?_
    distinct := ?_
    reported := ?_
    flagged := ?_
    covered := ?_
    fresh := ?_
    called := ?_
    callsDistinct := ?_ } <;>
    simp only [RecordEndpoint.put, Function.update_apply] <;> grind -linarith [Ok, capacity]

/-- A call is given back when no slot holds it. -/
theorem Ok.eraseCall {call : Nat}
    (hfree : ∀ j, (w.slots j).active = true → (w.slots j).call ≠ some call) :
    Ok c due { w with calls := w.calls.erase call } :=
  { h with
    queue := h.queue.imp fun _ hq => ⟨hq.fifo, hq.pending, hq.log⟩
    called := fun j other hj hother => by
      refine (mem_erase_of_ne ?_).2 (h.called j other hj hother)
      rintro rfl
      exact hfree j hj hother
    callsKnown := fun other hmem => h.callsKnown other (mem_of_mem_erase hmem)
    callsRoom := le_trans length_erase_le h.callsRoom }

/-- A slot is cleared with its call. -/
theorem Ok.retire (hactive : (w.slots i).active = true)
    (hreported : (w.slots i).reported = true) (hidle : (w.slots i).pendingEvent = none)
    {call : Nat} (hcall : (w.slots i).call = some call) :
    Ok c due ({ w with calls := w.calls.erase call }.put i {}) := by
  refine (h.clear hactive hreported hidle).eraseCall fun j hj hjcall => ?_
  have hsame := h.callsDistinct j i call
  rw [put_slots] at hj hjcall
  grind

end

/-! ## New streams and calls -/

/-- The stream that is due gets a slot. -/
theorem Ok.place (h : w.Ok c (some s)) (hfree : (w.slots i).active = false)
    (hi : i < w.capacity) (openDue : Nat) :
    (w.put i { stream := s, active := true, openDue := openDue }).Ok c none := by
  obtain ⟨hlt, hlive, hnew, hother⟩ := h.fresh s rfl
  have hidle : (w.slots i).pendingEvent = none := by
    by_contra hpending
    exact absurd (h.pending i hpending) (by simp [hfree])
  refine { h with
    queue := h.queue.imp fun _ hq => hq.put hidle rfl
    pending := ?_
    bounded := ?_
    known := ?_
    distinct := ?_
    reported := ?_
    flagged := ?_
    covered := fun t ht _ => by
      by_cases hts : t = s
      · exact .inr (.inr ⟨i, by simp [hts]⟩)
      · have hold := h.covered t ht fun heq => hts (some.inj heq).symm
        simp only [RecordEndpoint.put, Function.update_apply]
        grind
    fresh := nofun
    called := ?_
    callsDistinct := ?_ } <;>
    simp only [RecordEndpoint.put, Function.update_apply] <;> grind -linarith [Ok, capacity]

/-- The stream that is due gets none. -/
theorem Ok.lose (h : w.Ok c (some s)) (hlate : s ∈ w.late) :
    Ok c none { w with lost := w.lost ++ [s] } :=
  { h with
    queue := h.queue.imp fun _ hq => ⟨hq.fifo, hq.pending, hq.log⟩
    covered := fun t ht _ => by
      by_cases hts : t = s
      · exact .inr (.inl (mem_append_right _ (mem_singleton.2 hts)))
      · exact (h.covered t ht fun heq => hts (some.inj heq).symm).imp_right
          (Or.imp_left (mem_append_left _))
    fresh := nofun
    prompt := Lib.forall_mem_concat.2 ⟨h.prompt, hlate⟩ }

/-- A slot gets a call that the dispatcher has not given before. -/
theorem Ok.assign (h : w.Ok c due) (hroom : w.calls.length < w.config.dispatchCapacity)
    (openDue : Nat) :
    Ok c due ({ w with calls := w.calls ++ [w.admitted], admitted := w.admitted + 1 }.put i
      { w.slots i with call := some w.admitted, openDue := openDue }) := by
  have hold : ∀ j, (w.slots j).active = true → (w.slots j).call ≠ some w.admitted :=
    fun j hj hcall => absurd (h.callsKnown _ (h.called j _ hj hcall)) (lt_irrefl _)
  have hcell := fun j =>
    put_slots w i j { w.slots i with call := some w.admitted, openDue := openDue }
  have hstream : ∀ j, ((w.put i { w.slots i with
      call := some w.admitted, openDue := openDue }).slots j).stream = (w.slots j).stream := by
    grind
  have hrep : ∀ j, ((w.put i { w.slots i with
      call := some w.admitted, openDue := openDue }).slots j).reported = (w.slots j).reported := by
    grind
  have hflags : ∀ j, (w.slots j).Flagged → ((w.put i { w.slots i with
      call := some w.admitted, openDue := openDue }).slots j).Flagged :=
    forall_put (P := fun a b => a.Flagged → b.Flagged) (fun _ => id) id
  have hwaits := forall_put (w := w) (i := i) EndpointSlot.Waits.refl
    (r := { w.slots i with call := some w.admitted, openDue := openDue }) ⟨Iff.rfl, rfl⟩
  obtain ⟨q, hq⟩ := h.queue
  refine h.kept hstream (by grind) ⟨q, hq.waits rfl rfl rfl rfl hstream hwaits⟩
    (fun j hj => h.pending j fun hnone => hj ((hwaits j).event.2 hnone))
    (fun j hj => (Bool.eq_iff_iff.mp (hrep j)).trans (h.reported j hj))
    (fun j hj hr => (h.flagged j hj ((hrep j).symm.trans hr)).imp_left (hflags j))
    (fun _ hs => hs) h.once h.reportsKnown (fun s hs => (h.fresh s hs).2.2.1)
    (fun j call hj hc => ?_) (fun j k call hj hk hcj hck => ?_)
    (Lib.forall_mem_concat.2 ⟨fun call hmem => Nat.lt_succ_of_lt (h.callsKnown call hmem),
      Nat.lt_succ_self _⟩) ?_
  · have hmem := h.called j call hj
    rw [mem_append, mem_singleton]
    grind
  · have hsame := h.callsDistinct j k call hj hk
    grind
  · rw [length_append, length_singleton]
    exact hroom

end RecordEndpoint

end Trpc
