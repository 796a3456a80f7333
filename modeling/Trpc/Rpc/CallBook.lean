import Trpc.Channel.Slot
import Trpc.Lib.Counting
import Trpc.Rpc.Record

/-!
# What a client host owes its calls

The purpose of `rpc_record_client.c`, without its flags.  A `CallBook` says for
every slot which call it holds and whether that call was refused, is live, or
has been reported, and it keeps what the application was told.

* `CallBook.Step` are the moves of the book.  A call is told things only while it
  is live, and a slot is emptied only when its call is not live.
* `CallBook.Ok` is the invariant that every move keeps: a call that was admitted
  is live in some slot or has ended with one terminal notice, and a call that was
  refused has been told nothing.
* `SemanticCounters` are the counters of `rpc_record_stats.h`.  They stop for good
  when one of them cannot count on; the book never gets there.
-/

namespace Trpc

open Function List Option Bool

/-! ## The counters -/

/-- `TR_RPC_STATUS_INTERNAL`. -/
def rpcStatusInternal : UInt32 := 13

/-- `struct tr_rpc_record_semantic_counters`. -/
structure SemanticCounters where
  callsStarted : Nat := 0
  callsFinished : Nat := 0
  finalStatus : Nat → Nat := fun _ => 0
  overflow : Bool := false

/-- `struct tr_rpc_semantic_stats`. -/
structure SemanticStats where
  callsStarted : Nat
  callsFinished : Nat
  callsInflight : Nat
  finalStatus : Nat → Nat

/-- `tr_rpc_record_semantic_start`. -/
def rpcRecordSemanticStart (counters : SemanticCounters) : SemanticCounters :=
  if counters.overflow then counters
  else if counters.callsStarted = uint64Max then { counters with overflow := true }
  else { counters with callsStarted := counters.callsStarted + 1 }

/-- The entry of `final_status` that a status is counted in. -/
def rpcStatusIndex (status : UInt32) : Nat :=
  if rpcStatusCount ≤ status then rpcStatusInternal.toNat else status.toNat

/-- `tr_rpc_record_semantic_finish`. -/
def rpcRecordSemanticFinish (counters : SemanticCounters) (status : UInt32) : SemanticCounters :=
  let index := rpcStatusIndex status
  if counters.overflow then counters
  else if counters.callsFinished = uint64Max ∨
      counters.finalStatus index = uint64Max then { counters with overflow := true }
  else { counters with
    callsFinished := counters.callsFinished + 1
    finalStatus := update counters.finalStatus index (counters.finalStatus index + 1) }

/-- `tr_rpc_record_semantic_stats_read`. -/
def rpcRecordSemanticStatsRead (counters : SemanticCounters) : Except Status SemanticStats :=
  if counters.overflow = true ∨ counters.callsStarted < counters.callsFinished then
    .error .errBadLength
  else .ok {
    callsStarted := counters.callsStarted
    callsFinished := counters.callsFinished
    callsInflight := counters.callsStarted - counters.callsFinished
    finalStatus := counters.finalStatus }

/-! ## The book -/

/-- `enum tr_rpc_record_delivery`. -/
inductive RpcDelivery
  | onOwner
  | ownerStopped
  deriving DecidableEq, Repr

/-- A callback of a call. -/
inductive CallNote
  | message
  | metadata
  | received (kind : RpcRecordKind)
  | writable
  | terminal (status : UInt32) (delivery : RpcDelivery)
  deriving DecidableEq, Repr

/-- The terminal callback. -/
def CallNote.isTerminal : CallNote → Bool
  | .terminal _ _ => true
  | _ => false

/-- What became of the call that a slot holds. -/
inductive CallPhase
  | dropped
  | live
  | reported
  deriving DecidableEq, Repr

/-- The slots of a host, and what its application has seen. -/
structure CallBook where
  slot : Nat → Option (Nat × CallPhase)
  generation : Nat
  counters : SemanticCounters
  admitted : List Nat
  notes : List (Nat × CallNote)
  snapshots : List (Except Status Nat × Nat)

namespace CallBook

/-- The callbacks of one call, in their order. -/
def notesOf (notes : List (Nat × CallNote)) (generation : Nat) : List CallNote :=
  (notes.filter (·.1 = generation)).map (·.2)

/-- One terminal callback, and nothing after it. -/
def Ended (notes : List CallNote) : Prop :=
  ∃ before status delivery, notes = before ++ [.terminal status delivery] ∧
    ∀ note ∈ before, note.isTerminal = false

/-- The slot holds a call that was admitted and not yet reported. -/
def live (b : CallBook) (i : Nat) : Bool :=
  match b.slot i with
  | some (_, .live) => true
  | _ => false

/-- How many calls are live. -/
def liveCount (capacity : Nat) (b : CallBook) : Nat :=
  ((Finset.range capacity).filter fun i => b.live i).card

/-- The inflight count that the application reads. -/
def inflight (b : CallBook) : Except Status Nat :=
  (rpcRecordSemanticStatsRead b.counters).map (·.callsInflight)

/-- A call that the host took takes an empty slot. -/
def admitCall (b : CallBook) (i : Nat) : CallBook :=
  { b with
    slot := update b.slot i (some (b.generation + 1, .live))
    generation := b.generation + 1
    counters := rpcRecordSemanticStart b.counters
    admitted := b.admitted ++ [b.generation + 1] }

/-- A call that failed to start leaves its generation behind, and perhaps a slot
that is not yet clean. -/
def refuse (b : CallBook) (i : Nat) : CallBook :=
  { b with
    slot := update b.slot i (some (b.generation + 1, .dropped))
    generation := b.generation + 1 }

/-- A live call is told something. -/
def tell (b : CallBook) (generation : Nat) (note : CallNote) : CallBook :=
  { b with notes := b.notes ++ [(generation, note)] }

/-- A live call is told that it ended. -/
def report (b : CallBook) (i generation : Nat) (status : UInt32)
    (delivery : RpcDelivery) : CallBook :=
  { b with
    slot := update b.slot i (some (generation, .reported))
    counters := rpcRecordSemanticFinish b.counters status
    notes := b.notes ++ [(generation, .terminal status delivery)] }

/-- The slot is free again. -/
def clear (b : CallBook) (i : Nat) : CallBook :=
  { b with slot := update b.slot i none }

/-- The application reads the counters. -/
def look (capacity : Nat) (b : CallBook) : CallBook :=
  { b with snapshots := b.snapshots ++ [(b.inflight, b.liveCount capacity)] }

/-- The moves of the book. -/
inductive Step (capacity : Nat) : CallBook → CallBook → Prop
  | admitCall (b : CallBook) (i : Nat) (hcap : i < capacity) (hempty : b.slot i = none)
      (hgen : b.generation < uint64Max) : Step capacity b (b.admitCall i)
  | refuse (b : CallBook) (i : Nat) (hcap : i < capacity) (hempty : b.slot i = none)
      (hgen : b.generation < uint64Max) : Step capacity b (b.refuse i)
  | tell (b : CallBook) (i generation : Nat) (note : CallNote)
      (hlive : b.slot i = some (generation, .live)) (hnote : note.isTerminal = false) :
      Step capacity b (b.tell generation note)
  | report (b : CallBook) (i generation : Nat) (status : UInt32)
      (delivery : RpcDelivery) (hlive : b.slot i = some (generation, .live)) :
      Step capacity b (b.report i generation status delivery)
  | clear (b : CallBook) (i : Nat) (hclear : b.live i = false) :
      Step capacity b (b.clear i)
  | look (b : CallBook) : Step capacity b (b.look capacity)

/-- Any number of moves. -/
abbrev Reach (capacity : Nat) : CallBook → CallBook → Prop :=
  Relation.ReflTransGen (Step capacity)

/-! ## Counting the live calls -/

theorem live_eq_true {b : CallBook} {i : Nat} :
    b.live i = true ↔ ∃ g, b.slot i = some (g, .live) := by
  unfold live
  grind

theorem live_update {b : CallBook} {i : Nat} {entry : Option (Nat × CallPhase)}
    {b' : CallBook} (h : b'.slot = update b.slot i entry) (j : Nat)
    (hj : j ≠ i) : b.live j = b'.live j := by
  unfold live
  rw [h, update_of_ne hj]

/-- The count after one slot changed. -/
theorem liveCount_update {capacity : Nat} {b b' : CallBook} {i : Nat}
    {entry : Option (Nat × CallPhase)} (hi : i < capacity)
    (h : b'.slot = update b.slot i entry) :
    b'.liveCount capacity + (b.live i).toNat = b.liveCount capacity + (b'.live i).toNat :=
  Lib.slotCount_update hi fun j hj => live_update h j hj

/-! ## The notes of one call -/

theorem notesOf_append (notes : List (Nat × CallNote)) (g h : Nat) (note : CallNote) :
    notesOf (notes ++ [(h, note)]) g =
      if h = g then notesOf notes g ++ [note] else notesOf notes g := by
  unfold notesOf
  rw [filter_append, map_append]
  by_cases heq : h = g
  · simp [heq]
  · simp [heq]

/-! ## The invariant -/

/-- The counters agree with the slots, and none of them is near its end. -/
structure CountersOk (capacity : Nat) (b : CallBook) : Prop where
  started : b.counters.callsStarted ≤ b.generation
  balance : b.counters.callsFinished + b.liveCount capacity = b.counters.callsStarted
  statuses : ∀ index, b.counters.finalStatus index ≤ b.counters.callsFinished
  overflow : b.counters.overflow = false

/-- Every admitted call is live or has ended, and a call that was not admitted has
been told nothing. -/
structure Ok (capacity : Nat) (b : CallBook) : Prop where
  bounded : ∀ i, b.slot i ≠ none → i < capacity
  generation : b.generation ≤ uint64Max
  issued : ∀ i g phase, b.slot i = some (g, phase) → g ≤ b.generation
  distinct : ∀ i j g phase other, b.slot i = some (g, phase) → b.slot j = some (g, other) → i = j
  admittedIssued : ∀ g ∈ b.admitted, g ≤ b.generation
  live : ∀ i g, b.slot i = some (g, .live) →
    g ∈ b.admitted ∧ ∀ note ∈ notesOf b.notes g, note.isTerminal = false
  settled : ∀ g ∈ b.admitted, (∃ i, b.slot i = some (g, .live)) ∨ Ended (notesOf b.notes g)
  silent : ∀ g, g ∉ b.admitted → notesOf b.notes g = []
  counters : CountersOk capacity b
  snapshots : ∀ shot ∈ b.snapshots, shot.1 = .ok shot.2

variable {capacity : Nat} {b b' : CallBook}

/-- A book whose counters are in order answers the number of its live calls. -/
theorem CountersOk.inflight (h : CountersOk capacity b) :
    b.inflight = .ok (b.liveCount capacity) := by
  have hbalance := h.balance
  have hread : ¬ (b.counters.overflow = true ∨
      b.counters.callsStarted < b.counters.callsFinished) := by
    rw [h.overflow]
    rintro (hover | hless)
    · cases hover
    · omega
  have hcount : b.counters.callsStarted - b.counters.callsFinished =
      b.liveCount capacity := by omega
  unfold CallBook.inflight rpcRecordSemanticStatsRead
  rw [if_neg hread]
  exact congrArg Except.ok hcount

/-- Entries that come from an update: the changed slot, or one as before. -/
theorem slot_update_cases {slot : Nat → Option (Nat × CallPhase)} {i j : Nat}
    {entry : Option (Nat × CallPhase)} {found : Nat × CallPhase}
    (h : update slot i entry j = some found) :
    (j = i ∧ entry = some found) ∨ (j ≠ i ∧ slot j = some found) := by
  rw [update_apply] at h
  grind

section

variable (h : Ok capacity b)

include h

/-- The parts of the invariant that speak of the slots alone, after a fresh
generation was put in an empty slot. -/
theorem Ok.fresh {i : Nat} (hcap : i < capacity)
    (phase : CallPhase) {slot : Nat → Option (Nat × CallPhase)}
    (hslot : slot = update b.slot i (some (b.generation + 1, phase))) :
    (∀ j, slot j ≠ none → j < capacity) ∧
    (∀ j g p, slot j = some (g, p) → g ≤ b.generation + 1) ∧
    (∀ j k g p q, slot j = some (g, p) → slot k = some (g, q) → j = k) := by
  subst hslot
  simp only [update_apply]
  have hissued := h.issued
  refine ⟨fun j hj => ?_, fun j g p hj => ?_, fun j k g p q hj hk => ?_⟩
  · have := h.bounded j
    grind
  · grind
  · have := h.distinct j k g p q
    grind

/-- The same parts after a slot kept its generation or was emptied. -/
theorem Ok.kept {i : Nat} {entry : Option (Nat × CallPhase)}
    {slot : Nat → Option (Nat × CallPhase)} (hslot : slot = update b.slot i entry)
    (hentry : ∀ g p, entry = some (g, p) → ∃ old, b.slot i = some (g, old)) :
    (∀ j, slot j ≠ none → j < capacity) ∧
    (∀ j g p, slot j = some (g, p) → g ≤ b.generation) ∧
    (∀ j k g p q, slot j = some (g, p) → slot k = some (g, q) → j = k) := by
  subst hslot
  have hold : ∀ j g p, update b.slot i entry j = some (g, p) →
      ∃ old, b.slot j = some (g, old) := by
    intro j g p hj
    rcases slot_update_cases hj with ⟨rfl, heq⟩ | ⟨_, hsame⟩
    · exact hentry g p heq
    · exact ⟨p, hsame⟩
  refine ⟨fun j hj => ?_, fun j g p hj => ?_, fun j k g p q hj hk => ?_⟩
  · obtain ⟨⟨g, p⟩, hsome⟩ := ne_none_iff_exists'.1 hj
    have := h.bounded j
    grind
  · grind [h.issued j g]
  · grind [h.distinct j k g]

theorem Ok.admitCall {i : Nat} (hcap : i < capacity)
    (hempty : b.slot i = none) (hgen : b.generation < uint64Max) :
    Ok capacity (b.admitCall i) := by
  obtain ⟨hbounded, hissued, hdistinct⟩ :=
    @Ok.fresh capacity b h i hcap .live (b.admitCall i).slot rfl
  have hnew : b.generation + 1 ∉ b.admitted := fun hmem => by
    have := h.admittedIssued _ hmem
    omega
  have hstarted := h.counters.started
  have hstart : (b.admitCall i).counters =
      { b.counters with callsStarted := b.counters.callsStarted + 1 } := by
    simp only [CallBook.admitCall, rpcRecordSemanticStart, h.counters.overflow]
    rw [if_neg Bool.false_ne_true, if_neg (by omega)]
  have hcount := @liveCount_update capacity b (b.admitCall i) i _ hcap rfl
  have hlive' : (b.admitCall i).live i = true := live_eq_true.2 ⟨_, update_self ..⟩
  rw [hlive', CallBook.live, hempty, toNat_false, toNat_true] at hcount
  refine ⟨hbounded, hgen, hissued, hdistinct, fun g hg => ?_, fun j g hj => ?_,
    fun g hg => ?_, fun g hg => ?_, ⟨?_, ?_, ?_, ?_⟩, h.snapshots⟩
  · rcases Lib.mem_concat.1 hg with hg | rfl
    · exact (h.admittedIssued g hg).trans (Nat.le_succ _)
    · exact le_refl _
  · rcases slot_update_cases hj with ⟨rfl, heq⟩ | ⟨_, hold⟩
    · cases heq
      refine ⟨mem_append_right _ (mem_singleton_self _), ?_⟩
      show ∀ note ∈ notesOf b.notes _, _
      simp [h.silent _ hnew]
    · exact (h.live j g hold).imp_left (mem_append_left _)
  · rcases Lib.mem_concat.1 hg with hg | rfl
    · refine (h.settled g hg).imp_left fun ⟨j, hj⟩ => ⟨j, ?_⟩
      exact (update_of_ne (by grind) ..).trans hj
    · exact .inl ⟨i, update_self ..⟩
  · exact h.silent g fun hmem => hg (mem_append_left _ hmem)
  all_goals rw [hstart]
  · exact Nat.succ_le_succ hstarted
  · have hbalance := h.counters.balance
    dsimp only
    omega
  · exact h.counters.statuses
  · exact h.counters.overflow

/-- Moves that leave the admitted calls, the notes and the counters alone. -/
theorem Ok.relabel (hadmitted : b'.admitted = b.admitted) (hnotes : b'.notes = b.notes)
    (hcounters : b'.counters = b.counters) (hsnap : b'.snapshots = b.snapshots)
    (hgen : b.generation ≤ b'.generation) (hmax : b'.generation ≤ uint64Max)
    (hslots : (∀ j, b'.slot j ≠ none → j < capacity) ∧
      (∀ j g p, b'.slot j = some (g, p) → g ≤ b'.generation) ∧
      (∀ j k g p q, b'.slot j = some (g, p) → b'.slot k = some (g, q) → j = k))
    (hlive : ∀ j g, b'.slot j = some (g, .live) ↔ b.slot j = some (g, .live)) :
    Ok capacity b' := by
  have hsame : ∀ j, b'.live j = b.live j := fun j => by
    rw [Bool.eq_iff_iff, live_eq_true, live_eq_true]
    exact exists_congr fun g => hlive j g
  have hcount : b'.liveCount capacity = b.liveCount capacity := by
    unfold liveCount
    simp only [hsame]
  refine ⟨hslots.1, hmax, hslots.2.1, hslots.2.2, fun g hg => ?_, fun j g hj => ?_,
    fun g hg => ?_, fun g hg => ?_, ⟨?_, ?_, ?_, ?_⟩, ?_⟩
  · rw [hadmitted] at hg
    exact (h.admittedIssued g hg).trans hgen
  · rw [hadmitted, hnotes]
    exact h.live j g ((hlive j g).1 hj)
  · rw [hadmitted] at hg
    rw [hnotes]
    refine (h.settled g hg).imp_left ?_
    exact fun ⟨j, hj⟩ => ⟨j, (hlive j g).2 hj⟩
  · rw [hnotes]
    exact h.silent g (hadmitted ▸ hg)
  · rw [hcounters]
    exact h.counters.started.trans hgen
  · rw [hcounters, hcount]
    exact h.counters.balance
  · rw [hcounters]
    exact h.counters.statuses
  · rw [hcounters]
    exact h.counters.overflow
  · rw [hsnap]
    exact h.snapshots

theorem Ok.refuse {i : Nat} (hcap : i < capacity)
    (hempty : b.slot i = none) (hgen : b.generation < uint64Max) :
    Ok capacity (b.refuse i) := by
  refine h.relabel rfl rfl rfl rfl (Nat.le_succ _) hgen
    (@Ok.fresh capacity b h i hcap .dropped (b.refuse i).slot rfl) fun j g => ?_
  simp only [CallBook.refuse, update_apply]
  grind

theorem Ok.clear {i : Nat} (hclear : b.live i = false) :
    Ok capacity (b.clear i) := by
  refine h.relabel rfl rfl rfl rfl (le_refl _) h.generation
    (@Ok.kept capacity b h i none (b.clear i).slot rfl fun _ _ heq => nomatch heq)
    fun j g => ?_
  simp only [CallBook.clear, update_apply]
  grind [live_eq_true]

omit h in
/-- A call has ended when its last notice is the terminal one. -/
theorem ended_append {notes : List CallNote}
    (h : ∀ note ∈ notes, note.isTerminal = false) (status : UInt32)
    (delivery : RpcDelivery) : Ended (notes ++ [.terminal status delivery]) :=
  ⟨notes, status, delivery, rfl, h⟩

theorem Ok.tell {i g : Nat} {note : CallNote}
    (hslot : b.slot i = some (g, .live)) (hnote : note.isTerminal = false) :
    Ok capacity (b.tell g note) := by
  obtain ⟨hmem, hnone⟩ := h.live i g hslot
  refine ⟨h.bounded, h.generation, h.issued, h.distinct, h.admittedIssued,
    fun j k hj => ⟨(h.live j k hj).1, ?_⟩, fun k hk => ?_, fun k hk => ?_,
    ⟨h.counters.started, h.counters.balance, h.counters.statuses, h.counters.overflow⟩, h.snapshots⟩
  all_goals
    simp only [CallBook.tell]
    rw [notesOf_append]
  · have hother := (h.live j k hj).2
    split
    · exact Lib.forall_mem_concat.2 ⟨hother, hnote⟩
    · exact hother
  · split
    next heq =>
      exact .inl ⟨i, heq ▸ hslot⟩
    · exact h.settled k hk
  · have hne : g ≠ k := fun heq => hk (heq ▸ hmem)
    rw [if_neg hne]
    exact h.silent k hk

theorem Ok.report {i g : Nat}
    (hslot : b.slot i = some (g, .live)) (status : UInt32) (delivery : RpcDelivery) :
    Ok capacity (b.report i g status delivery) := by
  obtain ⟨hmem, hnone⟩ := h.live i g hslot
  have hcap : i < capacity := h.bounded i (by rw [hslot]; exact some_ne_none _)
  obtain ⟨hbounded, hissued, hdistinct⟩ :=
    @Ok.kept capacity b h i (some (g, .reported))
      (b.report i g status delivery).slot rfl fun _ _ heq => by
        cases heq
        exact ⟨.live, hslot⟩
  have hlive' : (b.report i g status delivery).live i = false := by
    simp [CallBook.live, CallBook.report]
  have hcount := @liveCount_update capacity b (b.report i g status delivery) i _ hcap rfl
  rw [live_eq_true.2 ⟨g, hslot⟩, hlive', toNat_false, toNat_true] at hcount
  have hbalance := h.counters.balance
  have hstarted := h.counters.started
  have hgeneration := h.generation
  have hstatus := h.counters.statuses (rpcStatusIndex status)
  have hfinish : (b.report i g status delivery).counters =
      { b.counters with
        callsFinished := b.counters.callsFinished + 1
        finalStatus := update b.counters.finalStatus (rpcStatusIndex status)
          (b.counters.finalStatus (rpcStatusIndex status) + 1) } := by
    simp only [CallBook.report, rpcRecordSemanticFinish, h.counters.overflow]
    rw [if_neg Bool.false_ne_true, if_neg (by omega)]
  refine ⟨hbounded, h.generation, hissued, hdistinct, h.admittedIssued,
    fun j k hj => ?_, fun k hk => ?_, fun k hk => ?_, ⟨?_, ?_, fun index => ?_, ?_⟩,
    h.snapshots⟩
  · rcases slot_update_cases hj with ⟨_, heq⟩ | ⟨hji, hold⟩
    · cases heq
    · have hne : g ≠ k := fun heq => hji (h.distinct j i k _ _ hold (heq ▸ hslot))
      simp only [CallBook.report]
      rw [notesOf_append, if_neg hne]
      exact h.live j k hold
  · simp only [CallBook.report]
    rw [notesOf_append]
    split
    next heq =>
      exact .inr (ended_append (heq ▸ hnone) status delivery)
    next heq =>
      refine (h.settled k hk).imp_left fun ⟨j, hj⟩ => ⟨j, ?_⟩
      exact (update_of_ne (by grind) ..).trans hj
  · have hne : g ≠ k := fun heq => hk (heq ▸ hmem)
    simp only [CallBook.report]
    rw [notesOf_append, if_neg hne]
    exact h.silent k hk
  all_goals
    rw [hfinish]
    dsimp only
  · exact hstarted
  · omega
  · have := h.counters.statuses index
    rw [update_apply]
    grind
  · exact h.counters.overflow

theorem Ok.look : Ok capacity (b.look capacity) := by
  refine ⟨h.bounded, h.generation, h.issued, h.distinct, h.admittedIssued, h.live,
    h.settled, h.silent, ⟨h.counters.started, h.counters.balance, h.counters.statuses,
      h.counters.overflow⟩, Lib.forall_mem_concat.2 ⟨h.snapshots, h.counters.inflight⟩⟩

/-- One move keeps the invariant. -/
theorem Ok.step (hstep : Step capacity b b') : Ok capacity b' := by
  cases hstep with
  | admitCall i hcap hempty hgen => exact h.admitCall hcap hempty hgen
  | refuse i hcap hempty hgen => exact h.refuse hcap hempty hgen
  | tell i g note hlive hnote => exact h.tell hlive hnote
  | report i g status delivery hlive => exact h.report hlive status delivery
  | clear i hclear => exact h.clear hclear
  | look => exact h.look

/-- Any number of moves keeps the invariant. -/
theorem Ok.reach (hreach : Reach capacity b b') : Ok capacity b' := by
  induction hreach with
  | refl => exact h
  | tail _ hstep ih => exact ih.step hstep

end

/-- Generations are admitted when they are new and never later. -/
theorem Reach.admitted (hreach : Reach capacity b b') :
    b.generation ≤ b'.generation ∧ (∀ g ∈ b.admitted, g ∈ b'.admitted) ∧
    ∀ g ≤ b.generation, g ∈ b'.admitted → g ∈ b.admitted := by
  induction hreach with
  | refl => exact ⟨le_refl _, fun _ h => h, fun _ _ h => h⟩
  | @tail mid last _ hstep ih =>
    obtain ⟨hgen, hkeep, hnew⟩ := ih
    have hone : mid.generation ≤ last.generation ∧ (∀ g ∈ mid.admitted, g ∈ last.admitted) ∧
        ∀ g ≤ mid.generation, g ∈ last.admitted → g ∈ mid.admitted := by
      cases hstep with
      | admitCall i hcap hempty hmax =>
        refine ⟨Nat.le_succ _, fun g hg => mem_append_left _ hg, fun g hle hg => ?_⟩
        rcases mem_append.1 hg with hg | hg
        · exact hg
        · have := mem_singleton.1 hg
          omega
      | refuse i hcap hempty hmax => exact ⟨Nat.le_succ _, fun _ h => h, fun _ _ h => h⟩
      | tell | report | clear | look => exact ⟨le_refl _, fun _ h => h, fun _ _ h => h⟩
    refine ⟨hgen.trans hone.1, fun g hg => hone.2.1 g (hkeep g hg), fun g hle hg => ?_⟩
    exact hnew g hle (hone.2.2 g (hle.trans hgen) hg)

end CallBook

end Trpc
