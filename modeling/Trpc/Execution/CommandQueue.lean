import Trpc.Lib.Ring
import Trpc.Lib.Runs
import Trpc.Status

/-!
# The command queue

`command_queue.c`: producers put commands into a bounded ring, and the reactor takes
them off in batches.  STOP has a slot of its own and closes the queue.  A producer
that may wait samples the generation of the round first, and each round that opens
or closes has another one.

A step is one locked section.  `Waiter` is a call of `tr_command_queue_push_wait`
between two sections; it may wake up at any time.  The statistics of the source are
left out.  The fields from `turns` on are history: how often the generation was
counted on, what was accepted and popped, and whether some producer was told to
wake the reactor since the queue was last seen empty.  The generation and the
sequence numbers are 64 bit words without zero.
-/

namespace Trpc

open Lib Function List

/-- A command in the queue.  `sampled` is the count of rounds at which a waiter took
its generation, and `turn` the one at which the command was accepted. -/
structure QueuedCommand (α : Type) where
  command : Option α
  sequence : Nat
  sampled : Option Nat
  turn : Nat

/-- A waiting push: its command, the generation it expects and when that was taken. -/
structure Waiter (α : Type) where
  command : α
  expected : Nat
  sampled : Nat

/-- `struct tr_command_queue`, with the producers.  `stop` is `stop_pending` and
`stop_command`. -/
structure CommandQueue (α : Type) where
  ring : RingBuffer (QueuedCommand α)
  nextSequence : Nat := 0
  waitGeneration : Nat := 0
  waiters : Nat := 0
  waitAccepting : Bool := false
  wakePending : Bool := false
  stop : Option (QueuedCommand α) := none
  stopClosed : Bool := false
  tokens : Nat → Option (Nat × Nat) := fun _ => none
  waiting : Nat → Option (Waiter α) := fun _ => none
  turns : Nat := 0
  accepted : List (QueuedCommand α) := []
  popped : List (QueuedCommand α) := []
  told : Bool := false

/-- The number of values of a 64 bit word. -/
def wordValues : Nat := 2 ^ 64

namespace CommandQueue

variable {α : Type} {q q' : CommandQueue α}

/-- `tr_command_queue_init`. -/
def create (α : Type) (capacity : Nat) (pos : 0 < capacity) : CommandQueue α where
  ring := .create ⟨none, 0, none, 0⟩ capacity pos

/-- The record that the queue makes of a command. -/
def record (q : CommandQueue α) (command : α) (sampled : Option Nat) : QueuedCommand α :=
  ⟨some command, skipNext wordValues q.nextSequence, sampled, q.turns⟩

/-- The part that every acceptance shares.  A producer is told to wake the reactor if
nobody was yet. -/
def take (q : CommandQueue α) (x : QueuedCommand α) : CommandQueue α :=
  { q with
    nextSequence := x.sequence
    wakePending := true
    accepted := q.accepted ++ [x]
    told := q.told || !q.wakePending }

/-- `tr_command_queue_enqueue_locked`. -/
def enqueue (q : CommandQueue α) (x : QueuedCommand α) (h : q.ring.count < q.ring.capacity) :
    CommandQueue α :=
  { q.take x with ring := q.ring.push x h }

/-- `tr_command_queue_push`. -/
def push (q : CommandQueue α) (command : α) : Status × CommandQueue α :=
  if q.stopClosed then (.errClosed, q)
  else if h : q.ring.count = q.ring.capacity then (.again, q)
  else (.ok, q.enqueue (q.record command none) (lt_of_le_of_ne q.ring.count_le h))

/-- `tr_command_queue_wait_open`. -/
def waitOpen (q : CommandQueue α) : Status × CommandQueue α :=
  if q.stop.isSome then (.errState, q)
  else (.ok, { q with
    stopClosed := false
    waitGeneration := skipNext wordValues q.waitGeneration
    turns := q.turns + 1
    waitAccepting := true })

/-- `tr_command_queue_wait_close`. -/
def waitClose (q : CommandQueue α) : CommandQueue α :=
  { q with
    waitGeneration := skipNext wordValues q.waitGeneration
    turns := q.turns + 1
    waitAccepting := false }

/-- `tr_command_queue_wait_generation`, for the producer `t`. -/
def sample (q : CommandQueue α) (t : Nat) : CommandQueue α :=
  { q with
    tokens := update q.tokens t
      (if q.waitAccepting then some (q.waitGeneration, q.turns) else none) }

/-- A locked section of `tr_command_queue_push_wait`: sleep, give up or enqueue. -/
def attempt (q : CommandQueue α) (t : Nat) (w : Waiter α) : CommandQueue α :=
  if ¬ q.waitAccepting ∨ q.waitGeneration ≠ w.expected then
    { q with waiting := update q.waiting t none }
  else if h : q.ring.count = q.ring.capacity then
    { q with waiters := q.waiters + 1, waiting := update q.waiting t (some w) }
  else
    { q.enqueue (q.record w.command (some w.sampled)) (lt_of_le_of_ne q.ring.count_le h) with
      waiting := update q.waiting t none }

/-- `tr_command_queue_push_wait_force`. -/
def force (q : CommandQueue α) (command : α) : Status × CommandQueue α :=
  if q.stopClosed then (.errState, q)
  else (.ok, { q.take (q.record command none) with
    stop := some (q.record command none)
    stopClosed := true
    waitAccepting := false })

/-- The loop of `tr_command_queue_pop_batch` over the ring. -/
def popRing (q : CommandQueue α) : Nat → CommandQueue α
  | 0 => q
  | n + 1 =>
    if h : q.ring.count ≠ 0 then
      popRing { q with
        ring := q.ring.pop h
        popped := q.popped ++ [q.ring.items (q.ring.head % q.ring.capacity)] } n
    else q

/-- `tr_command_queue_pop_batch`.  STOP follows the ring and counts like the rest. -/
def popBatch (q : CommandQueue α) (maxCommands : Nat) : CommandQueue α :=
  if maxCommands = 0 then q
  else
    let before := q.popped.length
    let q := q.popRing maxCommands
    let q := if q.ring.count = 0 ∧ q.popped.length - before < maxCommands then
        { q with popped := q.popped ++ q.stop.toList, stop := none }
      else q
    if q.ring.count = 0 ∧ q.stop.isNone then { q with wakePending := false, told := false } else q

inductive Action (α : Type)
  | push (command : α)
  | force (command : α)
  | open
  | close
  | sample (t : Nat)
  | pushWait (t : Nat) (command : α)
  | wake (t : Nat) (error : Bool)
  | pop (maxCommands : Nat)

/-- One locked section.  A thread that waits does nothing else. -/
def step (q : CommandQueue α) : Action α → Option (CommandQueue α)
  | .push command => some (q.push command).2
  | .force command => some (q.force command).2
  | .open => some q.waitOpen.2
  | .close => some q.waitClose
  | .sample t => some (q.sample t)
  | .pushWait t command =>
    match q.tokens t, q.waiting t with
    | some (expected, sampled), none => some (q.attempt t ⟨command, expected, sampled⟩)
    | _, _ => none
  | .wake t error =>
    match q.waiting t with
    | none => none
    | some w =>
      let q := { q with waiters := q.waiters - 1 }
      if error then some { q with waiting := update q.waiting t none }
      else some (q.attempt t w)
  | .pop maxCommands => some (q.popBatch maxCommands)

/-! ## The invariant -/

/-- What a waiter holds was taken in some round that was open. -/
def Fresh (q : CommandQueue α) (expected sampled : Nat) : Prop :=
  expected = skipAt wordValues sampled ∧ 0 < sampled ∧ sampled ≤ q.turns

/-- A waiter's command is accepted in the round of its generation, unless the counter
went all the way round in between. -/
def Sound (x : QueuedCommand α) : Prop :=
  ∀ k, x.sampled = some k → k ≤ x.turn ∧ (x.turn < k + (wordValues - 1) → x.turn = k)

structure Ok (q : CommandQueue α) : Prop where
  fifo : q.popped ++ q.ring.contents ++ q.stop.toList = q.accepted
  sequence : q.nextSequence = skipAt wordValues q.accepted.length
  sequences : q.accepted.map QueuedCommand.sequence =
    (List.range q.accepted.length).map fun n => skipAt wordValues (n + 1)
  generation : q.waitGeneration = skipAt wordValues q.turns
  opened : q.waitAccepting = true → 0 < q.turns
  shut : q.stopClosed = false → q.stop = none
  closed : q.stopClosed = true → q.waitAccepting = false
  wake : q.ring.count ≠ 0 ∨ q.stop.isSome = true → q.wakePending = true
  told : q.told = q.wakePending
  tokens : ∀ t expected sampled, q.tokens t = some (expected, sampled) → q.Fresh expected sampled
  waiting : ∀ t w, q.waiting t = some w → q.Fresh w.expected w.sampled
  sound : ∀ x ∈ q.accepted, Sound x

theorem wordValues_gt : 2 < wordValues := by decide

theorem Fresh.mono {expected sampled : Nat} (h : q.Fresh expected sampled)
    (hle : q.turns ≤ q'.turns) : q'.Fresh expected sampled :=
  ⟨h.1, h.2.1, h.2.2.trans hle⟩

section

variable (h : q.Ok)

include h

/-- A sound record that carries the next number is accepted, to the end of the ring or as
STOP. -/
theorem Ok.take {command : α} {sampled : Option Nat}
    (hsound : Sound (q.record command sampled)) (hstop : q.stop = none)
    (hq : q'.accepted = q.accepted ++ [q.record command sampled])
    (hseq : q'.nextSequence = (q.record command sampled).sequence)
    (hfifo : q'.popped ++ q'.ring.contents ++ q'.stop.toList =
      q.popped ++ q.ring.contents ++ [q.record command sampled])
    (hgen : q'.waitGeneration = q.waitGeneration ∧ q'.turns = q.turns)
    (hopened : q'.waitAccepting = true → q.waitAccepting = true)
    (hshut : q'.stopClosed = false → q'.stop = none)
    (hclosed : q'.stopClosed = true → q'.waitAccepting = false)
    (hwake : q'.wakePending = true) (htold : q'.told = (q.told || !q.wakePending))
    (htokens : q'.tokens = q.tokens)
    (hwaiting : ∀ t w, q'.waiting t = some w → q.waiting t = some w) : q'.Ok where
  fifo := by
    have hold := h.fifo
    rw [hstop, Option.toList_none, append_nil] at hold
    rw [hfifo, hold, hq]
  sequence := by
    rw [hseq, hq, length_append, length_singleton, record, h.sequence]
    exact skipNext_skipAt wordValues_gt _
  sequences := by
    rw [hq, map_append, h.sequences, length_append, length_singleton,
      range_succ, map_append]
    simp [record, h.sequence, skipNext_skipAt wordValues_gt]
  generation := by rw [hgen.1, hgen.2, h.generation]
  opened := fun ha => hgen.2 ▸ h.opened (hopened ha)
  shut := hshut
  closed := hclosed
  wake := fun _ => hwake
  told := by
    rw [htold, hwake, h.told]
    cases q.wakePending <;> rfl
  tokens := fun t e s ht => (h.tokens t e s (htokens ▸ ht)).mono hgen.2.ge
  waiting := fun t w hw => (h.waiting t w (hwaiting t w hw)).mono hgen.2.ge
  sound := fun x hx => by
    rw [hq] at hx
    rcases Lib.mem_concat.1 hx with hx | rfl
    · exact h.sound x hx
    · exact hsound

theorem Ok.enqueue {command : α} {sampled : Option Nat}
    (hsound : Sound (q.record command sampled)) (hopen : q.stopClosed = false)
    (hroom : q.ring.count < q.ring.capacity) {waiting : Nat → Option (Waiter α)}
    (hwaiting : ∀ t w, waiting t = some w → q.waiting t = some w) :
    Ok { q.enqueue (q.record command sampled) hroom with waiting := waiting } := by
  refine h.take hsound (h.shut hopen) rfl rfl ?_ ⟨rfl, rfl⟩ (fun ha => ha) h.shut h.closed rfl rfl
    rfl hwaiting
  show q.popped ++ (q.ring.push _ hroom).contents ++ q.stop.toList = _
  rw [RingBuffer.contents_push, h.shut hopen]
  simp

theorem Ok.push (command : α) : (q.push command).2.Ok := by
  unfold CommandQueue.push
  split
  · exact h
  next hopen =>
    split
    · exact h
    next hfull =>
      have hopen := Bool.eq_false_iff.2 hopen
      exact h.enqueue (fun k hk => by cases hk) hopen _ fun _ _ hw => hw

theorem Ok.force (command : α) : (q.force command).2.Ok := by
  unfold CommandQueue.force
  split
  · exact h
  next hopen =>
    have hopen := Bool.eq_false_iff.2 hopen
    refine h.take (fun k hk => by cases hk) (h.shut hopen) rfl rfl ?_ ⟨rfl, rfl⟩ nofun
      nofun (fun _ => rfl) rfl rfl rfl fun _ _ hw => hw
    simp [CommandQueue.take]

theorem Ok.waitOpen : q.waitOpen.2.Ok := by
  unfold CommandQueue.waitOpen
  split
  · exact h
  next hstop =>
    have hstop : q.stop = none := by simpa using hstop
    exact { h with
      generation := by
        show skipNext wordValues q.waitGeneration = _
        rw [h.generation]
        exact skipNext_skipAt wordValues_gt _
      opened := fun _ => Nat.succ_pos _
      shut := fun _ => hstop
      closed := nofun
      tokens := fun t e s ht => (h.tokens t e s ht).mono (Nat.le_succ _)
      waiting := fun t w hw => (h.waiting t w hw).mono (Nat.le_succ _) }

theorem Ok.waitClose : q.waitClose.Ok :=
  { h with
    generation := by
      show skipNext wordValues q.waitGeneration = _
      rw [h.generation]
      exact skipNext_skipAt wordValues_gt _
    opened := nofun
    closed := fun _ => rfl
    tokens := fun t e s ht => (h.tokens t e s ht).mono (Nat.le_succ _)
    waiting := fun t w hw => (h.waiting t w hw).mono (Nat.le_succ _) }

theorem Ok.sample (t : Nat) : (q.sample t).Ok :=
  { h with
    tokens := fun s expected sampled hs => by
      change update q.tokens t _ s = _ at hs
      rw [update_apply] at hs
      split at hs
      · obtain ⟨ha, hs⟩ := Option.ite_none_right_eq_some.1 hs
        obtain ⟨rfl, rfl⟩ := Prod.mk.inj (Option.some.inj hs)
        exact ⟨h.generation, h.opened ha, le_rfl⟩
      · exact h.tokens s expected sampled hs }

/-- A wait that ends, or starts with what the thread holds. -/
theorem Ok.rewait (t : Nat) (n : Nat) {w : Option (Waiter α)}
    (hw : ∀ v, w = some v → q.Fresh v.expected v.sampled) :
    Ok { q with waiters := n, waiting := update q.waiting t w } :=
  { h with
    waiting := (forall_update_iff q.waiting fun _ new =>
      ∀ v, new = some v → q.Fresh v.expected v.sampled).2 ⟨hw, fun s _ => h.waiting s⟩ }

theorem Ok.attempt (t : Nat) {w : Waiter α} (hw : q.Fresh w.expected w.sampled) :
    (q.attempt t w).Ok := by
  unfold CommandQueue.attempt
  split
  · exact h.rewait t q.waiters nofun
  next hround =>
    split
    · exact h.rewait t _ fun v hv => Option.some.inj hv ▸ hw
    next hfull =>
      simp only [not_or, not_not] at hround
      obtain ⟨haccepting, hgeneration⟩ := hround
      have hopen : q.stopClosed = false := by
        by_contra hshut
        cases (h.closed (by simpa using hshut)).symm.trans haccepting
      refine h.enqueue (fun k hk => ?_) hopen _ fun s v hv => ?_
      · cases hk
        refine ⟨hw.2.2, fun hlt => skipAt_injective hw.2.1 hw.2.2 hlt ?_⟩
        rw [record, ← h.generation, hgeneration, hw.1]
      · rw [update_apply] at hv
        grind

/-- The ring is emptied from the front. -/
theorem Ok.popRing (n : Nat) : (q.popRing n).Ok := by
  induction n generalizing q with
  | zero => exact h
  | succ n ih =>
    unfold CommandQueue.popRing
    split
    next hcount =>
      refine ih { h with fifo := ?_, wake := fun hne => h.wake (hne.imp_left fun _ => hcount) }
      have hfifo := h.fifo
      rw [RingBuffer.contents_pop _ hcount] at hfifo
      simpa using hfifo
    next => exact h

theorem Ok.popBatch (n : Nat) : (q.popBatch n).Ok := by
  unfold CommandQueue.popBatch
  split
  · exact h
  have hring := h.popRing n
  dsimp only
  generalize q.popRing n = p at hring ⊢
  have hstop : Ok (if p.ring.count = 0 ∧ p.popped.length - q.popped.length < n then
      { p with popped := p.popped ++ p.stop.toList, stop := none } else p) := by
    split
    next hempty =>
      refine { hring with fifo := ?_, shut := fun _ => rfl, wake := fun hne => ?_ }
      · have hfifo := hring.fifo
        rw [length_eq_zero_iff.1 ((RingBuffer.contents_length p.ring).trans hempty.1)] at hfifo
        have hnil := length_eq_zero_iff.1 ((RingBuffer.contents_length p.ring).trans hempty.1)
        simpa [hnil] using hfifo
      · rcases hne with hne | hne
        · exact absurd hempty.1 hne
        · cases hne
    next => exact hring
  generalize (if p.ring.count = 0 ∧ p.popped.length - q.popped.length < n then
    { p with popped := p.popped ++ p.stop.toList, stop := none } else p) = p' at hstop ⊢
  split
  next hempty =>
    refine { hstop with wake := fun hne => ?_, told := rfl }
    rcases hne with hne | hne
    · exact absurd hempty.1 hne
    · rw [show p'.stop = none by simpa using hempty.2] at hne
      cases hne
  next => exact hstop

end

/-! ## STOP -/

theorem popRing_shut (q : CommandQueue α) (n : Nat) :
    (q.popRing n).accepted = q.accepted ∧ (q.popRing n).stopClosed = q.stopClosed := by
  induction n generalizing q with
  | zero => exact ⟨rfl, rfl⟩
  | succ n ih =>
    unfold popRing
    split
    · exact ih _
    · exact ⟨rfl, rfl⟩

theorem popBatch_shut (q : CommandQueue α) (n : Nat) :
    (q.popBatch n).accepted = q.accepted ∧ (q.popBatch n).stopClosed = q.stopClosed := by
  have hring := q.popRing_shut n
  unfold popBatch
  dsimp only
  split_ifs <;> first | exact hring | exact ⟨rfl, rfl⟩

/-- After STOP a waiter gives up or has given up. -/
theorem attempt_shut (hclosed : q.waitAccepting = false) (t : Nat) (w : Waiter α) :
    (q.attempt t w).accepted = q.accepted ∧ (q.attempt t w).stopClosed = q.stopClosed := by
  unfold attempt
  rw [if_pos (Or.inl (by simp [hclosed]))]
  exact ⟨rfl, rfl⟩

/-! ## Any step -/

/-- Every step keeps the invariant.  Once STOP has closed the queue no step accepts a command,
and only `open` ends this. -/
theorem Ok.step (h : q.Ok) {action : Action α} (hstep : q.step action = some q') :
    q'.Ok ∧ (q.stopClosed = true →
      q'.accepted = q.accepted ∧ (action ≠ .open → q'.stopClosed = true)) := by
  have hboth : ∀ {p : CommandQueue α}, p.Ok → (q.stopClosed = true →
      p.accepted = q.accepted ∧ p.stopClosed = q.stopClosed) → p.Ok ∧ (q.stopClosed = true →
        p.accepted = q.accepted ∧ (action ≠ .open → p.stopClosed = true)) :=
    fun hok hp => ⟨hok, fun hshut => ⟨(hp hshut).1, fun _ => (hp hshut).2.trans hshut⟩⟩
  cases action with
  | push command =>
    cases hstep
    exact hboth (h.push command) fun hshut => by simp [CommandQueue.push, hshut]
  | force command =>
    cases hstep
    exact hboth (h.force command) fun hshut => by simp [CommandQueue.force, hshut]
  | «open» =>
    cases hstep
    refine ⟨h.waitOpen, fun _ => ⟨?_, fun hne => absurd rfl hne⟩⟩
    unfold CommandQueue.waitOpen
    split <;> rfl
  | close =>
    cases hstep
    exact hboth h.waitClose fun _ => ⟨rfl, rfl⟩
  | sample t =>
    cases hstep
    exact hboth (h.sample t) fun _ => ⟨rfl, rfl⟩
  | pushWait t command =>
    unfold CommandQueue.step at hstep
    dsimp only at hstep
    split at hstep
    next expected sampled htoken _ =>
      cases hstep
      exact hboth (h.attempt t (h.tokens t expected sampled htoken)) fun hshut =>
        attempt_shut (h.closed hshut) t _
    next => cases hstep
  | wake t error =>
    unfold CommandQueue.step at hstep
    dsimp only at hstep
    split at hstep
    next => cases hstep
    next w hw =>
      split at hstep
      · cases hstep
        exact hboth (h.rewait t _ nofun) fun _ => ⟨rfl, rfl⟩
      cases hstep
      have h' : Ok { q with waiters := q.waiters - 1 } := { h with }
      exact hboth (h'.attempt t (h.waiting t w hw)) fun hshut => attempt_shut (h'.closed hshut) t w
  | pop n =>
    cases hstep
    exact hboth (h.popBatch n) fun _ => q.popBatch_shut n

theorem create_ok (capacity : Nat) (pos : 0 < capacity) : (create α capacity pos).Ok where
  fifo := rfl
  sequence := rfl
  sequences := rfl
  generation := rfl
  opened := nofun
  shut := fun _ => rfl
  closed := nofun
  wake := fun hne => by
    rcases hne with hne | hne
    · exact absurd rfl hne
    · cases hne
  told := rfl
  tokens := nofun
  waiting := nofun
  sound := fun _ hx => absurd hx not_mem_nil

/-! ## Runs -/

/-- What holds of the queue after any run. -/
structure Linear (q : CommandQueue α) : Prop where
  /-- Nothing is lost, doubled or overtaken, and STOP is behind all that was accepted before it. -/
  fifo : q.popped ++ q.ring.contents ++ q.stop.toList = q.accepted
  /-- The numbers count from one, and leave out zero when the word is used up. -/
  numbered : ∀ n x, q.accepted[n]? = some x → x.sequence = n % (wordValues - 1) + 1
  bounded : q.ring.contents.length ≤ q.ring.capacity
  /-- Nothing is accepted between STOP and the next `open`. -/
  stopped : ∀ action q', q.stopClosed = true → q.step action = some q' →
    q'.accepted = q.accepted ∧ (action ≠ .open → q'.stopClosed = true)
  /-- A waiter's command is in the round it was meant for, if the generation did not go
  through all its values meanwhile. -/
  rounds : ∀ x ∈ q.accepted, ∀ k, x.sampled = some k →
    k ≤ x.turn ∧ (x.turn < k + (wordValues - 1) → x.turn = k)
  /-- A queue that is not empty has woken the reactor since it was last seen empty. -/
  woken : q.ring.contents ++ q.stop.toList ≠ [] → q.wakePending = true ∧ q.told = true

theorem Ok.linear (h : q.Ok) : q.Linear where
  fifo := h.fifo
  numbered := fun n x hx => by
    have hn : (q.accepted.map QueuedCommand.sequence)[n]? = some x.sequence := by
      rw [getElem?_map, hx]
      rfl
    have hlt : n < q.accepted.length := (List.getElem?_eq_some_iff.1 hx).1
    rw [h.sequences, getElem?_map, getElem?_range hlt] at hn
    rw [← Option.some.inj hn]
    simp [skipAt]
  bounded := by
    rw [RingBuffer.contents_length]
    exact q.ring.count_le
  stopped := fun _ _ hshut hstep => (h.step hstep).2 hshut
  rounds := h.sound
  woken := fun hne => by
    have hwake : q.wakePending = true := by
      refine h.wake ?_
      by_contra hnone
      simp only [not_or, not_not, Bool.not_eq_true, Option.isSome_eq_false_iff,
        Option.isNone_iff_eq_none] at hnone
      refine hne ?_
      rw [hnone.2, Option.toList_none, append_nil]
      exact length_eq_zero_iff.1 (q.ring.contents_length.trans hnone.1)
    exact ⟨hwake, h.told.trans hwake⟩

end CommandQueue

/-- After every run of producers, batch pops and rounds the queue is linear. -/
theorem command_queue_linearity {α : Type} (capacity : Nat) (pos : 0 < capacity)
    (actions : List (CommandQueue.Action α)) (q : CommandQueue α)
    (hrun : runSteps CommandQueue.step (.create α capacity pos) actions = some q) : q.Linear :=
  (runSteps_invariant (fun _ _ _ h hstep => (h.step hstep).1)
    (CommandQueue.create_ok capacity pos) hrun : q.Ok).linear

/-- A waiter sleeps on a full queue, STOP comes, and both rounds are drained. -/
theorem command_queue_linearity_stop : ∃ q : CommandQueue Nat,
      runSteps CommandQueue.step (.create Nat 1 (by decide))
        [.open, .sample 0, .push 7, .pushWait 0 8, .pop 1, .wake 0 false, .force 9, .push 5,
          .pop 2, .open, .push 6] = some q ∧
      q.popped.map QueuedCommand.command = [some 7, some 8, some 9] ∧
      q.accepted.map QueuedCommand.sequence = [1, 2, 3, 4] ∧ q.Linear := by
  refine exists_of_map
    (f := fun q => (q.popped.map QueuedCommand.command, q.accepted.map QueuedCommand.sequence))
    (y := ([some 7, some 8, some 9], [1, 2, 3, 4])) (by decide) fun q hq hlists => ?_
  exact ⟨(Prod.mk.inj hlists).1, (Prod.mk.inj hlists).2,
    command_queue_linearity 1 (by decide) _ q hq⟩

namespace CommandQueue

/-- The generation after many closings. -/
theorem run_closes (n : Nat) {q : CommandQueue Nat}
    (hgeneration : q.waitGeneration = skipAt wordValues q.turns)
    (hclosed : q.waitAccepting = false) :
    runSteps step q (List.replicate n .close) =
      some { q with waitGeneration := skipAt wordValues (q.turns + n), turns := q.turns + n } := by
  induction n generalizing q with
  | zero =>
    rw [Nat.add_zero, ← hgeneration]
    rfl
  | succ n ih =>
    have hnext : q.waitClose.waitGeneration = skipAt wordValues q.waitClose.turns := by
      show skipNext wordValues q.waitGeneration = _
      rw [hgeneration]
      exact skipNext_skipAt wordValues_gt _
    rw [replicate_succ, runSteps_cons_eq_some]
    refine ⟨q.waitClose, rfl, ?_⟩
    rw [ih hnext rfl, show q.turns + (n + 1) = q.waitClose.turns + n by
      show _ = q.turns + 1 + n
      omega]
    simp [waitClose, hclosed]

/-- The waiter of the first round, asleep on a full queue, with the generation, the number of
rounds and the mode that the queue has in the meantime. -/
def asleep (generation turns : Nat) (accepting : Bool) : CommandQueue Nat :=
  let x : QueuedCommand Nat := ⟨some 7, 1, none, 1⟩
  { create Nat 1 (by decide) with
    ring := (create Nat 1 (by decide)).ring.push x (by decide)
    nextSequence := 1
    waitGeneration := generation
    waiters := 1
    waitAccepting := accepting
    wakePending := true
    tokens := update (fun _ => none) 0 (some (1, 1))
    waiting := update (fun _ => none) 0 (some ⟨8, 1, 1⟩)
    turns := turns
    accepted := [x]
    told := true }

/-- If the generation is one again the waiter does not see that the round is another. -/
theorem run_asleep (turns : Nat) : (runSteps step (asleep 1 turns true) [.pop 1, .wake 0 false]).map
      (fun q => q.accepted) = some [⟨some 7, 1, none, 1⟩, ⟨some 8, 2, some 1, turns⟩] := rfl

end CommandQueue

/-- A waiter that sleeps while the generation goes through all its values puts its command
into a later round. -/
theorem command_queue_waiter_returns :
    ∃ (actions : List (CommandQueue.Action Nat)) (q : CommandQueue Nat),
      runSteps CommandQueue.step (.create Nat 1 (by decide)) actions = some q ∧
        ∃ x ∈ q.accepted, x.command = some 8 ∧ x.sampled = some 1 ∧ x.turn = wordValues := by
  have hstart : runSteps CommandQueue.step (.create Nat 1 (by decide))
      [.open, .sample 0, .push 7, .pushWait 0 8, .close] = some (.asleep 2 2 false) := rfl
  have hcloses : runSteps CommandQueue.step (.asleep 2 2 false)
      (List.replicate (wordValues - 3) .close) =
        some (.asleep (wordValues - 1) (wordValues - 1) false) := by
    have hgeneration : skipAt wordValues (2 + (wordValues - 3)) = wordValues - 1 := by decide
    have hturns : 2 + (wordValues - 3) = wordValues - 1 := by decide
    have hmany := CommandQueue.run_closes (wordValues - 3) (q := .asleep 2 2 false) rfl rfl
    change _ = some (CommandQueue.asleep (skipAt wordValues (2 + (wordValues - 3)))
      (2 + (wordValues - 3)) false) at hmany
    rwa [hgeneration, hturns] at hmany
  have hopen : CommandQueue.step (.asleep (wordValues - 1) (wordValues - 1) false) .open =
      some (.asleep 1 wordValues true) := by
    have hgeneration : skipNext wordValues (wordValues - 1) = 1 := by decide
    have hturns : wordValues - 1 + 1 = wordValues := by decide
    show some (CommandQueue.asleep (skipNext wordValues (wordValues - 1)) (wordValues - 1 + 1)
      true) = _
    rw [hgeneration, hturns]
  obtain ⟨q, hlast, haccepted⟩ := Option.map_eq_some_iff.1 (CommandQueue.run_asleep wordValues)
  refine ⟨_, q, runSteps_append.2 ⟨_, hstart, runSteps_append.2 ⟨_, hcloses,
    runSteps_cons_eq_some.2 ⟨_, hopen, hlast⟩⟩⟩, ⟨some 8, 2, some 1, wordValues⟩, ?_, rfl, rfl, rfl⟩
  rw [haccepted]
  exact List.mem_cons_of_mem _ (List.mem_singleton.2 rfl)

end Trpc
