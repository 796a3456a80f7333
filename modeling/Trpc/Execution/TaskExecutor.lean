import Trpc.Lib.Fifo
import Trpc.Lib.Runs
import Trpc.Status

/-!
# The task executor

`task_executor.c`: a table of slots with a free list, a queue of tasks to run and a
queue of tasks that are done.  The three are threaded through the `next` field of the
slots.  Workers take tasks off the first queue, run them without the lock and put them
on the second one.  The owner takes them off that one and calls `done` without the lock.

A step is one locked section.  A worker is at the top of its loop (`idle`) or in the
work of a slot (`working`), and `call` is the dispatch call that is in a `done`: the slot,
how many it delivered and its limit.  `TR_EXECUTOR_STARTING` is never seen from outside
the lock.  The calls that only the owner may make are the owner's here.

The field `task` of a slot and the fields from `accepted` on are history.  A task is known
by its place in `accepted`.
-/

namespace Trpc

open Lib Function List

/-- `enum tr_task_state`. -/
inductive TaskState
  | free
  | queued
  | running
  | completed
  | delivering
  deriving DecidableEq, Repr

/-- `enum tr_executor_state`. -/
inductive ExecutorState
  | new
  | open
  | stopping
  | joined
  deriving DecidableEq, Repr

/-- `struct tr_task_handle`. -/
structure TaskHandle where
  instanceId : Nat
  generation : Nat
  slot : Nat
  deriving DecidableEq, Repr

/-- `struct tr_task_result`. -/
structure TaskResult where
  workStatus : Int
  cancelled : Bool
  deriving DecidableEq, Repr

/-- `struct tr_task_slot`. -/
structure TaskSlot (σ : Type) where
  spec : Option σ := none
  cancel : Bool := false
  result : TaskResult := ⟨0, false⟩
  generation : Nat := 0
  next : Option Nat
  state : TaskState := .free
  task : Nat := 0

/-- The arguments of a call of `done`, and the task it is for. -/
structure TaskDone (σ : Type) where
  task : Nat
  spec : Option σ
  handle : TaskHandle
  result : TaskResult

/-- `struct tr_task_executor`. -/
structure TaskExecutor (σ : Type) where
  capacity : Nat
  workers : Nat
  instanceId : Nat
  slots : Nat → TaskSlot σ
  freeHead : Option Nat
  pendingHead : Option Nat := none
  pendingTail : Option Nat := none
  completeHead : Option Nat := none
  completeTail : Option Nat := none
  queued : Nat := 0
  running : Nat := 0
  completed : Nat := 0
  delivering : Nat := 0
  outstanding : Nat := 0
  workersAlive : Nat := 0
  state : ExecutorState := .new
  joining : Bool := false
  call : Option (Nat × Nat × Nat) := none
  idle : Nat := 0
  working : List Nat := []
  accepted : List (σ × TaskHandle) := []
  begun : List (Nat × Option σ) := []
  finished : List (Nat × TaskResult) := []
  delivered : List (TaskDone σ) := []
  asked : List Nat := []

/-- Work that was accepted and is not finished can be cancelled. -/
def TaskState.open : TaskState → Bool
  | queued | running => true
  | free | completed | delivering => false

namespace TaskExecutor

variable {σ : Type} {e e' : TaskExecutor σ}

/-- `tr_task_executor_create`. -/
def create (σ : Type) (capacity workers instanceId : Nat) : TaskExecutor σ where
  capacity := capacity
  workers := workers
  instanceId := instanceId
  slots := fun i => { next := if i + 1 < capacity then some (i + 1) else none }
  freeHead := if 0 < capacity then some 0 else none

/-- The slots after `tr_task_enqueue`. -/
def enqueue (slots : Nat → TaskSlot σ) (tail : Option Nat) (i : Nat) : Nat → TaskSlot σ :=
  let slots := update slots i { slots i with next := none }
  match tail with
  | none => slots
  | some t => update slots t { slots t with next := some i }

/-- `tr_task_executor_start`, where `pthread_create` succeeds `created` times. -/
def start (e : TaskExecutor σ) (created : Nat) : Status × TaskExecutor σ :=
  if e.state ≠ .new then (.errState, e)
  else if e.workers ≤ created then
    (.ok, { e with workersAlive := e.workers, idle := e.workers, state := .open })
  else (.errSys, { e with workersAlive := created, idle := created, state := .stopping })

/-- `tr_task_executor_submit`. -/
def submit (e : TaskExecutor σ) (spec : σ) : Status × TaskExecutor σ :=
  if e.state ≠ .open then (if e.state = .new then .errState else .errClosed, e)
  else match e.freeHead with
  | none => (.again, e)
  | some i =>
    if (e.slots i).generation = 2 ^ 64 - 1 then (.errState, e)
    else (.ok, { e with
      slots := enqueue (update e.slots i { e.slots i with
        spec := some spec
        cancel := false
        generation := (e.slots i).generation + 1
        state := .queued
        task := e.accepted.length }) e.pendingTail i
      freeHead := (e.slots i).next
      pendingHead := if e.pendingTail = none then some i else e.pendingHead
      pendingTail := some i
      queued := e.queued + 1
      outstanding := e.outstanding + 1
      accepted := e.accepted ++ [(spec, ⟨e.instanceId, (e.slots i).generation + 1, i⟩)] })

/-- A worker takes the first task, in the first section of `tr_task_worker`. -/
def begin (e : TaskExecutor σ) : Option (TaskExecutor σ) :=
  if e.idle = 0 then none
  else match e.pendingHead with
  | none => none
  | some i => some { e with
      slots := update e.slots i { e.slots i with state := .running }
      pendingHead := (e.slots i).next
      pendingTail := if (e.slots i).next = none then none else e.pendingTail
      queued := e.queued - 1
      running := e.running + 1
      idle := e.idle - 1
      working := i :: e.working
      begun := e.begun ++ [((e.slots i).task, (e.slots i).spec)] }

/-- The work of the slot `i` returned `status`, in the second section of `tr_task_worker`. -/
def complete (e : TaskExecutor σ) (i : Nat) (status : Int) : Option (TaskExecutor σ) :=
  if i ∈ e.working then some { e with
    slots := enqueue (update e.slots i { e.slots i with
      result := ⟨status, (e.slots i).cancel⟩
      state := .completed }) e.completeTail i
    completeHead := if e.completeTail = none then some i else e.completeHead
    completeTail := some i
    running := e.running - 1
    completed := e.completed + 1
    idle := e.idle + 1
    working := e.working.erase i
    finished := e.finished ++ [((e.slots i).task, ⟨status, (e.slots i).cancel⟩)] }
  else none

/-- A worker leaves its loop. -/
def exit (e : TaskExecutor σ) : Option (TaskExecutor σ) :=
  if e.idle ≠ 0 ∧ e.pendingHead = none ∧ e.state = .stopping then
    some { e with idle := e.idle - 1, workersAlive := e.workersAlive - 1 }
  else none

/-- `tr_task_executor_cancel`. -/
def cancel (e : TaskExecutor σ) (handle : TaskHandle) : Status × TaskExecutor σ :=
  if handle.instanceId ≠ e.instanceId ∨ e.capacity ≤ handle.slot ∨ handle.generation = 0 then
    (.errStale, e)
  else if (e.slots handle.slot).state = .free ∨
      (e.slots handle.slot).generation ≠ handle.generation then (.errStale, e)
  else if (e.slots handle.slot).state.open = false then (.errState, e)
  else (.ok, { e with
    slots := update e.slots handle.slot { e.slots handle.slot with cancel := true }
    asked := e.asked ++ [(e.slots handle.slot).task] })

/-- `tr_task_executor_stop`, which cancels or drains. -/
def stop (e : TaskExecutor σ) (cancelling : Bool) : TaskExecutor σ :=
  let e := { e with state := if e.state = .joined then .joined else .stopping }
  if cancelling then { e with
    slots := fun i => if i < e.capacity ∧ (e.slots i).state.open then
      { e.slots i with cancel := true } else e.slots i
    asked := e.asked ++ ((List.range e.capacity).filter fun i => (e.slots i).state.open).map
      fun i => (e.slots i).task }
  else e

/-- The head of the loop of `tr_task_executor_dispatch`: the next `done`, or the end. -/
def deliver (e : TaskExecutor σ) (count limit : Nat) : TaskExecutor σ :=
  match if count < limit then e.completeHead else none with
  | none => { e with call := none }
  | some i => { e with
      slots := update e.slots i { e.slots i with state := .delivering }
      completeHead := (e.slots i).next
      completeTail := if (e.slots i).next = none then none else e.completeTail
      completed := e.completed - 1
      delivering := e.delivering + 1
      call := some (i, count, limit)
      delivered := e.delivered ++ [⟨(e.slots i).task, (e.slots i).spec,
        ⟨e.instanceId, (e.slots i).generation, i⟩, (e.slots i).result⟩] }

/-- `tr_task_executor_dispatch`, to its first `done`. -/
def dispatch (e : TaskExecutor σ) (limit : Nat) : Status × TaskExecutor σ :=
  if limit = 0 then (.errInvalid, e)
  else if e.call.isSome then (.errState, e)
  else (.ok, e.deliver 0 limit)

/-- The slot goes back to the free list after its `done`. -/
def release (e : TaskExecutor σ) (i : Nat) : TaskExecutor σ :=
  { e with
    slots := update e.slots i { e.slots i with
      spec := none
      state := .free
      next := e.freeHead }
    freeHead := some i
    delivering := e.delivering - 1
    outstanding := e.outstanding - 1
    call := none }

/-- The section of `tr_task_executor_dispatch` after a `done`. -/
def returned (e : TaskExecutor σ) : Option (TaskExecutor σ) :=
  e.call.map fun c => (e.release c.1).deliver (c.2.1 + 1) c.2.2

/-- The first section of `tr_task_executor_join`. -/
def joinCheck (e : TaskExecutor σ) : Status × TaskExecutor σ :=
  if e.call.isSome ∨ e.state = .new ∨ e.state = .open then (.errState, e)
  else if e.workersAlive ≠ 0 then (.again, e)
  else (.ok, { e with joining := true })

/-- The second section of `tr_task_executor_join`. -/
def joinEnd (e : TaskExecutor σ) : Option (TaskExecutor σ) :=
  if e.joining then some { e with state := .joined, joining := false } else none

inductive Action (σ : Type)
  | start (created : Nat)
  | submit (spec : σ)
  | begin
  | complete (i : Nat) (status : Int)
  | exit
  | cancel (handle : TaskHandle)
  | stop (cancelling : Bool)
  | dispatch (limit : Nat)
  | returned
  | joinCheck
  | joinEnd

def step (e : TaskExecutor σ) : Action σ → Option (TaskExecutor σ)
  | .start created => some (e.start created).2
  | .submit spec => some (e.submit spec).2
  | .begin => e.begin
  | .complete i status => e.complete i status
  | .exit => e.exit
  | .cancel handle => some (e.cancel handle).2
  | .stop cancelling => some (e.stop cancelling)
  | .dispatch limit => some (e.dispatch limit).2
  | .returned => e.returned
  | .joinCheck => some e.joinCheck.2
  | .joinEnd => e.joinEnd

/-! ## The invariant -/

/-- The links hold the two queues and the free list. -/
structure Chained (e : TaskExecutor σ) (pending complete free : List Nat) : Prop where
  pending : Fifo (fun i => (e.slots i).next) e.pendingHead e.pendingTail pending
  complete : Fifo (fun i => (e.slots i).next) e.completeHead e.completeTail complete
  nodup : free.Nodup
  free : Threaded (fun i => (e.slots i).next) e.freeHead free

/-- Where the slots are, by their state. -/
structure Placed (e : TaskExecutor σ) (pending complete free : List Nat) : Prop where
  queued : ∀ i, i ∈ pending ↔ (e.slots i).state = .queued
  completed : ∀ i, i ∈ complete ↔ (e.slots i).state = .completed
  running : ∀ i, i ∈ e.working ↔ (e.slots i).state = .running
  delivering : ∀ i, e.call.map Prod.fst = some i ↔ (e.slots i).state = .delivering
  free : ∀ i, i ∈ free ↔ i < e.capacity ∧ (e.slots i).state = .free
  bounds : ∀ i, (e.slots i).state ≠ .free → i < e.capacity
  once : e.working.Nodup

/-- The counters agree with the lists. -/
structure Counted (e : TaskExecutor σ) (pending complete free : List Nat) : Prop where
  queued : e.queued = pending.length
  running : e.running = e.working.length
  completed : e.completed = complete.length
  delivering : e.delivering = e.call.toList.length
  outstanding : e.outstanding = e.queued + e.running + e.completed + e.delivering
  capacity : e.outstanding + free.length = e.capacity
  alive : e.workersAlive = e.idle + e.working.length
  workers : 0 < e.workers
  live : pending ≠ [] ∨ e.state = .open → 0 < e.workersAlive
  fresh : e.state = .new → e.workersAlive = 0

/-- What the history says about the tasks. -/
structure Told (e : TaskExecutor σ) (pending complete : List Nat) : Prop where
  order : e.begun.map Prod.fst ++ pending.map (fun i => (e.slots i).task) =
    List.range e.accepted.length
  known : ∀ i, (e.slots i).state ≠ .free → ∃ s, (e.slots i).spec = some s ∧
    e.accepted[(e.slots i).task]? = some (s, ⟨e.instanceId, (e.slots i).generation, i⟩)
  begun : ∀ p ∈ e.begun, p.2 = e.accepted[p.1]?.map Prod.fst
  ended : (e.finished.map Prod.fst ++ e.working.map fun i => (e.slots i).task).Perm
    (e.begun.map Prod.fst)
  delivery : e.delivered.map (fun d => (d.task, d.result)) ++
    complete.map (fun i => ((e.slots i).task, (e.slots i).result)) = e.finished
  delivered : ∀ d ∈ e.delivered, ∃ s, d.spec = some s ∧ e.accepted[d.task]? = some (s, d.handle)
  flags : ∀ i, (e.slots i).state.open = true →
    ((e.slots i).cancel = true ↔ (e.slots i).task ∈ e.asked)
  results : ∀ f ∈ e.finished, (f.2.cancelled = true ↔ f.1 ∈ e.asked)
  asked : ∀ t ∈ e.asked, t < e.accepted.length
  issued : ∀ p ∈ e.accepted, p.2.generation ≤ (e.slots p.2.slot).generation
  fresh : (e.accepted.map Prod.snd).Nodup

def Ok (e : TaskExecutor σ) : Prop :=
  ∃ pending complete free, e.Chained pending complete free ∧ e.Placed pending complete free ∧
    e.Counted pending complete free ∧ e.Told pending complete

variable {pending complete free : List Nat}

/-! ## Links -/

theorem enqueue_eq (slots : Nat → TaskSlot σ) (tail : Option Nat) (i : Nat) :
    enqueue slots tail i = fun j => { slots j with next := (enqueue slots tail i j).next } := by
  funext j
  unfold enqueue
  cases tail with
  | none =>
    by_cases hi : j = i
    · subst hi
      simp
    · simp [hi]
  | some t =>
    by_cases ht : j = t
    · subst ht
      by_cases hi : j = i
      · subst hi
        simp
      · simp [hi]
    · by_cases hi : j = i
      · subst hi
        simp [ht]
      · simp [ht, hi]

theorem enqueue_of_ne {slots : Nat → TaskSlot σ} {tail : Option Nat} {i j : Nat} (hi : j ≠ i)
    (ht : tail ≠ some j) : enqueue slots tail i j = slots j := by
  unfold enqueue
  cases tail with
  | none => simp [hi]
  | some t =>
    have hne : j ≠ t := fun heq => ht (heq ▸ rfl)
    simp [hi, hne]

/-- The entry goes to the end of its queue. -/
theorem push_links {slots slots' : Nat → TaskSlot σ} {head tail : Option Nat} {q : List Nat}
    {i : Nat} (h : Fifo (fun j => (slots j).next) head tail q) (hnew : i ∉ q)
    (hsame : ∀ j, j ≠ i → (slots' j).next = (slots j).next) :
    Fifo (fun j => (enqueue slots' tail i j).next) (if tail = none then some i else head) (some i)
      (q ++ [i]) := by
  have hlast : tail ≠ some i := fun heq =>
    hnew (mem_of_getLast? (h.last.symm.trans heq))
  refine h.push hnew ?_ (fun t ht => ?_) fun j hi ht => ?_
  · unfold enqueue
    cases tail with
    | none => simp
    | some t =>
      have hne : i ≠ t := fun heq => hlast (heq ▸ rfl)
      simp [hne]
  · subst ht
    simp [enqueue]
  · rw [enqueue_of_ne hi ht]
    exact hsame j hi

/-- Another chain does not see the change. -/
theorem other_links {slots slots' : Nat → TaskSlot σ} {head tail : Option Nat} {q l : List Nat}
    {i : Nat} (h : Fifo (fun j => (slots j).next) head tail q) (hi : i ∉ l)
    (hapart : ∀ j ∈ l, j ∉ q) (hsame : ∀ j, j ≠ i → (slots' j).next = (slots j).next) :
    ∀ j ∈ l, (enqueue slots' tail i j).next = (slots j).next := by
  intro j hj
  have hne : j ≠ i := fun heq => hi (heq ▸ hj)
  rw [enqueue_of_ne hne fun heq => hapart j hj (mem_of_getLast? (h.last.symm.trans heq))]
  exact hsame j hne

theorem update_next {slots : Nat → TaskSlot σ} {i : Nat} {slot : TaskSlot σ}
    (h : slot.next = (slots i).next) :
    (fun j => (update slots i slot j).next) = fun j => (slots j).next := by
  funext j
  by_cases hj : j = i
  · subst hj
    simpa using h
  · simp [hj]

/-! ## Tasks -/

section

variable (h : e.Told pending complete)

include h

theorem Told.task_inj {i j : Nat} (hi : (e.slots i).state ≠ .free)
    (hj : (e.slots j).state ≠ .free) (heq : (e.slots i).task = (e.slots j).task) : i = j := by
  obtain ⟨s, _, hs⟩ := h.known i hi
  obtain ⟨t, _, ht⟩ := h.known j hj
  rw [heq, ht] at hs
  injection hs with hs
  injection hs with _ hs
  injection hs with _ _ hs
  exact hs.symm

/-- The tasks that ended, those at work and those that wait are different ones. -/
theorem Told.nodup :
    (e.finished.map Prod.fst ++ e.working.map (fun i => (e.slots i).task) ++
      pending.map fun i => (e.slots i).task).Nodup := by
  refine (h.ended.append_right _).nodup_iff.2 ?_
  rw [h.order]
  exact nodup_range

/-- An open task has not ended. -/
theorem Told.unfinished (hp : e.Placed pending complete free)
    {i : Nat} (hi : (e.slots i).state.open = true) : ∀ f ∈ e.finished, f.1 ≠ (e.slots i).task := by
  intro f hf heq
  have hnodup := h.nodup
  rw [append_assoc] at hnodup
  refine (nodup_append.1 hnodup).2.2 _ (mem_map_of_mem hf) _ ?_ heq
  cases hstate : (e.slots i).state with
  | queued =>
    exact mem_append_right _ (mem_map.2 ⟨i, (hp.queued i).2 hstate, rfl⟩)
  | running =>
    exact mem_append_left _ (mem_map.2 ⟨i, (hp.running i).2 hstate, rfl⟩)
  | free | completed | delivering => rw [hstate] at hi; cases hi

theorem Told.task_lt {i : Nat} (hi : (e.slots i).state ≠ .free) :
    (e.slots i).task < e.accepted.length := by
  obtain ⟨s, _, hs⟩ := h.known i hi
  exact (List.getElem?_eq_some_iff.1 hs).1

theorem Told.begun_lt {p : Nat × Option σ} (hp : p ∈ e.begun) :
    p.1 < e.accepted.length := by
  rw [← mem_range, ← h.order]
  exact mem_append_left _ (mem_map_of_mem hp)

omit h in
theorem getElem?_grow {β : Type} {l : List β} {k : Nat} {x : β} (h : l[k]? = some x) (m : List β) :
    (l ++ m)[k]? = some x := by
  rw [List.getElem?_append_left (List.getElem?_eq_some_iff.1 h).1]
  exact h

omit h in
theorem map_update_of_notMem {β : Type} (f : TaskSlot σ → β) {slots : Nat → TaskSlot σ} {i : Nat}
    {slot : TaskSlot σ} {l : List Nat} (h : i ∉ l) :
    l.map (fun j => f (update slots i slot j)) = l.map fun j => f (slots j) := by
  refine map_congr_left fun j hj => ?_
  have hne : j ≠ i := fun heq => h (heq ▸ hj)
  rw [update_of_ne hne]

/-- A slot that keeps its task keeps what is told about it. -/
theorem Told.turn {i : Nat} {slot : TaskSlot σ}
    (htask : slot.task = (e.slots i).task) (hgeneration : slot.generation = (e.slots i).generation)
    (hresult : i ∉ complete ∨ slot.result = (e.slots i).result)
    (hspec : slot.state ≠ .free → (e.slots i).state ≠ .free ∧ slot.spec = (e.slots i).spec)
    (hopen : slot.state.open = true →
      (e.slots i).state.open = true ∧ slot.cancel = (e.slots i).cancel) :
    Told { e with slots := update e.slots i slot } pending complete := by
  have htasks : (fun j => (update e.slots i slot j).task) = fun j => (e.slots j).task := by
    funext j
    rw [update_apply]
    split
    next hj => rw [htask, hj]
    next => rfl
  exact { h with
    order := by
      show _ ++ map (fun j => (update e.slots i slot j).task) _ = _
      rw [htasks]
      exact h.order
    known := by grind [Told, update_apply]
    ended := by
      show (_ ++ map (fun j => (update e.slots i slot j).task) _).Perm _
      rw [htasks]
      exact h.ended
    delivery := by
      refine Eq.trans (congrArg _ (map_congr_left fun j hj => ?_)) h.delivery
      grind [update_apply]
    flags := by grind [Told, update_apply]
    issued := by grind [Told, update_apply] }

end

/-! ## Steps -/

section

variable (h : e.Ok)

include h

theorem Ok.submit (spec : σ) : (e.submit spec).2.Ok := by
  unfold TaskExecutor.submit
  split
  · exact h
  next hopen =>
  split
  · exact h
  next i hfree =>
  split
  · exact h
  next hgeneration =>
  obtain ⟨pending, complete, free, hc, hp, hn, ht⟩ := h
  have hchain := hc.free
  rw [hfree] at hchain
  cases free with
  | nil => cases hchain
  | cons a rest =>
  obtain ⟨ha, hrest⟩ := hchain
  obtain rfl : i = a := Option.some.inj ha
  obtain ⟨hlt, hstate⟩ := (hp.free i).1 mem_cons_self
  obtain ⟨hirest, hnodup⟩ := nodup_cons.1 hc.nodup
  have hipending := mt (hp.queued i).1 (by simp [hstate])
  have hicomplete := mt (hp.completed i).1 (by simp [hstate])
  have hiworking := mt (hp.running i).1 (by simp [hstate])
  have hsame : ∀ slot : TaskSlot σ, ∀ j, j ≠ i → (update e.slots i slot j).next =
      (e.slots j).next := fun slot j hj => by simp [hj]
  refine ⟨pending ++ [i], complete, rest, ⟨?_, ?_, hnodup, ?_⟩, ?_, ?_, ?_⟩
  · exact push_links hc.pending hipending (hsame _)
  · exact hc.complete.congr (other_links hc.pending hicomplete (by grind [Placed]) (hsame _))
  · exact hrest.congr (other_links hc.pending hirest (by grind [Placed]) (hsame _))
  · rw [enqueue_eq]
    constructor <;> grind [Placed, update_apply]
  · constructor <;> grind [Counted]
  · rw [enqueue_eq]
    have hnew : ∀ p ∈ e.accepted, p.2 ≠ ⟨e.instanceId, (e.slots i).generation + 1, i⟩ := by
      intro p hmem heq
      have hle := ht.issued p hmem
      rw [heq] at hle
      exact absurd hle (Nat.not_succ_le_self _)
    exact {
      order := by
        show _ ++ map (fun j => (update e.slots i _ j).task) _ = _
        rw [map_append, map_update_of_notMem TaskSlot.task (hipending), ← append_assoc,
          ht.order]
        simp [range_succ]
      known := fun j hj => by
        by_cases heq : j = i
        · subst heq
          simp
        simp only [update_of_ne heq] at hj ⊢
        obtain ⟨s, hs, hmem⟩ := ht.known j hj
        exact ⟨s, hs, getElem?_grow hmem _⟩
      begun := fun p hmem => by
        rw [getElem?_append_left (ht.begun_lt hmem)]
        exact ht.begun p hmem
      ended := by
        show (_ ++ map (fun j => (update e.slots i _ j).task) _).Perm _
        rw [map_update_of_notMem TaskSlot.task (hiworking)]
        exact ht.ended
      delivery := by
        show _ ++ map (fun j => ((update e.slots i _ j).task,
          (update e.slots i _ j).result)) _ = _
        rw [map_update_of_notMem (fun slot => (slot.task, slot.result)) (hicomplete)]
        exact ht.delivery
      delivered := fun d hd => by
        obtain ⟨s, hs, hmem⟩ := ht.delivered d hd
        exact ⟨s, hs, getElem?_grow hmem _⟩
      flags := fun j hj => by
        by_cases heq : j = i
        · subst heq
          have hfresh : e.accepted.length ∉ e.asked := fun hin => absurd (ht.asked _ hin) (by omega)
          simp [hfresh]
        · simp only [update_of_ne heq] at hj ⊢
          exact ht.flags j hj
      results := ht.results
      asked := fun t hmem => by
        have := ht.asked t hmem
        rw [length_append]
        omega
      issued := by grind [Told, update_apply]
      fresh := by
        rw [map_append, nodup_append]
        refine ⟨ht.fresh, by simp, fun a ha b hb => ?_⟩
        obtain ⟨p, hmem, rfl⟩ := mem_map.1 ha
        rw [map_singleton, mem_singleton] at hb
        rw [hb]
        exact hnew p hmem }

theorem Ok.begin (hstep : e.begin = some e') : e'.Ok := by
  unfold TaskExecutor.begin at hstep
  split at hstep
  · cases hstep
  next hidle =>
  split at hstep
  · cases hstep
  next i hhead =>
  cases hstep
  obtain ⟨pending, complete, free, hc, hp, hn, ht⟩ := h
  have hchain := hc.pending
  rw [hhead] at hchain
  obtain ⟨rest, rfl, hrest⟩ := hchain.pop fun _ _ => rfl
  have hstate := (hp.queued i).1 mem_cons_self
  have hirest := (nodup_cons.1 hc.pending.nodup).1
  have hiworking := mt (hp.running i).1 (by simp [hstate])
  refine ⟨rest, complete, free, ?_, ?_, ?_, ?_⟩
  · have hnext := @update_next _ e.slots i { e.slots i with state := .running } rfl
    refine ⟨?_, ?_, hc.nodup, ?_⟩ <;> dsimp only <;> rw [hnext]
    · exact hrest
    · exact hc.complete
    · exact hc.free
  · constructor <;> grind [Placed, update_apply]
  · constructor <;> grind [Counted]
  · have htold := @Told.turn _ _ _ _ ht i { e.slots i with state := .running } rfl rfl
      (.inr rfl) (fun _ => ⟨by simp [hstate], rfl⟩) fun _ => ⟨by rw [hstate]; rfl, rfl⟩
    exact { htold with
      order := by
        refine Eq.trans ?_ htold.order
        simp
      begun := fun p hmem => by
        rcases Lib.mem_concat.1 hmem with hmem | rfl
        · exact ht.begun p hmem
        obtain ⟨s, hs, hknown⟩ := ht.known i (by simp [hstate])
        rw [hknown, hs]
        rfl
      ended := by
        rw [map_append, map_cons]
        refine perm_middle.trans ((htold.ended.cons _).trans ?_)
        simpa using (perm_append_singleton _ _).symm }

theorem Ok.completed {i : Nat} {status : Int} (hstep : e.complete i status = some e') :
    e'.Ok := by
  unfold TaskExecutor.complete at hstep
  obtain ⟨hi, ⟨⟩⟩ := Option.ite_none_right_eq_some.1 hstep
  obtain ⟨pending, complete, free, hc, hp, hn, ht⟩ := h
  have hstate := (hp.running i).1 hi
  have hipending := mt (hp.queued i).1 (by simp [hstate])
  have hicomplete := mt (hp.completed i).1 (by simp [hstate])
  have hifree : i ∉ free := fun hi => by simp [((hp.free i).1 hi).2] at hstate
  have hsame : ∀ slot : TaskSlot σ, ∀ j, j ≠ i → (update e.slots i slot j).next =
      (e.slots j).next := fun slot j hj => by simp [hj]
  have hlength := length_erase_of_mem hi
  have hpos := length_pos_of_mem hi
  refine ⟨pending, complete ++ [i], free, ⟨?_, ?_, hc.nodup, ?_⟩, ?_, ?_, ?_⟩
  · exact hc.pending.congr (other_links hc.complete hipending (by grind [Placed]) (hsame _))
  · exact push_links hc.complete hicomplete (hsame _)
  · exact hc.free.congr (other_links hc.complete hifree (by grind [Placed]) (hsame _))
  · rw [enqueue_eq]
    have herase := fun j => hp.once.mem_erase_iff (a := j) (b := i)
    have honce := hp.once.erase i
    constructor <;> grind [Placed, update_apply]
  · constructor <;> grind [Counted]
  · rw [enqueue_eq]
    have htold := @Told.turn _ _ _ _ ht i { e.slots i with
      result := ⟨status, (e.slots i).cancel⟩
      state := .completed } rfl rfl (.inl hicomplete) (fun _ => ⟨by simp [hstate], rfl⟩) nofun
    exact { htold with
      ended := by
        rw [map_append, append_assoc]
        refine List.Perm.trans (List.Perm.append_left _ ?_) htold.ended
        refine List.Perm.trans ?_ ((perm_cons_erase hi).map _).symm
        simp
      delivery := by
        rw [map_append, ← append_assoc]
        refine congrArg₂ _ htold.delivery ?_
        simp
      results := Lib.forall_mem_concat.2 ⟨ht.results, ht.flags i (by rw [hstate]; rfl)⟩ }

theorem Ok.exit (hstep : e.exit = some e') : e'.Ok := by
  unfold TaskExecutor.exit at hstep
  obtain ⟨⟨hidle, hhead, hstate⟩, hstep⟩ := Option.ite_none_right_eq_some.1 hstep
  cases hstep
  obtain ⟨pending, complete, free, hc, hp, hn, ht⟩ := h
  have hnil : pending = [] := by
    have hfirst := hc.pending.head_eq
    rw [hhead] at hfirst
    exact head?_eq_none_iff.1 hfirst.symm
  refine ⟨pending, complete, free, { hc with }, { hp with }, ?_, { ht with }⟩
  constructor <;> grind [Counted]

/-- Some open tasks are marked as cancelled. -/
theorem Ok.mark {S : Nat → Prop} [DecidablePred S] {l : List Nat}
    (hopen : ∀ j, S j → (e.slots j).state.open = true)
    (hl : ∀ t, t ∈ l ↔ ∃ j, S j ∧ (e.slots j).task = t) :
    Ok { e with
      slots := fun j => if S j then { e.slots j with cancel := true } else e.slots j
      asked := e.asked ++ l } := by
  have heq : (fun j => if S j then { e.slots j with cancel := true } else e.slots j) =
      fun j => { e.slots j with cancel := (e.slots j).cancel || decide (S j) } := by
    funext j
    by_cases hj : S j
    · simp [hj]
    · simp [hj]
  have hbusy : ∀ j, (e.slots j).state.open = true → (e.slots j).state ≠ .free :=
    fun j hj hfree => by rw [hfree] at hj; cases hj
  obtain ⟨pending, complete, free, hc, hp, hn, ht⟩ := h
  rw [heq]
  refine ⟨pending, complete, free, { hc with }, { hp with }, { hn with }, { ht with
    flags := fun j hj => ?_
    results := fun f hf => ?_
    asked := fun t hmem => ?_ }⟩
  · have hiff : S j ↔ (e.slots j).task ∈ l := by
      rw [hl]
      constructor
      · intro hS
        exact ⟨j, hS, rfl⟩
      · rintro ⟨k, hk, htask⟩
        rwa [← ht.task_inj (hbusy k (hopen k hk)) (hbusy j hj) htask]
    simp only [Bool.or_eq_true, decide_eq_true_eq, mem_append]
    rw [ht.flags j hj, hiff]
  · rw [ht.results f hf, mem_append, or_iff_left]
    intro hmem
    obtain ⟨j, hj, htask⟩ := (hl _).1 hmem
    exact ht.unfinished hp (hopen j hj) f hf htask.symm
  · rcases mem_append.1 hmem with hmem | hmem
    · exact ht.asked t hmem
    · obtain ⟨j, hj, rfl⟩ := (hl t).1 hmem
      exact ht.task_lt (hbusy j (hopen j hj))

theorem Ok.cancel (handle : TaskHandle) : (e.cancel handle).2.Ok := by
  unfold TaskExecutor.cancel
  iterate 3
    split
    · exact h
  next hopen =>
  have hmark := @Ok.mark _ _ h (fun j => j = handle.slot) _ [(e.slots handle.slot).task]
    (fun j hj => hj ▸ Bool.eq_true_of_not_eq_false hopen) (by simp [eq_comm])
  convert hmark using 2
  funext j
  rw [update_apply]
  split
  next hj => rw [hj]
  next => rfl

theorem Ok.stop (cancelling : Bool) : (e.stop cancelling).Ok := by
  have hstate : Ok { e with state := if e.state = .joined then .joined else .stopping } := by
    obtain ⟨pending, complete, free, hc, hp, hn, ht⟩ := h
    refine ⟨pending, complete, free, { hc with }, { hp with }, ?_, { ht with }⟩
    constructor <;> grind [Counted]
  unfold TaskExecutor.stop
  dsimp only
  split
  · refine @Ok.mark _ _ hstate (fun j => j < e.capacity ∧ (e.slots j).state.open = true) _ _
      (fun j hj => hj.2) fun t => ?_
    simp [mem_map, mem_filter]
  · exact hstate

/-- The next completed task is delivered, if there is one and the limit allows it. -/
theorem Ok.deliver (hcall : e.call = none) (count limit : Nat) :
    (e.deliver count limit).Ok := by
  unfold TaskExecutor.deliver
  split
  · rw [← hcall]
    exact h
  next i hnext =>
  obtain ⟨-, hhead⟩ := Option.ite_none_right_eq_some.1 hnext
  obtain ⟨pending, complete, free, hc, hp, hn, ht⟩ := h
  have hchain := hc.complete
  rw [hhead] at hchain
  obtain ⟨rest, rfl, hrest⟩ := hchain.pop fun _ _ => rfl
  have hstate := (hp.completed i).1 mem_cons_self
  have hirest := (nodup_cons.1 hc.complete.nodup).1
  refine ⟨pending, rest, free, ?_, ?_, ?_, ?_⟩
  · have hsame := @update_next _ e.slots i { e.slots i with state := .delivering } rfl
    refine ⟨?_, ?_, hc.nodup, ?_⟩ <;> dsimp only <;> rw [hsame]
    · exact hc.pending
    · exact hrest
    · exact hc.free
  · constructor <;> grind [Placed, update_apply]
  · constructor <;> grind [Counted]
  · have htold := @Told.turn _ _ _ _ ht i { e.slots i with state := .delivering } rfl rfl
      (.inr rfl) (fun _ => ⟨by simp [hstate], rfl⟩) nofun
    exact { htold with
      delivery := by
        refine Eq.trans ?_ htold.delivery
        simp
      delivered := Lib.forall_mem_concat.2 ⟨ht.delivered, ht.known i (by simp [hstate])⟩ }

theorem Ok.release {i : Nat} {c : Nat × Nat} (hcall : e.call = some (i, c)) :
    (e.release i).Ok := by
  obtain ⟨pending, complete, free, hc, hp, hn, ht⟩ := h
  have hstate := (hp.delivering i).1 (by rw [hcall]; rfl)
  have hipending := mt (hp.queued i).1 (by simp [hstate])
  have hicomplete := mt (hp.completed i).1 (by simp [hstate])
  have hifree : i ∉ free := fun hi => by simp [((hp.free i).1 hi).2] at hstate
  have hsame : ∀ slot : TaskSlot σ, ∀ l : List Nat, i ∉ l → ∀ j ∈ l,
      (update e.slots i slot j).next = (e.slots j).next := fun slot l hl j hj => by
    have hne : j ≠ i := fun heq => hl (heq ▸ hj)
    rw [update_of_ne hne]
  refine ⟨pending, complete, i :: free, ⟨?_, ?_, nodup_cons.2 ⟨hifree, hc.nodup⟩, rfl, ?_⟩,
    ?_, ?_, ?_⟩
  · exact hc.pending.congr (hsame _ _ hipending)
  · exact hc.complete.congr (hsame _ _ hicomplete)
  · simp only [TaskExecutor.release, update_self]
    exact hc.free.congr (hsame _ _ hifree)
  · unfold TaskExecutor.release
    constructor <;> grind [Placed, update_apply]
  · unfold TaskExecutor.release
    constructor <;> grind [Counted]
  · have htold := @Told.turn _ _ _ _ ht i { e.slots i with
      spec := none
      state := .free
      next := e.freeHead } rfl rfl (.inr rfl) (fun hne => absurd rfl hne) nofun
    exact { htold with }

/-- The steps that move neither a slot nor a task. -/
theorem Ok.recount {alive idle : Nat} {state : ExecutorState} {joining : Bool}
    (halive : ∀ p c f, e.Counted p c f →
      Counted { e with workersAlive := alive, idle := idle, state := state } p c f) :
    Ok { e with workersAlive := alive, idle := idle, state := state, joining := joining } := by
  obtain ⟨pending, complete, free, hc, hp, hn, ht⟩ := h
  exact ⟨pending, complete, free, { hc with }, { hp with }, { halive _ _ _ hn with }, { ht with }⟩

theorem Ok.start (created : Nat) : (e.start created).2.Ok := by
  unfold TaskExecutor.start
  split
  · exact h
  next hnew =>
  have hnew : e.state = .new := not_not.1 hnew
  split
  · refine h.recount fun p c f hn => ?_
    constructor <;> grind [Counted]
  · refine h.recount fun p c f hn => ?_
    constructor <;> grind [Counted]

theorem Ok.joinCheck : e.joinCheck.2.Ok := by
  unfold TaskExecutor.joinCheck
  split
  · exact h
  split
  · exact h
  · exact h.recount fun p c f hn => hn

theorem Ok.joinEnd (hstep : e.joinEnd = some e') : e'.Ok := by
  unfold TaskExecutor.joinEnd at hstep
  obtain ⟨-, ⟨⟩⟩ := Option.ite_none_right_eq_some.1 hstep
  refine h.recount fun p c f hn => ?_
  constructor <;> grind [Counted]

/-! ## Any step -/

/-- No task is accepted any more. -/
def Closed (e : TaskExecutor σ) : Prop :=
  e.state = .stopping ∨ e.state = .joined

omit h in
theorem stop_closed (e : TaskExecutor σ) (cancelling : Bool) :
    (e.stop cancelling).Closed ∧ (e.stop cancelling).accepted = e.accepted := by
  unfold TaskExecutor.stop Closed
  cases cancelling <;> by_cases hjoined : e.state = .joined <;> simp [hjoined]

omit h in
theorem deliver_frame (e : TaskExecutor σ) (count limit : Nat) :
    (e.deliver count limit).state = e.state ∧ (e.deliver count limit).accepted = e.accepted := by
  unfold deliver
  split <;> exact ⟨rfl, rfl⟩

theorem Ok.step {action : Action σ} (hstep : e.step action = some e') :
    e'.Ok ∧ (e.Closed → e'.Closed ∧ e'.accepted = e.accepted) := by
  have hframe : ∀ {x : TaskExecutor σ}, x.state = e.state ∧ x.accepted = e.accepted →
      e.Closed → x.Closed ∧ x.accepted = e.accepted := fun hx h => ⟨by rwa [Closed, hx.1], hx.2⟩
  have hstate : e.Closed → e.state ≠ .new ∧ e.state ≠ .open := by
    rintro (h | h) <;> simp [h]
  cases action with
  | start created =>
    cases hstep
    exact ⟨h.start created, fun hc => hframe (by simp [TaskExecutor.start, (hstate hc).1]) hc⟩
  | submit spec =>
    cases hstep
    exact ⟨h.submit spec, fun hc => hframe (by simp [TaskExecutor.submit, (hstate hc).2]) hc⟩
  | begin =>
    refine ⟨h.begin hstep, hframe ?_⟩
    unfold TaskExecutor.step TaskExecutor.begin at hstep
    dsimp only at hstep
    split at hstep
    · cases hstep
    split at hstep
    · cases hstep
    · cases hstep
      exact ⟨rfl, rfl⟩
  | complete i status =>
    obtain ⟨-, heq⟩ := Option.ite_none_right_eq_some.1 hstep
    refine ⟨h.completed hstep, hframe ?_⟩
    cases heq
    exact ⟨rfl, rfl⟩
  | exit =>
    obtain ⟨-, heq⟩ := Option.ite_none_right_eq_some.1 hstep
    refine ⟨h.exit hstep, hframe ?_⟩
    cases heq
    exact ⟨rfl, rfl⟩
  | cancel handle =>
    cases hstep
    refine ⟨h.cancel handle, hframe ?_⟩
    unfold TaskExecutor.cancel
    split_ifs <;> exact ⟨rfl, rfl⟩
  | stop cancelling =>
    cases hstep
    exact ⟨h.stop cancelling, fun _ => e.stop_closed cancelling⟩
  | dispatch limit =>
    cases hstep
    unfold TaskExecutor.dispatch
    split
    · exact ⟨h, hframe ⟨rfl, rfl⟩⟩
    split
    · exact ⟨h, hframe ⟨rfl, rfl⟩⟩
    next hcall => exact ⟨h.deliver (by simpa using hcall) 0 limit, hframe (e.deliver_frame 0 limit)⟩
  | returned =>
    obtain ⟨⟨i, count, limit⟩, hcall, rfl⟩ := Option.map_eq_some_iff.1 hstep
    exact ⟨(h.release hcall).deliver rfl _ _, hframe ((e.release i).deliver_frame _ _)⟩
  | joinCheck =>
    cases hstep
    refine ⟨h.joinCheck, hframe ?_⟩
    unfold TaskExecutor.joinCheck
    split_ifs <;> exact ⟨rfl, rfl⟩
  | joinEnd =>
    obtain ⟨-, heq⟩ := Option.ite_none_right_eq_some.1 hstep
    refine ⟨h.joinEnd hstep, fun _ => ?_⟩
    cases heq
    exact ⟨.inr rfl, rfl⟩

end

/-- The free list of a new executor runs through all the slots. -/
theorem create_links (capacity n k : Nat) (hk : k + n = capacity) :
    Threaded (fun i => if i + 1 < capacity then some (i + 1) else none)
      (if k < capacity then some k else none) (List.range' k n) := by
  induction n generalizing k with
  | zero => simp [Threaded, show ¬ k < capacity by omega]
  | succ n ih =>
    rw [if_pos (by omega)]
    exact ⟨rfl, ih (k + 1) (by omega)⟩

theorem create_ok {capacity workers : Nat} (instanceId : Nat) (hworkers : 0 < workers) :
    (create σ capacity workers instanceId).Ok := by
  refine ⟨[], [], range capacity, ⟨.empty, .empty, nodup_range, ?_⟩, ?_, ?_, ?_⟩
  · rw [range_eq_range']
    exact create_links capacity capacity 0 (Nat.zero_add _)
  · constructor <;> simp [create]
  · constructor <;> simp [create, hworkers]
  · constructor <;> simp [create, TaskState.open]

/-! ## Runs -/

/-- The tasks whose work returned. -/
def ended (e : TaskExecutor σ) : List Nat :=
  e.finished.map Prod.fst

/-- What holds of the executor after any run. -/
structure ExactlyOnce (e : TaskExecutor σ) : Prop where
  /-- Work starts in the order of acceptance and never twice, and it is the task's own. -/
  started : e.begun.map Prod.fst = List.range e.begun.length ∧ e.begun.length ≤ e.accepted.length
  own : ∀ p ∈ e.begun, p.2 = e.accepted[p.1]?.map Prod.fst
  /-- Work returns at most once, and only if it was started. -/
  ended : e.ended.Nodup ∧ ∀ t ∈ e.ended, t ∈ e.begun.map Prod.fst
  /-- Tasks are delivered in the order in which they were completed, after that and at most once,
  with their own data. -/
  delivered : e.delivered.map (fun d => (d.task, d.result)) <+: e.finished
  arguments : ∀ d ∈ e.delivered, ∃ s, d.spec = some s ∧ e.accepted[d.task]? = some (s, d.handle)
  /-- A task is delivered as cancelled exactly if a cancel or a stop was applied to it, and these
  apply to tasks only that are not completed. -/
  flags : ∀ d ∈ e.delivered, (d.result.cancelled = true ↔ d.task ∈ e.asked)
  cancels : ∀ handle, (e.cancel handle).1 = .ok → ∃ s t, e.accepted[t]? = some (s, handle) ∧
    t ∉ e.ended ∧ (e.cancel handle).2.asked = e.asked ++ [t] ∧
    ∀ j, (e.slots j).task ≠ t → (e.cancel handle).2.slots j = e.slots j
  stops : ∀ t, t ∈ (e.stop true).asked ↔ t ∈ e.asked ∨ t < e.accepted.length ∧ t ∉ e.ended
  /-- A handle is one task's, and without that task it does nothing. -/
  handles : (e.accepted.map Prod.snd).Nodup
  stale : ∀ handle, (e.cancel handle).1 ≠ .ok → (e.cancel handle).2 = e
  counters : e.queued + e.begun.length = e.accepted.length ∧
    e.running + e.finished.length = e.begun.length ∧
    e.completed + e.delivered.length = e.finished.length ∧ e.delivering = e.call.toList.length
  outstanding : e.outstanding = e.queued + e.running + e.completed + e.delivering ∧
    e.outstanding ≤ e.capacity
  /-- After a stop no task is accepted any more. -/
  stopped : ∀ cancelling, (e.stop cancelling).Closed
  closed : ∀ action e', e.Closed → e.step action = some e' → e'.Closed ∧ e'.accepted = e.accepted
  /-- When the last worker is gone all the work was done. -/
  drained : e.workersAlive = 0 → e.ended.Perm (List.range e.accepted.length)

theorem Told.open_of_unfinished (h : e.Told pending complete) (hp : e.Placed pending complete free)
    {t : Nat} (ht : t < e.accepted.length) (hnot : t ∉ e.ended) :
    ∃ i, i < e.capacity ∧ (e.slots i).state.open = true ∧ (e.slots i).task = t := by
  have hmem : t ∈ (e.ended ++ e.working.map fun i => (e.slots i).task) ++
      pending.map fun i => (e.slots i).task := by
    rw [TaskExecutor.ended, (h.ended.append_right _).mem_iff, h.order]
    exact mem_range.2 ht
  rw [append_assoc, mem_append, or_iff_right hnot, mem_append] at hmem
  have hopen : ∀ i, (e.slots i).state = .running ∨ (e.slots i).state = .queued →
      i < e.capacity ∧ (e.slots i).state.open = true := fun i hi => by
    refine ⟨hp.bounds i ?_, ?_⟩ <;> rcases hi with hi | hi <;> rw [hi] <;> decide
  rcases hmem with hmem | hmem
  · obtain ⟨i, hi, htask⟩ := mem_map.1 hmem
    have hboth := hopen i (.inl ((hp.running i).1 hi))
    exact ⟨i, hboth.1, hboth.2, htask⟩
  obtain ⟨i, hi, htask⟩ := mem_map.1 hmem
  have hboth := hopen i (.inr ((hp.queued i).1 hi))
  exact ⟨i, hboth.1, hboth.2, htask⟩

/-- A cancel that succeeds is one of an open task, by its own handle. -/
theorem Told.cancel_ok (h : e.Told pending complete) (hp : e.Placed pending complete free)
    {handle : TaskHandle} (hok : (e.cancel handle).1 = .ok) :
    ∃ s t, e.accepted[t]? = some (s, handle) ∧ t ∉ e.ended ∧
      (e.cancel handle).2.asked = e.asked ++ [t] ∧
      ∀ j, (e.slots j).task ≠ t → (e.cancel handle).2.slots j = e.slots j := by
  unfold TaskExecutor.cancel at hok ⊢
  split at hok
  · cases hok
  next hrange =>
  split at hok
  · cases hok
  next hmatch =>
  split at hok
  · cases hok
  next hopen =>
  simp only [if_neg hrange, if_neg hmatch, if_neg hopen]
  rw [not_or, not_not] at hmatch
  obtain ⟨s, -, hs⟩ := h.known handle.slot hmatch.1
  rw [hmatch.2, show e.instanceId = handle.instanceId by
    by_contra hne
    exact hrange (.inl (Ne.symm hne))] at hs
  refine ⟨s, _, hs, fun hmem => ?_, rfl, fun j hj => update_of_ne ?_ _ _⟩
  · obtain ⟨f, hf, htask⟩ := mem_map.1 hmem
    exact h.unfinished hp (Bool.eq_true_of_not_eq_false hopen) f hf htask
  · rintro rfl
    exact hj rfl

theorem Ok.exactlyOnce (h : e.Ok) : e.ExactlyOnce := by
  have hok := h
  obtain ⟨pending, complete, free, hc, hp, hn, ht⟩ := h
  have hlengths := congrArg length ht.order
  have hdelivery := congrArg length ht.delivery
  have hended := ht.ended.length_eq
  simp only [length_append, length_map, length_range] at hlengths hdelivery hended
  have hnodup := ht.nodup
  rw [append_assoc] at hnodup
  exact {
    started := by
      refine ⟨?_, by omega⟩
      have hfirst : e.begun.map Prod.fst <+: range e.accepted.length := ⟨_, ht.order⟩
      have htake := prefix_iff_eq_take.1 hfirst
      rw [length_map, take_range, Nat.min_eq_left (by omega)] at htake
      exact htake
    own := ht.begun
    ended := by
      refine ⟨(nodup_append.1 hnodup).1, fun t hmem => ?_⟩
      exact ht.ended.mem_iff.1 (mem_append_left _ hmem)
    delivered := ⟨_, ht.delivery⟩
    arguments := ht.delivered
    flags := fun d hd => by
      refine ht.results (d.task, d.result) ?_
      rw [← ht.delivery]
      exact mem_append_left _ (mem_map.2 ⟨d, hd, rfl⟩)
    cancels := fun handle hok => ht.cancel_ok hp hok
    stops := fun t => by
      show t ∈ e.asked ++ _ ↔ _
      rw [mem_append]
      refine or_congr_right ⟨fun hmem => ?_, fun hboth => ?_⟩
      · obtain ⟨i, hi, rfl⟩ := mem_map.1 hmem
        have hopen : (e.slots i).state.open = true := (mem_filter.1 hi).2
        refine ⟨ht.task_lt fun hfree => ?_, fun hdone => ?_⟩
        · rw [hfree] at hopen
          cases hopen
        · obtain ⟨f, hf, htask⟩ := mem_map.1 hdone
          exact ht.unfinished hp hopen f hf htask
      · obtain ⟨i, hi, hopen, htask⟩ := ht.open_of_unfinished hp hboth.1 hboth.2
        exact mem_map.2 ⟨i, mem_filter.2 ⟨mem_range.2 hi, hopen⟩, htask⟩
    handles := ht.fresh
    stale := fun handle hnot => by
      unfold TaskExecutor.cancel at hnot ⊢
      split_ifs at hnot ⊢ <;> first | rfl | exact absurd rfl hnot
    counters := by
      refine ⟨?_, ?_, ?_, hn.delivering⟩
      · rw [hn.queued]
        omega
      · rw [hn.running]
        omega
      · rw [hn.completed]
        omega
    outstanding := ⟨hn.outstanding, by have := hn.capacity; omega⟩
    stopped := fun cancelling => (e.stop_closed cancelling).1
    closed := fun _ _ hclosed hstep => (hok.step hstep).2 hclosed
    drained := fun hnone => by
      have hworking : e.working = [] := by
        have halive := hn.alive
        exact length_eq_zero_iff.1 (by omega)
      have hpending : pending = [] := by
        by_contra hne
        exact absurd hnone (hn.live (.inl hne)).ne'
      have hperm := ht.ended
      have horder := ht.order
      rw [hworking, map_nil, append_nil] at hperm
      rw [hpending, map_nil, append_nil] at horder
      rwa [horder] at hperm }

end TaskExecutor

/-- After every run of submitters, workers, cancellers, dispatch calls and stops each task was
handled exactly once. -/
theorem task_executor_exactly_once {σ : Type} (capacity workers instanceId : Nat)
    (hworkers : 0 < workers) (actions : List (TaskExecutor.Action σ)) (e : TaskExecutor σ)
    (hrun : runSteps TaskExecutor.step (.create σ capacity workers instanceId) actions = some e) :
    e.ExactlyOnce :=
  (runSteps_invariant (fun _ _ _ h hstep => (h.step hstep).1)
    (TaskExecutor.create_ok instanceId hworkers) hrun : e.Ok).exactlyOnce

/-- Two workers end their tasks the other way round, one of them cancelled, and the slot of a
delivered task is used again. -/
theorem task_executor_exactly_once_two : ∃ e : TaskExecutor Nat,
      runSteps TaskExecutor.step (.create Nat 2 2 1)
        [.start 2, .submit 10, .submit 11, .begin, .begin, .cancel ⟨1, 1, 0⟩, .complete 1 5,
          .complete 0 6, .dispatch 8, .cancel ⟨1, 1, 1⟩, .returned, .submit 12, .stop false,
          .cancel ⟨1, 1, 1⟩, .returned, .begin, .complete 1 7, .exit, .exit] = some e ∧
      e.delivered.map (fun d => (d.task, d.result)) = [(1, ⟨5, false⟩), (0, ⟨6, true⟩)] ∧
      e.ended = [1, 0, 2] ∧ e.workersAlive = 0 ∧ e.ExactlyOnce := by
  refine exists_of_map
    (f := fun e => (e.delivered.map (fun d => (d.task, d.result)), e.ended, e.workersAlive))
    (y := ([(1, ⟨5, false⟩), (0, ⟨6, true⟩)], [1, 0, 2], 0)) (by decide) fun e he hlists => ?_
  obtain ⟨hdelivered, hrest⟩ := Prod.mk.inj hlists
  exact ⟨hdelivered, (Prod.mk.inj hrest).1, (Prod.mk.inj hrest).2,
    task_executor_exactly_once 2 2 1 (by decide) _ e he⟩

end Trpc
