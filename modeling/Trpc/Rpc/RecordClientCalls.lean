import Trpc.Lib.Runs
import Trpc.Rpc.RecordClient

/-!
# The client host keeps its book

Every entry of the client host is a number of moves of the `CallBook` that its
slots and observations make up.

* `Quiet` steps change flags that the book does not read: the facts that transport
  callbacks leave, and everything the binding does to a slot.
* `Nested` steps are what an application callback can do.  They may add to what
  the application saw, but no slot changes hands.
* `Works` is the summary of a whole entry: moves of the book, with `depth` and
  `callbackDepth` as they were, and no slot left in the middle of a send.
-/

namespace Trpc

open CallBook Lib RecordClient Function

/-! ## The book of a host -/

/-- What the book says of a slot. -/
def ClientSlot.entry (slot : ClientSlot) : Option (Nat × CallPhase) :=
  if slot.accepted then
    some (slot.generation, if slot.reported then .reported else .live)
  else if slot.active then some (slot.generation, .dropped)
  else none

/-- The book of a host. -/
def RecordClient.book (c : RecordClient) : CallBook where
  slot i := (c.slots i).entry
  generation := c.generation
  counters := c.counters
  admitted := c.admitted
  notes := c.notes
  snapshots := c.snapshots

/-- A change of a slot that the book does not see. -/
structure ClientSlot.Soft (slot slot' : ClientSlot) : Prop where
  active : slot'.active = slot.active
  accepted : slot'.accepted = slot.accepted
  reported : slot'.reported = slot.reported
  generation : slot'.generation = slot.generation
  sending : slot'.sending = slot.sending
  terminal : slot.terminal = true → slot'.terminal = true

/-- A slot between two entries of the host. -/
structure ClientSlot.Fine (slot : ClientSlot) : Prop where
  active : slot.accepted = true → slot.active = true
  terminal : slot.reported = true → slot.terminal = true
  sending : slot.sending = 0

namespace ClientSlot

theorem Soft.refl (slot : ClientSlot) : Soft slot slot := ⟨rfl, rfl, rfl, rfl, rfl, id⟩

theorem Soft.trans {a b c : ClientSlot} (h : Soft a b) (h' : Soft b c) : Soft a c where
  active := h'.active.trans h.active
  accepted := h'.accepted.trans h.accepted
  reported := h'.reported.trans h.reported
  generation := h'.generation.trans h.generation
  sending := h'.sending.trans h.sending
  terminal hterm := h'.terminal (h.terminal hterm)

theorem Soft.entry {a b : ClientSlot} (h : Soft a b) : b.entry = a.entry := by
  unfold ClientSlot.entry
  rw [h.active, h.accepted, h.reported, h.generation]

theorem Soft.fine {a b : ClientSlot} (h : Soft a b) (hfine : a.Fine) : b.Fine where
  active hacc := by
    rw [h.accepted] at hacc
    rw [h.active]
    exact hfine.active hacc
  terminal hrep := h.terminal (hfine.terminal (h.reported.symm.trans hrep))
  sending := h.sending.trans hfine.sending

variable (slot : ClientSlot)

theorem soft_bridge (status : UInt32) (delivery : RpcDelivery) :
    Soft slot (slot.bridge status delivery) := by
  unfold bridge
  split
  · exact .refl slot
  · exact ⟨rfl, rfl, rfl, rfl, rfl, fun _ => rfl⟩

theorem soft_bindingCall (answer : BindingAnswer) : Soft slot (slot.bindingCall answer).2 := by
  unfold bindingCall
  split
  · split
    · exact .refl slot
    · exact slot.soft_bridge _ _
  · exact .refl slot

theorem soft_defer (event : EventKind) : Soft slot (slot.defer event) := by
  unfold defer
  split
  · exact ⟨rfl, rfl, rfl, rfl, rfl, id⟩
  · exact .refl slot

theorem soft_applyPending (answer : BindingAnswer) : Soft slot (slot.applyPending answer) := by
  have hcall := slot.soft_bindingCall answer
  unfold applyPending
  split
  · exact .refl slot
  split
  · exact ⟨rfl, rfl, rfl, rfl, rfl, id⟩
  dsimp only
  split
  · exact hcall.trans ⟨rfl, rfl, rfl, rfl, rfl, id⟩
  · exact hcall

theorem soft_checkTime (clock : Option Nat) (failed expired : BindingAnswer) :
    Soft slot (slot.checkTime clock failed expired) := by
  unfold checkTime
  split
  · split
    · exact slot.soft_bindingCall failed
    · exact .refl slot
  split
  · exact slot.soft_bindingCall expired
  · exact .refl slot

theorem soft_noteStream (event : EventKind) : Soft slot (slot.noteStream event) := by
  cases event <;> exact ⟨rfl, rfl, rfl, rfl, rfl, id⟩

theorem soft_notePeerWindow (flow : Option Nat) : Soft slot (slot.notePeerWindow flow) := by
  unfold notePeerWindow
  split
  · exact .refl slot
  split
  · exact ⟨rfl, rfl, rfl, rfl, rfl, id⟩
  · exact slot.soft_defer _

theorem soft_noteEvent (event : EventKind) (flow : Option Nat) :
    Soft slot (slot.noteEvent event flow) := by
  unfold noteEvent
  extract_lets known opened deferred
  have hopened : Soft known opened := by
    unfold opened
    split
    · exact known.soft_notePeerWindow flow
    · exact .refl known
  have hdeferred : Soft slot deferred :=
    (slot.soft_noteStream event).trans (hopened.trans (opened.soft_defer event))
  split
  · exact hdeferred.trans ⟨rfl, rfl, rfl, rfl, rfl, id⟩
  · exact hdeferred

theorem soft_noteData : Soft slot slot.noteData := by
  unfold noteData
  split
  · exact .refl slot
  · exact slot.soft_defer _

end ClientSlot

open ClientSlot

theorem RecordClient.book_setSlot (c : RecordClient) (i : Nat) (slot : ClientSlot) :
    (c.setSlot i slot).book =
      { c.book with slot := update c.book.slot i slot.entry } := by
  unfold book setSlot
  congr 1
  exact comp_update ClientSlot.entry c.slots i slot

/-! ## Quiet steps -/

/-- Only flags that the book does not read have changed. -/
def Quiet (c c' : RecordClient) : Prop :=
  ∃ slots routes, c' = { c with slots := slots, routes := routes } ∧
    ∀ i, Soft (c.slots i) (slots i)

theorem Quiet.refl (c : RecordClient) : Quiet c c :=
  ⟨c.slots, c.routes, rfl, fun _ => .refl _⟩

variable {c c' : RecordClient}

theorem Quiet.trans {a b : RecordClient} (h : Quiet a b) (h' : Quiet b c) : Quiet a c := by
  obtain ⟨slots, routes, rfl, hsoft⟩ := h
  obtain ⟨slots', routes', rfl, hsoft'⟩ := h'
  exact ⟨slots', routes', rfl, fun i => (hsoft i).trans (hsoft' i)⟩

theorem Quiet.soft (h : Quiet c c') (i : Nat) : Soft (c.slots i) (c'.slots i) := by
  obtain ⟨slots, routes, rfl, hsoft⟩ := h
  exact hsoft i

theorem slots_setSlot (c : RecordClient) (i : Nat) (slot : ClientSlot) :
    (c.setSlot i slot).slots i = slot :=
  update_self ..

theorem Quiet.setSlot {i : Nat} {slot : ClientSlot} (h : Soft (c.slots i) slot) :
    Quiet c (c.setSlot i slot) :=
  ⟨_, c.routes, rfl, (forall_update_iff c.slots fun j new => Soft (c.slots j) new).2
    ⟨h, fun _ _ => .refl _⟩⟩

section

variable (c : RecordClient)

theorem Quiet.modifySlot (i : Nat) {f : ClientSlot → ClientSlot}
    (h : ∀ slot, Soft slot (f slot)) : Quiet c (c.modifySlot i f) :=
  .setSlot (h _)

theorem quiet_unroute (i : Nat) : Quiet c (c.unroute i) := by
  unfold unroute
  dsimp only
  split
  · have hroutes : Quiet c
        { c with routes := update c.routes (c.slots i).stream.slot 0 } :=
      ⟨c.slots, _, rfl, fun _ => .refl _⟩
    exact hroutes.trans (.modifySlot _ i fun _ => ⟨rfl, rfl, rfl, rfl, rfl, id⟩)
  · exact .modifySlot _ i fun _ => ⟨rfl, rfl, rfl, rfl, rfl, id⟩

theorem quiet_takeNote (note : TransportNote) : Quiet c (c.takeNote note) := by
  cases note with
  | event stream event flow =>
    unfold takeNote
    dsimp only
    split
    · exact .refl c
    · exact .modifySlot c _ fun slot => slot.soft_noteEvent event flow
  | data stream =>
    unfold takeNote
    dsimp only
    split
    · exact .refl c
    · exact .modifySlot c _ fun slot => slot.soft_noteData

theorem quiet_takeNotes (notes : List TransportNote) :
    Quiet c (c.takeNotes notes) := by
  induction notes generalizing c with
  | nil => exact .refl c
  | cons note rest ih => exact (quiet_takeNote c note).trans (ih _)

/-- The count of sends in progress is back where it was when the send returns. -/
theorem quiet_sendRecord (i : Nat) (answer : SendAnswer) :
    Quiet c (c.sendRecord i answer).2 := by
  unfold sendRecord
  dsimp only
  refine Quiet.trans ?_ (.modifySlot _ i fun slot => slot.soft_applyPending _)
  obtain ⟨slots, routes, hnotes, hsoft⟩ :=
    quiet_takeNotes (c.modifySlot i fun slot => { slot with sending := slot.sending + 1 })
      answer.inside
  rw [hnotes]
  refine ⟨_, routes, rfl, fun j => ?_⟩
  have hj := hsoft j
  by_cases hji : j = i
  · subst hji
    dsimp only [modifySlot, setSlot] at hj ⊢
    rw [update_self] at hj ⊢
    have hcall := (slots j).soft_bindingCall answer.sent
    refine ⟨hcall.active.trans hj.active, hcall.accepted.trans hj.accepted,
      hcall.reported.trans hj.reported, hcall.generation.trans hj.generation, ?_,
      fun hterm => hcall.terminal (hj.terminal hterm)⟩
    have hsending := hcall.sending.trans hj.sending
    dsimp only at hsending ⊢
    omega
  · dsimp only [modifySlot, setSlot] at hj ⊢
    rw [update_of_ne hji] at hj ⊢
    exact hj

theorem quiet_requestSend (i : Nat) (args : RequestArgs)
    (answer : RequestAnswer) : Quiet c (c.requestSend i args answer).2 := by
  unfold requestSend
  dsimp only
  split
  · exact .refl c
  split
  · exact quiet_sendRecord c i _
  split
  · exact .refl c
  split
  · exact .refl c
  split
  · exact quiet_sendRecord c i _
  split
  · refine Quiet.trans ?_ (quiet_sendRecord _ i _)
    exact .modifySlot c i fun _ => ⟨rfl, rfl, rfl, rfl, rfl, id⟩
  · exact Quiet.modifySlot c i (f := fun slot => { slot with sendPoolWaiting := true })
      fun _ => ⟨rfl, rfl, rfl, rfl, rfl, id⟩
  · exact .refl c

theorem quiet_requestBody (i : Nat) (args : RequestArgs)
    (answer : RequestAnswer) : Quiet c (c.requestBody i args answer).2 := by
  have hpending : Quiet c (c.modifySlot i fun slot => slot.applyPending answer.pending) :=
    .modifySlot c i fun slot => slot.soft_applyPending _
  have htime := hpending.trans (.modifySlot _ i fun slot =>
    slot.soft_checkTime answer.clock answer.failed answer.expired)
  unfold requestBody
  dsimp only
  iterate 4
    split
    · exact htime
  · exact htime.trans (quiet_requestSend _ i args answer)

end

theorem soft_abort (answer : BindingAnswer) (slot : ClientSlot) :
    Soft slot (if slot.terminal then slot else (slot.bindingCall answer).2) := by
  split
  · exact .refl slot
  · exact slot.soft_bindingCall answer

/-- The end of a request or a cancellation. -/
def RecordClient.finish (callback pump : RecordClient → RecordClient) (c : RecordClient)
    (i : Nat) : RecordClient :=
  let c := (c.reportWith callback i).leave
  if c.depth = 0 then pump c else c

/-- A request is refused, or changes flags and then reports and pumps. -/
theorem requestWith_eq (callback pump : RecordClient → RecordClient) (c : RecordClient)
    (handle : CallHandle) (args : RequestArgs) (answer : RequestAnswer) :
    (c.requestWith callback pump handle args answer).2 = c ∨ ∃ i marked, Quiet c.enter marked ∧
        (c.requestWith callback pump handle args answer).2 = marked.finish callback pump i := by
  unfold requestWith
  split
  · exact .inl rfl
  rename_i i _
  dsimp only
  iterate 3
    split
    · exact .inl rfl
  have hbody := quiet_requestBody c.enter i args answer
  refine .inr ⟨i, _, ?_, rfl⟩
  split
  · exact hbody.trans (.modifySlot _ i fun _ => ⟨rfl, rfl, rfl, rfl, rfl, id⟩)
  · exact hbody

/-- So is a cancellation. -/
theorem cancelWith_eq (callback pump : RecordClient → RecordClient) (c : RecordClient)
    (handle : CallHandle) (answer : CancelAnswer) :
    c.cancelWith callback pump handle answer = c ∨ ∃ i marked, Quiet c.enter marked ∧
        c.cancelWith callback pump handle answer = marked.finish callback pump i := by
  unfold cancelWith
  split
  · exact .inl rfl
  rename_i i _
  split
  · exact .inl rfl
  have hpending : Quiet c.enter
      (c.enter.modifySlot i fun slot => slot.applyPending answer.pending) :=
    .modifySlot _ i fun slot => slot.soft_applyPending _
  exact .inr ⟨i, _, hpending.trans (.modifySlot _ i (soft_abort answer.abort)), rfl⟩

/-! ## Whole entries -/

/-- What a piece of the host's work amounts to. -/
structure Works (c c' : RecordClient) : Prop where
  book : Reach c.capacity c.book c'.book
  capacity : c'.capacity = c.capacity
  callbackDepth : c'.callbackDepth = c.callbackDepth
  freed : c'.freed = c.freed
  starts : c'.starts = c.starts
  fine : ∀ i, (c.slots i).Fine → (c'.slots i).Fine
  idle : ∀ i, (c.slots i).active = false → (c'.slots i).active = false

theorem Works.refl (c : RecordClient) : Works c c :=
  ⟨.refl, rfl, rfl, rfl, rfl, fun _ h => h, fun _ h => h⟩

theorem Works.trans {a b : RecordClient} (h : Works a b) (h' : Works b c) : Works a c where
  book := by
    have hbook := h'.book
    rw [h.capacity] at hbook
    exact h.book.trans hbook
  capacity := h'.capacity.trans h.capacity
  callbackDepth := h'.callbackDepth.trans h.callbackDepth
  freed := h'.freed.trans h.freed
  starts := h'.starts.trans h.starts
  fine i hi := h'.fine i (h.fine i hi)
  idle i hi := h'.idle i (h.idle i hi)

/-- Work inside an entry, seen from outside of it. -/
theorem Works.entered (h : Works c.enter c') : Works c c'.leave where
  book := h.book
  capacity := h.capacity
  callbackDepth := h.callbackDepth
  freed := h.freed
  starts := h.starts
  fine := h.fine
  idle := h.idle

theorem Quiet.works (h : Quiet c c') : Works c c' := by
  obtain ⟨slots, routes, rfl, hsoft⟩ := h
  refine ⟨?_, rfl, rfl, rfl, rfl, fun i hi => (hsoft i).fine hi,
    fun i hi => (hsoft i).active.trans hi⟩
  have hbook : book { c with slots := slots, routes := routes } = c.book := by
    unfold book
    congr 1
    exact funext fun i => (hsoft i).entry
  rw [hbook]

/-- A change of the host's other fields. -/
theorem Works.around (hbook : c'.book = c.book) (hcapacity : c'.capacity = c.capacity)
    (hcallback : c'.callbackDepth = c.callbackDepth) (hfreed : c'.freed = c.freed)
    (hstarts : c'.starts = c.starts) (hslots : c'.slots = c.slots) : Works c c' where
  book := by rw [hbook]
  capacity := hcapacity
  callbackDepth := hcallback
  freed := hfreed
  starts := hstarts
  fine i hi := by rwa [hslots]
  idle i hi := by rwa [hslots]

theorem entry_live {slot : ClientSlot} (hacc : slot.accepted = true)
    (hrep : slot.reported = false) : slot.entry = some (slot.generation, .live) := by
  unfold ClientSlot.entry
  rw [hacc, hrep]
  rfl

theorem live_book (c : RecordClient) (i : Nat) :
    c.book.live i = ((c.slots i).accepted && !(c.slots i).reported) := by
  unfold CallBook.live book ClientSlot.entry
  dsimp only
  cases (c.slots i).accepted <;> cases (c.slots i).reported <;>
    cases (c.slots i).active <;> rfl

theorem unreported_eq (c : RecordClient) : c.unreported = c.book.liveCount c.capacity := by
  unfold unreported liveCount
  simp only [live_book]

/-- A slot whose call is not live may be emptied. -/
theorem Works.clear {i : Nat} (h : (c.slots i).accepted = false ∨ (c.slots i).reported = true) :
    Works c (c.setSlot i {}) := by
  have hlive : c.book.live i = false := by
    rw [live_book]
    rcases h with h | h <;> simp [h]
  have hbook : (c.setSlot i {}).book = c.book.clear i := c.book_setSlot i {}
  refine ⟨?_, rfl, rfl, rfl, rfl, ?_, ?_⟩
  · rw [hbook]
    exact .single (.clear _ i hlive)
  · exact (forall_update_iff c.slots fun j new => (c.slots j).Fine → new.Fine).2
      ⟨fun _ => ⟨nofun, nofun, rfl⟩, fun _ _ => id⟩
  · exact (forall_update_iff c.slots fun j new =>
      (c.slots j).active = false → new.active = false).2 ⟨fun _ => rfl, fun _ _ => id⟩

/-! ## Application callbacks -/

/-- Work that moves no call from one slot to another. -/
structure Nested (c c' : RecordClient) : Prop where
  works : Works c c'
  soft : ∀ i, Soft (c.slots i) (c'.slots i)

theorem Nested.refl (c : RecordClient) : Nested c c :=
  ⟨.refl c, fun _ => .refl _⟩

theorem Nested.trans {a b : RecordClient} (h : Nested a b) (h' : Nested b c) : Nested a c :=
  ⟨h.works.trans h'.works, fun i => (h.soft i).trans (h'.soft i)⟩

theorem Quiet.nested (h : Quiet c c') : Nested c c' :=
  ⟨h.works, h.soft⟩

theorem Nested.entered (h : Nested c.enter c') : Nested c c'.leave :=
  ⟨h.works.entered, h.soft⟩

/-- In a callback the terminal callback of no call is due. -/
theorem reportWith_of_callback (h : c.callbackDepth ≠ 0) (callback : RecordClient → RecordClient)
    (i : Nat) : c.reportWith callback i = c := by
  unfold reportWith
  dsimp only
  rw [if_pos (.inr (.inr (.inr (.inl h))))]

/-- In a callback a request or a cancellation ends without any callback. -/
theorem nested_finish {marked : RecordClient} (h : c.callbackDepth ≠ 0)
    (hmarked : Quiet c.enter marked) (i : Nat) : Nested c (marked.finish id id i) := by
  have hcallback : marked.callbackDepth ≠ 0 := by
    rw [hmarked.works.callbackDepth]
    exact h
  unfold finish
  rw [reportWith_of_callback hcallback]
  dsimp only [id]
  rw [ite_self]
  exact hmarked.nested.entered

theorem nested_stats (c : RecordClient) : Nested c c.stats := by
  unfold stats
  split
  · refine ⟨⟨.single ?_, rfl, rfl, rfl, rfl, fun _ h => h, fun _ h => h⟩, fun _ => .refl _⟩
    have hlook := @Step.look c.capacity c.book
    unfold CallBook.look at hlook
    rw [← unreported_eq] at hlook
    exact hlook
  · exact .refl c

/-- One call from within a callback. -/
theorem nested_reenter (h : c.callbackDepth ≠ 0) (call : Reentry) : Nested c (c.reenter call) := by
  cases call with
  | request handle args answer =>
    show Nested c (c.requestWith id id handle args answer).2
    rcases requestWith_eq id id c handle args answer with heq | ⟨i, marked, hmarked, heq⟩
    · rw [heq]
      exact .refl c
    · rw [heq]
      exact nested_finish h hmarked i
  | cancel handle answer =>
    show Nested c (c.cancelWith id id handle answer)
    rcases cancelWith_eq id id c handle answer with heq | ⟨i, marked, hmarked, heq⟩
    · rw [heq]
      exact .refl c
    · rw [heq]
      exact nested_finish h hmarked i
  | beginDrain =>
    show Nested c (beginDrainWith id c)
    unfold beginDrainWith
    split
    · exact ⟨.around rfl rfl rfl rfl rfl rfl, fun _ => .refl _⟩
    · exact .refl c
  | stats => exact nested_stats c
  | transport note => exact (quiet_takeNote c note).nested
  | markTlsFailed => exact ⟨.around rfl rfl rfl rfl rfl rfl, fun _ => .refl _⟩

/-- A whole callback. -/
theorem nested_reenterAll (script : List Reentry) (h : c.callbackDepth ≠ 0) :
    Nested c (c.reenterAll script) := by
  induction script generalizing c with
  | nil => exact .refl c
  | cons call rest ih =>
    have hcall := nested_reenter h call
    exact hcall.trans (ih (by rw [hcall.works.callbackDepth]; exact h))

/-- A callback for a live call. -/
theorem nested_tell {c : RecordClient} {i : Nat} {note : CallNote}
    (hacc : (c.slots i).accepted = true) (hrep : (c.slots i).reported = false)
    (hnote : note.isTerminal = false) (script : List Reentry) :
    Nested c (c.tell i note script) := by
  have hscript := nested_reenterAll script (c := { c with
      notes := c.notes ++ [((c.slots i).generation, note)]
      callbackDepth := c.callbackDepth + 1 }) (Nat.succ_ne_zero _)
  have hstep : Step c.capacity c.book (c.book.tell (c.slots i).generation note) :=
    .tell _ i _ note (entry_live hacc hrep) hnote
  refine ⟨⟨(Relation.ReflTransGen.single hstep).trans hscript.works.book,
    hscript.works.capacity, ?_, hscript.works.freed,
    hscript.works.starts, hscript.works.fine, hscript.works.idle⟩, hscript.soft⟩
  show callbackDepth _ - 1 = _
  rw [hscript.works.callbackDepth]
  rfl

/-! ## The terminal callback -/

/-- The slot still holds its call, which may have ended or been reported. -/
structure ClientSlotKept (slot slot' : ClientSlot) : Prop where
  active : slot'.active = slot.active
  accepted : slot'.accepted = slot.accepted
  reported : slot.reported = true → slot'.reported = true

theorem ClientSlot.Soft.kept {slot slot' : ClientSlot} (h : Soft slot slot') :
    ClientSlotKept slot slot' :=
  ⟨h.active, h.accepted, fun hrep => h.reported.trans hrep⟩

/-- Work after which every slot still holds its call. -/
structure Keeps (c c' : RecordClient) : Prop where
  works : Works c c'
  kept : ∀ i, ClientSlotKept (c.slots i) (c'.slots i)

theorem Nested.keeps (h : Nested c c') : Keeps c c' :=
  ⟨h.works, fun i => (h.soft i).kept⟩

theorem Quiet.keeps (h : Quiet c c') : Keeps c c' :=
  h.nested.keeps

theorem Keeps.refl (c : RecordClient) : Keeps c c := (Nested.refl c).keeps

theorem Keeps.trans {a b : RecordClient} (h : Keeps a b) (h' : Keeps b c) : Keeps a c where
  works := h.works.trans h'.works
  kept i := {
    active := (h'.kept i).active.trans (h.kept i).active
    accepted := (h'.kept i).accepted.trans (h.kept i).accepted
    reported hrep := (h'.kept i).reported ((h.kept i).reported hrep) }

theorem Keeps.entered (h : Keeps c.enter c') : Keeps c c'.leave :=
  ⟨h.works.entered, h.kept⟩

/-- The report is not due. -/
def RecordClient.Held (c : RecordClient) (i : Nat) : Prop :=
  (c.slots i).accepted = false ∨ (c.slots i).terminal = false ∨
    (c.slots i).reported = true ∨ c.callbackDepth ≠ 0 ∨ (c.slots i).sending ≠ 0

/-- The state in which the application gets the terminal callback. -/
def RecordClient.reported (c : RecordClient) (i : Nat) : RecordClient :=
  { c.setSlot i { (c.slots i).clearUnary with reported := true } with
    counters := rpcRecordSemanticFinish c.counters (c.slots i).status
    notes := c.notes ++
      [((c.slots i).generation, .terminal (c.slots i).status (c.slots i).delivery)]
    callbackDepth := c.callbackDepth + 1 }

theorem book_reported {i : Nat} (hacc : (c.slots i).accepted = true) :
    (c.reported i).book = c.book.report i (c.slots i).generation (c.slots i).status
      (c.slots i).delivery := by
  have hentry : ClientSlot.entry { (c.slots i).clearUnary with reported := true } =
      some ((c.slots i).generation, .reported) := by
    unfold ClientSlot.entry ClientSlot.clearUnary
    dsimp only
    rw [hacc]
    rfl
  have hset := c.book_setSlot i { (c.slots i).clearUnary with reported := true }
  rw [hentry] at hset
  unfold RecordClient.reported CallBook.report
  exact congrArg (fun b : CallBook => { b with
    counters := rpcRecordSemanticFinish c.counters (c.slots i).status
    notes := c.notes ++ [((c.slots i).generation,
      CallNote.terminal (c.slots i).status (c.slots i).delivery)] }) hset

section

variable (c : RecordClient)

/-- The terminal callback and what the application does in it.  If it was due, it
has been made. -/
theorem keeps_report (i : Nat) (script : List Reentry) :
    Keeps c (c.report i script) ∧ (c.Held i ∨ ((c.report i script).slots i).reported = true) := by
  unfold RecordClient.report reportWith
  dsimp only
  split
  next hheld =>
    exact ⟨.refl c, .inl hheld⟩
  rename_i hdue
  simp only [not_or, Bool.not_eq_false, Bool.not_eq_true, ne_eq, not_not] at hdue
  obtain ⟨hacc, hterm, hrep, hcallback, hsending⟩ := hdue
  have hscript : Nested (c.reported i) ((c.reported i).reenterAll script) :=
    nested_reenterAll script (Nat.succ_ne_zero _)
  have hself : (c.reported i).slots i = { (c.slots i).clearUnary with reported := true } :=
    update_self ..
  have hkept : ∀ j, ClientSlotKept (c.slots j) ((c.reported i).slots j) :=
    (forall_update_iff c.slots fun j new => ClientSlotKept (c.slots j) new).2
      ⟨⟨rfl, rfl, fun _ => rfl⟩, fun _ _ => (Soft.refl _).kept⟩
  have hstep : Reach c.capacity c.book (c.reported i).book := by
    rw [book_reported hacc]
    exact .single (.report _ i _ _ _ (entry_live hacc hrep))
  have hafter : ∀ j, ClientSlotKept (c.slots j) (((c.reported i).reenterAll script).slots j) := by
    intro j
    have hsoft := (hscript.soft j).kept
    exact ⟨hsoft.active.trans (hkept j).active, hsoft.accepted.trans (hkept j).accepted,
      fun h => hsoft.reported ((hkept j).reported h)⟩
  have hreported := (hscript.soft i).reported.trans (congrArg ClientSlot.reported hself)
  refine ⟨⟨⟨hstep.trans hscript.works.book, hscript.works.capacity,
    ?_, hscript.works.freed, hscript.works.starts, ?_, ?_⟩, hafter⟩,
    .inr hreported⟩
  · show ((c.reported i).reenterAll script).callbackDepth - 1 = c.callbackDepth
    rw [hscript.works.callbackDepth]
    rfl
  · intro j hj
    refine hscript.works.fine j ((forall_update_iff c.slots fun j new =>
      (c.slots j).Fine → new.Fine).2 ⟨fun hfine => ?_, fun _ _ => id⟩ j hj)
    exact ⟨hfine.active, fun _ => hterm, hfine.sending⟩
  · intro j hj
    exact (hafter j).active.trans hj

/-! ## The pieces of progress -/

theorem quiet_releaseStream (i : Nat) (answer : RetireAnswer) :
    Quiet c (c.releaseStream i answer).2 := by
  have hnotes := quiet_takeNotes c answer.inside
  have hflag : ∀ f : ClientSlot → ClientSlot, (∀ slot, Soft slot (f slot)) →
      Quiet c ((c.takeNotes answer.inside).modifySlot i f) :=
    fun f hf => hnotes.trans (.modifySlot _ i hf)
  unfold releaseStream
  dsimp only
  generalize (if (c.slots i).peerFinal = true then answer.closed else answer.reset) = ret
  split
  · exact .refl c
  split
  · exact hflag (fun slot => { slot with dead := true })
      fun _ => ⟨rfl, rfl, rfl, rfl, rfl, id⟩
  split
  · exact hnotes
  split
  · exact hflag (fun slot => { slot with closeAccepted := true })
      fun _ => ⟨rfl, rfl, rfl, rfl, rfl, id⟩
  · exact hflag (fun slot => { slot with resetAccepted := true })
      fun _ => ⟨rfl, rfl, rfl, rfl, rfl, id⟩

theorem works_retire (i : Nat) (answer : RetireAnswer) :
    Works c (c.retire i answer).2 := by
  unfold retire
  dsimp only
  split
  · exact .refl c
  rename_i hretire
  have hunary : Quiet c (c.modifySlot i ClientSlot.clearUnary) :=
    .modifySlot c i fun _ => ⟨rfl, rfl, rfl, rfl, rfl, id⟩
  have hrelease := hunary.trans (quiet_releaseStream _ i answer)
  have hroute := hrelease.trans (quiet_unroute _ i)
  split
  · exact hrelease.works
  split
  · exact (hroute.trans (Quiet.modifySlot _ i
      (f := fun slot => { slot with binding := !answer.destroyed })
      fun _ => ⟨rfl, rfl, rfl, rfl, rfl, id⟩)).works
  refine hroute.works.trans (.clear ?_)
  have hsoft := hroute.soft i
  rw [hsoft.accepted, hsoft.reported]
  cases hacc : (c.slots i).accepted with
  | false => exact .inl rfl
  | true =>
    cases hrep : (c.slots i).reported with
    | true => exact .inr rfl
    | false => exact absurd ⟨hacc, .inr hrep⟩ hretire

theorem quiet_sendOpen (i : Nat) (answer : ProgressAnswer) :
    Quiet c (c.sendOpen i answer).2 := by
  unfold sendOpen
  dsimp only
  split
  · exact .refl c
  split
  · exact .refl c
  have hsent : Quiet c (if (c.slots i).peerWindow <
      rpcRecordHeaderSize + (c.slots i).metadataSize then (Status.errBadLength, c)
      else c.sendRecord i answer.openSend).2 := by
    split
    · exact .refl c
    · exact quiet_sendRecord c i _
  split
  · exact hsent.trans (Quiet.modifySlot _ i
      (f := fun slot => { slot with openPending := false, writable := true })
      fun _ => ⟨rfl, rfl, rfl, rfl, rfl, id⟩)
  · exact hsent
  · exact hsent.trans (Quiet.modifySlot _ i (f := fun slot => (slot.bindingCall answer.openAbort).2)
      fun slot => slot.soft_bindingCall _)

theorem keeps_unaryTurn (i : Nat) (kind : RequestKind)
    (answer : UnaryAnswer) : Keeps c (c.unaryTurn i kind answer).2 := by
  unfold unaryTurn
  dsimp only
  have hrequest : Keeps c (c.requestWith (reenterAll answer.report) id
      ⟨i, (c.slots i).generation⟩
      { kind := kind, bodyLen := (c.slots i).unaryLen, automatic := true }
      answer.request).2 := by
    rcases requestWith_eq (reenterAll answer.report) id c
      ⟨i, (c.slots i).generation⟩ _ answer.request with heq | ⟨j, marked, hmarked, heq⟩
    · rw [heq]
      exact .refl c
    rw [heq]
    unfold finish
    dsimp only [id]
    rw [ite_self]
    exact (hmarked.keeps.trans (keeps_report marked j answer.report).1).entered
  generalize c.requestWith (reenterAll answer.report) id ⟨i, (c.slots i).generation⟩
    { kind := kind, bodyLen := (c.slots i).unaryLen, automatic := true }
    answer.request = sent at hrequest ⊢
  split
  · dsimp only
    split
    · exact hrequest.trans (Quiet.modifySlot _ i (soft_abort answer.abort)).keeps
    · exact hrequest
  · dsimp only
    refine hrequest.trans (Quiet.keeps (.modifySlot _ i fun slot => ?_))
    split
    · exact .refl slot
    · exact ⟨rfl, rfl, rfl, rfl, rfl, id⟩

theorem keeps_unarySend (i : Nat) (answer : ProgressAnswer) :
    Keeps c (c.unarySend i answer) := by
  unfold unarySend
  split
  · exact .refl c
  rename_i kind _
  have hfirst := keeps_unaryTurn c i kind answer.unary
  dsimp only
  split
  · split
    · exact hfirst
    · exact hfirst.trans (keeps_unaryTurn _ i _ answer.unaryNext)
  · exact hfirst

end

/-- A slot that is not terminal has not been reported, so a callback that is made
only then is made for a live call. -/
theorem ClientSlot.Fine.not_reported {slot : ClientSlot} (h : slot.Fine)
    (hterm : slot.terminal = false) : slot.reported = false := by
  cases hrep : slot.reported with
  | false => rfl
  | true => rw [h.terminal hrep] at hterm; cases hterm

theorem keeps_tellWritable {i : Nat} (hfine : (c.slots i).Fine) (hacc : (c.slots i).accepted = true)
    (answer : ProgressAnswer) : Keeps c (c.tellWritable i answer) := by
  unfold tellWritable
  dsimp only
  split
  next hready =>
    have hclear : Quiet c (c.modifySlot i fun slot =>
        { slot with writable := false, sendPoolWaiting := false }) :=
      .modifySlot c i fun _ => ⟨rfl, rfl, rfl, rfl, rfl, id⟩
    have hsoft := hclear.soft i
    have htell := @nested_tell _ i .writable (hsoft.accepted.trans hacc)
      (hsoft.reported.trans (hfine.not_reported hready.1)) rfl answer.writable
    refine (hclear.nested.trans htell).keeps.trans (Quiet.keeps ?_)
    exact .modifySlot _ i fun slot => slot.soft_applyPending _
  · exact .refl c

/-- Every slot is between two entries. -/
def RecordClient.AllFine (c : RecordClient) : Prop := ∀ i, (c.slots i).Fine

theorem Works.allFine (h : Works c c') (hfine : c.AllFine) : c'.AllFine :=
  fun i => h.fine i (hfine i)

theorem works_progressLive {i : Nat} (hfine : c.AllFine) (hacc : (c.slots i).accepted = true)
    (answer : ProgressAnswer) : Works c (c.progressLive i answer).2 := by
  have hopen := (quiet_sendOpen c i answer).keeps
  have hunary := hopen.trans (keeps_unarySend _ i answer)
  have hwritable := hunary.trans (keeps_tellWritable (hunary.works.allFine hfine i)
    ((hunary.kept i).accepted.trans hacc) answer)
  have hreport := hwritable.trans (keeps_report _ i answer.report).1
  unfold progressLive
  dsimp only
  split
  · exact hopen.works
  split
  · exact hreport.works.trans (works_retire _ i answer.retire)
  · exact hreport.works

theorem works_progressSlot (hfine : c.AllFine) (i : Nat) (answer : ProgressAnswer) :
    Works c (c.progressSlot i answer).2 := by
  unfold progressSlot
  split
  · exact .refl c
  extract_lets pended timed ret checked
  have hpended : Quiet c pended := .modifySlot c i fun slot => slot.soft_applyPending _
  have hchecked : Quiet c checked := by
    unfold checked
    split
    · exact hpended.trans (.modifySlot _ i fun slot => slot.soft_checkTime _ _ _)
    · exact hpended
  split
  · have hreport := hchecked.keeps.trans (keeps_report checked i answer.report).1
    exact hreport.works.trans (works_retire _ i answer.retire)
  rename_i hlive
  split
  · exact hchecked.works
  refine hchecked.works.trans (works_progressLive (hchecked.works.allFine hfine) ?_ answer)
  simp only [not_or, Bool.not_eq_false] at hlive
  exact hlive.1

/-! ## Transport callbacks -/

theorem nested_received (i : Nat) (c : RecordClient) (turn : ReceivedTurn) :
    Nested c (c.received i turn) := by
  unfold received
  dsimp only
  split
  · exact .refl c
  rename_i hbound
  simp only [not_or, Bool.not_eq_false] at hbound
  generalize hnoted : (if turn.kind = .finalStatus then
    c.modifySlot i fun slot => { slot with peerFinal := true } else c) = noted
  have hfinal : Quiet c noted := by
    subst hnoted
    split
    · exact .modifySlot c i fun _ => ⟨rfl, rfl, rfl, rfl, rfl, id⟩
    · exact .refl c
  split
  · exact hfinal.nested
  rename_i hsilent
  simp only [not_or, Bool.not_eq_true] at hsilent
  have hsoft := hfinal.soft i
  have hpend : ∀ b : RecordClient, Quiet b
      (b.modifySlot i fun slot => slot.applyPending turn.pending) :=
    fun b => .modifySlot b i fun slot => slot.soft_applyPending _
  split
  · exact (hfinal.trans (hpend _)).nested
  rename_i note hnote
  have hplain : note.isTerminal = false := by
    unfold receivedNote at hnote
    split at hnote
    · split at hnote
      · cases hnote; rfl
      · split at hnote
        · cases hnote; rfl
        · cases hnote
    · cases hnote; rfl
  have htell := nested_tell (hsoft.accepted.trans hbound.2)
    (hsoft.reported.trans hsilent.1) hplain turn.script
  exact (hfinal.nested.trans htell).trans (hpend _).nested

theorem nested_receive (c : RecordClient) (i : Nat) (answer : DataAnswer) :
    Nested c (c.receive i answer) := by
  have hall : ∀ (turns : List ReceivedTurn) (b : RecordClient),
      Nested b (turns.foldl (received i) b) := by
    intro turns
    induction turns with
    | nil => exact .refl
    | cons turn rest ih => exact fun b => (nested_received i b turn).trans (ih _)
  have hcount : ∀ (b : RecordClient) (f : Nat → Nat), Nested b (b.modifySlot i fun slot =>
      { slot with receiving := f slot.receiving }) :=
    fun b f => Quiet.nested (.modifySlot b i fun _ => ⟨rfl, rfl, rfl, rfl, rfl, id⟩)
  have hreceive : ∀ b : RecordClient, Nested b (b.modifySlot i fun slot =>
      (slot.bindingCall answer.receive).2) :=
    fun b => (Quiet.modifySlot b i fun slot => slot.soft_bindingCall _).nested
  have hpending : ∀ b : RecordClient, Nested b (b.modifySlot i fun slot =>
      slot.applyPending answer.receivePending) :=
    fun b => (Quiet.modifySlot b i fun slot => slot.soft_applyPending _).nested
  exact (hcount c (· + 1)).trans <| (hall answer.received _).trans <|
    (hreceive _).trans <| (hcount _ (· - 1)).trans (hpending _)

theorem works_dataBody (c : RecordClient) (stream : RecordStreamHandle) (answer : DataAnswer) :
    Works c (c.dataBody stream answer) := by
  unfold dataBody
  split
  · exact .refl c
  rename_i i _
  dsimp only
  split
  · exact .refl c
  split
  · exact (Quiet.modifySlot c i fun slot => slot.soft_noteData).works
  have hpended : Quiet c.enter
      (c.enter.modifySlot i fun slot => slot.applyPending answer.pending) :=
    .modifySlot _ i fun slot => slot.soft_applyPending _
  have hchecked := hpended.trans (.modifySlot _ i fun slot =>
    slot.soft_checkTime answer.clock answer.failed answer.expired)
  split
  · exact (hchecked.nested.trans (nested_receive _ i answer)).keeps.trans
      (keeps_report _ i answer.report).1 |>.works.entered
  · exact (hchecked.keeps.trans (keeps_report _ i answer.report).1).works.entered

section

variable (hfine : c.AllFine)

include hfine

theorem works_eventBody (stream : RecordStreamHandle) (event : EventKind)
    (flow : Option Nat) (answer : ProgressAnswer) :
    Works c (c.eventBody stream event flow answer) := by
  unfold eventBody
  split
  · exact .refl c
  rename_i i _
  have hnote : Quiet c (c.modifySlot i fun slot => slot.noteEvent event flow) :=
    .modifySlot c i fun slot => slot.soft_noteEvent event flow
  dsimp only
  split
  · exact hnote.works
  have hentered : (c.modifySlot i fun slot =>
      slot.noteEvent event flow).enter.AllFine := hnote.works.allFine hfine
  exact hnote.works.trans (works_progressSlot hentered i answer).entered

theorem works_transportBody (call : TransportCall) :
    Works c (c.transportBody call) := by
  cases call with
  | event stream event flow answer => exact works_eventBody hfine stream event flow answer
  | data stream answer => exact works_dataBody c stream answer

theorem works_publishProgress (inside : List TransportCall) :
    Works c (c.publishProgress inside) := by
  have hall : ∀ (calls : List TransportCall) (b : RecordClient), b.AllFine →
      Works b (calls.foldl transportBody b) := by
    intro calls
    induction calls with
    | nil => exact fun b _ => .refl b
    | cons call rest ih =>
      intro b hb
      have hcall := works_transportBody hb call
      exact hcall.trans (ih _ (hcall.allFine hb))
  unfold publishProgress
  dsimp only
  split
  · exact .refl c
  split
  · exact .refl c
  have hset : Works c { c with
      progressValid := true
      progressDrained := c.idle
      progressActive := true } := .around rfl rfl rfl rfl rfl rfl
  have hinside := hset.trans (hall inside _ (hset.allFine hfine))
  exact hinside.trans (.around rfl rfl rfl rfl rfl rfl)

theorem works_transport (call : TransportCall) (inside : List TransportCall) :
    Works c (c.transport call inside) := by
  have hbody := works_transportBody hfine call
  unfold transport
  split
  · exact hbody.trans (works_publishProgress (hbody.allFine hfine) inside)
  · exact hbody

/-! ## The entries -/

theorem works_pumpLoop (answer : Nat → ProgressAnswer) (turns : Nat) :
    Works c (c.pumpLoop answer turns).2 := by
  induction turns with
  | zero => exact .refl c
  | succ turns ih =>
    unfold pumpLoop
    dsimp only
    have hcursor : Works (c.pumpLoop answer turns).2 { (c.pumpLoop answer turns).2 with
        cursor := ((c.pumpLoop answer turns).2.cursor + 1) %
          (c.pumpLoop answer turns).2.capacity } := .around rfl rfl rfl rfl rfl rfl
    have hready := ih.trans hcursor
    exact hready.trans (works_progressSlot (hready.allFine hfine) _ _)

theorem works_pump (answer : PumpAnswer) : Works c (c.pump answer).2 := by
  unfold pump
  split
  · exact .refl c
  have hloop : Works c (c.enter.pumpLoop answer.slots (min c.progressLimit c.capacity)).2.leave :=
    (works_pumpLoop (c := c.enter) hfine answer.slots _).entered
  exact hloop.trans (works_publishProgress (hloop.allFine hfine) answer.progress)

theorem works_finish {marked : RecordClient} (hmarked : Quiet c.enter marked)
    (i : Nat) (script : List Reentry) (after : PumpAnswer) :
    Works c (marked.finish (reenterAll script) (fun c => (c.pump after).2) i) := by
  have hdone := (hmarked.keeps.trans (keeps_report marked i script).1).works.entered
  unfold finish
  dsimp only
  split
  · exact hdone.trans (works_pump (hdone.allFine hfine) after)
  · exact hdone

theorem works_request (handle : CallHandle) (args : RequestArgs)
    (answer : RequestAnswer) (script : List Reentry) (after : PumpAnswer) :
    Works c (c.request handle args answer script after) := by
  unfold request
  rcases requestWith_eq (reenterAll script) (fun c => (c.pump after).2) c
    handle args answer with heq | ⟨i, marked, hmarked, heq⟩
  · rw [heq]
    exact .refl c
  · rw [heq]
    exact works_finish hfine hmarked i script after

theorem works_cancel (handle : CallHandle) (answer : CancelAnswer)
    (script : List Reentry) (after : PumpAnswer) :
    Works c (c.cancel handle answer script after) := by
  unfold cancel
  rcases cancelWith_eq (reenterAll script) (fun c => (c.pump after).2) c
    handle answer with heq | ⟨i, marked, hmarked, heq⟩
  · rw [heq]
    exact .refl c
  · rw [heq]
    exact works_finish hfine hmarked i script after

end

end Trpc
