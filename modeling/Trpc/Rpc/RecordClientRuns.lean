import Trpc.Rpc.RecordClientCalls

/-!
# Runs of the client host

The entries that change who holds a slot: the start of a call, the end of the host
and its reaping.  With them every entry of the host is accounted for, and a run of
the host is a run of its book.

A reaped slot is emptied without a test of `reported`.  The terminal callback is
nevertheless not lost: nothing is on the stack there, so it is due for every
accepted call that has not had it.
-/

namespace Trpc

open CallBook Lib ClientSlot RecordClient List Function

/-! ## Close -/

theorem quiet_closeSlot (answer : CloseAnswer) (c : RecordClient) (i : Nat) :
    Quiet c (c.closeSlot answer i) := by
  unfold closeSlot
  dsimp only
  split
  · refine .setSlot ?_
    exact ((c.slots i).soft_applyPending _).trans (soft_abort (answer.abort i) _)
  · exact .refl c

theorem quiet_closeSlots (answer : CloseAnswer) (slots : List Nat) (c : RecordClient) :
    Quiet c (slots.foldl (RecordClient.closeSlot answer) c) := by
  induction slots generalizing c with
  | nil => exact .refl c
  | cons i rest ih => exact (quiet_closeSlot answer c i).trans (ih _)

/-- Work after which the host may be gone, but not with a call in a slot. -/
structure Ends (c c' : RecordClient) : Prop where
  works : Works c { c' with freed := c.freed }
  freed : c'.freed = true → c.freed = true ∨ ∀ i < c.capacity, (c'.slots i).active = false

variable {c c' : RecordClient}

theorem Works.ends (h : Works c c') : Ends c c' where
  works := by
    have hsame : { c' with freed := c.freed } = c' := by
      rw [← h.freed]
    rw [hsame]
    exact h
  freed hfreed := .inl (h.freed.symm.trans hfreed)

theorem works_detach (c : RecordClient) (handler unregister : Status) :
    Works c (c.detach handler unregister).2 ∧ (c.detach handler unregister).2.slots = c.slots := by
  unfold detach
  split
  · exact ⟨.refl c, rfl⟩
  dsimp only
  split
  · exact ⟨.around rfl rfl rfl rfl rfl rfl, rfl⟩
  · exact ⟨.around rfl rfl rfl rfl rfl rfl, rfl⟩

/-- A host without calls that lets go of the Channel and the timer may be freed. -/
theorem Works.free (h : Works c c') (handler unregister : Status)
    (hidle : ∀ i < c.capacity, (c'.slots i).active = false) (p : Prop) [Decidable p] :
    Ends c (if p then { (c'.detach handler unregister).2 with freed := true }
      else (c'.detach handler unregister).2) := by
  obtain ⟨hdetach, hslots⟩ := works_detach c' handler unregister
  have hworks := h.trans hdetach
  split
  · refine ⟨?_, fun _ => .inr fun i hi => ?_⟩
    · exact hworks.trans (.around rfl rfl rfl hworks.freed.symm rfl rfl)
    · show ((c'.detach handler unregister).2.slots i).active = false
      rw [hslots]
      exact hidle i hi
  · exact hworks.ends

theorem idle_eq_true (h : c.idle = true) : ∀ i < c.capacity, (c.slots i).active = false := by
  intro i hi
  have hall := all_eq_true.1 h i (mem_range.2 hi)
  simpa using hall

theorem ends_close (hfine : c.AllFine) (answer : CloseAnswer) : Ends c (c.close answer) := by
  unfold close
  split
  · exact (Works.refl c).ends
  have hstop : Works c { c with stopping := true } := .around rfl rfl rfl rfl rfl rfl
  have habort := hstop.trans
    (quiet_closeSlots answer (range c.capacity) { c with stopping := true }.enter
      |>.works.entered)
  have hpump := habort.trans (works_pump (habort.allFine hfine) answer.pump)
  dsimp only
  split
  · exact hpump.ends
  split
  · exact hpump.ends
  rename_i hidle
  simp only [Bool.not_eq_false] at hidle
  refine hpump.free answer.handler answer.unregister (fun i hi => ?_) _
  exact idle_eq_true hidle i (hi.trans_eq hpump.capacity.symm)

/-! ## Reap -/

/-- A reaped slot is empty, and its call has had its terminal callback. -/
theorem works_reapSlot (hfine : c.AllFine) (hcallback : c.callbackDepth = 0) (i : Nat)
    (answer : ReapSlotAnswer) : Works c (c.reapSlot i answer).2 ∧ ((c.reapSlot i answer).1 = .ok →
      ((c.reapSlot i answer).2.slots i).active = false) := by
  unfold reapSlot
  split
  next hidle =>
    exact ⟨.refl c, fun _ => hidle⟩
  extract_lets unrouted bound reaped unbound ended delivered reported
  have hreaped : Quiet c reaped :=
    (quiet_unroute c i).trans (.modifySlot _ i fun slot => slot.soft_bindingCall _)
  split
  next hfailed =>
    refine ⟨(hreaped.trans (Quiet.modifySlot _ i
      (f := fun slot => { slot with binding := !answer.destroyed })
      fun _ => ⟨rfl, rfl, rfl, rfl, rfl, id⟩)).works, fun hok => ?_⟩
    exact absurd hok hfailed.2
  · have hunbound : Quiet c unbound :=
      hreaped.trans (.modifySlot _ i fun _ => ⟨rfl, rfl, rfl, rfl, rfl, id⟩)
    have hended : Quiet c ended := by
      refine hunbound.trans (.modifySlot _ i fun slot => ?_)
      split
      · exact ⟨rfl, rfl, rfl, rfl, rfl, fun _ => rfl⟩
      · exact .refl slot
    have hterminal : (ended.slots i).accepted = true → (ended.slots i).terminal = true := by
      intro hacc
      unfold ended modifySlot at hacc ⊢
      rw [slots_setSlot] at hacc ⊢
      dsimp only at hacc ⊢
      split
      · rfl
      rename_i hnot
      rw [if_neg hnot] at hacc
      simpa [hacc] using hnot
    have hdeliver : Quiet ended delivered := by
      refine .modifySlot _ i fun slot => ?_
      split
      · exact .refl slot
      · exact ⟨rfl, rfl, rfl, rfl, rfl, id⟩
    have hdelivered := hended.trans hdeliver
    obtain ⟨hreport, hdue⟩ := keeps_report delivered i answer.script
    have hworks := hdelivered.works.trans hreport.works
    have hclear : (reported.slots i).accepted = false ∨ (reported.slots i).reported = true := by
      rcases hdue with hheld | hrep
      · rcases hheld with hacc | hterm | hrep | hdepth | hsending
        · exact .inl ((hreport.kept i).accepted.trans hacc)
        · cases hacc : (delivered.slots i).accepted with
          | false => exact .inl ((hreport.kept i).accepted.trans hacc)
          | true =>
            have hacc' := (hdeliver.soft i).accepted.symm.trans hacc
            rw [(hdeliver.soft i).terminal (hterminal hacc')] at hterm
            cases hterm
        · exact .inr ((hreport.kept i).reported hrep)
        · exact absurd (hdelivered.works.callbackDepth.trans hcallback) hdepth
        · exact absurd (hdelivered.works.fine i (hfine i)).sending hsending
      · exact .inr hrep
    refine ⟨hworks.trans (.clear hclear), fun _ => ?_⟩
    show ((reported.setSlot i {}).slots i).active = false
    rw [slots_setSlot]

theorem works_reapSlots (answer : Nat → ReapSlotAnswer) (slots : List Nat) (hfine : c.AllFine)
    (hcallback : c.callbackDepth = 0) :
    Works c (c.reapSlots answer slots).2 ∧ ((c.reapSlots answer slots).1 = .ok →
      ∀ i ∈ slots, ((c.reapSlots answer slots).2.slots i).active = false) := by
  induction slots generalizing c with
  | nil => exact ⟨.refl c, fun _ i hi => absurd hi not_mem_nil⟩
  | cons i rest ih =>
    obtain ⟨hone, hidle⟩ := works_reapSlot hfine hcallback i (answer i)
    unfold reapSlots
    dsimp only
    split
    next hok =>
      obtain ⟨hrest, hall⟩ := ih (hone.allFine hfine) (hone.callbackDepth.trans hcallback)
      refine ⟨hone.trans hrest, fun hret j hj => ?_⟩
      rcases mem_cons.1 hj with rfl | hj
      · exact hrest.idle j (hidle hok)
      · exact hall hret j hj
    next hfailed =>
      exact ⟨hone, fun hok => absurd hok hfailed⟩

theorem ends_reap (hfine : c.AllFine) (answer : ReapAnswer) : Ends c (c.reap answer) := by
  unfold reap
  split
  · exact (Works.refl c).ends
  rename_i hquiet
  simp only [not_or, ne_eq, not_not] at hquiet
  have hmark : Works c { c with cleanup := true, stopping := true, progress := false } :=
    .around rfl rfl rfl rfl rfl rfl
  dsimp only
  split
  · exact hmark.ends
  obtain ⟨hslots, hidle⟩ := works_reapSlots answer.slots (range c.capacity)
    (c := { c with cleanup := true, stopping := true, progress := false }.enter)
    hfine hquiet.2.2
  have hreaped := hmark.trans hslots.entered
  split
  · exact hreaped.ends
  rename_i hok
  simp only [not_or, ne_eq, not_not] at hok
  exact hreaped.free answer.handler answer.unregister
    (fun i hi => hidle hok.1 i (mem_range.2 hi)) _

/-! ## The start of a call -/

/-- What a start does besides its own slot: it takes a generation, and says whether
the call was admitted. -/
structure Starts (c c' : RecordClient) : Prop where
  book : Reach c.capacity c.book c'.book
  capacity : c'.capacity = c.capacity
  freed : c'.freed = c.freed
  fine : c.AllFine → c'.AllFine
  starts : c'.starts = c.starts ∨ ∃ g ret, c'.starts = c.starts ++ [(g, ret)] ∧
    g ≤ c'.generation ∧ (ret = .ok → g ∈ c'.admitted) ∧
    (ret ≠ .ok → c.generation < g ∧ (g ∈ c'.admitted → g ∈ c.admitted))

theorem startCheck_eq_ok {args : StartArgs} {answer : StartAnswer} {method : RpcMethodDesc}
    {metadataSize now i : Nat} (h : c.startCheck args answer = .ok (method, metadataSize, now, i)) :
    c.generation ≠ uint64Max ∧ i < c.capacity ∧ (c.slots i).active = false := by
  unfold startCheck at h
  rw [check_eq_ok, check_eq_ok, check_eq_ok, check_eq_ok, check_eq_ok] at h
  obtain ⟨_, _, _, hstate, _, h⟩ := h
  split at h
  · cases h
  rw [check_eq_ok, check_eq_ok, check_eq_ok] at h
  obtain ⟨_, _, _, h⟩ := h
  iterate 3
    split at h
    · cases h
  rename_i found hfound
  rw [check_eq_ok] at h
  obtain ⟨_, h⟩ := h
  cases h
  simp only [not_or, ne_eq] at hstate
  refine ⟨hstate.2.2.2.2.2, mem_range.1 (mem_of_find?_eq_some hfound), ?_⟩
  simpa using find?_some hfound

/-- The state in which a call asks for its stream. -/
def RecordClient.begun (c : RecordClient) (i : Nat) (slot : ClientSlot) : RecordClient :=
  { c with generation := c.generation + 1 }.setSlot i slot

section Start

variable {c : RecordClient} {i : Nat} {slot : ClientSlot}

/-- Before the binding exists the call counts as refused. -/
theorem reach_begun (hgen : c.generation < uint64Max) (hcap : i < c.capacity)
    (hempty : (c.slots i).entry = none)
    (hentry : slot.entry = some (c.generation + 1, .dropped)) :
    Reach c.capacity c.book (c.begun i slot).book := by
  have hbook : (c.begun i slot).book = c.book.refuse i := by
    have hset := book_setSlot { c with generation := c.generation + 1 } i slot
    rw [hentry] at hset
    exact hset
  rw [hbook]
  exact .single (.refuse _ i hcap hempty hgen)

theorem allFine_begun (hfine : c.AllFine) (hslot : slot.Fine) : (c.begun i slot).AllFine :=
  (forall_update_iff c.slots fun _ new => new.Fine).2 ⟨hslot, fun j _ => hfine j⟩

/-- A start that fails after it took a generation. -/
theorem Starts.refused (hgen : c.generation < uint64Max) (hcap : i < c.capacity)
    (hempty : (c.slots i).entry = none) (hentry : slot.entry = some (c.generation + 1, .dropped))
    (hslot : slot.Fine) (hworks : Works (c.begun i slot) c') {ret : Status} (hret : ret ≠ .ok) :
    Starts c { c' with starts := c'.starts ++ [(c.generation + 1, ret)] } where
  book := (reach_begun hgen hcap hempty hentry).trans hworks.book
  capacity := hworks.capacity
  freed := hworks.freed
  fine hfine := hworks.allFine (allFine_begun hfine hslot)
  starts := .inr ⟨c.generation + 1, ret, congrArg (· ++ _) hworks.starts,
    (Reach.admitted hworks.book).1, fun hok => absurd hok hret,
    fun _ => ⟨Nat.lt_succ_self _, (Reach.admitted hworks.book).2.2 _ (le_refl _)⟩⟩

/-- The state in which the application holds the call: the slot is accepted, and the
counters and the list of calls know it. -/
def RecordClient.taken (c : RecordClient) (i : Nat) (args : StartArgs) (g : Nat) : RecordClient :=
  { c.modifySlot i fun slot => { slot with
      binding := true
      publicMode := args.publicMode
      hasWritable := args.hasWritable
      hasMetadata := args.hasMetadata
      accepted := true } with
    counters := rpcRecordSemanticStart c.counters
    admitted := c.admitted ++ [g] }

theorem book_taken {opened : RecordClient} {args : StartArgs} (hreported : slot.reported = false)
    (hgeneration : slot.generation = c.generation + 1)
    (hopened : Quiet (c.begun i slot).enter opened) :
    (opened.taken i args (c.generation + 1)).book = c.book.admitCall i := by
  have hsoft := hopened.soft
  obtain ⟨slots, routes, rfl, _⟩ := hopened
  have hself : Soft slot (slots i) := by
    have hi := hsoft i
    rwa [show (c.begun i slot).enter.slots i = slot from update_self ..] at hi
  have hentry : ClientSlot.entry { slots i with
      binding := true
      publicMode := args.publicMode
      hasWritable := args.hasWritable
      hasMetadata := args.hasMetadata
      accepted := true } = some (c.generation + 1, .live) := by
    unfold ClientSlot.entry
    dsimp only
    rw [hself.reported, hreported, hself.generation, hgeneration]
    rfl
  unfold taken book CallBook.admitCall modifySlot setSlot
  congr 1
  funext j
  have hother := (hsoft j).entry
  dsimp only [begun, enter, setSlot] at hother ⊢
  rw [update_apply] at hother ⊢
  rw [update_apply]
  grind

end Start

theorem allFine_taken {c : RecordClient} {i : Nat} {args : StartArgs} {g : Nat}
    (hfine : c.AllFine) (hactive : (c.slots i).active = true) :
    (c.taken i args g).AllFine :=
  (forall_update_iff c.slots fun _ new => new.Fine).2
    ⟨⟨fun _ => hactive, (hfine i).terminal, (hfine i).sending⟩, fun j _ => hfine j⟩

/-- A start that the application gets a call from.  The pump that follows may
already end the call. -/
theorem Starts.taken {opened : RecordClient} {i : Nat} {slot : ClientSlot} {args : StartArgs}
    (hfine : c.AllFine) (hgen : c.generation < uint64Max) (hcap : i < c.capacity)
    (hempty : (c.slots i).entry = none) (hslot : slot.Fine) (hactive : slot.active = true)
    (hreported : slot.reported = false) (hgeneration : slot.generation = c.generation + 1)
    (hopened : Quiet (c.begun i slot).enter opened) (after : PumpAnswer) :
    Starts c { ((opened.taken i args (c.generation + 1)).leave.pump after).2 with
      starts := ((opened.taken i args (c.generation + 1)).leave.pump after).2.starts ++
        [(c.generation + 1, .ok)] } := by
  have hbook := @book_taken c i slot opened args hreported hgeneration hopened
  have hself := hopened.soft i
  rw [show (c.begun i slot).enter.slots i = slot from update_self ..] at hself
  generalize htaken : opened.taken i args (c.generation + 1) = taken at hbook ⊢
  have hfine' : taken.leave.AllFine := by
    subst htaken
    exact @allFine_taken opened i args (c.generation + 1)
      (hopened.works.allFine (allFine_begun hfine hslot)) (hself.active.trans hactive)
  have hpump := works_pump hfine' after
  have hcapacity : taken.leave.capacity = c.capacity := by
    subst htaken
    exact hopened.works.capacity
  have hstart : Reach c.capacity c.book taken.leave.book := by
    show Reach c.capacity c.book taken.book
    rw [hbook]
    exact .single (.admitCall _ i hcap hempty hgen)
  have hpumped := hpump.book
  rw [hcapacity] at hpumped
  obtain ⟨hgrow, hkeep, _⟩ := Reach.admitted hpumped
  have hadmitted : c.generation + 1 ∈ taken.leave.book.admitted := by
    show _ ∈ taken.book.admitted
    rw [hbook]
    exact mem_append_right _ (mem_singleton_self _)
  have hissued : c.generation + 1 ≤ taken.leave.book.generation := by
    show _ ≤ taken.book.generation
    rw [hbook]
    exact le_refl _
  have hrest : taken.leave.freed = c.freed ∧ taken.leave.starts = c.starts := by
    subst htaken
    exact ⟨hopened.works.freed, hopened.works.starts⟩
  exact ⟨hstart.trans hpumped, hpump.capacity.trans hcapacity, hpump.freed.trans hrest.1,
    fun _ => hpump.allFine hfine', .inr ⟨c.generation + 1, .ok,
      congrArg (· ++ _) (hpump.starts.trans hrest.2), hissued.trans hgrow,
      fun _ => hkeep _ hadmitted, fun hne => absurd rfl hne⟩⟩

theorem starts_callStart (hfine : c.AllFine) (hmax : c.generation ≤ uint64Max) (args : StartArgs)
    (answer : StartAnswer) : Starts c (c.callStart args answer) := by
  unfold callStart
  split
  · exact ⟨.refl, rfl, rfl, id, .inl rfl⟩
  rename_i method metadataSize now i hcheck
  obtain ⟨hgen, hcap, hinactive⟩ := startCheck_eq_ok hcheck
  have hbelow : c.generation < uint64Max := lt_of_le_of_ne hmax hgen
  have hempty : (c.slots i).entry = none := by
    cases hacc : (c.slots i).accepted with
    | true =>
      rw [(hfine i).active hacc] at hinactive
      cases hinactive
    | false =>
      unfold ClientSlot.entry
      rw [hacc, hinactive]
      rfl
  generalize hslot : c.startSlot args method metadataSize now = slot
  have hentry : slot.entry = some (c.generation + 1, .dropped) := by
    subst hslot
    rfl
  have hsfine : slot.Fine := by
    subst hslot
    exact ⟨fun h => (nomatch h), fun h => (nomatch h), rfl⟩
  have hnotes : Quiet (c.begun i slot).enter
      ((c.begun i slot).enter.takeNotes answer.inside) := quiet_takeNotes _ _
  dsimp only
  split
  next hopen =>
    have hself := hnotes.soft i
    rw [show (c.begun i slot).enter.slots i = slot from update_self ..] at hself
    have haccepted : slot.accepted = false := by
      subst hslot
      rfl
    have hclear : Works (c.begun i slot)
        (((c.begun i slot).enter.takeNotes answer.inside).setSlot i {}).leave :=
      (hnotes.works.trans (.clear (.inl (hself.accepted.trans haccepted)))).entered
    exact .refused hbelow hcap hempty hentry hsfine hclear hopen
  · generalize hstream : (((c.begun i slot).enter.takeNotes answer.inside).modifySlot i
      fun slot => { slot with stream := answer.stream, routed := true }) = routed
    have hrouted : Quiet (c.begun i slot).enter
        { routed with routes := update routed.routes answer.stream.slot (i + 1) } := by
      have hslots : Quiet (c.begun i slot).enter routed := by
        subst hstream
        exact hnotes.trans (.modifySlot _ i fun _ => ⟨rfl, rfl, rfl, rfl, rfl, id⟩)
      exact hslots.trans ⟨routed.slots, _, rfl, fun _ => .refl _⟩
    unfold begun at hstream
    rw [hstream]
    split
    next hcreate =>
      have hretire := (hrouted.works.trans (works_retire _ i answer.retire)).entered
      exact .refused hbelow hcap hempty hentry hsfine hretire hcreate
    generalize hopened : ({ routed with
      routes := update routed.routes answer.stream.slot (i + 1) } :
        RecordClient) = opened at hrouted ⊢
    exact .taken hfine hbelow hcap hempty hsfine (by subst hslot; rfl)
      (by subst hslot; rfl) (by subst hslot; rfl) hrouted answer.pump

/-! ## The invariant -/

/-- A client host between two entries. -/
structure ClientOk (c : RecordClient) : Prop where
  book : CallBook.Ok c.capacity c.book
  fine : c.AllFine
  started : ∀ g, (g, Status.ok) ∈ c.starts → g ∈ c.admitted
  failed : ∀ g ret, (g, ret) ∈ c.starts → ret ≠ .ok → g ≤ c.generation ∧ g ∉ c.admitted
  freed : c.freed = true → ∀ i < c.capacity, (c.slots i).active = false

theorem ClientOk.ends (hok : ClientOk c) (h : Ends c c') : ClientOk c' := by
  have hreach := h.works.book
  obtain ⟨hgen, hkeep, hnew⟩ := Reach.admitted hreach
  have hcapacity : c'.capacity = c.capacity := h.works.capacity
  have hstarts : c'.starts = c.starts := h.works.starts
  refine ⟨?_, h.works.allFine hok.fine, fun g hg => ?_, fun g ret hg hret => ?_, fun hfreed => ?_⟩
  · rw [hcapacity]
    exact hok.book.reach hreach
  · rw [hstarts] at hg
    exact hkeep g (hok.started g hg)
  · rw [hstarts] at hg
    obtain ⟨hle, hnot⟩ := hok.failed g ret hg hret
    exact ⟨hle.trans hgen, fun hmem => hnot (hnew g hle hmem)⟩
  · rw [hcapacity]
    rcases h.freed hfreed with hold | hidle
    · exact fun i hi => h.works.idle i (hok.freed hold i hi)
    · exact hidle

theorem ClientOk.starts (hok : ClientOk c) (hlive : c.freed = false) (h : Starts c c') :
    ClientOk c' := by
  obtain ⟨hgen, hkeep, hnew⟩ := Reach.admitted h.book
  have hfreed : c'.freed = true → ∀ i < c'.capacity, (c'.slots i).active = false := by
    intro hfreed
    rw [h.freed, hlive] at hfreed
    cases hfreed
  have hbook : CallBook.Ok c'.capacity c'.book := by
    rw [h.capacity]
    exact hok.book.reach h.book
  have hfailed : ∀ g ret, (g, ret) ∈ c.starts → ret ≠ .ok →
      g ≤ c'.generation ∧ g ∉ c'.admitted := by
    intro g ret hg hret
    obtain ⟨hle, hnot⟩ := hok.failed g ret hg hret
    exact ⟨hle.trans hgen, fun hmem => hnot (hnew g hle hmem)⟩
  refine ⟨hbook, h.fine hok.fine, fun g hg => ?_, fun g ret hg hret => ?_, hfreed⟩
  · rcases h.starts with hsame | ⟨g', ret', happ, _, hstarted, _⟩
    · rw [hsame] at hg
      exact hkeep g (hok.started g hg)
    · rw [happ] at hg
      rcases mem_append.1 hg with hg | hg
      · exact hkeep g (hok.started g hg)
      · cases mem_singleton.1 hg
        exact hstarted rfl
  · rcases h.starts with hsame | ⟨g', ret', happ, hle, _, hrefused⟩
    · rw [hsame] at hg
      exact hfailed g ret hg hret
    · rw [happ] at hg
      rcases mem_append.1 hg with hg | hg
      · exact hfailed g ret hg hret
      cases mem_singleton.1 hg
      obtain ⟨hlarge, hmem⟩ := hrefused hret
      refine ⟨hle, fun hin => ?_⟩
      have hissued : g ≤ c.generation := hok.book.admittedIssued g (hmem hin)
      omega

theorem ClientOk.create (methods : List RpcMethodDesc)
    (capacity progressLimit routeCapacity : Nat) :
    ClientOk (.create methods capacity progressLimit routeCapacity) where
  book := {
    bounded := fun _ h => absurd rfl h
    generation := Nat.zero_le _
    issued := fun _ _ _ h => nomatch h
    distinct := fun _ _ _ _ _ h => nomatch h
    admittedIssued := fun _ h => absurd h not_mem_nil
    live := fun _ _ h => nomatch h
    settled := fun _ h => absurd h not_mem_nil
    silent := fun _ _ => rfl
    counters := {
      started := Nat.zero_le _
      balance := by
        show 0 + _ = 0
        rw [Nat.zero_add, liveCount, Finset.card_eq_zero, Finset.filter_eq_empty_iff]
        exact fun _ _ h => nomatch h
      statuses := fun _ => le_refl _
      overflow := rfl }
    snapshots := fun _ h => absurd h not_mem_nil }
  fine _ := ⟨fun h => (nomatch h), fun h => (nomatch h), rfl⟩
  started _ h := absurd h not_mem_nil
  failed _ _ h := absurd h not_mem_nil
  freed h := nomatch h

theorem ClientOk.step {action : ClientAction} (hok : ClientOk c)
    (hstep : clientStep c action = some c') : ClientOk c' := by
  unfold clientStep at hstep
  split at hstep
  · cases hstep
  rename_i hlive
  rw [Bool.not_eq_true] at hlive
  cases hstep
  cases action with
  | start clock register arm handler =>
    refine hok.ends (Works.ends ?_)
    dsimp only
    unfold start
    split
    · exact .refl c
    dsimp only
    split
    · exact .around rfl rfl rfl rfl rfl rfl
    split
    · exact .around rfl rfl rfl rfl rfl rfl
    · exact .around rfl rfl rfl rfl rfl rfl
  | setSendPool =>
    refine hok.ends (Works.ends ?_)
    dsimp only
    unfold setSendPool
    split
    · exact .refl c
    · exact .around rfl rfl rfl rfl rfl rfl
  | setProgressNotify notify inside =>
    refine hok.ends (Works.ends ?_)
    dsimp only
    unfold setProgressNotify
    split
    · exact .refl c
    have hset : Works c { c with progress := notify, progressValid := false } :=
      .around rfl rfl rfl rfl rfl rfl
    exact hset.trans (works_publishProgress (hset.allFine hok.fine) inside)
  | beginDrain inside =>
    refine hok.ends (Works.ends ?_)
    dsimp only
    unfold beginDrainWith
    split
    · have hset : Works c { c with draining := true } :=
        .around rfl rfl rfl rfl rfl rfl
      exact hset.trans (works_publishProgress (hset.allFine hok.fine) inside)
    · exact .refl c
  | markTlsFailed => exact hok.ends (Works.ends (.around rfl rfl rfl rfl rfl rfl))
  | stats => exact hok.ends (nested_stats c).works.ends
  | callStart args answer =>
    exact hok.starts hlive (starts_callStart hok.fine hok.book.generation args answer)
  | request handle args answer script after =>
    exact hok.ends (works_request hok.fine handle args answer script after).ends
  | cancel handle answer script after =>
    exact hok.ends (works_cancel hok.fine handle answer script after).ends
  | pump answer => exact hok.ends (works_pump hok.fine answer).ends
  | transport call inside => exact hok.ends (works_transport hok.fine call inside).ends
  | close answer => exact hok.ends (ends_close hok.fine answer)
  | reap answer => exact hok.ends (ends_reap hok.fine answer)

theorem ClientOk.run {actions : List ClientAction} (hok : ClientOk c)
    (hrun : runSteps clientStep c actions = some c') : ClientOk c' :=
  runSteps_invariant (fun _ _ _ hok hstep => hok.step hstep) hok hrun

/-! ## Every call ends once -/

/-- In every run of a client host, whatever the layers below answer and whatever the
application does in its callbacks: a call whose start returned `TR_OK` has had its
terminal callback, once and as its last one, or the host exists and a slot still
holds the call, unreported and without a terminal callback; a call whose start
failed has had no callback; and the counters differ by the number of accepted calls
that were not yet reported, also when the application reads them in a callback. -/
theorem client_calls_end_once {methods : List RpcMethodDesc}
    {capacity progressLimit routeCapacity : Nat} {actions : List ClientAction}
    {c : RecordClient}
    (hrun : runSteps clientStep (.create methods capacity progressLimit routeCapacity)
      actions = some c) :
    (∀ g, (g, Status.ok) ∈ c.starts → Ended (notesOf c.notes g) ∨ (c.freed = false ∧
        (∃ i < c.capacity, (c.slots i).active = true ∧ (c.slots i).generation = g ∧
          (c.slots i).accepted = true ∧ (c.slots i).reported = false) ∧
        ∀ note ∈ notesOf c.notes g, note.isTerminal = false)) ∧
    (∀ g ret, (g, ret) ∈ c.starts → ret ≠ .ok → notesOf c.notes g = []) ∧
    (c.counters.callsFinished + c.unreported = c.counters.callsStarted ∧
      c.counters.overflow = false) ∧
    ∀ shot ∈ c.snapshots, shot.1 = .ok shot.2 := by
  have hok := (ClientOk.create methods capacity progressLimit routeCapacity).run hrun
  refine ⟨fun g hg => ?_, fun g ret hg hret => ?_, ⟨?_, hok.book.counters.overflow⟩,
    hok.book.snapshots⟩
  · rcases hok.book.settled g (hok.started g hg) with ⟨i, hlive⟩ | hended
    · have hcap : i < c.capacity :=
        hok.book.bounded i (by rw [hlive]; exact Option.some_ne_none _)
      have hflags := live_book c i
      rw [live_eq_true.2 ⟨g, hlive⟩] at hflags
      obtain ⟨hacc, hrep⟩ := Bool.and_eq_true_iff.1 hflags.symm
      have hrep' : (c.slots i).reported = false := by simpa using hrep
      have hentry : (c.slots i).entry = some (g, .live) := hlive
      rw [entry_live hacc hrep'] at hentry
      have hactive := (hok.fine i).active hacc
      refine .inr ⟨?_, ⟨i, hcap, hactive, ?_, hacc, hrep'⟩, (hok.book.live i g hlive).2⟩
      · cases hfreed : c.freed with
        | false => rfl
        | true =>
          rw [hok.freed hfreed i hcap] at hactive
          cases hactive
      · cases hentry
        rfl
    · exact .inl hended
  · exact hok.book.silent g (hok.failed g ret hg hret).2
  · rw [unreported_eq]
    exact hok.book.counters.balance

/-- A method of one request and one response. -/
def plainMethod : RpcMethodDesc where
  serviceId := 1
  methodId := 1
  requestCardinality := .one
  responseCardinality := .one
  requestCodecId := 1
  responseCodecId := 1
  lane := 0
  maxRequestBytes := 100
  maxResponseBytes := 100

/-- A host with one slot.  The first call is cancelled by the application in its
writable callback, after it has read the counters; the start of the second one
fails at the binding; the third is alive when the owner stops, and is reaped. -/
def cancelledAndReaped : List ClientAction :=
  [.start .ok .ok .ok .ok, .callStart { serviceId := 1, methodId := 1, hasWritable := true }
     { clock := some 5, stream := ⟨0, 1⟩ },
   .transport (.event ⟨0, 1⟩ .opened (some 1000) {
     clock := some 6
     writable := [.stats, .cancel ⟨0, 1⟩ { abort := { terminal := some (1, .onOwner) } }]
     report := [.stats] }) [],
   .callStart { serviceId := 1, methodId := 1 }
     { clock := some 7, stream := ⟨0, 2⟩, create := .errNomem },
   .callStart { serviceId := 1, methodId := 1 } { clock := some 8, stream := ⟨0, 3⟩ },
   .reap {}]

/-- After it the three calls have ended, been refused and ended, and the host is
gone. -/
theorem client_calls_end_once_reaped :
    ∃ c, runSteps clientStep (.create [plainMethod] 1 1 1) cancelledAndReaped = some c ∧
      c.freed = true ∧ Ended (notesOf c.notes 1) ∧ notesOf c.notes 2 = [] ∧
      Ended (notesOf c.notes 3) ∧ c.unreported = 0 := by
  refine exists_of_map (f := fun c => (c.starts, c.freed, c.unreported))
    (y := ([(1, .ok), (2, .errNomem), (3, .ok)], true, 0)) (by decide) fun c hrun hc => ?_
  simp only [Prod.mk.injEq] at hc
  obtain ⟨hstarts, hfreed, hcount⟩ := hc
  obtain ⟨hended, hsilent, _, _⟩ := client_calls_end_once hrun
  have hgone : ∀ g, (g, Status.ok) ∈ c.starts → Ended (notesOf c.notes g) := by
    intro g hg
    rcases hended g hg with h | ⟨hlive, _⟩
    · exact h
    · rw [hfreed] at hlive
      cases hlive
  exact ⟨hfreed, hgone 1 (by simp [hstarts]), hsilent 2 .errNomem (by simp [hstarts]) (by decide),
    hgone 3 (by simp [hstarts]), hcount⟩

end Trpc
