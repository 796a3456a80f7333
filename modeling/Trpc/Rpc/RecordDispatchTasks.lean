import Trpc.Rpc.RecordDispatchOwner

/-!
# What the other threads do to a call

The worker runs a handler, the executor gives the task back, and the threads of
the application use the producer.  Each of these keeps `DispatchCall.Ok`.
-/

namespace Trpc

open List Option Bool

namespace DispatchCall

variable {c c' : DispatchCall} {job : DispatchJob} {p : Producer}

/-! ## The worker -/

section

variable (h : c.Past)

include h

theorem Past.results_below (hsubmitted : c.submitted = some job)
    (hidle : job.worked = none) : ∀ res ∈ c.results, res.id < job.id := by
  intro res hres
  have horder := (pairwise_append.1 h.order).2.2 res.id (mem_map_of_mem hres) job.id
  exact horder (by simp [upcoming, hsubmitted, hidle])

/-- Only an asynchronous call has a producer. -/
theorem Past.no_producer (hcall : c.asynchronous = false) : c.producer = none :=
  eq_none_iff_forall_ne_some.2 fun p hp =>
    false_ne_true (hcall.symm.trans (h.quiet p hp).2)

/-- Before a producer is exported nothing is published. -/
theorem Past.unpublished (hsubmitted : c.submitted = some job)
    (hcall : c.asynchronous = false) (hstaged : job.staged = none) :
    c.published = [] ∧ c.building = none :=
  h.unproduced hcall fun _ hj => some.inj (hsubmitted.symm.trans hj) ▸ hstaged

theorem Past.unexported (hsubmitted : c.submitted = some job)
    (hasync : job.reply.asynchronous = false) :
    c.asynchronous = false ∧ c.producer = none ∧ job.staged = none ∧ c.published = [] ∧
      c.building = none := by
  have htask := h.task job hsubmitted
  have hcall : c.asynchronous = false := by
    by_contra hcall
    have hsnapshot := (htask.snapshot (not_eq_false _ ▸ hcall)).1
    cases hasync.symm.trans hsnapshot
  have hstaged : job.staged = none := by
    by_contra hstaged
    have hexported := (htask.staged (isSome_iff_ne_none.2 hstaged)).1
    cases hasync.symm.trans hexported
  exact ⟨hcall, h.no_producer hcall, hstaged, h.unpublished hsubmitted hcall hstaged⟩

/-- The handler of a task runs, with the given result. -/
theorem Past.worked (hsubmitted : c.submitted = some job)
    (hidle : job.worked = none) {calls : List (ReplyCall × Status)} {ret : Status}
    {reply : RecordReply} {staged : Option Producer}
    (hran : ret = .ok → reply.Returned) (hlate : ret ≠ .ok → reply.Blank)
    (hlatched : ∀ k ret, (k, ret) ∈ calls → k.latches = true → ret ≠ .ok → reply.failed = true)
    (hgiven : reply.Given calls)
    (hasync : job.reply.asynchronous = true → reply.asynchronous = true)
    (hstaged : staged.isSome = true → reply.asynchronous = true ∧ job.reply.asynchronous = false)
    (hquiet : ∀ p, staged = some p → p.inSend = false) :
    Past { c with
      submitted := some { job with worked := some ret, reply := reply, staged := staged }
      results := c.results ++ [⟨job.id, calls, reply⟩] } := by
  have htask := h.task job hsubmitted
  have hbelow := h.results_below hsubmitted hidle
  have hnone : staged.isSome = true → c.asynchronous = false ∧ c.producer = none ∧
      job.staged = none ∧ c.published = [] ∧ c.building = none := fun hs =>
    h.unexported hsubmitted (hstaged hs).2
  -- the result of this job is the last one, and no earlier one has its number
  have hresult : ∀ res ∈ c.results ++ [⟨job.id, calls, reply⟩], res.id = job.id →
      res.reply = reply := by
    intro res hres hid
    rcases Lib.mem_concat.1 hres with hres | rfl
    · exact absurd hid (hbelow res hres).ne
    · rfl
  exact { h with
    order := by simpa [upcoming, hsubmitted, hidle] using h.order
    below := fun id hid => h.below id (by
      simpa [upcoming, hsubmitted, hidle] using hid)
    task := fun j hj => by
      cases hj
      exact {
        idle := fun hnone => absurd hnone (by simp)
        ran := fun hworked => hran (some.inj hworked)
        snapshot := fun hcall => by
          have hjob := (htask.snapshot hcall).1
          refine ⟨hasync hjob, ?_⟩
          by_contra hs
          have hcopy := (hstaged (isSome_iff_ne_none.2 hs)).2
          cases hcopy.symm.trans hjob
        staged := fun hs => ⟨(hstaged hs).1, (hnone hs).2.1⟩
        quiet := hquiet
        result := fun _ => ⟨⟨_, mem_append_right _ (mem_singleton_self _), rfl⟩,
          hresult⟩ }
    sources := fun record hrecord id hid => by
      obtain ⟨⟨known, hknown, hsame⟩, hfair⟩ := h.sources record hrecord id hid
      refine ⟨⟨known, mem_append_left _ hknown, hsame⟩, fun res hres hother => ?_⟩
      rcases Lib.mem_concat.1 hres with hres | rfl
      · exact hfair res hres hother
      · exact absurd (hsame.trans hother.symm) (hbelow known hknown).ne
    unproduced := fun hcall _ => h.unpublished hsubmitted hcall (htask.idle hidle).2
    building := fun hb p hp => by
      cases hproducer : c.producer with
      | some q =>
        refine h.building hb p (Eq.trans ?_ hp)
        simp [mailbox, hproducer]
      | none =>
        have hs : staged = some p := by simpa [mailbox, hproducer] using hp
        rw [show c.building = none from (hnone (hs ▸ rfl)).2.2.2.2] at hb
        cases hb
    offers := by
      have hbefore := h.offers
      have hblank : job.offers = [] := by simp [DispatchJob.offers, hidle]
      rw [hsubmitted, toList_some, flatMap_singleton, hblank, append_nil]
        at hbefore
      rw [flatMap_append, flatMap_singleton, ← hbefore, toList_some,
        flatMap_singleton]
      refine congrArg (c.offered ++ ·) ?_
      unfold DispatchJob.offers HandlerResult.offers
      by_cases hok : ret = .ok
      · simp [hok]
      · simp [hok, (hlate hok).bodies]
    latched := Lib.forall_mem_concat.2 ⟨h.latched, hlatched⟩
    given := Lib.forall_mem_concat.2 ⟨h.given, hgiven⟩
    withheld := fun res hres hf => by
      rcases Lib.mem_concat.1 hres with hres | rfl
      · exact h.withheld res hres hf
      have hok : ret = .ok := by
        by_contra hno
        cases (hlate hno).failed.symm.trans hf
      unfold HandlerResult.offers
      rw [if_neg ((hran hok).latched hf).1]
    noted := fun res hres hf => by
      rcases Lib.mem_concat.1 hres with hres | rfl
      · rcases h.noted res hres hf with hnoted | ⟨other, hother, hid⟩
        · exact .inl hnoted
        · cases hsubmitted.symm.trans hother
          exact absurd hid (hbelow res hres).ne'
      · exact .inr ⟨_, rfl, rfl⟩
    sealed := fun record hrecord hsucceeds hsource =>
      absurd (hsubmitted.symm.trans (h.sealed record hrecord hsucceeds hsource).2.1) (by simp) }

omit h in
theorem Live.unready (h : c.Live) (hsubmitted : c.submitted = some job) : c.ready = none :=
  eq_none_iff_forall_ne_some.2 fun other hother =>
    some_ne_none _ (hsubmitted.symm.trans (h.alone other hother).1)

omit h in
theorem Ok.work (h : c.Ok) {cancelled : Bool} {deadline : Status} {calls : List ReplyCall}
    {status : UInt32} (hstep : c.work cancelled deadline calls status = some c') : c'.Ok := by
  unfold DispatchCall.work at hstep
  cases hsubmitted : c.submitted with
  | none =>
    rw [hsubmitted] at hstep
    cases hstep
  | some job =>
    rw [hsubmitted] at hstep
    obtain ⟨hidle, hstep⟩ := ite_none_left_eq_some.1 hstep
    rw [not_isSome_iff_eq_none] at hidle
    obtain ⟨hblank, hunstaged⟩ := (h.past.task job hsubmitted).idle hidle
    have hran := @dispatchWork_ok job.reply hblank.ok job.kind cancelled deadline calls status
    have hlate := @dispatchWork_late job.reply job.kind cancelled deadline calls status
    have hasync := @dispatchWork_asynchronous job.reply job.kind cancelled deadline calls status
    have hgiven := dispatchWork_given hblank.bodies hblank.initial hblank.trailing job.kind
      cancelled deadline calls status
    generalize dispatchWork job.reply job.kind cancelled deadline calls status = out
      at hstep hran hlate hasync hgiven
    obtain ⟨rets, ret, reply⟩ := out
    dsimp only at hstep hran hlate hasync
    cases hstep
    have hcreated : ∀ p, (if reply.asynchronous ∧ job.reply.asynchronous = false then
        some (Producer.create job.reply.maxMessage job.reply.headersSent) else none) = some p →
        (reply.asynchronous = true ∧ job.reply.asynchronous = false) ∧
          p = Producer.create job.reply.maxMessage job.reply.headersSent := by
      intro p hp
      obtain ⟨hcond, hp⟩ := ite_none_right_eq_some.1 hp
      exact ⟨hcond, (some.inj hp).symm⟩
    refine ⟨h.past.worked hsubmitted hidle (fun hret => (hran hret).1) ?_ ?_ hgiven hasync ?_ ?_,
      fun hlive hclean => ?_⟩
    · intro hret
      rw [(hlate hret).2]
      exact hblank
    · intro k other hmem hlatch hother
      by_cases hret : ret = .ok
      · exact (hran hret).2 k other hmem hlatch hother
      · rw [(hlate hret).1, zip_nil_right] at hmem
        exact absurd hmem not_mem_nil
    · intro hs
      obtain ⟨p, hp⟩ := isSome_iff_exists.1 hs
      exact (hcreated p hp).1
    · intro p hp
      rw [(hcreated p hp).2]
      rfl
    · have hl := h.live hlive hclean
      have hready := hl.unready hsubmitted
      exact { hl with
        whole := hl.whole.imp_right fun hwhole => by
          refine Eq.trans ?_ hwhole
          -- a producer that was just created holds nothing
          cases hproducer : c.producer with
          | some q => simp [messages, DispatchCall.waiting, mailbox, hproducer]
          | none =>
            simp only [messages, DispatchCall.waiting, mailbox, hproducer, hsubmitted,
              bind_some, hunstaged]
            split <;> rfl
        alone := fun other hother => absurd (hready.symm.trans hother) nofun
        ready := fun other hother => absurd (hready.symm.trans hother) nofun }

/-! ## A task comes back -/

theorem Past.closed : c.closeProducer.2.Past ∧
    c.closeProducer.2 = { c with producer := none } := by
  rcases closeProducer_cases c with ⟨hclose, hp⟩ | hclose | ⟨p, _, hp, _, hsend⟩
  · rw [hclose]
    dsimp only
    exact ⟨h, by rw [← hp]⟩
  · rw [hclose]
    exact ⟨h.unplug, rfl⟩
  · cases (h.quiet p hp).1.symm.trans hsend

theorem mailbox_untask (hsubmitted : c.submitted = some job) :
    (c.untask job).mailbox = c.mailbox := by
  cases hstaged : job.staged with
  | none =>
    cases hp : c.producer <;> simp [mailbox, untask, hstaged, hp, hsubmitted]
  | some p =>
    have hp := ((h.task job hsubmitted).staged (hstaged ▸ rfl)).2
    simp [mailbox, untask, hstaged, hp, hsubmitted]

/-- Bodies are offered only before the producer publishes. -/
theorem Past.offers_alone (hsubmitted : c.submitted = some job) :
    job.offers = [] ∨ c.published = [] := by
  have htask := h.task job hsubmitted
  by_cases hran : job.worked = some .ok
  · cases hasync : job.reply.asynchronous with
    | true =>
      have hbodies := (htask.ran hran).handedOver hasync
      exact .inl (by simp [DispatchJob.offers, hbodies])
    | false => exact .inr (h.unexported hsubmitted hasync).2.2.2.1
  · exact .inl (by simp [DispatchJob.offers, hran])

theorem Past.untask (hsubmitted : c.submitted = some job) : (c.untask job).Past := by
  have htask := h.task job hsubmitted
  have hupcoming : (c.untask job).upcoming = c.queue.map DispatchJob.id := by
    simp [upcoming, DispatchCall.untask]
  have hsub : List.Sublist (c.results.map HandlerResult.id ++ (c.untask job).upcoming)
      (c.results.map HandlerResult.id ++ c.upcoming) := by
    rw [hupcoming]
    refine List.Sublist.append_left ?_ _
    rw [upcoming, map_append]
    exact sublist_append_right _ _
  exact {
    grammar := h.grammar
    sound := by
      show c.messages <+: (c.offered ++ job.offers) ++ c.produced
      rcases h.offers_alone hsubmitted with hnone | hnone
      · rw [hnone, append_nil]
        exact h.sound
      have hsound := h.sound
      have hproduced : c.produced = [] := by simp [produced, hnone]
      rw [hproduced, append_nil] at hsound ⊢
      exact hsound.trans (prefix_append _ _)
    order := h.order.sublist hsub
    below := fun id hid => h.below id (hsub.mem hid)
    fresh := h.fresh
    task := fun j hj => by cases hj
    sources := h.sources
    unproduced := fun hcall _ => by
      obtain ⟨hcall, hstaged⟩ := or_eq_false_iff.1 hcall
      exact h.unpublished hsubmitted hcall (isNone_iff_eq_none.1 (by simpa using hstaged))
    failed := fun n hn => by
      change (if job.reply.failed ∧ c.failedAt = none then some c.log.length else c.failedAt) =
        some n at hn
      split at hn
      · cases hn
        refine ⟨le_rfl, fun record hrecord => ?_⟩
        change record ∈ c.log.drop c.log.length at hrecord
        rw [drop_length] at hrecord
        exact absurd hrecord not_mem_nil
      · exact h.failed n hn
    building := fun hb p hp => by
      rw [mailbox_untask h hsubmitted] at hp
      exact h.building hb p hp
    quiet := fun p hp => by
      change (if job.staged.isSome then job.staged else c.producer) = some p at hp
      show p.inSend = false ∧ (c.asynchronous || job.staged.isSome) = true
      split at hp
      next hs => exact ⟨htask.quiet p hp, by rw [hs, Bool.or_true]⟩
      next => exact ⟨(h.quiet p hp).1, by rw [(h.quiet p hp).2, Bool.true_or]⟩
    offers := by
      have hoffers := h.offers
      rw [hsubmitted, toList_some, flatMap_singleton] at hoffers
      show (c.offered ++ job.offers) ++ [] = _
      rw [append_nil]
      exact hoffers
    latched := h.latched
    given := h.given
    withheld := h.withheld
    noted := fun res hres hf => by
      show (if job.reply.failed ∧ c.failedAt = none then some c.log.length else c.failedAt) ≠
        none ∨ _
      rcases h.noted res hres hf with hnoted | ⟨other, hother, hid⟩
      · left
        rw [if_neg fun hboth => hnoted hboth.2]
        exact hnoted
      cases hsubmitted.symm.trans hother
      have hran : job.worked ≠ none := fun hidle =>
        absurd hid (h.results_below hsubmitted hidle res hres).ne'
      have hreply := (htask.result hran).2 res hres hid.symm
      rw [hreply] at hf
      left
      by_cases hnone : c.failedAt = none
      · rw [if_pos ⟨hf, hnone⟩]
        simp
      · rw [if_neg fun hboth => hnone hboth.2]
        exact hnone
    sealed := fun record hrecord hsucceeds hsource =>
      absurd (hsubmitted.symm.trans (h.sealed record hrecord hsucceeds hsource).2.1) (by simp) }

end

/-- A failed producer goes on to its error FINAL. -/
theorem Live.untask (h : c.Live) (hpast : c.Past) (hsubmitted : c.submitted = some job)
    (hfailed : c.producerFailed = true) : (c.untask job).Live := by
  have hready := h.unready hsubmitted
  obtain ⟨hb, p, hp, hfinal⟩ := h.rejected hfailed
  have hstaged : job.staged = none := by
    by_contra hs
    have hnone := ((hpast.task job hsubmitted).staged (isSome_iff_ne_none.2 hs)).2
    exact absurd (hp.symm.trans hnone) nofun
  exact {
    stopped := h.stopped
    whole := .inl (.inr hfailed)
    alone := fun other hother => absurd (hready.symm.trans hother) nofun
    ready := fun other hother => absurd (hready.symm.trans hother) nofun
    rejected := fun _ => ⟨hb, p, by simp [DispatchCall.untask, hstaged, hp], hfinal⟩
    dying := fun _ => .inr hfailed }

/-- While nothing was refused a failed reply has not come back yet. -/
theorem Live.calm (h : c.Live) (hready : c.ready = none) (hopen : c.producerFailed = false) :
    c.failedAt = none := by
  by_contra hfailed
  rcases h.dying hfailed with ⟨job, hjob, _⟩ | hrejected
  · exact absurd (hready.symm.trans hjob) nofun
  · cases hopen.symm.trans hrejected

theorem Live.balance (h : c.Live) (hready : c.ready = none) (hopen : c.producerFailed = false) :
    c.messages ++ (c.mailbox.map Producer.data).getD [] = c.offered ++ c.produced := by
  rcases h.whole with (⟨job, hjob, _⟩ | hfailed) | hwhole
  · exact absurd (hready.symm.trans hjob) nofun
  · cases hopen.symm.trans hfailed
  · simpa [DispatchCall.waiting, hready] using hwhole

/-- A task of a call that has a producer adds nothing. -/
theorem Live.untask_producing (h : c.Live) (hpast : c.Past)
    (hsubmitted : c.submitted = some job) (hopen : c.producerFailed = false)
    (hran : job.worked = some .ok) (hasync : job.reply.asynchronous = true)
    (hstatus : job.reply.status = rpcStatusOk) : (c.untask job).Live := by
  have hready := h.unready hsubmitted
  have hreturned := (hpast.task job hsubmitted).ran hran
  have hnone : job.offers = [] := by
    simp [DispatchJob.offers, hreturned.handedOver hasync]
  have hfine : ¬ job.reply.failed = true := fun hf => (hreturned.latched hf).1 hstatus
  exact {
    stopped := h.stopped
    whole := by
      refine .inr ?_
      have hbalance := h.balance hready hopen
      rw [← mailbox_untask hpast hsubmitted] at hbalance
      unfold DispatchCall.waiting
      rw [show (c.untask job).ready = none from hready]
      show c.messages ++ ([] ++ _) = (c.offered ++ job.offers) ++ c.produced
      rw [nil_append, hnone, append_nil]
      exact hbalance
    alone := fun other hother => absurd (hready.symm.trans hother) (by simp)
    ready := fun other hother => absurd (hready.symm.trans hother) (by simp)
    rejected := fun hfailed => by cases hopen.symm.trans hfailed
    dying := fun hfailed => by
      refine absurd ?_ hfailed
      show (if job.reply.failed ∧ c.failedAt = none then some c.log.length else c.failedAt) = none
      rw [if_neg fun hboth => hfine hboth.1]
      exact h.calm hready hopen }

/-- The reply of a task is sent next, without a producer. -/
theorem Live.untask_ready (h : c.Live) (hpast : c.Past)
    (hsubmitted : c.submitted = some job) (hopen : c.producerFailed = false)
    (hran : job.worked = some .ok)
    (hown : (c.untask job).asynchronous = true → job.reply.status ≠ rpcStatusOk)
    (queue : List DispatchJob) :
    Live { c.untask job with producer := none, ready := some job, queue := queue } := by
  have htask := hpast.task job hsubmitted
  have hready := h.unready hsubmitted
  have hreturned := htask.ran hran
  have hresult := htask.result (by rw [hran]; nofun)
  exact {
    stopped := h.stopped
    whole := by
      by_cases hstatus : job.reply.status = rpcStatusOk
      · refine .inr ?_
        have hsync : (c.asynchronous || job.staged.isSome) = false :=
          eq_false_iff.2 fun hcall => hown hcall hstatus
        obtain ⟨hcall, hstaged⟩ := or_eq_false_iff.1 hsync
        have hunstaged : job.staged = none := isNone_iff_eq_none.1 (by simpa using hstaged)
        have hproducer := hpast.no_producer hcall
        have hnone := (hpast.unpublished hsubmitted hcall hunstaged).1
        have hbalance := h.balance hready hopen
        simp only [mailbox, hproducer, hsubmitted, bind_some, hunstaged, map_none,
          getD_none, append_nil, produced, hnone, flatMap_nil] at hbalance
        show c.messages ++ (job.reply.bodies ++ []) = (c.offered ++ job.offers) ++ c.produced
        simp [hbalance, DispatchJob.offers, hran, hstatus, produced, hnone]
      · exact .inl (.inl ⟨job, rfl, hreturned.refused hstatus⟩)
    alone := fun _ _ => ⟨rfl, rfl⟩
    ready := fun other hother => by
      cases hother
      exact ⟨hreturned.refused, hresult.1,
        fun res hres hid => .inr (congrArg RecordReply.initial (hresult.2 res hres hid).symm),
        fun res hres hid => .inr (congrArg RecordReply.trailing (hresult.2 res hres hid).symm),
        fun res hres hid hf => hreturned.latched (hresult.2 res hres hid ▸ hf)⟩
    rejected := fun hfailed => by cases hopen.symm.trans hfailed
    dying := fun hfailed => by
      refine .inl ⟨job, rfl, ?_⟩
      have hf : job.reply.failed = true := by
        by_contra hfine
        refine hfailed ?_
        show (if job.reply.failed ∧ c.failedAt = none then some c.log.length else c.failedAt) = none
        rw [if_neg fun hboth => hfine hboth.1]
        exact h.calm hready hopen
      have hstatus := (hreturned.latched hf).1
      exact ⟨(hreturned.refused hstatus).1, hstatus⟩ }

/-- Another reply, and other jobs from the queue or none of them. -/
theorem Past.setReady (h : c.Past) (ready : Option DispatchJob) (last : Bool) :
    Past { c with ready := ready, queue := if last then [] else c.queue } := by
  cases last with
  | true => exact { h.drop with grammar := h.grammar }
  | false => exact { h with grammar := h.grammar }

/-! ## The producer changes -/

theorem mailbox_onProducer (c : DispatchCall) (f : Producer → Producer) :
    (c.onProducer f).mailbox = c.mailbox.map f := by
  unfold mailbox onProducer
  cases c.producer with
  | some p => rfl
  | none => cases c.submitted <;> rfl

/-- A section of the producer that keeps what is in the slot. -/
structure Gentle (f : Producer → Producer) : Prop where
  command : ∀ p, (f p).command = p.command
  inSend : ∀ p, (f p).inSend = p.inSend
  finished : ∀ p, (f p).finished = p.finished

theorem Past.onProducer (h : c.Past) {f : Producer → Producer}
    (hsend : ∀ p, (f p).inSend = p.inSend)
    (hbuilding : c.building.isSome = true → ∀ p, c.mailbox = some p →
      (f p).building = true ∧ (f p).kind = none) : (c.onProducer f).Past := by
  have hsubmitted : ∀ j, (c.onProducer f).submitted = some j →
      ∃ job, c.submitted = some job ∧ j = { job with staged := job.staged.map f } := by
    intro j hj
    obtain ⟨job, hjob, heq⟩ := map_eq_some_iff.1 hj
    exact ⟨job, hjob, heq.symm⟩
  have hupcoming : (c.onProducer f).upcoming = c.upcoming := by
    unfold upcoming DispatchCall.onProducer
    cases c.submitted with
    | none => rfl
    | some job => cases hworked : job.worked <;> simp [hworked]
  exact { h with
    order := by
      rw [hupcoming]
      exact h.order
    below := by
      rw [hupcoming]
      exact h.below
    task := fun j hj => by
      obtain ⟨job, hjob, rfl⟩ := hsubmitted j hj
      have htask := h.task job hjob
      exact {
        idle := fun hidle => ⟨(htask.idle hidle).1, by simp [(htask.idle hidle).2]⟩
        ran := htask.ran
        snapshot := fun hcall => ⟨(htask.snapshot hcall).1, by simp [(htask.snapshot hcall).2]⟩
        staged := fun hs => by
          have hs : job.staged.isSome = true := isSome_map ▸ hs
          refine ⟨(htask.staged hs).1, ?_⟩
          show c.producer.map f = none
          rw [(htask.staged hs).2]
          rfl
        quiet := fun p hp => by
          obtain ⟨q, hq, rfl⟩ := map_eq_some_iff.1 hp
          exact (hsend q).trans (htask.quiet q hq)
        result := htask.result }
    unproduced := fun hcall hnone => h.unproduced hcall fun job hjob => by
      have hmap := hnone { job with staged := job.staged.map f } (by
        simp [DispatchCall.onProducer, hjob])
      exact map_eq_none_iff.1 hmap
    building := fun hb p hp => by
      rw [mailbox_onProducer] at hp
      obtain ⟨q, hq, rfl⟩ := map_eq_some_iff.1 hp
      exact hbuilding hb q hq
    quiet := fun p hp => by
      obtain ⟨q, hq, rfl⟩ := map_eq_some_iff.1 hp
      exact ⟨(hsend q).trans (h.quiet q hq).1, (h.quiet q hq).2⟩
    offers := by
      refine Eq.trans ?_ h.offers
      unfold DispatchCall.onProducer
      cases c.submitted <;> rfl
    noted := fun res hres hf => by
      rcases h.noted res hres hf with hnoted | ⟨job, hjob, hid⟩
      · exact .inl hnoted
      · exact .inr ⟨_, congrArg (Option.map _) hjob, hid⟩
    sealed := fun record hrecord hsucceeds hsource => by
      obtain ⟨hterminal, hsub, hfine⟩ := h.sealed record hrecord hsucceeds hsource
      exact ⟨hterminal, congrArg (Option.map _) hsub, hfine⟩ }

theorem Live.onProducer (h : c.Live) {f : Producer → Producer} (hf : Gentle f) :
    (c.onProducer f).Live := by
  have hdata : ∀ p, (f p).data = p.data := fun p => by
    unfold Producer.data
    rw [hf.command p]
  exact {
    stopped := h.stopped
    whole := h.whole.imp_right fun hwhole => by
      refine Eq.trans ?_ hwhole
      show c.messages ++ ((c.ready.map fun job => job.reply.bodies).getD [] ++
        ((c.onProducer f).mailbox.map Producer.data).getD []) = _
      rw [mailbox_onProducer]
      unfold DispatchCall.waiting
      cases c.mailbox with
      | none => rfl
      | some p =>
        simp only [map_some, getD_some]
        rw [hdata p]
    alone := fun job hjob => by
      obtain ⟨hsubmitted, hproducer⟩ := h.alone job hjob
      simp [DispatchCall.onProducer, hsubmitted, hproducer]
    ready := h.ready
    rejected := fun hfailed => by
      obtain ⟨hb, p, hp, hkind, hstatus, hfinished⟩ := h.rejected hfailed
      have hsame : (f p).command = some ⟨.finalStatus, p.status, p.body, p.metadata⟩ := by
        rw [hf.command p, Producer.command, hkind]
        rfl
      obtain ⟨kind, hkind', heq⟩ := map_eq_some_iff.1 hsame
      obtain ⟨rfl, hstatus', _⟩ := ProducerCommand.mk.inj heq
      refine ⟨hb, f p, by simp [DispatchCall.onProducer, hp], hkind', ?_,
        (hf.finished p).trans hfinished⟩
      rw [hstatus']
      exact hstatus
    dying := h.dying }

theorem activate_gentle : Gentle Producer.activate := by
  constructor <;> intro p <;> unfold Producer.activate <;> split <;> rfl

theorem activate_slot (p : Producer) :
    p.activate.building = p.building ∧ p.activate.kind = p.kind := by
  unfold Producer.activate
  split <;> exact ⟨rfl, rfl⟩

theorem release_gentle : Gentle Producer.release := by
  constructor <;> intro p <;> rfl

theorem Ok.activate (h : c.Ok) (hsubmitted : c.submitted = none) :
    Ok { c with producer := c.producer.map Producer.activate } := by
  have heq : c.onProducer Producer.activate =
      { c with producer := c.producer.map Producer.activate } := by
    unfold DispatchCall.onProducer
    rw [hsubmitted]
    rfl
  rw [← heq]
  refine ⟨h.past.onProducer activate_gentle.inSend fun hb p hp => ?_, fun hlive hclean =>
    (h.live hlive hclean).onProducer activate_gentle⟩
  rw [(activate_slot p).1, (activate_slot p).2]
  exact h.past.building hb p hp

theorem Ok.release (h : c.Ok) : (c.onProducer Producer.release).Ok :=
  ⟨h.past.onProducer release_gentle.inSend fun hb p hp => h.past.building hb p hp,
    fun hlive hclean => (h.live hlive hclean).onProducer release_gentle⟩

theorem begin_frame (p : Producer) (initial : Bool) : (p.begin initial).2.command = p.command ∧
    (p.begin initial).2.inSend = p.inSend ∧ (p.begin initial).2.finished = p.finished := by
  rcases p.begin_cases initial with ⟨heq, _⟩ | ⟨heq, _⟩ <;> rw [heq] <;> exact ⟨rfl, rfl, rfl⟩

theorem begin_gentle (initial : Bool) : Gentle fun p => (p.begin initial).2 :=
  ⟨fun p => (begin_frame p initial).1, fun p => (begin_frame p initial).2.1,
    fun p => (begin_frame p initial).2.2⟩

theorem Ok.begin (h : c.Ok) {request : ProducerRequest}
    (hstep : c.begin request = some c') : c'.Ok := by
  unfold DispatchCall.begin at hstep
  cases hmailbox : c.mailbox with
  | none =>
    rw [hmailbox] at hstep
    cases hstep
  | some p =>
    rw [hmailbox] at hstep
    obtain ⟨hfree, hstep⟩ := ite_none_left_eq_some.1 hstep
    have hnone : c.building = none := by
      by_contra hb
      exact hfree (.inl (isSome_iff_ne_none.2 hb))
    split at hstep
    next htaken =>
      cases hstep
      have hgentle := begin_gentle request.isInitial
      have hslot : ((p.begin request.isInitial).2).building = true ∧
          ((p.begin request.isInitial).2).kind = none := by
        rcases p.begin_cases request.isInitial with ⟨_, hno⟩ | ⟨heq, _, _, hkind, _⟩
        · exact absurd htaken hno
        · rw [heq]
          exact ⟨rfl, hkind⟩
      have hpast := h.past.onProducer hgentle.inSend fun hb =>
        absurd hb (by rw [hnone]; exact false_ne_true)
      refine ⟨{ hpast with unproduced := ?_, building := ?_ }, fun hlive hclean => ?_⟩
      · intro hcall hs
        -- a mailbox without an exported producer does not exist
        obtain ⟨q, hq, rfl⟩ | ⟨hproducer, job, hjob, hstaged⟩ : (∃ q, c.producer = some q ∧ q = p) ∨
              (c.producer = none ∧ ∃ job, c.submitted = some job ∧ job.staged = some p) := by
          unfold mailbox at hmailbox
          split at hmailbox
          next q hq => exact .inl ⟨q, hq, some.inj hmailbox⟩
          next hq => exact .inr ⟨hq, bind_eq_some_iff.1 hmailbox⟩
        · cases hcall.symm.trans (h.past.quiet q hq).2
        have hmap := hs { job with staged := job.staged.map _ } (by
          simp only [DispatchCall.onProducer, hjob, map_some]
          rfl)
        rw [hstaged] at hmap
        cases hmap
      · intro _ q hq
        have hq : (c.onProducer fun p => (p.begin request.isInitial).2).mailbox = some q := hq
        rw [mailbox_onProducer, hmailbox] at hq
        cases hq
        exact hslot
      · have hl := h.live hlive hclean
        have hkept := hl.onProducer hgentle
        refine { hkept with rejected := fun hfailed => ?_ }
        -- the slot of a failed producer holds the error FINAL
        obtain ⟨_, q, hq, hkind, _⟩ := hl.rejected hfailed
        have hsame : p = q := by
          unfold mailbox at hmailbox
          rw [hq] at hmailbox
          exact (some.inj hmailbox).symm
        rcases p.begin_cases request.isInitial with ⟨_, hno⟩ | ⟨_, _, _, hempty, _⟩
        · exact absurd htaken hno
        · rw [hsame, hkind] at hempty
          cases hempty
    next =>
      cases hstep
      exact h

theorem publish_inSend (p : Producer) (command : ProducerCommand) (ret : Status) :
    (p.publish command ret).2.1.inSend = p.inSend := by
  unfold Producer.publish
  dsimp only
  generalize (if p.closed = true then Status.errClosed else ret) = result
  split <;> rfl

/-- What the end of a submission does to an empty slot. -/
theorem publish_data (p : Producer) (command : ProducerCommand) (ret : Status)
    (hempty : p.kind = none) :
    (p.publish command ret).2.1.data =
      (if (p.publish command ret).1 = .ok then [command] else []).flatMap ProducerCommand.data := by
  unfold Producer.publish
  dsimp only
  generalize (if p.closed = true then Status.errClosed else ret) = result
  by_cases hok : result = .ok
  · rw [if_pos hok, if_pos hok]
    simp [Producer.data, Producer.command]
  · rw [if_neg hok, if_neg hok]
    simp [Producer.data, Producer.command, hempty]

/-- A submission is over, and the slot is what it was. -/
theorem Past.unbuild (h : c.Past) : Past { c with building := none } :=
  { h with
    unproduced := fun hcall hs => ⟨(h.unproduced hcall hs).1, rfl⟩
    building := nofun }

theorem Ok.publish (h : c.Ok) {alloc : Status} (hstep : c.publish alloc = some c') :
    c'.Ok := by
  unfold DispatchCall.publish at hstep
  cases hbuilding : c.building with
  | none =>
    rw [hbuilding] at hstep
    cases hstep
  | some request =>
    rw [hbuilding] at hstep
    dsimp only at hstep
    generalize request.build alloc 0 = built at hstep
    obtain ⟨command, ret⟩ := built
    dsimp only at hstep
    cases hmailbox : c.mailbox with
    | none =>
      rw [hmailbox] at hstep
      cases hstep
      refine ⟨h.past.unbuild, fun hlive hclean => ?_⟩
      have hl := h.live hlive hclean
      exact { hl with
        whole := hl.whole
        rejected := fun hfailed => ⟨rfl, (hl.rejected hfailed).2⟩ }
    | some p =>
      rw [hmailbox] at hstep
      cases hstep
      have hempty := (h.past.building (hbuilding ▸ rfl) p hmailbox).2
      have hpast := h.past.unbuild.onProducer
        (fun q => publish_inSend q command ret) fun hb => by cases hb
      refine ⟨{ hpast with sound := ?_, unproduced := ?_ }, fun hlive hclean => ?_⟩
      · show c.messages <+: c.offered ++ (c.published ++ _).flatMap ProducerCommand.data
        rw [flatMap_append, ← append_assoc]
        exact h.past.sound.trans (prefix_append _ _)
      · intro hcall hs
        have hidle := (h.past.unproduced hcall fun job hjob => by
          have hmap := hs { job with staged := job.staged.map _ } (by
            simp only [DispatchCall.onProducer, hjob, map_some]
            rfl)
          exact map_eq_none_iff.1 hmap).2
        exact absurd (hbuilding.symm.trans hidle) (by simp)
      · have hl := h.live hlive hclean
        have hready : c.ready = none := by
          by_contra hready
          obtain ⟨job, hjob⟩ := ne_none_iff_exists'.1 hready
          obtain ⟨hsubmitted, hproducer⟩ := hl.alone job hjob
          simp [mailbox, hsubmitted, hproducer] at hmailbox
        have hopen : c.producerFailed = false := by
          by_contra hfailed
          have hidle := (hl.rejected (not_eq_false _ ▸ hfailed)).1
          exact absurd (hbuilding.symm.trans hidle) (by simp)
        exact {
          stopped := hl.stopped
          whole := by
            refine .inr ?_
            have hbalance := hl.balance hready hopen
            have hnone : p.data = [] := by simp [Producer.data, Producer.command, hempty]
            rw [hmailbox, map_some, getD_some, hnone, append_nil] at hbalance
            have hdata := publish_data p command ret hempty
            show c.messages ++ ((c.ready.map fun job => job.reply.bodies).getD [] ++
              ((c.onProducer fun q => (q.publish command ret).2.1).mailbox.map
                Producer.data).getD []) =
              c.offered ++ (c.published ++ _).flatMap ProducerCommand.data
            have hmessages : c.messages = c.offered ++ c.published.flatMap ProducerCommand.data :=
              hbalance
            rw [mailbox_onProducer, hmailbox, hready, hmessages, flatMap_append]
            simp only [map_none, getD_none, map_some, getD_some,
              nil_append, append_assoc]
            rw [hdata]
          alone := fun job hjob => absurd (hready.symm.trans hjob) (by simp)
          ready := fun job hjob => absurd (hready.symm.trans hjob) (by simp)
          rejected := fun hfailed => by cases hopen.symm.trans hfailed
          dying := hl.dying }

end DispatchCall

end Trpc
