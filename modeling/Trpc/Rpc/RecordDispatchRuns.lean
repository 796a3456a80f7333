import Trpc.Rpc.RecordDispatchTasks

/-!
# Reply integrity

Every step of a call keeps `DispatchCall.Ok`, and so does every run.  What the
peer can rely on follows (`ReplyIntegrity`).

A batch with a failed append or metadata call sends nothing but an error FINAL.
The call may still end with an OK FINAL: while the task of the batch is in the
executor the producer of the call can send its own (`reply_integrity_overtaken`).
Once the task is handed back no OK FINAL is accepted any more.
-/

namespace Trpc

open List Option Bool

namespace DispatchCall

variable {c c' : DispatchCall} {job : DispatchJob} {p : Producer}

/-! ## Every step -/

theorem Ok.done (h : c.Ok) {cancelled : Bool} {expired : Option UInt32}
    (hstep : c.done cancelled expired = some c') : c'.Ok := by
  unfold DispatchCall.done at hstep
  cases hsubmitted : c.submitted with
  | none =>
    rw [hsubmitted] at hstep
    cases hstep
  | some job =>
    rw [hsubmitted] at hstep
    obtain ⟨_, ⟨⟩⟩ := ite_none_left_eq_some.1 hstep
    have hpast := h.past.untask hsubmitted
    have htask := h.past.task job hsubmitted
    have hended : ∀ status, ((c.untask job).abort status).Ok := fun status =>
      (hpast.abort status).ok_of_terminal (abort_terminal _ status)
    refine Ok.settle ?_
    split
    next hover =>
      -- the call is over, or its owner is
      refine ⟨hpast.closed.1, fun hlive hclean => ?_⟩
      rw [hpast.closed.2] at hlive hclean
      rcases hover with hcleanup | hterminal | hstopping
      · cases hclean.symm.trans hcleanup
      · cases hlive.symm.trans hterminal
      · cases (h.live hlive hclean).stopped.symm.trans hstopping
    next hgoing =>
      have hlive : c.terminal = false := eq_false_iff.2 fun ht => hgoing (.inr (.inl ht))
      have hclean : c.cleanup = false := eq_false_iff.2 fun ht => hgoing (.inl ht)
      have hl := h.live hlive hclean
      split
      next hfailed =>
        cases expired with
        | some status => exact hended status
        | none => exact ⟨hpast, fun _ _ => hl.untask h.past hsubmitted hfailed⟩
      next hopen =>
        have hopen : c.producerFailed = false := eq_false_iff.2 hopen
        split
        · exact hended _
        next hreturned =>
          have hran : job.worked = some .ok := by
            by_contra hno
            exact hreturned (.inr hno)
          cases expired with
          | some status => exact hended status
          | none =>
            dsimp only
            split
            next hproducing =>
              have hasync : job.reply.asynchronous = true := by
                rcases or_eq_true_iff.1 hproducing.1 with hcall | hstaged
                · exact (htask.snapshot hcall).1
                · exact (htask.staged hstaged).1
              have hok : (c.untask job).Ok := ⟨hpast, fun _ _ =>
                hl.untask_producing h.past hsubmitted hopen hran hasync hproducing.2⟩
              split
              · exact hok.activate rfl
              · exact hok
            next hreplying =>
              have hown : (c.untask job).asynchronous = true →
                  job.reply.status ≠ rpcStatusOk := fun hcall hstatus =>
                hreplying ⟨hcall, hstatus⟩
              have hunplugged : (if (c.untask job).asynchronous then
                  (c.untask job).closeProducer.2 else c.untask job) =
                  { c.untask job with producer := none } := by
                split
                · exact hpast.closed.2
                next hcall =>
                  have hnone := hpast.no_producer (eq_false_iff.2 hcall)
                  rw [← hnone]
              rw [hunplugged]
              exact ⟨hpast.unplug.setReady (some job) job.reply.finished, fun _ _ =>
                hl.untask_ready h.past hsubmitted hopen hran hown _⟩

theorem Ok.reap (h : c.Ok) : c.reap.Ok := by
  unfold DispatchCall.reap
  have hpast : Past { c with cleanup := true, stopping := true } :=
    { h.past with grammar := h.past.grammar }
  have hempty : Past { c with
      cleanup := true, stopping := true, producer := none, queue := [], ready := none } :=
    { hpast.unplug.drop with grammar := h.past.grammar }
  dsimp only
  rw [hpast.closed.2]
  split
  · exact ⟨hempty, nofun⟩
  · exact hempty.finish _

theorem Ok.step (h : c.Ok) {action : Action} (hstep : c.step action = some c') : c'.Ok := by
  cases action with
  | receive kind record answer =>
    obtain ⟨_, ⟨⟩⟩ := ite_none_left_eq_some.1 hstep
    exact h.receive kind record answer
  | work cancelled deadline calls status => exact h.work hstep
  | done cancelled expired => exact h.done hstep
  | pump answer =>
    obtain ⟨hclean, ⟨⟩⟩ := ite_none_left_eq_some.1 hstep
    exact h.pump (eq_false_iff.2 hclean) answer
  | ends status =>
    obtain ⟨_, ⟨⟩⟩ := ite_none_left_eq_some.1 hstep
    exact h.past.finish status
  | stop =>
    obtain ⟨_, ⟨⟩⟩ := ite_none_left_eq_some.1 hstep
    have hpast : Past { c with stopping := true } := { h.past with grammar := h.past.grammar }
    exact hpast.finish _
  | reap =>
    cases hstep
    exact h.reap
  | begin request => exact h.begin hstep
  | publish alloc => exact h.publish hstep
  | release =>
    obtain ⟨_, ⟨⟩⟩ := ite_none_right_eq_some.1 hstep
    exact h.release

theorem create_ok (config : DispatchConfig) (request response : RpcCardinality) :
    (create config request response).Ok where
  past := {
    grammar := ⟨fun _ => rfl, [], rfl, .inl rfl⟩
    sound := prefix_rfl
    order := List.Pairwise.nil
    below := fun _ hid => absurd hid not_mem_nil
    fresh := fun _ hjob => absurd hjob not_mem_nil
    task := fun _ hjob => absurd hjob nofun
    sources := fun _ hrecord => absurd hrecord not_mem_nil
    unproduced := fun _ _ => ⟨rfl, rfl⟩
    failed := fun _ hn => absurd hn nofun
    building := nofun
    quiet := fun _ hp => absurd hp nofun
    offers := rfl
    latched := fun _ hres => absurd hres not_mem_nil
    given := fun _ hres => absurd hres not_mem_nil
    withheld := fun _ hres => absurd hres not_mem_nil
    noted := fun _ hres => absurd hres not_mem_nil
    sealed := fun _ hrecord => absurd hrecord not_mem_nil }
  live := fun _ _ => {
    stopped := rfl
    whole := .inr rfl
    alone := fun _ hjob => absurd hjob nofun
    ready := fun _ hjob => absurd hjob nofun
    rejected := nofun
    dying := fun hfailed => absurd rfl hfailed }

theorem run_ok {config : DispatchConfig} {request response : RpcCardinality} {actions : List Action}
    (hrun : Lib.runSteps DispatchCall.step (create config request response) actions = some c) :
    c.Ok :=
  Lib.runSteps_invariant (fun _ _ _ h hstep => h.step hstep) (create_ok config request response)
    hrun

/-! ## What the peer gets -/

/-- What a call has sent, as far as its handlers and its producer go. -/
structure ReplyIntegrity (c : DispatchCall) : Prop where
  shape : ∃ initial count final, c.log.map SentRecord.kind =
      initial ++ List.replicate count .message ++ final ∧
    (initial = [] ∨ initial = [.initialMetadata]) ∧ (final = [] ∨ final = [.finalStatus])
  order : (c.results.map HandlerResult.id).Pairwise (· < ·)
  messages : c.messages <+: c.results.flatMap HandlerResult.offers ++ c.produced
  given : ∀ res ∈ c.results, res.reply.Given res.calls
  sources : ∀ record ∈ c.log, ∀ id, record.source = some id →
    ∃ res ∈ c.results, res.id = id ∧ record.Fair res.reply
  withheld : ∀ res ∈ c.results, res.Spoiled → res.offers = [] ∧
    ∀ record ∈ c.log, record.source = some res.id → record.kind = .finalStatus ∧
      record.status ≠ rpcStatusOk ∧ record.body = [] ∧ record.metadata = []
  spoiled : ∀ res ∈ c.results, res.Spoiled →
    (∀ record ∈ c.log, record.Succeeds → record.source = none) ∧
      ((∃ job, c.submitted = some job ∧ job.id = res.id) ∨
        ∃ n, c.failedAt = some n ∧ ∀ record ∈ c.log.drop n, ¬ record.Succeeds)

theorem Past.shape (h : c.Past) : ∃ initial count final, c.log.map SentRecord.kind =
      initial ++ List.replicate count .message ++ final ∧
    (initial = [] ∨ initial = [.initialMetadata]) ∧
    (final = [] ∨ final = [.finalStatus]) := by
  obtain ⟨_, final, hkinds, hfinal⟩ := h.grammar
  refine ⟨_, _, final, hkinds, ?_, hfinal.imp_right And.left⟩
  split
  · exact .inr rfl
  · exact .inl rfl

/-- What is offered by tasks that are not back yet changes nothing: the producer
has published nothing then. -/
theorem Past.messages_sound (h : c.Past) :
    c.messages <+: c.results.flatMap HandlerResult.offers ++ c.produced := by
  rw [← h.offers]
  cases hsubmitted : c.submitted with
  | none =>
    rw [toList_none, flatMap_nil, append_nil]
    exact h.sound
  | some job =>
    rw [toList_some, flatMap_singleton]
    rcases h.offers_alone hsubmitted with hnone | hnone
    · rw [hnone, append_nil]
      exact h.sound
    have hproduced : c.produced = [] := by simp [produced, hnone]
    have hsound := h.sound
    rw [hproduced, append_nil] at hsound ⊢
    exact hsound.trans (prefix_append _ _)

theorem Past.integrity (h : c.Past) : c.ReplyIntegrity where
  shape := h.shape
  order := (pairwise_append.1 h.order).1
  messages := h.messages_sound
  given := h.given
  sources := fun record hrecord id hid => by
    obtain ⟨⟨res, hres, hsame⟩, hfair⟩ := h.sources record hrecord id hid
    exact ⟨res, hres, hsame, hfair res hres hsame⟩
  withheld := fun res hres ⟨k, ret, hcall, hlatch, hret⟩ => by
    have hf := h.latched res hres k ret hcall hlatch hret
    refine ⟨h.withheld res hres hf, fun record hrecord hsource => ?_⟩
    exact ((h.sources record hrecord res.id hsource).2 res hres rfl).failed hf
  spoiled := fun res hres ⟨k, ret, hcall, hlatch, hret⟩ => by
    have hf := h.latched res hres k ret hcall hlatch hret
    refine ⟨fun record hrecord hsucceeds => ?_, ?_⟩
    · by_contra hsource
      have hfine := (h.sealed record hrecord hsucceeds
        (isSome_iff_ne_none.2 hsource)).2.2 res hres
      cases hfine.symm.trans hf
    · rcases h.noted res hres hf with hnoted | hrunning
      · obtain ⟨n, hn⟩ := ne_none_iff_exists'.1 hnoted
        exact .inr ⟨n, hn, (h.failed n hn).2⟩
      · exact .inl hrunning

end DispatchCall

/-- Whatever the handlers of a call do and whatever the transport, the executor
and the clock answer, what the call has sent is what was offered. -/
theorem reply_integrity {config : DispatchConfig} {request response : RpcCardinality}
    {actions : List DispatchCall.Action} {c : DispatchCall}
    (hrun : Lib.runSteps DispatchCall.step (.create config request response) actions =
      some c) : c.ReplyIntegrity :=
  (DispatchCall.run_ok hrun).past.integrity

/-- Limits for the runs below. -/
def plainDispatch : DispatchConfig where
  sizeMax := 2 ^ 64 - 1
  maxPending := 4
  maxReplyBytes := 64
  maxReplies := 4
  maxResponseBytes := 16
  responseCodec := 1

/-- A request of the given kind, without body and metadata. -/
def plainRequest (kind : RpcRecordKind) : RpcRecordHeader where
  kind := kind.code
  serviceId := 0
  methodId := 0
  codecId := if kind = .message then 1 else 0
  compression := 0
  encodedSize := 0
  decodedSize := 0
  metadataSize := 0
  status := 0
  remainingTimeoutNs := 0

/-- A handler answers OPEN with one message and ends the call. -/
def echoRun : List DispatchCall.Action :=
  [.receive .open (plainRequest .open) {}, .pump {},
    .work false .ok [.append (some [7]) false true, .finish rpcStatusOk] rpcStatusOk,
    .done false none, .pump {}, .pump {}, .pump {}]

theorem reply_integrity_echo : ∃ c : DispatchCall,
    Lib.runSteps DispatchCall.step (.create plainDispatch .many .many) echoRun = some c ∧
      c.messages = [[7]] ∧ c.ReplyIntegrity := by
  exact Lib.exists_of_map (f := DispatchCall.messages) (by decide) fun _ hc hmessages =>
    ⟨hmessages, reply_integrity hc⟩

/-- The handler of OPEN exports a producer.  While the handler of a message runs,
whose append fails, the producer ends the call. -/
def overtakenRun : List DispatchCall.Action :=
  [.receive .open (plainRequest .open) {}, .pump {},
    .work false .ok [.acquireProducer .ok] rpcStatusOk, .done false none,
    .receive .message (plainRequest .message) {}, .pump {},
    .begin (.finish rpcStatusOk []), .publish .ok,
    .work false .ok [.append (some [7]) false true] rpcStatusOk, .pump {}]

/-- The append of a batch has failed, and the call ends with an OK FINAL. -/
theorem reply_integrity_overtaken : ∃ c : DispatchCall,
    Lib.runSteps DispatchCall.step (.create plainDispatch .many .many) overtakenRun = some c ∧
      (∃ res ∈ c.results, res.Spoiled) ∧ ∃ record ∈ c.log, record.Succeeds := by
  have hrun : (Lib.runSteps DispatchCall.step (.create plainDispatch .many .many)
      overtakenRun).map (fun c => (c.results.map fun res => res.calls.map fun call =>
        (call.1.latches, call.2), c.log)) =
      some ([[(false, .ok)], [(true, .errState)]],
        [⟨none, .finalStatus, rpcStatusOk, [], []⟩]) := by decide
  obtain ⟨c, hc, hc'⟩ := Option.map_eq_some_iff.1 hrun
  obtain ⟨hcalls, hlog⟩ := Prod.mk.inj hc'
  refine ⟨c, hc, ?_, _, hlog ▸ List.mem_singleton_self _, rfl, rfl⟩
  have hmem : [(true, Status.errState)] ∈ c.results.map fun res => res.calls.map fun call =>
      (call.1.latches, call.2) := by
    rw [hcalls]
    exact List.mem_cons_of_mem _ (List.mem_singleton_self _)
  obtain ⟨res, hres, hmap⟩ := List.mem_map.1 hmem
  have hpair : (true, Status.errState) ∈ res.calls.map fun call => (call.1.latches, call.2) := by
    rw [hmap]
    exact List.mem_singleton_self _
  obtain ⟨⟨k, ret⟩, hcall, heq⟩ := List.mem_map.1 hpair
  obtain ⟨hlatch, hret⟩ := Prod.mk.inj heq
  exact ⟨res, hres, k, ret, hcall, hlatch, fun hok => nomatch hret.symm.trans hok⟩

end Trpc
