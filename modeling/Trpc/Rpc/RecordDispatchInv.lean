import Trpc.Rpc.RecordDispatch

/-!
# What a call sends

The invariant of one call has two parts.  `Past` relates the history to itself
and to the jobs that are still to come: what was accepted, offered, published
and returned.  It holds in every state.  `Live` is about a call whose end is not
chosen yet; it says where the messages are that are offered and not sent, and
that a call with a failed reply can only end with an error.
-/

namespace Trpc

open List Option

/-! ## Messages -/

/-- The message of a command, if it is one. -/
def ProducerCommand.data (command : ProducerCommand) : List (List UInt8) :=
  if command.kind = .message then [(command.body.map ProducerBody.data).getD []] else []

/-- The message of a record, if it is one. -/
def SentRecord.data (record : SentRecord) : List (List UInt8) :=
  if record.kind = .message then [record.body] else []

/-- The message that waits in a mailbox. -/
def Producer.data (p : Producer) : List (List UInt8) :=
  p.command.toList.flatMap ProducerCommand.data

/-- The bodies of a batch that succeeded. -/
def HandlerResult.offers (res : HandlerResult) : List (List UInt8) :=
  if res.reply.status = rpcStatusOk then res.reply.bodies else []

/-- A batch of which an append or metadata call failed. -/
def HandlerResult.Spoiled (res : HandlerResult) : Prop :=
  ∃ k ret, (k, ret) ∈ res.calls ∧ k.latches = true ∧ ret ≠ .ok

/-- A FINAL that says that all went well. -/
def SentRecord.Succeeds (record : SentRecord) : Prop :=
  record.kind = .finalStatus ∧ record.status = rpcStatusOk

/-- The record is one that the reply of the handler gives.  Of a reply that
failed only the error status is sent. -/
structure SentRecord.Fair (record : SentRecord) (reply : RecordReply) : Prop where
  initial : record.kind = .initialMetadata → record.metadata ≠ [] →
    reply.initial = some record.metadata
  trailing : record.kind = .finalStatus → record.metadata ≠ [] →
    reply.trailing = some record.metadata
  message : record.kind = .message → record.metadata = []
  failed : reply.failed = true → record.kind = .finalStatus ∧
    record.status ≠ rpcStatusOk ∧ record.body = [] ∧ record.metadata = []

/-- A reply that no handler has touched. -/
structure RecordReply.Blank (r : RecordReply) : Prop where
  bodies : r.bodies = []
  initial : r.initial = none
  trailing : r.trailing = none
  count : r.count = 0
  failed : r.failed = false

theorem RecordReply.Blank.ok {r : RecordReply} (h : r.Blank) : r.Ok where
  counted := by rw [h.bodies, h.count, length_nil]
  handedOver := fun _ => h.bodies
  latched := fun hfailed => nomatch h.failed.symm.trans hfailed

/-- A task of a call.  `async` and `producer` are the call's own. -/
structure DispatchJob.TaskOk (async : Bool) (producer : Option Producer)
    (results : List HandlerResult) (job : DispatchJob) : Prop where
  idle : job.worked = none → job.reply.Blank ∧ job.staged = none
  ran : job.worked = some .ok → job.reply.Returned
  snapshot : async = true → job.reply.asynchronous = true ∧ job.staged = none
  staged : job.staged.isSome = true → job.reply.asynchronous = true ∧ producer = none
  quiet : ∀ p, job.staged = some p → p.inSend = false
  result : job.worked ≠ none → (∃ res ∈ results, res.id = job.id) ∧
    ∀ res ∈ results, res.id = job.id → res.reply = job.reply

/-- A reply that the owner sends. -/
structure DispatchJob.ReadyOk (results : List HandlerResult) (job : DispatchJob) : Prop where
  refused : job.reply.status ≠ rpcStatusOk → job.reply.finished = true ∧ job.reply.bodies = []
  known : ∃ res ∈ results, res.id = job.id
  initial : ∀ res ∈ results, res.id = job.id →
    job.reply.initial = none ∨ job.reply.initial = res.reply.initial
  trailing : ∀ res ∈ results, res.id = job.id →
    job.reply.trailing = none ∨ job.reply.trailing = res.reply.trailing
  failed : ∀ res ∈ results, res.id = job.id → res.reply.failed = true →
    job.reply.status ≠ rpcStatusOk ∧ job.reply.initial = none ∧ job.reply.trailing = none

variable {job : DispatchJob} {next : RpcRecordState} {record : SentRecord}

namespace DispatchCall

variable {c c' : DispatchCall}

/-- The messages that were accepted. -/
def messages (c : DispatchCall) : List (List UInt8) :=
  c.log.flatMap SentRecord.data

/-- The messages that the producer published. -/
def produced (c : DispatchCall) : List (List UInt8) :=
  c.published.flatMap ProducerCommand.data

/-- The messages that wait: those of the reply, and the one in the mailbox. -/
def waiting (c : DispatchCall) : List (List UInt8) :=
  (c.ready.map fun job => job.reply.bodies).getD [] ++ (c.mailbox.map Producer.data).getD []

/-- The jobs whose handlers have not run, oldest first. -/
def upcoming (c : DispatchCall) : List Nat :=
  ((c.submitted.toList.filter fun job => job.worked.isNone) ++ c.queue).map DispatchJob.id

/-- The kinds of the accepted records, for a call in the given state. -/
def Grammar (state : RpcRecordState) (terminal : Bool) (kinds : List RpcRecordKind) : Prop :=
  (state.responseHeaders = false → state.responseMessages = 0) ∧
    ∃ final, kinds = (if state.responseHeaders then [.initialMetadata] else []) ++
      List.replicate state.responseMessages .message ++ final ∧
    (final = [] ∨ final = [.finalStatus] ∧ terminal = true)

/-- What holds of the history in every state. -/
structure Past (c : DispatchCall) : Prop where
  grammar : Grammar c.state c.terminal (c.log.map SentRecord.kind)
  sound : c.messages <+: c.offered ++ c.produced
  order : (c.results.map HandlerResult.id ++ c.upcoming).Pairwise (· < ·)
  below : ∀ id ∈ c.results.map HandlerResult.id ++ c.upcoming, id < c.nextId
  fresh : ∀ job ∈ c.queue, job.reply.Blank ∧ job.worked = none ∧ job.staged = none
  task : ∀ job, c.submitted = some job → job.TaskOk c.asynchronous c.producer c.results
  sources : ∀ record ∈ c.log, ∀ id, record.source = some id →
    (∃ res ∈ c.results, res.id = id) ∧ ∀ res ∈ c.results, res.id = id → record.Fair res.reply
  unproduced : c.asynchronous = false → (∀ job, c.submitted = some job → job.staged = none) →
    c.published = [] ∧ c.building = none
  failed : ∀ n, c.failedAt = some n → n ≤ c.log.length ∧ ∀ record ∈ c.log.drop n, ¬ record.Succeeds
  building : c.building.isSome = true → ∀ p, c.mailbox = some p → p.building = true ∧ p.kind = none
  quiet : ∀ p, c.producer = some p → p.inSend = false ∧ c.asynchronous = true
  offers : c.offered ++ c.submitted.toList.flatMap DispatchJob.offers =
    c.results.flatMap HandlerResult.offers
  latched : ∀ res ∈ c.results, ∀ k ret, (k, ret) ∈ res.calls → k.latches = true → ret ≠ .ok →
    res.reply.failed = true
  given : ∀ res ∈ c.results, res.reply.Given res.calls
  withheld : ∀ res ∈ c.results, res.reply.failed = true → res.offers = []
  noted : ∀ res ∈ c.results, res.reply.failed = true →
    c.failedAt ≠ none ∨ ∃ job, c.submitted = some job ∧ job.id = res.id
  sealed : ∀ record ∈ c.log, record.Succeeds → record.source.isSome = true →
    c.terminal = true ∧ c.submitted = none ∧ ∀ res ∈ c.results, res.reply.failed = false

/-- No more messages are sent. -/
def Blocked (c : DispatchCall) : Prop :=
  (∃ job, c.ready = some job ∧ job.reply.finished = true ∧ job.reply.bodies = []) ∨
    c.producerFailed = true

/-- What holds while the end of the call is not chosen. -/
structure Live (c : DispatchCall) : Prop where
  stopped : c.stopping = false
  whole : c.Blocked ∨ c.messages ++ c.waiting = c.offered ++ c.produced
  alone : ∀ job, c.ready = some job → c.submitted = none ∧ c.producer = none
  ready : ∀ job, c.ready = some job → job.ReadyOk c.results
  rejected : c.producerFailed = true → c.building = none ∧ ∃ p, c.producer = some p ∧
    p.kind = some .finalStatus ∧ p.status ≠ rpcStatusOk ∧ p.finished = true
  dying : c.failedAt ≠ none → (∃ job, c.ready = some job ∧ job.reply.finished = true ∧
      job.reply.status ≠ rpcStatusOk) ∨ c.producerFailed = true

structure Ok (c : DispatchCall) : Prop where
  past : c.Past
  live : c.terminal = false → c.cleanup = false → c.Live

/-! ## The end of a call -/

theorem Past.ended (h : c.Past) (status : UInt32) :
    Past { c with terminal := true, status := status } :=
  { h with
    grammar := by
      obtain ⟨hheaders, final, hkinds, hfinal⟩ := h.grammar
      exact ⟨hheaders, final, hkinds, hfinal.imp_right fun hf => ⟨hf.1, rfl⟩⟩
    sealed := fun record hrecord hsucceeds hsource =>
      ⟨rfl, (h.sealed record hrecord hsucceeds hsource).2⟩ }

theorem Past.abort (h : c.Past) (status : UInt32) : (c.abort status).Past := by
  unfold DispatchCall.abort
  split
  · exact h
  · exact h.ended status

theorem abort_terminal (c : DispatchCall) (status : UInt32) : (c.abort status).terminal = true := by
  unfold DispatchCall.abort
  split
  · assumption
  · rfl

theorem Past.ok_of_terminal (h : c.Past) (hterminal : c.terminal = true) : c.Ok :=
  ⟨h, fun hlive => nomatch hlive.symm.trans hterminal⟩

/-- A producer goes, or is closed and stays. -/
theorem closeProducer_cases (c : DispatchCall) : c.closeProducer = (true, c) ∧ c.producer = none ∨
      c.closeProducer = (true, { c with producer := none }) ∨
      ∃ p, c.closeProducer.1 = false ∧ c.producer = some p ∧
        c.closeProducer.2 = { c with producer := some p.close.2.1 } ∧ p.inSend = true := by
  unfold DispatchCall.closeProducer
  cases hp : c.producer with
  | none => exact .inl ⟨rfl, rfl⟩
  | some p =>
    dsimp only
    have hclose : p.inSend = true ∧
          p.close = (.again, { p with closed := true, active := false }, none) ∨
        p.inSend = false ∧ ∃ q b, p.close = (.ok, q, b) := by
      unfold Producer.close
      dsimp only
      cases hsend : p.inSend with
      | true => exact .inl ⟨rfl, rfl⟩
      | false => exact .inr ⟨rfl, _, _, rfl⟩
    rcases hclose with ⟨hsend, hclose⟩ | ⟨_, q, b, hclose⟩
    · rw [hclose]
      exact .inr (.inr ⟨p, rfl, rfl, by rw [hclose], hsend⟩)
    · rw [hclose]
      exact .inr (.inl rfl)

/-- A call without its producer. -/
theorem Past.unplug (h : c.Past) : Past { c with producer := none } :=
  { h with
    task := fun job hjob =>
      { h.task job hjob with staged := fun hs => ⟨((h.task job hjob).staged hs).1, rfl⟩ }
    building := fun hb p hp => by
      change (c.submitted.bind DispatchJob.staged) = some p at hp
      obtain ⟨job, hjob, hstaged⟩ := bind_eq_some_iff.1 hp
      refine h.building hb p ?_
      unfold mailbox
      rw [((h.task job hjob).staged (by rw [hstaged]; rfl)).2]
      exact hp
    quiet := fun _ hp => by cases hp }

theorem Past.drop (h : c.Past) : Past { c with queue := [] } :=
  { h with
    order := by
      refine h.order.sublist ?_
      refine List.Sublist.append_left (List.Sublist.map _ ?_) _
      exact List.Sublist.append_left (nil_sublist _) _
    below := fun id hid => by
      refine h.below id ?_
      rcases mem_append.1 hid with hid | hid
      · exact mem_append_left _ hid
      refine mem_append_right _ ?_
      unfold upcoming at hid ⊢
      rw [append_nil] at hid
      rw [map_append]
      exact mem_append_left _ hid
    fresh := fun job hjob => absurd hjob not_mem_nil }

theorem Past.settle (h : c.Past) : c.settle.Past := by
  unfold DispatchCall.settle
  split
  · exact h
  extract_lets status
  have h : { c with status := status }.Past := { h with grammar := h.grammar }
  rcases closeProducer_cases { c with status := status } with
    ⟨hclose, _⟩ | hclose | ⟨p, _, hp, _, hsend⟩
  · rw [hclose]
    exact { h.drop with grammar := h.grammar }
  · rw [hclose]
    exact { h.unplug.drop with grammar := h.grammar }
  · cases (h.quiet p hp).1.symm.trans hsend

theorem settle_of_live (hlive : c.terminal = false) : c.settle = c := by
  unfold DispatchCall.settle
  rw [if_pos hlive]

theorem settle_terminal (c : DispatchCall) : c.settle.terminal = c.terminal := by
  unfold DispatchCall.settle
  split
  · rfl
  extract_lets status
  rcases closeProducer_cases { c with status := status } with
    ⟨hclose, _⟩ | hclose | ⟨p, hfst, _, hsnd, _⟩
  · rw [hclose]
  · rw [hclose]
  · rw [Prod.ext (y := (false, _)) hfst hsnd]

/-- What settles is as good as what is settled. -/
theorem Ok.settle (h : c.Ok) : c.settle.Ok := by
  cases hterminal : c.terminal with
  | false =>
    rw [settle_of_live hterminal]
    exact h
  | true => exact h.past.settle.ok_of_terminal (by rw [settle_terminal, hterminal])

/-- An end that was chosen, and settled. -/
theorem Past.finish (h : c.Past) (status : UInt32) : (c.abort status).settle.Ok :=
  ((h.abort status).ok_of_terminal (c.abort_terminal status)).settle

/-! ## Sending -/

/-- What a response does to the state of a call. -/
theorem stateNext_response {sizeMax : Nat} {state : RpcRecordState} {record : RpcRecordHeader}
    (hnext : rpcRecordStateNext sizeMax state .response record = .ok next) :
    record.kind = RpcRecordKind.initialMetadata.code ∧ state.responseHeaders = false ∧
        next = { state with responseHeaders := true } ∨
      record.kind = RpcRecordKind.message.code ∧ state.responseHeaders = true ∧
        next = { state with responseMessages := state.responseMessages + 1 } ∨
      record.kind = RpcRecordKind.finalStatus.code ∧
        next = { state with terminal := true, finalStatus := record.status } := by
  unfold rpcRecordStateNext at hnext
  iterate 3
    split at hnext
    · cases hnext
  split at hnext
  · unfold rpcRecordStateUnopened at hnext
    split at hnext
    next h => exact absurd h.2 (by decide)
    next =>
      split at hnext
      next h =>
        cases hnext
        exact .inr (.inr ⟨h.1, rfl⟩)
      next => cases hnext
  · dsimp only at hnext
    unfold rpcRecordStateResponse at hnext
    split at hnext
    next hkind =>
      split at hnext
      · cases hnext
      next hheaders =>
        cases hnext
        exact .inl ⟨hkind, Bool.eq_false_iff.2 hheaders, rfl⟩
    next =>
      split at hnext
      next hkind =>
        split at hnext
        · cases hnext
        next hopen =>
          cases hnext
          refine .inr (.inl ⟨hkind, ?_, rfl⟩)
          by_contra hheaders
          exact hopen (.inl hheaders)
      next =>
        split at hnext
        next hkind =>
          split at hnext
          · cases hnext
          · cases hnext
            exact .inr (.inr ⟨hkind, rfl⟩)
        next => cases hnext

/-- A request leaves the response alone. -/
theorem stateNext_request {sizeMax : Nat} {state : RpcRecordState} {record : RpcRecordHeader}
    (hnext : rpcRecordStateNext sizeMax state .request record = .ok next) :
    next.responseHeaders = state.responseHeaders ∧
      next.responseMessages = state.responseMessages := by
  unfold rpcRecordStateNext at hnext
  iterate 3
    split at hnext
    · cases hnext
  split at hnext
  · unfold rpcRecordStateUnopened at hnext
    split at hnext
    · cases hnext
      exact ⟨rfl, rfl⟩
    split at hnext
    next h => exact absurd h.2.1 (by decide)
    next => cases hnext
  · dsimp only at hnext
    unfold rpcRecordStateRequest at hnext
    split at hnext
    · cases hnext
    split at hnext
    · split at hnext
      · cases hnext
      · cases hnext
        exact ⟨rfl, rfl⟩
    split at hnext
    · split at hnext
      · cases hnext
      · cases hnext
        exact ⟨rfl, rfl⟩
    · cases hnext

theorem code_injective {a b : RpcRecordKind} (h : a.code = b.code) : a = b := by
  cases a <;> cases b <;> first | rfl | exact absurd h (by decide)

theorem stateNext_open {sizeMax : Nat} {state : RpcRecordState} {direction : RpcRecordDirection}
    {record : RpcRecordHeader}
    (hnext : rpcRecordStateNext sizeMax state direction record = .ok next) :
    state.terminal = false := by
  unfold rpcRecordStateNext at hnext
  split at hnext
  · cases hnext
  split at hnext
  · cases hnext
  next hopen => exact Bool.eq_false_iff.2 hopen

/-- An accepted record continues the grammar. -/
theorem Grammar.accept (h : Grammar c.state c.terminal (c.log.map SentRecord.kind))
    (hlive : c.terminal = false)
    (hnext : rpcRecordStateNext c.config.sizeMax c.state .response (c.header record) =
      .ok next) : Grammar next next.terminal ((c.log ++ [record]).map SentRecord.kind) ∧
      (next.terminal = true ↔ record.kind = .finalStatus) := by
  obtain ⟨hcount, final, hkinds, hfinal⟩ := h
  obtain rfl : final = [] := by
    rcases hfinal with hfinal | ⟨_, hterminal⟩
    · exact hfinal
    · cases hlive.symm.trans hterminal
  rw [append_nil] at hkinds
  have hstate := stateNext_open hnext
  have hlog : (c.log ++ [record]).map SentRecord.kind =
      (if c.state.responseHeaders then [.initialMetadata] else []) ++
        replicate c.state.responseMessages .message ++ [record.kind] := by
    rw [map_append, hkinds, map_singleton]
  rcases stateNext_response hnext with ⟨hkind, hheaders, rfl⟩ | ⟨hkind, hheaders, rfl⟩ |
    ⟨hkind, rfl⟩
  · have hrecord : record.kind = .initialMetadata := code_injective hkind
    refine ⟨⟨fun hno => (by cases hno), [], ?_, .inl rfl⟩, ?_⟩
    · rw [hlog, hheaders, hcount hheaders, hrecord]
      rfl
    · rw [hrecord]
      simp [hstate]
  · have hrecord : record.kind = .message := code_injective hkind
    refine ⟨⟨fun h => absurd (hheaders.symm.trans h) (by decide), [], ?_, .inl rfl⟩, ?_⟩
    · rw [hlog, hrecord, replicate_succ', append_nil, append_assoc]
    · rw [hrecord]
      simp [hstate]
  · have hrecord : record.kind = .finalStatus := code_injective hkind
    exact ⟨⟨hcount, [.finalStatus], by rw [hlog, hrecord], .inr ⟨rfl, rfl⟩⟩, by simp [hrecord]⟩

/-- What a send may do. -/
theorem send_cases (c : DispatchCall) (record : SentRecord) (answer : DispatchAnswer) :
    (∃ ret, ret ≠ .ok ∧ (c.send record answer = (ret, c) ∨
        ∃ status, c.send record answer = (ret, c.abort status))) ∨
      c.terminal = false ∧ ∃ next,
        rpcRecordStateNext c.config.sizeMax c.state .response (c.header record) = .ok next ∧
        (c.send record answer = (.ok, c.accept record next) ∨
          ∃ status, c.send record answer = (.ok, (c.accept record next).abort status)) := by
  unfold DispatchCall.send
  split
  · exact .inl ⟨.errState, by decide, .inl rfl⟩
  next hlive =>
    by_cases hret : answer.status ≠ .ok
    · simp only [if_pos hret]
      refine .inl ⟨answer.status, hret, ?_⟩
      cases answer.ends with
      | none => exact .inl rfl
      | some status => exact .inr ⟨status, rfl⟩
    · simp only [if_neg hret]
      cases hnext : rpcRecordStateNext c.config.sizeMax c.state .response (c.header record) with
      | error ret =>
        refine .inl ⟨ret, fun hok => rpcRecordStateNext_ne_ok (hok ▸ hnext), ?_⟩
        cases answer.ends with
        | none => exact .inl rfl
        | some status => exact .inr ⟨status, rfl⟩
      | ok next =>
        refine .inr ⟨Bool.eq_false_iff.2 hlive, next, rfl, ?_⟩
        cases answer.ends with
        | none => exact .inl rfl
        | some status => exact .inr ⟨status, rfl⟩

/-- The history takes in a record that continues it. -/
theorem Past.accept (h : c.Past) (hlive : c.terminal = false)
    (hnext : rpcRecordStateNext c.config.sizeMax c.state .response (c.header record) =
      .ok next) (hsound : c.messages ++ record.data <+: c.offered ++ c.produced)
    (hfair : ∀ id, record.source = some id → (∃ res ∈ c.results, res.id = id) ∧
      ∀ res ∈ c.results, res.id = id → record.Fair res.reply)
    (hfailed : c.failedAt ≠ none → ¬ record.Succeeds)
    (hsealed : record.Succeeds → record.source.isSome = true →
      c.submitted = none ∧ ∀ res ∈ c.results, res.reply.failed = false) :
    (c.accept record next).Past :=
  { h with
    grammar := (h.grammar.accept hlive hnext).1
    sound := by
      show (c.log ++ [record]).flatMap SentRecord.data <+: c.offered ++ c.produced
      rw [flatMap_append, flatMap_singleton]
      exact hsound
    sources := fun e he id hid => by
      rcases Lib.mem_concat.1 he with he | rfl
      · exact h.sources e he id hid
      · exact hfair id hid
    failed := fun n hn => by
      obtain ⟨hle, hcalm⟩ := h.failed n hn
      refine ⟨?_, fun e he => ?_⟩
      · show n ≤ (c.log ++ [record]).length
        rw [length_append]
        exact Nat.le_add_right_of_le hle
      · change e ∈ (c.log ++ [record]).drop n at he
        rw [drop_append_of_le_length hle] at he
        rcases Lib.mem_concat.1 he with he | rfl
        · exact hcalm e he
        · exact hfailed (ne_none_iff_exists'.2 ⟨n, hn⟩)
    sealed := fun e he hsucceeds hsource => by
      rcases Lib.mem_concat.1 he with he | rfl
      · cases hlive.symm.trans (h.sealed e he hsucceeds hsource).1
      · exact ⟨(h.grammar.accept hlive hnext).2.2 hsucceeds.1, hsealed hsucceeds hsource⟩ }

/-- A send that accepts a FINAL ends the call. -/
theorem accept_terminal (h : c.Past) (hlive : c.terminal = false)
    (hnext : rpcRecordStateNext c.config.sizeMax c.state .response (c.header record) =
      .ok next) : (c.accept record next).terminal = true ↔ record.kind = .finalStatus :=
  (h.grammar.accept hlive hnext).2

/-! ## The reply -/

/-- The next record of a reply. -/
theorem nextRecord_cases (c : DispatchCall) (job : DispatchJob) :
    c.nextRecord job = none ∧ job.reply.bodies = [] ∧ job.reply.finished = false ∨
      c.nextRecord job = some ⟨some job.id, .initialMetadata, rpcStatusOk, [],
          job.reply.initial.getD []⟩ ∧
        (job.reply.bodies ≠ [] ∨ job.reply.initial.isSome = true) ∨
      (∃ body rest, job.reply.bodies = body :: rest ∧
        c.nextRecord job = some ⟨some job.id, .message, rpcStatusOk, body, []⟩) ∨
      job.reply.bodies = [] ∧ job.reply.finished = true ∧
        c.nextRecord job = some ⟨some job.id, .finalStatus, job.reply.status, [],
          job.reply.trailing.getD []⟩ := by
  unfold nextRecord
  dsimp only
  split
  next hfirst => exact .inr (.inl ⟨rfl, hfirst.2⟩)
  next =>
    split
    next body rest hbodies => exact .inr (.inr (.inl ⟨body, rest, hbodies, rfl⟩))
    next hbodies =>
      split
      next hfinished => exact .inr (.inr (.inr ⟨hbodies, hfinished, rfl⟩))
      next hopen => exact .inl ⟨rfl, hbodies, Bool.eq_false_iff.2 hopen⟩

/-- The records of a reply are what its handler made of it. -/
theorem fair_of_ready (h : job.ReadyOk c.results) (hrecord : c.nextRecord job = some record)
    (id : Nat) (hid : record.source = some id) : (∃ res ∈ c.results, res.id = id) ∧
      ∀ res ∈ c.results, res.id = id → record.Fair res.reply := by
  have option : ∀ {own given : Option (List UInt8)}, own = none ∨ own = given →
      own.getD [] ≠ [] → given = some (own.getD []) := by
    intro own given hown hne
    cases own with
    | none => exact absurd rfl hne
    | some bytes => exact (hown.resolve_left (some_ne_none bytes)).symm
  rcases nextRecord_cases c job with ⟨hnone, _⟩ | ⟨hnext, hfirst⟩ |
    ⟨body, rest, hbodies, hnext⟩ | ⟨hbodies, _, hnext⟩
  · cases hnone.symm.trans hrecord
  all_goals
    cases hnext.symm.trans hrecord
    obtain rfl : job.id = id := some.inj hid
    refine ⟨h.known, fun res hres hid => ?_⟩
    have hfail := h.failed res hres hid
  · refine ⟨fun _ => option (h.initial res hres hid), nofun, nofun, fun hf => ?_⟩
    obtain ⟨hstatus, hnone, _⟩ := hfail hf
    rcases hfirst with hb | hi
    · exact absurd (h.refused hstatus).2 hb
    · rw [hnone] at hi
      cases hi
  · refine ⟨nofun, nofun, fun _ => rfl, fun hf => ?_⟩
    rw [(h.refused (hfail hf).1).2] at hbodies
    cases hbodies
  · refine ⟨nofun, fun _ => option (h.trailing res hres hid), nofun, fun hf => ?_⟩
    obtain ⟨hstatus, _, hnone⟩ := hfail hf
    exact ⟨rfl, hstatus, rfl, by rw [hnone]; rfl⟩

/-- With a reply to send the call has no other messages to send. -/
theorem Live.waiting_eq (h : c.Live) (hready : c.ready = some job) :
    c.waiting = job.reply.bodies := by
  obtain ⟨hsubmitted, hproducer⟩ := h.alone job hready
  simp [DispatchCall.waiting, mailbox, hready, hsubmitted, hproducer]

theorem Live.unrejected (h : c.Live) (hready : c.ready = some job) : c.producerFailed = false := by
  by_contra hfailed
  obtain ⟨_, p, hp, _⟩ := h.rejected (Bool.not_eq_false _ ▸ hfailed)
  cases (h.alone job hready).2.symm.trans hp

/-- What a record of the reply adds is a message that waits. -/
theorem Live.record_sound (h : c.Live) (hpast : c.Past) (hready : c.ready = some job)
    (hrecord : c.nextRecord job = some record) :
    c.messages ++ record.data <+: c.offered ++ c.produced := by
  rcases nextRecord_cases c job with ⟨hnone, _⟩ | ⟨hnext, _⟩ | ⟨body, rest, hbodies, hnext⟩ |
    ⟨_, _, hnext⟩
  · cases hnone.symm.trans hrecord
  · cases hnext.symm.trans hrecord
    rw [show SentRecord.data _ = [] from rfl, append_nil]
    exact hpast.sound
  · cases hnext.symm.trans hrecord
    rcases h.whole with (⟨other, hother, _, hempty⟩ | hfailed) | hwhole
    · cases hready.symm.trans hother
      rw [hempty] at hbodies
      cases hbodies
    · cases (h.unrejected hready).symm.trans hfailed
    · rw [h.waiting_eq hready, hbodies] at hwhole
      refine ⟨rest, ?_⟩
      rw [← hwhole, show SentRecord.data _ = [body] from rfl, append_assoc,
        singleton_append]
  · cases hnext.symm.trans hrecord
    rw [show SentRecord.data _ = [] from rfl, append_nil]
    exact hpast.sound

/-- A call with a failed reply sends no OK. -/
theorem Live.record_fails (h : c.Live) (hready : c.ready = some job)
    (hrecord : c.nextRecord job = some record) (hfailed : c.failedAt ≠ none) :
    ¬ record.Succeeds := by
  rcases h.dying hfailed with ⟨other, hother, _, hstatus⟩ | hrejected
  · cases hready.symm.trans hother
    rintro ⟨hkind, hok⟩
    rcases nextRecord_cases c job with ⟨hnone, _⟩ | ⟨hnext, _⟩ | ⟨_, _, _, hnext⟩ | ⟨_, _, hnext⟩
    · cases hnone.symm.trans hrecord
    · cases hnext.symm.trans hrecord
      exact RpcRecordKind.noConfusion hkind
    · cases hnext.symm.trans hrecord
      exact RpcRecordKind.noConfusion hkind
    · cases hnext.symm.trans hrecord
      exact hstatus hok
  · cases (h.unrejected hready).symm.trans hrejected

end DispatchCall

end Trpc
