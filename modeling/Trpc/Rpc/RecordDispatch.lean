import Trpc.Lib.Runs
import Trpc.Rpc.Producer
import Trpc.Rpc.RecordReply
import Trpc.Rpc.RecordState

/-!
# One call of the dispatcher

`rpc/rpc_record_dispatch.c`, for one call.  Every record that arrives becomes a
job.  The jobs run one at a time on an executor, and the owner thread sends the
reply of a job before it submits the next one.  A handler may instead export a
producer; from then on the messages come from the producer's mailbox, and the
jobs go on beside it.

A step is what one thread does: the owner receives, pumps, takes a finished task
back or ends the call, the worker runs a handler, an application thread uses the
producer.  What the lower layers answer is part of the step: the clock
(`expired`), the executor (`submit`), the transport (`DispatchAnswer`), the memory.

The fields from `log` on are history: what the transport accepted, the bodies of
the replies that were OK, what the producer published, what the handlers did,
and where the log was when a reply that had failed came back.
-/

namespace Trpc

/-- `struct tr_dispatch_job`.  `worked` is the result of the task once its
handler has run, and `staged` the producer that the handler exported. -/
structure DispatchJob where
  id : Nat
  kind : RpcRecordKind
  reply : RecordReply
  worked : Option Status := none
  staged : Option Producer := none

/-- The bodies of a job whose reply is OK. -/
def DispatchJob.offers (job : DispatchJob) : List (List UInt8) :=
  if job.worked = some .ok ∧ job.reply.status = rpcStatusOk then job.reply.bodies else []

/-- A record that the transport accepted, with the job it comes from.  The
records of the producer have none. -/
structure SentRecord where
  source : Option Nat
  kind : RpcRecordKind
  status : UInt32
  body : List UInt8
  metadata : List UInt8
  deriving DecidableEq, Repr

/-- What the handler of a job did: its calls with their results, and the reply
that came of it. -/
structure HandlerResult where
  id : Nat
  calls : List (ReplyCall × Status)
  reply : RecordReply

/-- The limits of a call: `struct tr_rpc_record_dispatch_config` and the method. -/
structure DispatchConfig where
  sizeMax : Nat
  maxPending : Nat
  maxReplyBytes : Nat
  maxReplies : Nat
  maxResponseBytes : Nat
  responseCodec : UInt32

/-- `struct tr_dispatch_slot`. -/
structure DispatchCall where
  config : DispatchConfig
  state : RpcRecordState
  queue : List DispatchJob
  submitted : Option DispatchJob
  ready : Option DispatchJob
  producer : Option Producer
  building : Option ProducerRequest
  status : UInt32
  terminal : Bool
  notified : Bool
  headersSent : Bool
  finalAccepted : Bool
  asynchronous : Bool
  producerTurn : Bool
  producerFailed : Bool
  stopping : Bool
  cleanup : Bool
  nextId : Nat
  log : List SentRecord
  offered : List (List UInt8)
  published : List ProducerCommand
  results : List HandlerResult
  failedAt : Option Nat

/-- What the transport answers to a send.  `ends` is set if the stream came to
its end meanwhile. -/
structure DispatchAnswer where
  status : Status := .ok
  ends : Option UInt32 := none

namespace DispatchCall

/-- `tr_dispatch_local_abort`, and any other end of the route. -/
def abort (c : DispatchCall) (status : UInt32) : DispatchCall :=
  if c.terminal then c else { c with terminal := true, status := status }

/-- The jobs that a call holds: `pending`. -/
def pending (c : DispatchCall) : Nat :=
  c.queue.length + c.submitted.toList.length + c.ready.toList.length

/-- `tr_dispatch_close_producer`.  The answer says whether no producer is left. -/
def closeProducer (c : DispatchCall) : Bool × DispatchCall :=
  match c.producer with
  | none => (true, c)
  | some p =>
    match p.close with
    | (.ok, _, _) => (true, { c with producer := none })
    | (_, p, _) => (false, { c with producer := some p })

/-- `tr_dispatch_settle`. -/
def settle (c : DispatchCall) : DispatchCall :=
  if c.terminal = false then c
  else
    -- The cleanup cancels a call that was not told of its end, unless the status went out.
    let status :=
      if c.cleanup ∧ c.notified = false ∧ c.finalAccepted = false then rpcStatusCancelled
      else c.status
    match { c with status := status }.closeProducer with
    | (false, c) => c
    | (true, c) => { c with
        queue := []
        ready := none
        notified := c.notified || c.submitted.isNone }

/-! ## Sending -/

/-- The header of a record. -/
def header (c : DispatchCall) (record : SentRecord) : RpcRecordHeader where
  kind := record.kind.code
  serviceId := 0
  methodId := 0
  codecId := if record.kind = .message then c.config.responseCodec else 0
  compression := 0
  encodedSize := UInt32.ofNat record.body.length
  decodedSize := UInt32.ofNat record.body.length
  metadataSize := UInt32.ofNat record.metadata.length
  status := record.status
  remainingTimeoutNs := 0

/-- The transport takes the record, and a FINAL ends the route. -/
def accept (c : DispatchCall) (record : SentRecord) (next : RpcRecordState) : DispatchCall :=
  { c with
    state := next
    log := c.log ++ [record]
    terminal := next.terminal
    status := if next.terminal then next.finalStatus else c.status }

/-- `tr_rpc_record_router_send_on_owner`. -/
def send (c : DispatchCall) (record : SentRecord) (answer : DispatchAnswer) :
    Status × DispatchCall :=
  if c.terminal then (.errState, c)
  else
    let (ret, c) :=
      if answer.status ≠ .ok then (answer.status, c)
      else
        match rpcRecordStateNext c.config.sizeMax c.state .response (c.header record) with
        | .error ret => (ret, c)
        | .ok next => (.ok, c.accept record next)
    match answer.ends with
    | none => (ret, c)
    | some status => (ret, c.abort status)

/-- The status of a send that failed for good. -/
def sendFailure : Status → UInt32
  | .errBadLength => rpcStatusInvalidArgument
  | .errNomem => rpcStatusResourceExhausted
  | _ => rpcStatusUnavailable

/-- The next record of a reply, if there is one. -/
def nextRecord (c : DispatchCall) (job : DispatchJob) : Option SentRecord :=
  let reply := job.reply
  if c.headersSent = false ∧ (reply.bodies ≠ [] ∨ reply.initial.isSome) then
    some ⟨some job.id, .initialMetadata, rpcStatusOk, [], reply.initial.getD []⟩
  else match reply.bodies with
    | body :: _ => some ⟨some job.id, .message, rpcStatusOk, body, []⟩
    | [] =>
      if reply.finished then
        some ⟨some job.id, .finalStatus, reply.status, [], reply.trailing.getD []⟩
      else none

/-- A record of the reply was accepted. -/
def sent (c : DispatchCall) (job : DispatchJob) : RpcRecordKind → DispatchCall
  | .initialMetadata => { c with
      headersSent := true
      ready := some { job with reply := { job.reply with initial := none } } }
  | .message => { c with
      ready := some { job with reply := { job.reply with bodies := job.reply.bodies.tail } } }
  | _ => { c with
      finalAccepted := true
      ready := some { job with reply := { job.reply with trailing := none } } }

/-- A record of the reply was refused for good.  A cardinality error is
explained by an error FINAL. -/
def refused (c : DispatchCall) (job : DispatchJob) (ret : Status) : DispatchCall :=
  if ret = .errState ∧ c.terminal = false ∧
      ¬ (job.reply.finished ∧ job.reply.status = rpcStatusInternal) then
    { c with
      ready := some { job with reply := { job.reply with
        bodies := []
        finished := true
        status := rpcStatusInternal } }
      queue := [] }
  else c.abort (sendFailure ret)

/-- `tr_dispatch_step` for a call with a reply to send. -/
def replyStep (c : DispatchCall) (job : DispatchJob) (answer : DispatchAnswer) : DispatchCall :=
  match c.nextRecord job with
  | none => { c with ready := none }
  | some record =>
    match c.send record answer with
    | (.ok, c) => (c.sent job record.kind).settle
    | (.again, c) => c.settle
    | (ret, c) => (c.refused job ret).settle

/-! ## The producer -/

/-- The record that the command of a producer is sent as.  A message that comes
first is preceded by an empty INITIAL. -/
def commandRecord (c : DispatchCall) (command : ProducerCommand) : SentRecord :=
  if command.kind = .message then
    if c.headersSent then
      ⟨none, .message, command.status, (command.body.map ProducerBody.data).getD [],
        command.metadata⟩
    else ⟨none, .initialMetadata, command.status, [], command.metadata⟩
  else ⟨none, command.kind, command.status, [], command.metadata⟩

/-- The command was refused for good. -/
def commandRefused (c : DispatchCall) (p : Producer) (command : ProducerCommand)
    (ret : Status) : DispatchCall :=
  if ret = .errState ∧ c.terminal = false ∧
      ¬ (command.kind = .finalStatus ∧ command.status = rpcStatusInternal) then
    match p.fail rpcStatusInternal with
    | (.ok, p, _) => { c with producer := some p, producerFailed := true, queue := [] }
    | (.errClosed, p, _) =>
      { c with producer := some p, queue := [] }.abort rpcStatusCancelled
    | (_, p, _) => { c with producer := some p, queue := [] }.abort rpcStatusInternal
  else { c with producer := some p }.abort (sendFailure ret)

/-- What follows the send of a command. -/
def commandSent (c : DispatchCall) (p : Producer) (command : ProducerCommand)
    (kind : RpcRecordKind) (ret : Status) : DispatchCall :=
  let p := p.complete (ret = .ok ∧ kind = command.kind)
  match ret with
  | .ok => { c with
      producer := some p
      headersSent := c.headersSent || kind = .initialMetadata
      finalAccepted := c.finalAccepted || kind = .finalStatus }
  | .again => { c with producer := some p }
  | ret => c.commandRefused p command ret

/-- `tr_dispatch_producer_step`. -/
def producerStep (c : DispatchCall) (p : Producer) (busy : Bool) (answer : DispatchAnswer) :
    Bool × DispatchCall :=
  match p.take busy with
  | .error .again => (false, c)
  | .error .errClosed => (true, (c.abort rpcStatusCancelled).settle)
  | .error _ => (true, (c.abort rpcStatusInternal).settle)
  | .ok (command, p) =>
    let record := c.commandRecord command
    let (ret, c) := c.send record answer
    let c := (c.commandSent p command record.kind ret).settle
    (ret ≠ .again || c.terminal, c)

/-! ## The owner -/

/-- `tr_dispatch_submit`. -/
def submit (c : DispatchCall) (answer : Status) : Bool × DispatchCall :=
  match c.queue with
  | [] => (false, c)
  | job :: rest =>
    if c.terminal ∨ c.producerFailed ∨ c.submitted.isSome ∨ c.stopping then (false, c)
    else
      match answer with
      | .ok => (true, { c with
          queue := rest
          submitted := some { job with reply := { job.reply with
            headersSent := c.headersSent
            asynchronous := c.asynchronous } } })
      | .again => (false, c)
      | _ => (true, (c.abort rpcStatusUnavailable).settle)

/-- What the lower layers answer to a pump. -/
structure PumpAnswer where
  expired : Option UInt32 := none
  busy : Bool := false
  send : DispatchAnswer := {}
  submit : Status := .ok

/-- The owner's turn if no reply waits: producer and tasks take turns. -/
def idleStep (c : DispatchCall) (answer : PumpAnswer) : DispatchCall :=
  let first := c.producer.isSome && (c.producerTurn || c.submitted.isSome || c.queue.isEmpty)
  let (moved, c) := match c.producer with
    | some p => if first then c.producerStep p answer.busy answer.send else (false, c)
    | none => (false, c)
  if moved then { c with producerTurn := false }
  else
    match c.submit answer.submit with
    | (true, c) => { c with producerTurn := true }
    | (false, c) =>
      match c.producer with
      | some p =>
        if first then { c with producerTurn := false }
        else { (c.producerStep p answer.busy answer.send).2 with producerTurn := false }
      | none => { c with producerTurn := false }

/-- `tr_dispatch_step`. -/
def pump (c : DispatchCall) (answer : PumpAnswer) : DispatchCall :=
  if c.terminal then c.settle
  else
    match answer.expired with
    | some status => (c.abort status).settle
    | none =>
      if (c.producer.map Producer.abandoned).getD false then
        (c.abort rpcStatusCancelled).settle
      else
        match c.ready with
        | some job => c.replyStep job answer.send
        | none => c.idleStep answer

/-- What the lower layers answer while a record is received. -/
structure ReceiveAnswer where
  expired : Option UInt32 := none
  refused : Option UInt32 := none

/-- A fresh job. -/
def job (c : DispatchCall) (kind : RpcRecordKind) : DispatchJob where
  id := c.nextId
  kind := kind
  reply := {
    limit := c.config.maxReplyBytes
    maxCount := c.config.maxReplies
    maxMessage := c.config.maxResponseBytes }

/-- `tr_dispatch_received`.  `refused` is a failure of the identity or of the
memory. -/
def received (c : DispatchCall) (kind : RpcRecordKind) (answer : ReceiveAnswer) : DispatchCall :=
  if c.terminal ∨ c.producerFailed ∨ c.stopping ∨
      (c.ready.map fun job => job.reply.finished).getD false then c
  else
    match answer.expired with
    | some status => c.abort status
    | none =>
      if c.config.maxPending ≤ c.pending then c.abort rpcStatusResourceExhausted
      else
        match answer.refused with
        | some status => c.abort status
        | none => { c with queue := c.queue ++ [c.job kind], nextId := c.nextId + 1 }

/-- `tr_rpc_record_dispatch_receive_on_owner`, for one record.  A record that
does not fit the state of the call ends it. -/
def receive (c : DispatchCall) (kind : RpcRecordKind) (record : RpcRecordHeader)
    (answer : ReceiveAnswer) : DispatchCall :=
  if c.stopping then c
  else if c.terminal then c.settle
  else
    match rpcRecordStateNext c.config.sizeMax c.state .request record with
    | .error _ => (c.abort rpcStatusInvalidArgument).settle
    | .ok next => ({ c with state := next }.received kind answer).settle

/-- The worker runs the handler of the submitted job. -/
def work (c : DispatchCall) (cancelled : Bool) (deadline : Status) (calls : List ReplyCall)
    (status : UInt32) : Option DispatchCall :=
  match c.submitted with
  | none => none
  | some job =>
    if job.worked.isSome then none
    else
      let (rets, ret, reply) := dispatchWork job.reply job.kind cancelled deadline calls status
      some { c with
        submitted := some { job with
          worked := some ret
          reply := reply
          staged := if reply.asynchronous ∧ job.reply.asynchronous = false then
              some (Producer.create job.reply.maxMessage job.reply.headersSent)
            else none }
        results := c.results ++ [⟨job.id, calls.zip rets, reply⟩] }

/-- The status that a failed task gives the call. -/
def taskStatus (cancelled : Bool) (worked : Option Status) : UInt32 :=
  if cancelled then rpcStatusCancelled
  else if worked = some .errTimeout then rpcStatusDeadlineExceeded
  else rpcStatusInternal

/-- The task is off the call: its producer goes to the call, and the history
takes note. -/
def untask (c : DispatchCall) (job : DispatchJob) : DispatchCall :=
  { c with
    submitted := none
    producer := if job.staged.isSome then job.staged else c.producer
    asynchronous := c.asynchronous || job.staged.isSome
    offered := c.offered ++ job.offers
    failedAt := if job.reply.failed ∧ c.failedAt = none then some c.log.length else c.failedAt }

/-- `tr_dispatch_done`. -/
def done (c : DispatchCall) (cancelled : Bool) (expired : Option UInt32) : Option DispatchCall :=
  match c.submitted with
  | none => none
  | some job =>
    if cancelled = false ∧ job.worked = none then none
    else
      let c := c.untask job
      some ( if c.cleanup ∨ c.terminal ∨ c.stopping then c.closeProducer.2
        else if c.producerFailed then
          match expired with
          | some status => c.abort status
          | none => c
        else if cancelled ∨ job.worked ≠ some .ok then c.abort (taskStatus cancelled job.worked)
        else
          match expired with
          | some status => c.abort status
          | none =>
            if c.asynchronous ∧ job.reply.status = rpcStatusOk then
              if job.staged.isSome then
                { c with producer := c.producer.map Producer.activate }
              else c
            else
              let c := if c.asynchronous then c.closeProducer.2 else c
              { c with
                ready := some job
                queue := if job.reply.finished then [] else c.queue }).settle

/-- `tr_rpc_record_dispatch_destroy_on_owner`, for this call. -/
def stop (c : DispatchCall) : DispatchCall :=
  ({ c with stopping := true }.abort rpcStatusCancelled).settle

/-- `tr_rpc_record_dispatch_reap_stopped`, for this call.  The router ends the
routes when no task and no producer is left. -/
def reap (c : DispatchCall) : DispatchCall :=
  let c := { c with cleanup := true, stopping := true }.closeProducer.2
  let c := { c with queue := [], ready := none }
  if c.submitted.isSome ∨ c.producer.isSome then c
  else (c.abort rpcStatusCancelled).settle

/-! ## The application's threads -/

/-- A locked section of the producer, wherever it is. -/
def onProducer (c : DispatchCall) (f : Producer → Producer) : DispatchCall :=
  { c with
    producer := c.producer.map f
    submitted := c.submitted.map fun job => { job with staged := job.staged.map f } }

/-- The producer of the call: the staged one is of a task that still runs. -/
def mailbox (c : DispatchCall) : Option Producer :=
  match c.producer with
  | some p => some p
  | none => c.submitted.bind DispatchJob.staged

/-- `tr_producer_begin`. -/
def begin (c : DispatchCall) (request : ProducerRequest) : Option DispatchCall :=
  match c.mailbox with
  | none => none
  | some p =>
    if c.building.isSome ∨ request.allowed p = false then none
    else if (p.begin request.isInitial).1 = .ok then
      some { c.onProducer fun p => (p.begin request.isInitial).2 with building := some request }
    else some c

/-- `tr_producer_publish`.  A producer that was closed meanwhile takes nothing. -/
def publish (c : DispatchCall) (alloc : Status) : Option DispatchCall :=
  match c.building with
  | none => none
  | some request =>
    let (command, ret) := request.build alloc 0
    match c.mailbox with
    | none => some { c with building := none }
    | some p =>
      let published := if (p.publish command ret).1 = .ok then [command] else []
      some { c.onProducer fun p => (p.publish command ret).2.1 with
        building := none
        published := c.published ++ published }

/-- What one of the threads does next. -/
inductive Action
  | receive (kind : RpcRecordKind) (record : RpcRecordHeader) (answer : ReceiveAnswer)
  | work (cancelled : Bool) (deadline : Status) (calls : List ReplyCall) (status : UInt32)
  | done (cancelled : Bool) (expired : Option UInt32)
  | pump (answer : PumpAnswer)
  | ends (status : UInt32)
  | stop
  | reap
  | begin (request : ProducerRequest)
  | publish (alloc : Status)
  | release

/-- One step.  Once the reaper has taken over, the owner does nothing more. -/
def step (c : DispatchCall) : Action → Option DispatchCall
  | .receive kind record answer => if c.cleanup then none else some (c.receive kind record answer)
  | .work cancelled deadline calls status => c.work cancelled deadline calls status
  | .done cancelled expired => c.done cancelled expired
  | .pump answer => if c.cleanup then none else some (c.pump answer)
  | .ends status => if c.cleanup then none else some (c.abort status).settle
  | .stop => if c.cleanup then none else some c.stop
  | .reap => some c.reap
  | .begin request => c.begin request
  | .publish alloc => c.publish alloc
  | .release => if c.mailbox.isSome then some (c.onProducer Producer.release) else none

/-- A call that was just admitted. -/
def create (config : DispatchConfig) (request response : RpcCardinality) : DispatchCall where
  config := config
  state := .init request response
  queue := []
  submitted := none
  ready := none
  producer := none
  building := none
  status := rpcStatusOk
  terminal := false
  notified := false
  headersSent := false
  finalAccepted := false
  asynchronous := false
  producerTurn := false
  producerFailed := false
  stopping := false
  cleanup := false
  nextId := 0
  log := []
  offered := []
  published := []
  results := []
  failedAt := none

end DispatchCall

end Trpc
