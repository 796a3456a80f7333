import Trpc.Rpc.CallBook
import Trpc.Rpc.Metadata

/-!
# The reply of a handler

A handler of the server runs on a worker and fills the reply of its event
(`tr_rpc_v2_reply_append` and its kin in `rpc_record_dispatch.c`).  The first
call that fails latches the whole reply: `failed` is set, and the status is
never OK again.  `dispatchWork` is what the worker makes of the reply when the
handler returns.

`RecordReply.Ok` is what every sequence of calls keeps, and `dispatchWork_ok`
says what the owner thread gets.
-/

namespace Trpc

/-- `TR_RPC_STATUS_CANCELLED`. -/
def rpcStatusCancelled : UInt32 := 1

/-- `TR_RPC_STATUS_INVALID_ARGUMENT`. -/
def rpcStatusInvalidArgument : UInt32 := 3

/-- `TR_RPC_STATUS_DEADLINE_EXCEEDED`. -/
def rpcStatusDeadlineExceeded : UInt32 := 4

/-- `TR_RPC_STATUS_RESOURCE_EXHAUSTED`. -/
def rpcStatusResourceExhausted : UInt32 := 8

/-- `TR_RPC_STATUS_FAILED_PRECONDITION`. -/
def rpcStatusFailedPrecondition : UInt32 := 9

/-- `TR_RPC_STATUS_UNAVAILABLE`. -/
def rpcStatusUnavailable : UInt32 := 14

/-! ## The calls -/

/-- `struct tr_rpc_record_reply`.  The metadata of a phase is `none` until it is
set. -/
structure RecordReply where
  limit : Nat
  maxCount : Nat
  maxMessage : Nat
  bodies : List (List UInt8) := []
  initial : Option (List UInt8) := none
  trailing : Option (List UInt8) := none
  used : Nat := 0
  count : Nat := 0
  status : UInt32 := rpcStatusOk
  finished : Bool := false
  failed : Bool := false
  headersSent : Bool := false
  asynchronous : Bool := false
  deriving DecidableEq, Repr

/-- `enum tr_rpc_v2_metadata_phase`, and any other number. -/
inductive MetadataPhase
  | initial
  | trailing
  | other
  deriving DecidableEq, Repr

/-- What a handler calls.  `memory` says whether the budget and the allocator
give what is asked, and `dangling` is a null pointer with a length. -/
inductive ReplyCall
  | append (message : Option (List UInt8)) (dangling memory : Bool)
  | setMetadata (phase : MetadataPhase) (entries : List RpcMetadata) (memory : Bool)
  | finish (status : UInt32)
  | acquireProducer (created : Status)

namespace RecordReply

/-- `tr_reply_fail`. -/
def fail (r : RecordReply) (error : Status) (status : UInt32) : Status × RecordReply :=
  (error, { r with
    failed := true
    status := if r.status = rpcStatusOk then status else r.status })

/-- `tr_rpc_v2_reply_append`, with `tr_rpc_record_reply_append`. -/
def append (r : RecordReply) (message : Option (List UInt8)) (dangling memory : Bool) :
    Status × RecordReply :=
  if r.asynchronous ∨ r.finished ∨ r.status ≠ rpcStatusOk then
    r.fail .errState rpcStatusFailedPrecondition
  else match message with
    | none => r.fail .errInvalid rpcStatusInvalidArgument
    | some data =>
      if dangling ∨ r.maxMessage < data.length ∨ r.count = r.maxCount ∨
          r.limit - r.used < data.length then
        r.fail .errBadLength rpcStatusResourceExhausted
      else if memory = false then r.fail .errNomem rpcStatusResourceExhausted
      else (.ok, { r with
        bodies := r.bodies ++ [data]
        used := r.used + data.length
        count := r.count + 1 })

/-- The metadata of a phase. -/
def metadata (r : RecordReply) : MetadataPhase → Option (List UInt8)
  | .initial => r.initial
  | .trailing => r.trailing
  | .other => none

/-- `tr_rpc_record_reply_set_metadata`. -/
def setMetadata (r : RecordReply) (phase : MetadataPhase) (entries : List RpcMetadata)
    (memory : Bool) : Status × RecordReply :=
  if r.asynchronous ∨ r.finished ∨ r.status ≠ rpcStatusOk then
    r.fail .errState rpcStatusFailedPrecondition
  else if phase = .other then r.fail .errInvalid rpcStatusInvalidArgument
  else if (r.metadata phase).isSome ∨ (phase = .initial ∧ r.headersSent) then
    r.fail .errState rpcStatusFailedPrecondition
  else match metadataEncode entries with
    | .error ret => r.fail ret rpcStatusInvalidArgument
    | .ok bytes =>
      if bytes ≠ [] ∧ memory = false then r.fail .errNomem rpcStatusResourceExhausted
      else if phase = .initial then (.ok, { r with initial := some bytes })
      else (.ok, { r with trailing := some bytes })

/-- `tr_rpc_record_reply_finish`. -/
def finish (r : RecordReply) (status : UInt32) : Status × RecordReply :=
  if r.asynchronous then r.fail .errState rpcStatusFailedPrecondition
  else if rpcStatusCount ≤ status then (.errInvalid, r)
  else if r.finished then (.errState, r)
  else (.ok, { r with
    finished := true
    status := if r.status = rpcStatusOk then status else r.status })

/-- `tr_rpc_v2_reply_acquire_producer`.  A refusal does not latch the reply. -/
def acquireProducer (r : RecordReply) (created : Status) : Status × RecordReply :=
  if r.asynchronous ∨ r.finished ∨ r.failed ∨ r.status ≠ rpcStatusOk ∨ r.count ≠ 0 ∨
      r.initial.isSome ∨ r.trailing.isSome then (.errState, r)
  else if created = .ok then (.ok, { r with asynchronous := true })
  else (created, r)

/-- One call of the handler. -/
def call (r : RecordReply) : ReplyCall → Status × RecordReply
  | .append message dangling memory => r.append message dangling memory
  | .setMetadata phase entries memory => r.setMetadata phase entries memory
  | .finish status => r.finish status
  | .acquireProducer created => r.acquireProducer created

/-- The calls of a handler: what each of them returned, and the reply. -/
def run (r : RecordReply) : List ReplyCall → List Status × RecordReply
  | [] => ([], r)
  | c :: rest =>
    let (ret, r) := r.call c
    let (rets, r) := r.run rest
    (ret :: rets, r)

/-- `tr_reply_clear_bodies`. -/
def clearBodies (r : RecordReply) : RecordReply :=
  { r with bodies := [] }

/-- `tr_reply_clear`. -/
def clear (r : RecordReply) : RecordReply :=
  { r with bodies := [], initial := none, trailing := none }

/-- The end of `tr_dispatch_work`: what is left to the owner thread. -/
def conclude (r : RecordReply) : RecordReply :=
  if r.status ≠ rpcStatusOk then
    if r.failed then { r.clear with finished := true }
    else { r.clearBodies with finished := true }
  else r

/-- What the handler returns is the status of a reply that has not failed. -/
def withStatus (r : RecordReply) (status : UInt32) : RecordReply :=
  if status ≠ rpcStatusOk ∧ r.failed = false then { r with status := status } else r

/-- The reply to HALF_CLOSE is the last one, unless a producer goes on. -/
def endHalf (r : RecordReply) (kind : RpcRecordKind) : RecordReply :=
  if kind = .halfClose ∧ r.asynchronous = false then { r with finished := true } else r

/-- Trailing metadata needs a FINAL in the same reply. -/
def checkTrailing (r : RecordReply) : RecordReply :=
  if r.trailing.isSome ∧ r.finished = false ∧ r.status = rpcStatusOk then
    (r.fail .errState rpcStatusFailedPrecondition).2
  else r

/-- `tr_dispatch_work` after the handler returned `status`. -/
def returned (r : RecordReply) (kind : RpcRecordKind) (status : UInt32) : RecordReply :=
  ((r.withStatus (if rpcStatusCount ≤ status then rpcStatusInternal else status)).endHalf
    kind).checkTrailing.conclude

end RecordReply

/-- A call that must not fail unnoticed. -/
def ReplyCall.latches : ReplyCall → Bool
  | .append _ _ _ | .setMetadata _ _ _ => true
  | .finish _ | .acquireProducer _ => false

/-- `tr_dispatch_work`: what each call of the handler returned, the result of
the task, and the reply. -/
def dispatchWork (r : RecordReply) (kind : RpcRecordKind) (cancelled : Bool)
    (deadline : Status) (calls : List ReplyCall) (status : UInt32) :
    List Status × Status × RecordReply :=
  if cancelled then ([], .ok, r.returned kind rpcStatusCancelled)
  else if deadline ≠ .ok then ([], deadline, r)
  else
    let (rets, r) := r.run calls
    (rets, .ok, r.returned kind status)

/-! ## What the calls give -/

/-- The message of a call. -/
def ReplyCall.body : ReplyCall → Option (List UInt8)
  | .append message _ _ => message
  | .setMetadata _ _ _ | .finish _ | .acquireProducer _ => none

/-- The metadata that a call sets for a phase. -/
def ReplyCall.block (phase : MetadataPhase) : ReplyCall → Option (List UInt8)
  | .setMetadata asked entries _ =>
    if asked = phase then (metadataEncode entries).toOption else none
  | .append _ _ _ | .finish _ | .acquireProducer _ => none

/-- The calls that returned OK, in order. -/
def succeeded (calls : List (ReplyCall × Status)) : List ReplyCall :=
  (calls.filter fun call => call.2 = .ok).map Prod.fst

def givenBodies (calls : List (ReplyCall × Status)) : List (List UInt8) :=
  (succeeded calls).filterMap ReplyCall.body

def givenBlock (phase : MetadataPhase) (calls : List (ReplyCall × Status)) :
    Option (List UInt8) :=
  (succeeded calls).findSome? (ReplyCall.block phase)

theorem givenBodies_cons (c : ReplyCall) (ret : Status) (rest : List (ReplyCall × Status)) :
    givenBodies ((c, ret) :: rest) =
      (if ret = .ok then c.body.toList else []) ++ givenBodies rest := by
  unfold givenBodies succeeded
  by_cases hret : ret = .ok
  · cases hbody : c.body <;> simp [hret, hbody]
  · simp [hret]

theorem givenBlock_cons (phase : MetadataPhase) (c : ReplyCall) (ret : Status)
    (rest : List (ReplyCall × Status)) :
    givenBlock phase ((c, ret) :: rest) =
      (if ret = .ok then c.block phase else none).or (givenBlock phase rest) := by
  unfold givenBlock succeeded
  by_cases hret : ret = .ok
  · cases hblock : c.block phase <;> simp [hret, hblock]
  · simp [hret]

/-! ## What the calls keep -/

namespace RecordReply

variable {r : RecordReply}

/-- A reply in the hands of a handler. -/
structure Ok (r : RecordReply) : Prop where
  counted : r.count = r.bodies.length
  handedOver : r.asynchronous = true → r.bodies = []
  latched : r.failed = true → r.status ≠ rpcStatusOk

/-- What a call does to the reply when it succeeds. -/
inductive Takes (r : RecordReply) : ReplyCall → RecordReply → Prop
  | append {data : List UInt8} {dangling memory : Bool} :
    Takes r (.append (some data) dangling memory) { r with
      bodies := r.bodies ++ [data]
      used := r.used + data.length
      count := r.count + 1 }
  | initial {entries : List RpcMetadata} {memory : Bool} {bytes : List UInt8}
    (hnew : r.initial = none) (hencode : metadataEncode entries = .ok bytes) :
    Takes r (.setMetadata .initial entries memory) { r with initial := some bytes }
  | trailing {entries : List RpcMetadata} {memory : Bool} {bytes : List UInt8}
    (hnew : r.trailing = none) (hencode : metadataEncode entries = .ok bytes) :
    Takes r (.setMetadata .trailing entries memory) { r with trailing := some bytes }
  | finish {status : UInt32} : Takes r (.finish status) { r with
      finished := true
      status := if r.status = rpcStatusOk then status else r.status }
  | acquireProducer {created : Status} (hempty : r.count = 0) :
    Takes r (.acquireProducer created) { r with asynchronous := true }

/-- The answers to a call: it fails and latches the reply, is refused, or succeeds. -/
inductive Answers (r : RecordReply) (c : ReplyCall) : Status × RecordReply → Prop
  | failed {error : Status} {status : UInt32} (herror : error ≠ .ok)
    (hstatus : status ≠ rpcStatusOk) : Answers r c (r.fail error status)
  | refused {error : Status} (herror : error ≠ .ok) (hquiet : c.latches = false) :
    Answers r c (error, r)
  | taken {next : RecordReply} (hown : r.asynchronous = false) (h : r.Takes c next) :
    Answers r c (.ok, next)

theorem call_answers (r : RecordReply) (c : ReplyCall) : r.Answers c (r.call c) := by
  cases c with
  | append message dangling memory =>
    simp only [call, append]
    split
    · exact .failed (by decide) (by decide)
    next hopen =>
      cases message with
      | none => exact .failed (by decide) (by decide)
      | some data =>
        dsimp only
        split
        · exact .failed (by decide) (by decide)
        split
        · exact .failed (by decide) (by decide)
        · exact .taken (Bool.eq_false_iff.2 fun hasync => hopen (.inl hasync)) .append
  | setMetadata phase entries memory =>
    simp only [call, setMetadata]
    split
    · exact .failed (by decide) (by decide)
    next hopen =>
      have hown : r.asynchronous = false := Bool.eq_false_iff.2 fun hasync => hopen (.inl hasync)
      split
      · exact .failed (by decide) (by decide)
      next hphase =>
        split
        · exact .failed (by decide) (by decide)
        next hnew =>
          split
          next ret hencode => exact .failed (metadataEncode_error hencode) (by decide)
          next bytes hencode =>
            split
            · exact .failed (by decide) (by decide)
            have hnone : r.metadata phase = none :=
              Option.not_isSome_iff_eq_none.1 fun hsome => hnew (.inl hsome)
            cases phase with
            | initial => exact .taken hown (.initial hnone hencode)
            | trailing => exact .taken hown (.trailing hnone hencode)
            | other => exact absurd rfl hphase
  | finish status =>
    simp only [call, finish]
    split
    · exact .failed (by decide) (by decide)
    next hopen =>
      split
      · exact .refused (by decide) rfl
      split
      · exact .refused (by decide) rfl
      · exact .taken (Bool.eq_false_iff.2 hopen) .finish
  | acquireProducer created =>
    simp only [call, acquireProducer]
    split
    · exact .refused (by decide) rfl
    next hfree =>
      simp only [not_or, Bool.not_eq_true, not_not] at hfree
      split
      · exact .taken hfree.1 (.acquireProducer hfree.2.2.2.2.1)
      next hcreated => exact .refused hcreated rfl

section

variable (h : r.Ok)

include h

theorem Ok.fail {error : Status} {status : UInt32} (hstatus : status ≠ rpcStatusOk) :
    (r.fail error status).2.Ok := by
  refine ⟨h.counted, h.handedOver, fun _ => ?_⟩
  show (if r.status = rpcStatusOk then status else r.status) ≠ rpcStatusOk
  split
  · exact hstatus
  · assumption

theorem Ok.call (c : ReplyCall) : (r.call c).2.Ok := by
  have hcall := r.call_answers c
  generalize r.call c = out at hcall
  cases hcall with
  | failed _ hstatus => exact h.fail hstatus
  | refused _ _ => exact h
  | taken hown htakes =>
    cases htakes with
    | append =>
      refine ⟨?_, fun hasync => absurd (hown.symm.trans hasync) Bool.false_ne_true, h.latched⟩
      dsimp only
      rw [h.counted, List.length_append, List.length_singleton]
    | initial | trailing => exact ⟨h.counted, h.handedOver, h.latched⟩
    | finish =>
      refine ⟨h.counted, h.handedOver, fun hfailed => ?_⟩
      dsimp only
      rw [if_neg (h.latched hfailed)]
      exact h.latched hfailed
    | acquireProducer hempty =>
      exact ⟨h.counted, fun _ => List.length_eq_zero_iff.1 (h.counted ▸ hempty), h.latched⟩

theorem Ok.run (calls : List ReplyCall) : (r.run calls).2.Ok := by
  induction calls generalizing r with
  | nil => exact h
  | cons c rest ih => exact ih (h.call c)

omit h in
/-- A latched reply stays latched, and one that was handed over stays so. -/
theorem call_keeps (r : RecordReply) (c : ReplyCall) :
    (r.failed = true → (r.call c).2.failed = true) ∧
      (r.asynchronous = true → (r.call c).2.asynchronous = true) := by
  have hcall := r.call_answers c
  generalize r.call c = out at hcall
  cases hcall with
  | failed _ _ => exact ⟨fun _ => rfl, id⟩
  | refused _ _ => exact ⟨id, id⟩
  | taken hown htakes =>
    refine ⟨fun hfailed => ?_, fun hasync => absurd (hown.symm.trans hasync) Bool.false_ne_true⟩
    cases htakes <;> exact hfailed

omit h in
theorem run_keeps (calls : List ReplyCall) :
    (r.failed = true → (r.run calls).2.failed = true) ∧
      (r.asynchronous = true → (r.run calls).2.asynchronous = true) := by
  induction calls generalizing r with
  | nil => exact ⟨id, id⟩
  | cons c rest ih =>
    have hcall := r.call_keeps c
    exact ⟨fun hf => ih.1 (hcall.1 hf), fun ha => ih.2 (hcall.2 ha)⟩

omit h in
/-- An append or metadata call that fails latches the reply. -/
theorem call_latches {c : ReplyCall} (hlatch : c.latches = true) (hret : (r.call c).1 ≠ .ok) :
    (r.call c).2.failed = true := by
  have hcall := r.call_answers c
  generalize r.call c = out at hcall hret
  cases hcall with
  | failed _ _ => rfl
  | refused _ hquiet => exact absurd (hquiet.symm.trans hlatch) Bool.false_ne_true
  | taken _ _ => exact absurd rfl hret

omit h in
/-- If any append or metadata call of a handler failed, the reply is latched. -/
theorem run_latches {calls : List ReplyCall} {k : ReplyCall} {ret : Status}
    (hmem : (k, ret) ∈ calls.zip (r.run calls).1) (hlatch : k.latches = true)
    (hret : ret ≠ .ok) : (r.run calls).2.failed = true := by
  induction calls generalizing r with
  | nil => exact absurd hmem List.not_mem_nil
  | cons c rest ih =>
    rcases List.mem_cons.1 hmem with heq | hmem
    · cases heq
      exact (run_keeps rest).1 (call_latches hlatch hret)
    · exact ih hmem

omit h in
/-- A call adds what it gives if it succeeds, and nothing otherwise. -/
theorem call_given (r : RecordReply) (c : ReplyCall) :
    (r.call c).2.bodies = r.bodies ++ (if (r.call c).1 = .ok then c.body.toList else []) ∧
      (r.call c).2.initial = r.initial.or (if (r.call c).1 = .ok then c.block .initial else none) ∧
      (r.call c).2.trailing =
        r.trailing.or (if (r.call c).1 = .ok then c.block .trailing else none) := by
  have hcall := r.call_answers c
  generalize r.call c = out at hcall
  cases hcall with
  | failed herror _ => simp [fail, herror]
  | refused herror _ => simp [herror]
  | taken _ htakes => cases htakes <;> simp_all [ReplyCall.body, ReplyCall.block, Except.toOption]

omit h in
/-- A reply holds what it held, and what the calls gave that succeeded. -/
theorem run_given (r : RecordReply) (calls : List ReplyCall) :
    (r.run calls).2.bodies = r.bodies ++ givenBodies (calls.zip (r.run calls).1) ∧
      (r.run calls).2.initial =
        r.initial.or (givenBlock .initial (calls.zip (r.run calls).1)) ∧
      (r.run calls).2.trailing =
        r.trailing.or (givenBlock .trailing (calls.zip (r.run calls).1)) := by
  induction calls generalizing r with
  | nil => exact ⟨(List.append_nil _).symm, Option.or_none.symm, Option.or_none.symm⟩
  | cons c rest ih =>
    obtain ⟨hbodies, hinitial, htrailing⟩ := ih (r.call c).2
    obtain ⟨hbodies', hinitial', htrailing'⟩ := r.call_given c
    rw [run]
    dsimp only
    rw [List.zip_cons_cons, givenBodies_cons, givenBlock_cons, givenBlock_cons, hbodies, hinitial,
      htrailing, hbodies', hinitial', htrailing', List.append_assoc, Option.or_assoc,
      Option.or_assoc]
    exact ⟨rfl, rfl, rfl⟩

/-! ## What the owner gets -/

/-- A reply that the owner may send.  One that is not OK holds no message, and
one that failed holds nothing but its status. -/
structure Returned (r : RecordReply) : Prop where
  handedOver : r.asynchronous = true → r.bodies = []
  refused : r.status ≠ rpcStatusOk → r.finished = true ∧ r.bodies = []
  latched : r.failed = true → r.status ≠ rpcStatusOk ∧ r.initial = none ∧ r.trailing = none

theorem Ok.conclude : r.conclude.Returned := by
  unfold RecordReply.conclude
  split
  next hstatus =>
    split
    · exact ⟨fun _ => rfl, fun _ => ⟨rfl, rfl⟩, fun _ => ⟨hstatus, rfl, rfl⟩⟩
    next hfailed =>
      exact ⟨fun _ => rfl, fun _ => ⟨rfl, rfl⟩, fun hf => absurd hf hfailed⟩
  next hstatus =>
    exact ⟨h.handedOver, fun hne => absurd hne hstatus, fun hf => absurd (h.latched hf) hstatus⟩

theorem Ok.withStatus (status : UInt32) : (r.withStatus status).Ok := by
  unfold RecordReply.withStatus
  split
  next hset => exact ⟨h.counted, h.handedOver, fun _ => hset.1⟩
  next => exact h

theorem Ok.endHalf (kind : RpcRecordKind) : (r.endHalf kind).Ok := by
  unfold RecordReply.endHalf
  split
  · exact ⟨h.counted, h.handedOver, h.latched⟩
  · exact h

theorem Ok.checkTrailing : r.checkTrailing.Ok := by
  unfold RecordReply.checkTrailing
  split
  · exact h.fail (by decide)
  · exact h

theorem Ok.returned (kind : RpcRecordKind) (status : UInt32) :
    (r.returned kind status).Returned :=
  ((h.withStatus _).endHalf kind).checkTrailing.conclude

end

/-- What follows the handler adds nothing to a reply: it may latch it, give it an error status,
and drop what is then not sent. -/
structure Kept (r r' : RecordReply) : Prop where
  asynchronous : r'.asynchronous = r.asynchronous
  failed : r.failed = true → r'.failed = true
  status : r'.status = rpcStatusOk → r.status = rpcStatusOk
  metadata : r'.failed = false → r'.initial = r.initial ∧ r'.trailing = r.trailing
  bodies : r'.status = rpcStatusOk → r'.bodies = r.bodies

theorem Kept.refl (r : RecordReply) : r.Kept r := ⟨rfl, id, id, fun _ => ⟨rfl, rfl⟩, fun _ => rfl⟩

theorem Kept.trans {r' r'' : RecordReply} (h : r.Kept r') (h' : r'.Kept r'') : r.Kept r'' where
  asynchronous := h'.asynchronous.trans h.asynchronous
  failed := fun hf => h'.failed (h.failed hf)
  status := fun hs => h.status (h'.status hs)
  metadata := fun hf => by
    have hf' : r'.failed = false :=
      Bool.eq_false_iff.2 fun ht => ne_of_eq_of_ne hf (by simp) (h'.failed ht)
    rw [(h'.metadata hf).1, (h'.metadata hf).2]
    exact h.metadata hf'
  bodies := fun hs => (h'.bodies hs).trans (h.bodies (h'.status hs))

theorem returned_kept (r : RecordReply) (kind : RpcRecordKind) (status : UInt32) :
    r.Kept (r.returned kind status) := by
  have hstatus : ∀ code, r.Kept (r.withStatus code) := by
    intro code
    unfold withStatus
    split
    next hset =>
      exact ⟨rfl, id, fun hok => absurd hok hset.1, fun _ => ⟨rfl, rfl⟩, fun _ => rfl⟩
    · exact .refl r
  have hhalf : ∀ v : RecordReply, v.Kept (v.endHalf kind) := by
    intro v
    unfold endHalf
    split
    · exact ⟨rfl, id, id, fun _ => ⟨rfl, rfl⟩, fun _ => rfl⟩
    · exact .refl v
  have htrailing : ∀ v : RecordReply, v.Kept v.checkTrailing := by
    intro v
    unfold checkTrailing
    split
    next hbad => exact ⟨rfl, fun _ => rfl, fun _ => hbad.2.2, nofun, fun _ => rfl⟩
    · exact .refl v
  have hconclude : ∀ v : RecordReply, v.Kept v.conclude := by
    intro v
    unfold conclude
    split
    next hstatus =>
      split
      next hf => exact ⟨rfl, id, id, fun hno => absurd (hf.symm.trans hno) (by simp),
          fun hok => absurd hok hstatus⟩
      next => exact ⟨rfl, id, id, fun _ => ⟨rfl, rfl⟩, fun hok => absurd hok hstatus⟩
    · exact .refl v
  exact (((hstatus _).trans (hhalf _)).trans (htrailing _)).trans (hconclude _)

end RecordReply

/-- The result of a task that ran: the owner may send the reply, and a call that
failed latched it. -/
theorem dispatchWork_ok {r : RecordReply} (h : r.Ok) {kind : RpcRecordKind} {cancelled : Bool}
    {deadline : Status} {calls : List ReplyCall} {status : UInt32}
    (hran : (dispatchWork r kind cancelled deadline calls status).2.1 = .ok) :
    (dispatchWork r kind cancelled deadline calls status).2.2.Returned ∧
      ∀ k ret, (k, ret) ∈ calls.zip (dispatchWork r kind cancelled deadline calls status).1 →
        k.latches = true → ret ≠ .ok →
        (dispatchWork r kind cancelled deadline calls status).2.2.failed = true := by
  unfold dispatchWork at hran ⊢
  split
  · exact ⟨h.returned kind _, fun k ret hmem => absurd hmem (by simp)⟩
  next hrun =>
    rw [if_neg hrun] at hran
    split
    next hlate =>
      rw [if_pos hlate] at hran
      exact absurd hran hlate
    next =>
      refine ⟨(h.run calls).returned kind _, fun k ret hmem hlatch hret => ?_⟩
      exact (RecordReply.returned_kept _ _ _).failed (RecordReply.run_latches hmem hlatch hret)

theorem dispatchWork_asynchronous {r : RecordReply} (kind : RpcRecordKind) (cancelled : Bool)
    (deadline : Status) (calls : List ReplyCall) (status : UInt32)
    (hasync : r.asynchronous = true) :
    (dispatchWork r kind cancelled deadline calls status).2.2.asynchronous = true := by
  unfold dispatchWork
  split
  · exact (r.returned_kept kind _).asynchronous.trans hasync
  split
  · exact hasync
  · exact (RecordReply.returned_kept _ kind status).asynchronous.trans
      ((RecordReply.run_keeps calls).2 hasync)

/-- The reply holds what the calls gave that succeeded, as far as it is sent. -/
structure RecordReply.Given (r : RecordReply) (calls : List (ReplyCall × Status)) : Prop where
  bodies : r.status = rpcStatusOk → r.bodies = givenBodies calls
  metadata : r.failed = false →
    r.initial = givenBlock .initial calls ∧ r.trailing = givenBlock .trailing calls

theorem dispatchWork_given {r : RecordReply} (hbodies : r.bodies = []) (hinitial : r.initial = none)
    (htrailing : r.trailing = none) (kind : RpcRecordKind) (cancelled : Bool) (deadline : Status)
    (calls : List ReplyCall) (status : UInt32) :
    (dispatchWork r kind cancelled deadline calls status).2.2.Given
      (calls.zip (dispatchWork r kind cancelled deadline calls status).1) := by
  have hblank : r.Given (calls.zip []) := by
    rw [List.zip_nil_right]
    exact ⟨fun _ => hbodies, fun _ => ⟨hinitial, htrailing⟩⟩
  have hkept : ∀ (v : RecordReply) given code, v.bodies = givenBodies given →
      v.initial = givenBlock .initial given → v.trailing = givenBlock .trailing given →
      (v.returned kind code).Given given := by
    intro v given code hb hi ht
    have h := v.returned_kept kind code
    exact ⟨fun hok => (h.bodies hok).trans hb, fun hf => hi ▸ ht ▸ h.metadata hf⟩
  unfold dispatchWork
  split
  · refine hkept r _ _ ?_ ?_ ?_ <;> rw [List.zip_nil_right] <;> assumption
  split
  · exact hblank
  · obtain ⟨hb, hi, ht⟩ := r.run_given calls
    rw [hbodies] at hb
    rw [hinitial] at hi
    rw [htrailing] at ht
    exact hkept _ _ _ hb hi ht

/-- A task that came too late ran nothing. -/
theorem dispatchWork_late {r : RecordReply} {kind : RpcRecordKind} {cancelled : Bool}
    {deadline : Status} {calls : List ReplyCall} {status : UInt32}
    (hlate : (dispatchWork r kind cancelled deadline calls status).2.1 ≠ .ok) :
    (dispatchWork r kind cancelled deadline calls status).1 = [] ∧
      (dispatchWork r kind cancelled deadline calls status).2.2 = r := by
  unfold dispatchWork at hlate ⊢
  split
  next hcancelled =>
    rw [if_pos hcancelled] at hlate
    exact absurd rfl hlate
  next hrun =>
    rw [if_neg hrun] at hlate
    split
    · exact ⟨rfl, rfl⟩
    next hintime =>
      rw [if_neg hintime] at hlate
      exact absurd rfl hlate

end Trpc
